import Mathlib.Tactic.Common
import Rwl.Lib.Walk
import Rwl.Theory.FocusCycle
import Rwl.Theory.RuleResults

/-!
# The next occupied tag

* `next_occupied_tag_eq`: the first occupied tag of a turn round the tags, from the highest viewed
  one;
* `tourOf_eq`: called again and again, it goes through the occupied tags in the order of that turn;
* `displayedAt_next`: the view after `ViewNextOccTag`;
* `Navigates`, `navigates_iff`: the tag it shows has a displayed window exactly when every tag met
  before the first one with a displayable window has no window at all.
-/

namespace Compositor

/-! ### The walk -/

/-- The turn `next_occupied_tag` takes. -/
def Monitor.turn (cfg : Config) (mon : Monitor) (dir : ℤ) : List ℕ :=
  Walk.round cfg.tag_count (Nat.log2 mon.tags : ℕ) dir

/-- A mask has the bit of a tag. -/
theorem and_shiftLeft_bne_zero (occupied t : ℕ) :
    (occupied &&& 1 <<< t != 0) = occupied.testBit t := by
  rw [Nat.one_shiftLeft]
  cases h : occupied.testBit t with
  | true =>
    refine bne_iff_ne.2 fun hzero => ?_
    have hbit : (occupied &&& 2 ^ t).testBit t = true := by
      rw [Nat.testBit_and, h, Nat.testBit_two_pow_self, Bool.and_self]
    rw [hzero, Nat.zero_testBit] at hbit
    exact absurd hbit Bool.false_ne_true
  | false =>
    refine bne_eq_false_iff_eq.2 (Nat.eq_of_testBit_eq fun i => ?_)
    rw [Nat.testBit_and, Nat.zero_testBit]
    by_cases hi : t = i
    · rw [← hi, h, Bool.false_and]
    · rw [Nat.testBit_two_pow_of_ne hi, Bool.and_false]

/-- **The next occupied tag** is the first one of the turn with a bit in the mask. -/
theorem next_occupied_tag_eq (cfg : Config) {mon : Monitor} (htags : mon.tags ≠ 0) (occupied : ℕ)
    (dir : ℤ) : mon.next_occupied_tag cfg occupied dir =
      ((mon.turn cfg dir).find? occupied.testBit).map (1 <<< ·) := by
  unfold Monitor.next_occupied_tag Monitor.turn Walk.round
  rw [if_neg htags]
  dsimp only
  rw [List.find?_map, List.find?_map, Option.map_map]
  have hp : ((fun mask => occupied &&& mask != 0) ∘ fun step : ℕ =>
      1 <<< ((((Nat.log2 mon.tags : ℕ) : ℤ) + dir * (step + 1 : ℕ)).emod cfg.tag_count).toNat) =
        occupied.testBit ∘ fun k : ℕ =>
          ((((Nat.log2 mon.tags : ℕ) : ℤ) + dir * (k + 1 : ℕ)).emod cfg.tag_count).toNat :=
    funext fun k => and_shiftLeft_bne_zero occupied _
  rw [hp]
  rfl

/-- There is none exactly when no tag in range is occupied. -/
theorem next_occupied_tag_eq_none_iff (cfg : Config) {mon : Monitor} (htags : mon.tags ≠ 0)
    (occupied : ℕ) {dir : ℤ} (hdir : dir = 1 ∨ dir = -1) :
    mon.next_occupied_tag cfg occupied dir = none ↔
      ∀ t < cfg.tag_count, occupied.testBit t = false := by
  have hperm : (mon.turn cfg dir).Perm (List.range cfg.tag_count) := Walk.perm_round hdir _
  rw [next_occupied_tag_eq cfg htags, Option.map_eq_none_iff, List.find?_eq_none]
  constructor
  · intro h t ht
    simpa using h t (hperm.mem_iff.2 (List.mem_range.2 ht))
  · intro h t ht
    simpa using h t (List.mem_range.1 (hperm.mem_iff.1 ht))

/-- The tags shown when `next_occupied_tag` is called and viewed `c` times. -/
def tourOf (cfg : Config) (occupied : ℕ) (dir : ℤ) : ℕ → Monitor → List ℕ
  | 0, _ => []
  | c + 1, mon => match mon.next_occupied_tag cfg occupied dir with
    | some mask => mask :: tourOf cfg occupied dir c (mon.view cfg mask)
    | none => []

/-- A single tag in range is what `view` shows. -/
theorem tags_view_single (cfg : Config) (mon : Monitor) {t : ℕ} (ht : t < cfg.tag_count) :
    (mon.view cfg (1 <<< t)).tags = 1 <<< t := by
  have hcut : 1 <<< t &&& cfg.tag_mask = 1 <<< t := by
    refine Nat.eq_of_testBit_eq fun i => ?_
    unfold Config.tag_mask
    rw [Nat.testBit_and, Nat.testBit_two_pow_sub_one, Nat.one_shiftLeft]
    by_cases hi : t = i
    · rw [← hi, decide_eq_true ht, Bool.and_true]
    · rw [Nat.testBit_two_pow_of_ne hi, Bool.false_and]
  have hne : 1 <<< t ≠ 0 := by
    rw [Nat.one_shiftLeft]
    exact (Nat.two_pow_pos t).ne'
  rw [Monitor.tags_view, hcut]
  split_ifs with h
  · exact (h.resolve_left hne).symm
  · rfl

/-- The calls follow the tour of the walk. -/
theorem tourOf_eq_tour (cfg : Config) (occupied : ℕ) (dir : ℤ) (c : ℕ) {mon : Monitor}
    (htags : mon.tags ≠ 0) : tourOf cfg occupied dir c mon =
      (Walk.tour cfg.tag_count dir occupied.testBit c (Nat.log2 mon.tags : ℕ)).map (1 <<< ·) := by
  induction c generalizing mon with
  | zero => rfl
  | succ c ih =>
    unfold tourOf Walk.tour
    rw [next_occupied_tag_eq cfg htags]
    cases ht : (mon.turn cfg dir).find? occupied.testBit with
    | none =>
      rw [show (Walk.round cfg.tag_count (Nat.log2 mon.tags : ℕ) dir).find? occupied.testBit = none
        from ht]
      rfl
    | some t =>
      have hlt : t < cfg.tag_count := Walk.lt_of_mem_round (List.mem_of_find?_eq_some ht)
      have hview := tags_view_single cfg mon hlt
      have hne : (mon.view cfg (1 <<< t)).tags ≠ 0 := by
        rw [hview, Nat.one_shiftLeft]
        exact (Nat.two_pow_pos t).ne'
      rw [show (Walk.round cfg.tag_count (Nat.log2 mon.tags : ℕ) dir).find? occupied.testBit =
        some t from ht]
      dsimp only [Option.map_some]
      rw [ih hne, hview, Nat.one_shiftLeft, Nat.log2_two_pow, List.map_cons, Nat.one_shiftLeft]

/-- The masks of the occupied tags. -/
def occupiedTags (cfg : Config) (occupied : ℕ) : List ℕ :=
  ((List.range cfg.tag_count).filter occupied.testBit).map (1 <<< ·)

/-- **As many calls as there are occupied tags show each of them once.** -/
theorem perm_tourOf (cfg : Config) (occupied : ℕ) {dir : ℤ} (hdir : dir = 1 ∨ dir = -1)
    {mon : Monitor} (htags : mon.tags ≠ 0) :
    (tourOf cfg occupied dir (occupiedTags cfg occupied).length mon).Perm
      (occupiedTags cfg occupied) := by
  have hperm : ((mon.turn cfg dir).filter occupied.testBit).Perm
      ((List.range cfg.tag_count).filter occupied.testBit) := (Walk.perm_round hdir _).filter _
  have hlen : (occupiedTags cfg occupied).length =
      ((mon.turn cfg dir).filter occupied.testBit).length := by
    rw [hperm.length_eq]
    exact List.length_map _
  rw [tourOf_eq_tour cfg occupied dir _ htags, hlen]
  refine List.Perm.map _ ?_
  have htour := Walk.tour_eq occupied.testBit
    (le_refl ((mon.turn cfg dir).filter occupied.testBit).length)
  rw [Monitor.turn] at htour ⊢
  rw [htour, List.take_length]
  exact hperm

/-- The tag met at step `k`. -/
def Monitor.met (cfg : Config) (mon : Monitor) (dir : ℤ) (k : ℕ) : ℕ :=
  (((Nat.log2 mon.tags : ℕ) + dir * k : ℤ).emod cfg.tag_count).toNat

theorem getElem_turn {cfg : Config} {mon : Monitor} {dir : ℤ} {k : ℕ}
    (hk : k < (mon.turn cfg dir).length) : (mon.turn cfg dir)[k] = mon.met cfg dir (k + 1) :=
  Walk.getElem_round _ hk

theorem met_lt {cfg : Config} {mon : Monitor} {dir : ℤ} {k : ℕ} (hk : 0 < k)
    (hle : k ≤ cfg.tag_count) : mon.met cfg dir k < cfg.tag_count := by
  have hlen : (mon.turn cfg dir).length = cfg.tag_count := Walk.length_round _ _ _
  have hlt : k - 1 < (mon.turn cfg dir).length := by omega
  have hmem := List.getElem_mem hlt
  rw [getElem_turn hlt, Nat.sub_add_cancel hk] at hmem
  exact Walk.lt_of_mem_round hmem

/-- The first tag of a turn with a bit, by its step. -/
theorem find?_turn_iff {cfg : Config} {mon : Monitor} {dir : ℤ} {occupied t : ℕ} :
    (mon.turn cfg dir).find? occupied.testBit = some t ↔
      ∃ k, 0 < k ∧ k ≤ cfg.tag_count ∧ t = mon.met cfg dir k ∧ occupied.testBit t = true ∧
        ∀ j, 0 < j → j < k → occupied.testBit (mon.met cfg dir j) = false := by
  have hlen : (mon.turn cfg dir).length = cfg.tag_count := Walk.length_round _ _ _
  rw [List.find?_eq_some_iff_getElem]
  constructor
  · rintro ⟨hbit, i, hi, rfl, hbefore⟩
    refine ⟨i + 1, by omega, by omega, getElem_turn hi, hbit, fun j hj hji => ?_⟩
    have hjl : j - 1 < (mon.turn cfg dir).length := by omega
    have hfree := hbefore (j - 1) (by omega)
    rw [getElem_turn hjl, Nat.sub_add_cancel hj] at hfree
    simpa using hfree
  · rintro ⟨k, hk, hle, rfl, hbit, hbefore⟩
    have hlt : k - 1 < (mon.turn cfg dir).length := by omega
    refine ⟨hbit, k - 1, hlt, by rw [getElem_turn hlt, Nat.sub_add_cancel hk], fun j hj => ?_⟩
    have hjl : j < (mon.turn cfg dir).length := by omega
    rw [getElem_turn hjl, hbefore (j + 1) (by omega) (by omega)]
    rfl

/-! ### The function -/

/-- What `next_occupied_tag` is for. -/
structure Navigation (cfg : Config) (dir : ℤ) : Prop where
  /-- It is the first occupied tag met. -/
  first : ∀ (mon : Monitor) (occupied mask : ℕ), mon.tags ≠ 0 →
    (mon.next_occupied_tag cfg occupied dir = some mask ↔
      ∃ k, 0 < k ∧ k ≤ cfg.tag_count ∧ mask = 1 <<< mon.met cfg dir k ∧
        occupied.testBit (mon.met cfg dir k) = true ∧
          ∀ j, 0 < j → j < k → occupied.testBit (mon.met cfg dir j) = false)
  /-- The current tag comes last. -/
  last : ∀ mon : Monitor, Nat.log2 mon.tags < cfg.tag_count →
    mon.met cfg dir cfg.tag_count = Nat.log2 mon.tags
  none : ∀ (mon : Monitor) (occupied : ℕ), mon.tags ≠ 0 →
    (mon.next_occupied_tag cfg occupied dir = none ↔
      ∀ t < cfg.tag_count, occupied.testBit t = false)
  /-- Every occupied tag is shown before one is shown twice. -/
  visits : ∀ (mon : Monitor) (occupied : ℕ), mon.tags ≠ 0 →
    (tourOf cfg occupied dir (occupiedTags cfg occupied).length mon).Perm
      (occupiedTags cfg occupied)

theorem navigation (cfg : Config) {dir : ℤ} (hdir : dir = 1 ∨ dir = -1) : Navigation cfg dir := by
  refine ⟨fun mon occupied mask htags => ?_, fun mon hlt => ?_, fun mon occupied htags =>
    next_occupied_tag_eq_none_iff cfg htags occupied hdir, fun mon occupied htags =>
    perm_tourOf cfg occupied hdir htags⟩
  · rw [next_occupied_tag_eq cfg htags, Option.map_eq_some_iff]
    constructor
    · rintro ⟨t, ht, rfl⟩
      obtain ⟨k, hk, hle, rfl, hbit, hbefore⟩ := find?_turn_iff.1 ht
      exact ⟨k, hk, hle, rfl, hbit, hbefore⟩
    · rintro ⟨k, hk, hle, rfl, hbit, hbefore⟩
      exact ⟨_, find?_turn_iff.2 ⟨k, hk, hle, rfl, hbit, hbefore⟩, rfl⟩
  · have hwrap : ((Nat.log2 mon.tags : ℕ) + dir * cfg.tag_count : ℤ) % cfg.tag_count =
        Nat.log2 mon.tags := by
      rw [Int.add_mul_emod_self_right]
      exact Int.emod_eq_of_lt (by omega) (by omega)
    unfold Monitor.met
    change (((Nat.log2 mon.tags : ℕ) + dir * cfg.tag_count : ℤ) % cfg.tag_count).toNat = _
    rw [hwrap, Int.toNat_natCast]

/-! ### What it shows -/

namespace Rwl

open Transition

/-- Whether the selected monitor displays the window once it shows a tag of it. -/
def displayable (d : Desk) (w : WinId) : Bool :=
  !(d.st w).is_swallowed && (d.st w).rules_applied && decide ((d.st w).mon_idx = d.sel_mon)

/-- The tags of the displayable windows. -/
def displayableTags (d : Desk) : ℕ :=
  Mask.union ((d.windows.filter (displayable d)).map fun w => (d.st w).tags)

theorem testBit_displayableTags {d : Desk} {t : ℕ} : (displayableTags d).testBit t = true ↔
    ∃ w ∈ d.windows, displayable d w = true ∧ (d.st w).tags.testBit t = true := by
  unfold displayableTags
  rw [Mask.testBit_union, List.any_eq_true]
  simp only [List.mem_map, List.mem_filter]
  constructor
  · rintro ⟨_, ⟨w, ⟨hw, hd⟩, rfl⟩, ht⟩
    exact ⟨w, hw, hd, ht⟩
  · rintro ⟨w, hw, hd, ht⟩
    exact ⟨_, ⟨w, ⟨hw, hd⟩, rfl⟩, ht⟩

theorem testBit_occupied {d : Desk} {t : ℕ} : d.occupied.testBit t = true ↔
    ∃ w ∈ d.windows, (d.st w).tags.testBit t = true := by
  change (Mask.union (d.windows.map fun w => (d.st w).tags)).testBit t = true ↔ _
  rw [Mask.testBit_union, List.any_eq_true]
  simp only [List.mem_map]
  constructor
  · rintro ⟨_, ⟨w, hw, rfl⟩, ht⟩
    exact ⟨w, hw, ht⟩
  · rintro ⟨w, hw, ht⟩
    exact ⟨_, ⟨w, hw, rfl⟩, ht⟩

/-- What `View` leaves: the tag shown, and the windows as they were. -/
theorem displayed_view {s : Rwl} {mon : Monitor} (hmon : s.desk.sel_monitor = some mon) {t : ℕ}
    (ht : t < s.desk.cfg.tag_count) :
    (s.view (1 <<< t)).desk.tagsOf s.desk.sel_mon = 1 <<< t ∧
      displayed (s.view (1 <<< t)).desk =
        s.desk.windows.filter fun w => (s.desk.st w).tags.testBit t && displayable s.desk w := by
  have hshown := showTags_eq s.desk (1 <<< t)
  have hscene : (s.view (1 <<< t)).desk.scene = (showTags s.desk (1 <<< t)).scene :=
    scene_slideTo _ _ _ _
  have hsel : (s.view (1 <<< t)).desk.sel_mon = s.desk.sel_mon := by
    refine (sel_mon_slideTo _ _ _ _).trans ?_
    exact (congrArg Desk.sel_mon hshown :)
  have htags : (s.view (1 <<< t)).desk.tagsOf s.desk.sel_mon = 1 <<< t := by
    rw [Desk.tagsOf_of_scene hscene, hshown]
    unfold Desk.tagsOf
    dsimp only
    rw [List.getElem?_modify_eq, show s.desk.monitors[s.desk.sel_mon]? = some mon from hmon]
    exact tags_view_single s.desk.cfg mon ht
  have hwindows : (s.view (1 <<< t)).desk.windows = s.desk.windows :=
    (congrArg Scene.windows hscene).trans (congrArg Desk.windows hshown :)
  have hst : (showTags s.desk (1 <<< t)).st = s.desk.st :=
    (congrArg Desk.st hshown :)
  refine ⟨htags, ?_⟩
  unfold displayed
  rw [hwindows, hsel, htags]
  refine List.filter_congr fun w _ => ?_
  have hplace := Desk.placement_of_scene hscene w
  rw [hst] at hplace
  have htag : ((s.view (1 <<< t)).desk.st w).tags = (s.desk.st w).tags :=
    congrArg Placement.tags hplace
  have hidx : ((s.view (1 <<< t)).desk.st w).mon_idx = (s.desk.st w).mon_idx :=
    congrArg Placement.mon_idx hplace
  have hswallowed : ((s.view (1 <<< t)).desk.st w).is_swallowed = (s.desk.st w).is_swallowed :=
    congrArg Placement.is_swallowed hplace
  have hrules : ((s.view (1 <<< t)).desk.st w).rules_applied = (s.desk.st w).rules_applied :=
    congrArg Placement.rules_applied hplace
  unfold WindowState.visible_on displayable
  rw [htag, hidx, hswallowed, hrules, and_shiftLeft_bne_zero, Bool.and_assoc, Bool.and_assoc,
    Bool.and_assoc]

/-- What `ViewNextOccTag` is for. -/
structure Navigates (s : Rwl) (dir : ℤ) : Prop where
  navigation : Navigation s.desk.cfg dir
  /-- The tag it shows has a window that the selected monitor displays. -/
  shows : ∀ mask, s.desk.next_occ_tag dir = some mask →
    (s.view_next_occ_tag dir).desk.tagsOf s.desk.sel_mon = mask ∧
      displayed (s.view_next_occ_tag dir).desk ≠ []

/-- Every tag that is met before the first one with a displayable window has no window. -/
def Unhidden (d : Desk) (dir : ℤ) : Prop :=
  ∀ mon, d.sel_monitor = some mon → mon.tags ≠ 0 → ∀ k, 0 < k → k ≤ d.cfg.tag_count →
    d.occupied.testBit (mon.met d.cfg dir k) = true →
      ∃ j, 0 < j ∧ j ≤ k ∧ (displayableTags d).testBit (mon.met d.cfg dir j) = true

/-- The first occupied tag met is shown, and has a displayed window when one of its windows is
displayable. -/
theorem shows_first {s : Rwl} {mon : Monitor} (hmon : s.desk.sel_monitor = some mon) {dir : ℤ}
    {t : ℕ} (ht : t < s.desk.cfg.tag_count) (hnext : s.desk.next_occ_tag dir = some (1 <<< t)) :
    ((s.view_next_occ_tag dir).desk.tagsOf s.desk.sel_mon = 1 <<< t ∧
      displayed (s.view_next_occ_tag dir).desk ≠ []) ↔
        (displayableTags s.desk).testBit t = true := by
  obtain ⟨htags, hdisplayed⟩ := displayed_view hmon ht
  have hrun : s.view_next_occ_tag dir = s.view (1 <<< t) := by
    unfold view_next_occ_tag
    rw [hnext]
  rw [hrun, hdisplayed, testBit_displayableTags, ne_eq, List.filter_eq_nil_iff]
  constructor
  · rintro ⟨-, hne⟩
    by_contra hnot
    refine hne fun w hw hboth => hnot ⟨w, hw, ?_⟩
    rw [Bool.and_eq_true] at hboth
    exact ⟨hboth.2, hboth.1⟩
  · rintro ⟨w, hw, hd, hbit⟩
    refine ⟨htags, fun hnone => hnone w hw ?_⟩
    rw [hbit, hd, Bool.and_self]

/-- **Next-occupied-tag navigation.** It shows a tag with a displayed window exactly when no tag
that is met before the first displayable one has a window. -/
theorem navigates_iff (s : Rwl) {dir : ℤ} (hdir : dir = 1 ∨ dir = -1) :
    Navigates s dir ↔ Unhidden s.desk dir := by
  have hsub {t : ℕ} (h : (displayableTags s.desk).testBit t = true) :
      s.desk.occupied.testBit t = true := by
    obtain ⟨w, hw, -, ht⟩ := testBit_displayableTags.1 h
    exact testBit_occupied.2 ⟨w, hw, ht⟩
  have hnav := navigation s.desk.cfg hdir
  constructor
  · intro h mon hmon htags k hk hle hbit
    have hnext : s.desk.next_occ_tag dir = mon.next_occupied_tag s.desk.cfg s.desk.occupied dir := by
      unfold Desk.next_occ_tag
      rw [hmon, Option.bind_some]
    cases hmask : mon.next_occupied_tag s.desk.cfg s.desk.occupied dir with
    | none =>
      rw [(hnav.none mon _ htags).1 hmask _ (met_lt hk hle)] at hbit
      exact absurd hbit Bool.false_ne_true
    | some mask =>
      obtain ⟨j, hj, hjle, rfl, -, hbefore⟩ := (hnav.first mon _ _ htags).1 hmask
      have hshown := (shows_first hmon (met_lt hj hjle) (hnext.trans hmask)).1
        (h.shows _ (hnext.trans hmask))
      refine ⟨j, hj, ?_, hshown⟩
      by_contra hlt
      rw [hbefore k hk (by omega)] at hbit
      exact Bool.false_ne_true hbit
  · intro h
    refine ⟨hnav, fun mask hmask => ?_⟩
    obtain ⟨mon, hmon, hnext⟩ := Option.bind_eq_some_iff.1 hmask
    have htags : mon.tags ≠ 0 := by
      intro hzero
      unfold Monitor.next_occupied_tag at hnext
      rw [if_pos hzero] at hnext
      cases hnext
    obtain ⟨k, hk, hle, rfl, hbit, hbefore⟩ := (hnav.first mon _ _ htags).1 hnext
    refine (shows_first hmon (met_lt hk hle) hmask).2 ?_
    obtain ⟨j, hj, hjk, hdisplayable⟩ := h mon hmon htags k hk hle hbit
    -- the first displayable tag has a window, so it is the first occupied one
    rcases Nat.lt_or_ge j k with hlt | hge
    · have hfree := hbefore j hj hlt
      rw [hsub hdisplayable] at hfree
      exact absurd hfree.symm Bool.false_ne_true
    · obtain rfl : j = k := by omega
      exact hdisplayable

/-- Three windows on the tag shown, and the third one moves to another tag. -/
def spreadRun : List Event := threeWindows ++ [.ipc (.Tag 8)]

theorem navigates_spread : Navigates (run step (init (plainSetup [] [])) spreadRun) 1 := by
  have hall : (run step (init (plainSetup [] [])) spreadRun).desk.occupied =
      displayableTags (run step (init (plainSetup [] [])) spreadRun).desk := by decide +kernel
  exact (navigates_iff _ (.inl rfl)).2 fun mon _ _ k hk _ hbit =>
    ⟨k, hk, le_rfl, hall ▸ hbit⟩

/-- The child of a hidden terminal is sent to the second tag, which is then shown. -/
def hiddenRun : List Event := swallowRun ++ [.ipc (.Tag 2), .ipc_outputs .view none 2]

/-- The second of two monitors shows the second tag, with a window of its own; then the first one is
selected. -/
def twoMonitorsRun : List Event :=
  [.output_added 0 (plainOutput "a"),
    .output_added 1 { plainOutput "b" with location := ⟨800, 0⟩ }, .ipc (.FocusMon 1),
    .ipc_outputs .view (some 1) 2, .new_toplevel 0 (plainClient 10), .commit 10 true,
    .ipc (.FocusMon 1)]

/-- The next occupied tag may have a hidden terminal only, or the windows of another monitor. -/
theorem not_navigates : ¬Navigates (run step (init terminalSetup) hiddenRun) 1 ∧
    ¬Navigates (run step (init (plainSetup [] [])) twoMonitorsRun) 1 := by
  refine ⟨fun h => ?_, fun h => ?_⟩
  · have hempty := (h.shows 1 (by decide +kernel)).2
    revert hempty
    decide +kernel
  · have hempty := (h.shows 2 (by decide +kernel)).2
    revert hempty
    decide +kernel

end Rwl

end Compositor
