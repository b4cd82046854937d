import Mathlib.Tactic.Common
import Rwl.Lib.Mask
import Rwl.Core.Step

/-!
# Hidden terminals and the functions that look for windows

A swallowed terminal keeps its tags, its monitor and its place in the window list. `arrange` drops
it; the functions that count or select windows have filters of their own.

* `shown_tiled`: what `arrange` tiles, as a filter of the window list;
* `tiled_accounting`: `count_tiled` and the column grab agree with `arrange` exactly when no
  swallowed window is counted;
* `focusCycle`, `SelectionSkips`, `selection_skips_swallowed`: when the functions that select a
  window pass over the swallowed ones;
* `terminalSetup`, `swallowRun`: a terminal hidden behind the program it started.
-/

namespace Compositor

namespace Desk

theorem and_all_visible_ne_zero {d : Desk} {mon : Monitor} (hm : mon ∈ d.monitors) {tags : ℕ}
    (h : tags &&& mon.tags ≠ 0) : tags &&& d.all_visible ≠ 0 :=
  Mask.meets_union (List.mem_map_of_mem hm) h

/-! ### Tiled windows -/

/-- The view of a monitor tiles the windows `count_tiled` counts, but for the swallowed ones. -/
theorem display_eq_tiled_iff {d : Desk} {mon : Monitor} (hm : mon ∈ d.monitors) (st : WindowState) :
    display mon.tags d.all_visible st = .tiled ↔
      countsAsTiled st mon.tags = true ∧ st.is_swallowed = false := by
  have hvisible := @and_all_visible_ne_zero d mon hm st.tags
  unfold display countsAsTiled WindowState.visible_on
  split_ifs <;> simp_all

/-- What `arrange` tiles for the view of a monitor, in window-list order. -/
theorem shown_tiled {d : Desk} {mon : Monitor} (hm : mon ∈ d.monitors) :
    d.shown mon.tags .tiled = (d.windows.filter fun w => countsAsTiled (d.st w) mon.tags).filter
      fun w => !(d.st w).is_swallowed := by
  unfold shown
  rw [List.filter_filter]
  refine List.filter_congr fun w _ => ?_
  rw [Bool.eq_iff_iff, decide_eq_true_iff, display_eq_tiled_iff hm]
  simp [and_comm]

theorem filter_not_swallowed_eq_iff (d : Desk) (tags : ℕ) :
    (d.windows.filter fun w => countsAsTiled (d.st w) tags).filter
        (fun w => !(d.st w).is_swallowed) =
      (d.windows.filter fun w => countsAsTiled (d.st w) tags) ↔
    ∀ w ∈ d.windows, (d.st w).is_swallowed = true → countsAsTiled (d.st w) tags = false := by
  rw [List.filter_eq_self]
  constructor
  · intro h w hw hs
    by_contra hc
    have hkept := h w (List.mem_filter.2 ⟨hw, by simpa using hc⟩)
    simp [hs] at hkept
  · intro h w hw
    obtain ⟨hw, hc⟩ := List.mem_filter.1 hw
    by_contra hs
    have hnone := h w hw (by simpa using hs)
    simp [hnone] at hc

/-- The fractions `col::arrange` divides the width by, for `n` windows. -/
def colFacts (mon : Monitor) (n : ℕ) : List ℚ :=
  if mon.col_facts.length = n then mon.col_facts else List.replicate n (1 / n : ℚ)

theorem col_eq_colFacts (a : layout.Inset) (mon : Monitor) (n : ℕ) :
    layout.col a mon n = (layout.colSpans (max (a.w - (n - 1) * a.gp) 1) a.gp 0
      (colFacts mon n)).map fun (x, win_w) =>
        Rect.of (a.x + x + a.bw) (a.y + a.bw) (max (win_w - 2 * a.bw) 1)
          (max (a.h - 2 * a.bw) 1) := rfl

/-- `arrange`, `count_tiled` and the column grab of the monitor `mon` at position `i` speak of one
list of windows: they agree on its length, on the position of each window in it, and on the
fractions that put the column boundaries where they are. -/
structure SameTiled (d : Desk) (i : ℕ) (mon : Monitor) : Prop where
  count : d.count_tiled mon.tags = (d.shown mon.tags .tiled).length
  index : ∀ w, grab.col_window_idx d w i =
    (d.shown mon.tags .tiled).findIdx? fun v => decide (v = w)
  facts : grab.colSnapshot d i = colFacts mon (d.shown mon.tags .tiled).length

/-- The tiled windows of the monitor at position `i` are accounted for in one way. -/
def TiledAccounting (d : Desk) (i : ℕ) : Prop :=
  ∀ mon, d.monitors[i]? = some mon → d.SameTiled i mon

/-- No swallowed window counts as tiled on the view of the monitor at position `i`. -/
def NoneCounted (d : Desk) (i : ℕ) : Prop :=
  ∀ mon, d.monitors[i]? = some mon → ∀ w ∈ d.windows, (d.st w).is_swallowed = true →
    countsAsTiled (d.st w) mon.tags = false

theorem colWindows_eq {d : Desk} {i : ℕ} {mon : Monitor} (h : d.monitors[i]? = some mon) :
    grab.colWindows d i = d.windows.filter fun w => countsAsTiled (d.st w) mon.tags := by
  unfold grab.colWindows tagsOf
  rw [h]
  rfl

theorem colSnapshot_eq {d : Desk} {i : ℕ} {mon : Monitor} (h : d.monitors[i]? = some mon) :
    grab.colSnapshot d i = colFacts mon (grab.colWindows d i).length := by
  unfold grab.colSnapshot colFacts
  rw [h]
  dsimp only
  by_cases hn : (grab.colWindows d i).length = 0
  · simp only [hn]
    by_cases hf : mon.col_facts.length = 0
    · simp [List.length_eq_zero_iff.1 hf]
    · simp [hf]
  · simp only [Nat.pos_of_ne_zero hn, and_true]

/-- **The count, the column index and the column fractions agree with what `arrange` tiles
exactly when no swallowed window is counted.** -/
theorem tiled_accounting (d : Desk) (i : ℕ) : d.TiledAccounting i ↔ d.NoneCounted i := by
  refine forall_congr' fun mon => forall_congr' fun h => ?_
  have hm : mon ∈ d.monitors := List.mem_of_getElem? h
  have hcount : d.count_tiled mon.tags =
      (d.windows.filter fun w => countsAsTiled (d.st w) mon.tags).length :=
    List.countP_eq_length_filter
  rw [← filter_not_swallowed_eq_iff]
  constructor
  · intro ha
    have hlen := ha.count
    rw [hcount, shown_tiled hm] at hlen
    exact List.filter_sublist.eq_of_length_le (hlen ▸ le_rfl)
  · intro hn
    have hshown := (shown_tiled hm).trans hn
    refine ⟨by rw [hcount, hshown], fun w => ?_, ?_⟩
    · unfold grab.col_window_idx
      rw [h, hshown, colWindows_eq h]
      rfl
    · rw [colSnapshot_eq h, colWindows_eq h, hshown]

end Desk

namespace Rwl

/-! ### A terminal behind its child -/

/-- A plain desktop with swallowing on. -/
def terminalSetup : Setup :=
  { plainSetup [] [] with
    cfg := { plainConfig [] [] with swallow_enabled := true, swallow_terminals := ["foot"] } }

/-- The client of a terminal, or of a program; `pid` is its process. -/
def processClient (app_id : String) (f : SurfaceId) (pid : ℕ) : Client :=
  { plainClient f with app_id := some app_id, pid := some pid }

/-- The terminal 0 runs as process 7 and starts the program 1 as process 8, which hides it. -/
def swallowRun : List Event :=
  [.output_added 0 (plainOutput "A"), .new_toplevel 0 (processClient "foot" 10 7), .commit 10 true,
    .processes fun p => if p = 8 then some 7 else none,
    .new_toplevel 1 (processClient "mpv" 11 8), .commit 11 true]

/-- The hidden terminal is counted, and the column index of its child is off by one. -/
theorem not_tiled_accounting : ¬ ∀ s, Reachable s → ∀ i, s.desk.TiledAccounting i := by
  intro h
  have hdiffer : ((Transition.run step (init terminalSetup) swallowRun).desk.monitors[0]?).map
      (fun mon => decide ((Transition.run step (init terminalSetup) swallowRun).desk.count_tiled
        mon.tags = ((Transition.run step (init terminalSetup) swallowRun).desk.shown
          mon.tags .tiled).length)) = some false := by
    decide +kernel
  obtain ⟨mon, hmon, hne⟩ := Option.map_eq_some_iff.1 hdiffer
  exact of_decide_eq_false hne (h _ ⟨terminalSetup, swallowRun, rfl⟩ 0 mon hmon).count

/-! ### Selecting a window -/

/-- A window is on the selected monitor's view. -/
def onView (d : Desk) (w : WinId) : Bool :=
  (d.st w).visible_on (d.tagsOf d.sel_mon) && decide ((d.st w).mon_idx = d.sel_mon)

/-- The windows `focus_stack_step` goes through. -/
def focusCycle (d : Desk) : List WinId :=
  d.windows.filter fun w =>
    (d.st w).visible_on (d.tagsOf d.sel_mon) && (d.st w).rules_applied &&
      decide ((d.st w).mon_idx = d.sel_mon)

theorem stepTarget_mem {d : Desk} {dir : ℤ} {w : WinId} (h : stepTarget d dir = some w) :
    w ∈ focusCycle d := by
  unfold stepTarget at h
  dsimp only at h
  split_ifs at h
  all_goals exact List.mem_of_getElem? h

theorem zoomScan_mem {focused w : WinId} {promote_c p : Bool} {l : List WinId}
    (h : zoomScan focused promote_c l = some (w, p)) : w ∈ l := by
  induction l generalizing promote_c with
  | nil => cases h
  | cons v l ih =>
    unfold zoomScan at h
    split_ifs at h
    · exact List.mem_cons_of_mem v (ih h)
    · obtain ⟨rfl, _⟩ := Prod.mk.inj (Option.some.inj h)
      exact List.mem_cons_self

/-- `zoom` promotes the focused window or a window of the focus cycle. -/
theorem zoomTarget_cases {d : Desk} {w : WinId} (h : zoomTarget d = some w) :
    d.focused_window = some w ∨ w ∈ focusCycle d := by
  unfold zoomTarget at h
  split at h
  · rename_i focused mon hf hmon
    split_ifs at h
    obtain ⟨⟨c, promote_c⟩, hscan, hw⟩ := Option.map_eq_some_iff.1 h
    dsimp only at hw
    split_ifs at hw
    · obtain ⟨hmem, hz⟩ := List.mem_filter.1 (zoomScan_mem hscan)
      refine .inr (List.mem_filter.2 ⟨hw ▸ hmem, ?_⟩)
      have htags : d.tagsOf d.sel_mon = mon.tags := by
        unfold Desk.tagsOf
        rw [show d.monitors[d.sel_mon]? = some mon from hmon]
        rfl
      unfold zoomable at hz
      rw [← hw, htags]
      simp only [Bool.and_eq_true] at hz ⊢
      exact ⟨⟨hz.1.1.1, hz.1.2⟩, hz.2⟩
    · exact .inl (hf.trans (congrArg some hw))
  · cases h

theorem tile_master_mem_cycle {d : Desk} {w : WinId} (h : tile_master_window d = some w) :
    w ∈ focusCycle d := by
  unfold tile_master_window at h
  split at h
  · cases h
  · rename_i mon hmon
    split_ifs at h
    have htags : d.tagsOf d.sel_mon = mon.tags := by
      unfold Desk.tagsOf
      rw [show d.monitors[d.sel_mon]? = some mon from hmon]
      rfl
    refine List.mem_filter.2 ⟨List.mem_of_find?_eq_some h, ?_⟩
    have hp := List.find?_some h
    rw [htags]
    simp only [Bool.and_eq_true] at hp ⊢
    exact ⟨⟨hp.1.1.1.2, hp.1.1.2⟩, hp.1.1.1.1⟩

/-- No function that selects a window returns a swallowed one, the overview lists none, and the
focus cycle goes through the windows of the view that are not swallowed. -/
structure SelectionSkips (d : Desk) : Prop where
  focused : ∀ w, d.focused_window = some w → (d.st w).is_swallowed = false
  master : ∀ w, tile_master_window d = some w → (d.st w).is_swallowed = false
  stepped : ∀ dir w, stepTarget d dir = some w → (d.st w).is_swallowed = false
  cycle : ∀ w, w ∈ focusCycle d ↔
    w ∈ d.windows ∧ onView d w = true ∧ (d.st w).rules_applied = true ∧ (d.st w).is_swallowed = false
  zoomed : ∀ w, zoomTarget d = some w → (d.st w).is_swallowed = false
  listed : ∀ all_tags mon, d.sel_monitor = some mon →
    ∀ c ∈ overview.build_cells d all_tags mon.tags mon.w, (d.st c.window).is_swallowed = false

/-- No swallowed window is where one of these functions finds it: in the focus cycle, ahead of
every other window of the view in the focus stack, or among the windows with a buffer that the
overview of all tags lists. -/
structure NoneSelectable (d : Desk) : Prop where
  cycle : ∀ w ∈ d.windows, (d.st w).is_swallowed = true → onView d w = true →
    (d.st w).rules_applied = false
  stack : ∀ before w after, d.focus_stack = before ++ w :: after → (d.st w).is_swallowed = true →
    onView d w = true → ∃ v ∈ before, onView d v = true
  listed : d.sel_monitor.isSome = true → ∀ w ∈ d.windows, (d.st w).is_swallowed = true →
    (d.st w).buffer_mapped = true → (d.st w).scratch_key ≠ noScratch

theorem mem_focusCycle {d : Desk} {w : WinId} :
    w ∈ focusCycle d ↔ w ∈ d.windows ∧ onView d w = true ∧ (d.st w).rules_applied = true := by
  unfold focusCycle onView
  simp only [List.mem_filter, Bool.and_eq_true]
  tauto

theorem mem_cells {d : Desk} {all_tags : Bool} {tags : ℕ} {work : Rect} {c : OverviewCell}
    (h : c ∈ overview.build_cells d all_tags tags work) :
    c.window ∈ overview.candidates d all_tags tags := by
  unfold overview.build_cells at h
  obtain ⟨⟨w, i⟩, hp, rfl⟩ := List.mem_map.1 h
  exact (List.mem_zipIdx hp).2.2 ▸ List.getElem_mem _

theorem exists_cell {d : Desk} {all_tags : Bool} {tags : ℕ} {w : WinId} (work : Rect)
    (h : w ∈ overview.candidates d all_tags tags) :
    ∃ c ∈ overview.build_cells d all_tags tags work, c.window = w := by
  obtain ⟨i, hi, rfl⟩ := List.mem_iff_getElem.1 h
  unfold overview.build_cells
  refine ⟨_, List.mem_map.2 ⟨(_, i), List.mk_mem_zipIdx_iff_getElem?.2 (List.getElem?_eq_getElem hi), rfl⟩, rfl⟩

theorem mem_candidates {d : Desk} {all_tags : Bool} {tags : ℕ} {w : WinId} :
    w ∈ overview.candidates d all_tags tags ↔ w ∈ d.windows ∧ (d.st w).buffer_mapped = true ∧
      (d.st w).scratch_key = noScratch ∧ (all_tags = true ∨ (d.st w).visible_on tags = true) := by
  unfold overview.candidates
  rw [List.mem_insertionSort, List.mem_filter]
  simp [and_assoc]

/-- **The functions that select a window pass over the swallowed ones exactly when none of these
is where they look.** -/
theorem selection_skips_swallowed (d : Desk) : SelectionSkips d ↔ NoneSelectable d := by
  constructor
  · intro h
    refine ⟨fun w hw hs hv => ?_, fun before w after hstack hs hv => ?_, fun hsel w hw hs hb hkey => ?_⟩
    · by_contra hr
      have hmem := mem_focusCycle.2 ⟨hw, hv, by simpa using hr⟩
      have hskip := ((h.cycle w).1 hmem).2.2.2
      simp [hs] at hskip
    · by_contra hfirst
      have hbefore (v : WinId) (hv : v ∈ before) : onView d v = false :=
        Bool.eq_false_iff.2 fun hon => hfirst ⟨v, hv, hon⟩
      have hfocused : d.focused_window = some w :=
        List.find?_eq_some_iff_append.2 ⟨hv, before, after, hstack, fun v hv =>
          congrArg not (hbefore v hv)⟩
      have hskip := h.focused w hfocused
      simp [hs] at hskip
    · obtain ⟨mon, hmon⟩ := Option.isSome_iff_exists.1 hsel
      obtain ⟨c, hc, rfl⟩ := @exists_cell _ _ mon.tags _ mon.w
        (mem_candidates.2 ⟨hw, hb, hkey, .inl rfl⟩)
      have hskip := h.listed true mon hmon c hc
      simp [hs] at hskip
  · intro h
    have hcycle (w : WinId) (hw : w ∈ focusCycle d) : (d.st w).is_swallowed = false := by
      obtain ⟨hw, hv, hr⟩ := mem_focusCycle.1 hw
      by_contra hs
      have hnone := h.cycle w hw (by simpa using hs) hv
      simp [hr] at hnone
    have hfocused (w : WinId) (hw : d.focused_window = some w) : (d.st w).is_swallowed = false := by
      obtain ⟨hv, before, after, hstack, hbefore⟩ := List.find?_eq_some_iff_append.1 hw
      by_contra hs
      obtain ⟨v, hmem, hv'⟩ := h.stack before w after hstack (by simpa using hs) hv
      have hnot := hbefore v hmem
      rw [show ((d.st v).visible_on (d.tagsOf d.sel_mon) && decide ((d.st v).mon_idx = d.sel_mon)) =
        true from hv'] at hnot
      cases hnot
    refine ⟨hfocused, fun w hw => hcycle w (tile_master_mem_cycle hw),
      fun dir w hw => hcycle w (stepTarget_mem hw), fun w => ?_, fun w hw => ?_,
      fun all_tags mon hmon c hc => ?_⟩
    · constructor
      · intro hw
        obtain ⟨hmem, hv, hr⟩ := mem_focusCycle.1 hw
        exact ⟨hmem, hv, hr, hcycle w hw⟩
      · rintro ⟨hmem, hv, hr, -⟩
        exact mem_focusCycle.2 ⟨hmem, hv, hr⟩
    · rcases zoomTarget_cases hw with hw | hw
      · exact hfocused w hw
      · exact hcycle w hw
    · obtain ⟨hw, hb, hkey, -⟩ := mem_candidates.1 (mem_cells hc)
      by_contra hs
      exact h.listed (by rw [hmon]; rfl) c.window hw (by simpa using hs) hb hkey

/-- The focus cycle goes through the hidden terminal. -/
theorem not_selection_skips_swallowed : ¬ ∀ s, Reachable s → SelectionSkips s.desk := by
  intro h
  have hstep := (h _ ⟨terminalSetup, swallowRun, rfl⟩).stepped 1 0
  revert hstep
  decide +kernel

end Rwl

end Compositor
