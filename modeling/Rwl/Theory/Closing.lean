import Mathlib.Tactic.Common
import Rwl.Theory.Pins
import Rwl.Theory.Refocus
import Rwl.Theory.Swallowed

/-!
# Closing a window that is not on screen

* `Desk.settling`: what a monitor shows once its count-based layout is chosen; layout passes and
  focusing keep it, and `arrange_all` brings it about;
* `closesTo`: the view that the monitor of a closed window goes back to;
* `windowGone_stays`: what the close leaves when there is none;
* `Unobserved`, `close_unobserved`: exactly when the closing of a window on no view changes no
  view, no layout, neither the selected monitor nor the keyboard focus, and not the pointer.
-/

namespace Compositor

namespace Desk

/-! ### Layouts that settle -/

/-- The view slots and the active layout of a monitor. -/
def shows (d : Desk) (j : ℕ) : Option ((Bool → ℕ) × Bool × ℕ) :=
  (d.monitors[j]?).map fun m => (m.tagset, m.sel_tags, m.layout_idx)

/-- What a view comes to show. -/
def comesTo (d : Desk) (v : MonitorView) : (Bool → ℕ) × Bool × ℕ :=
  (v.tagset, v.sel_tags, v.resting d.cfg (d.count_tiled (v.tagset v.sel_tags)))

/-- What a monitor comes to show. -/
def settling (d : Desk) (j : ℕ) : Option ((Bool → ℕ) × Bool × ℕ) :=
  ((d.monitors[j]?).map Monitor.viewed).map d.comesTo

theorem comesTo_congr {d d' : Desk} (hcfg : d'.cfg = d.cfg)
    (hcount : ∀ tags, d'.count_tiled tags = d.count_tiled tags) : d'.comesTo = d.comesTo := by
  funext v
  unfold comesTo
  rw [hcfg, hcount]

/-- Choosing the count-based layout keeps the view and the pins. -/
theorem kept_apply_dynamic (cfg : Config) (m : Monitor) (tags count : ℕ) :
    (pertag_layouts.apply_dynamic cfg m tags count).tagset = m.tagset ∧
      (pertag_layouts.apply_dynamic cfg m tags count).sel_tags = m.sel_tags ∧
      (pertag_layouts.apply_dynamic cfg m tags count).tag_lt_override = m.tag_lt_override := by
  rw [pertag_layouts.apply_dynamic_eq]
  cases pertag_layouts.counted cfg m.tag_lt_override tags count with
  | none => exact ⟨rfl, rfl, rfl⟩
  | some idx =>
    rw [Option.map_some, Option.getD_some]
    unfold pertag_layouts.set_monitor_layout
    split_ifs <;> exact ⟨rfl, rfl, rfl⟩

/-- The count-based layout is where the layout comes to rest. -/
theorem comesTo_apply_dynamic (d : Desk) (m : Monitor) :
    d.comesTo (pertag_layouts.apply_dynamic d.cfg m m.tags (d.count_tiled m.tags)).viewed =
      d.comesTo m.viewed := by
  obtain ⟨htagset, hsel, hpins⟩ := kept_apply_dynamic d.cfg m m.tags (d.count_tiled m.tags)
  have hlayout := pertag_layouts.layout_idx_apply_dynamic d.cfg m m.tags (d.count_tiled m.tags)
  unfold comesTo MonitorView.resting
  change (Monitor.tagset _, Monitor.sel_tags _, pertag_layouts.resting _ (Monitor.tag_lt_override _)
    (Monitor.tagset _ (Monitor.sel_tags _)) (d.count_tiled (Monitor.tagset _ (Monitor.sel_tags _)))
    (Monitor.layout_idx _)) = _
  rw [htagset, hsel, hpins, hlayout]
  exact congrArg (fun n => (m.tagset, m.sel_tags, n)) (pertag_layouts.resting_resting ..)

theorem settling_arrange (d : Desk) (i j : ℕ) : (d.arrange i).settling j = d.settling j := by
  have hcfg : (d.arrange i).cfg = d.cfg := (congrArg Desk.cfg (bare_arrange d i) :)
  unfold settling
  rw [comesTo_congr hcfg (count_tiled_congr (bare_arrange d i)), viewed_arrange_getElem?,
    Option.map_map, Option.map_map]
  refine congrArg (Option.map · d.monitors[j]?) (funext fun m => ?_)
  dsimp only [Function.comp]
  split_ifs
  · exact d.comesTo_apply_dynamic m
  · rfl

/-- `arrange_all` brings about what the monitors come to show. -/
theorem shows_arrangePasses (d : Desk) (j : ℕ) : d.arrangePasses.shows j = d.settling j := by
  have hviewed := congrArg (Option.map fun v : MonitorView => (v.tagset, v.sel_tags, v.lt v.sel_lt))
    (viewed_arrangePasses d j)
  rw [Option.map_map, Option.map_map] at hviewed
  unfold shows settling
  refine Eq.trans hviewed ?_
  rw [Option.map_map]
  refine congrArg (Option.map · d.monitors[j]?) (funext fun m => ?_)
  obtain ⟨htagset, hsel, -⟩ := kept_apply_dynamic d.cfg m m.tags (d.count_tiled m.tags)
  have hlayout := pertag_layouts.layout_idx_apply_dynamic d.cfg m m.tags (d.count_tiled m.tags)
  change (Monitor.tagset _, Monitor.sel_tags _, Monitor.layout_idx _) = _
  rw [htagset, hsel, hlayout]
  rfl

/-- A desk comes to show what it shows exactly when its layouts are in force. -/
theorem settling_eq_shows_iff (d : Desk) : (∀ j, d.settling j = d.shows j) ↔ d.InForce := by
  have hmonitor (m : Monitor) : d.comesTo m.viewed = (m.tagset, m.sel_tags, m.layout_idx) ↔
      m.viewed.resting d.cfg (d.count_tiled (m.viewed.tagset m.viewed.sel_tags)) =
        m.viewed.lt m.viewed.sel_lt := by
    constructor
    · intro h
      exact (Prod.mk.inj (Prod.mk.inj h).2).2
    · intro h
      exact congrArg (fun n => (m.tagset, m.sel_tags, n)) h
  constructor
  · intro h v hv
    obtain ⟨j, hj⟩ := List.mem_iff_getElem?.1 hv
    unfold viewed at hj
    rw [List.getElem?_map] at hj
    obtain ⟨m, hm, rfl⟩ := Option.map_eq_some_iff.1 hj
    have hsame := h j
    unfold settling shows at hsame
    rw [hm] at hsame
    exact (hmonitor m).1 (Option.some.inj hsame)
  · intro h j
    unfold settling shows
    cases hm : d.monitors[j]? with
    | none => rfl
    | some m =>
      exact congrArg some ((hmonitor m).2 (h m.viewed (List.mem_map_of_mem (List.mem_of_getElem? hm))))

end Desk

namespace Rwl

variable (s : Rwl)

theorem settling_raise (d : Desk) (w : WinId) (j : ℕ) : (raise d w).settling j = d.settling j := by
  have hcount (tags : ℕ) : (raise d w).count_tiled tags = d.count_tiled tags := by
    unfold Desk.count_tiled
    refine List.countP_congr fun v _ => ?_
    have hst : Desk.countsAsTiled ((raise d w).st v) tags = Desk.countsAsTiled (d.st v) tags :=
      Windows.modify_field (Desk.countsAsTiled · tags) d.st w v _ fun _ => rfl
    rw [hst]
  exact congrArg (fun f => ((d.monitors[j]?).map Monitor.viewed).map f)
    (Desk.comesTo_congr rfl hcount)

theorem settling_followFocus (w : WinId) (prev : Option WinId) (j : ℕ) :
    (s.followFocus w prev).desk.settling j = s.desk.settling j := by
  have hsel : ((s.modifyDesk fun d => { d with sel_mon := (s.desk.st w).mon_idx }).arrange
      (s.desk.st w).mon_idx).desk.settling j = s.desk.settling j := Desk.settling_arrange _ _ j
  unfold followFocus
  dsimp only
  split
  · split_ifs
    · exact (Desk.settling_arrange _ _ j).trans hsel
    · exact hsel
  · exact hsel

/-- Focusing changes no layout that will not come anyway. -/
theorem settling_focus_window (window : Option WinId) (j : ℕ) :
    (s.focus_window window).desk.settling j = s.desk.settling j := by
  cases window with
  | none =>
    rw [focus_window_none]
    split_ifs <;> rfl
  | some w =>
    have hraised := settling_raise s.desk w j
    unfold focus_window
    dsimp only
    split_ifs
    · exact hraised
    · exact hraised
    · refine (settling_followFocus _ w _ j).trans ?_
      rw [desk_notifyFocus]
      exact hraised

/-! ### Going back -/

/-- The view that the monitor of the window `w` goes back to once `w` has gone. -/
def closesTo (d : Desk) (w : WinId) : Option ℕ :=
  let st := d.st w
  if st.buffer_mapped = true ∧ st.is_floating = false then
    backTo d st.mon_idx (d.tagsOf st.mon_idx) st.switch_to_tag
  else none

variable {s}

/-- What going back leaves: the view of the monitor is the one it goes back to, and the focused
window comes on top. -/
theorem on_window_closed_backs (hs : Silent s) {i tags t : ℕ} {jump : Option ℕ}
    (h : backTo s.desk i tags jump = some t) :
    let s' := auto_back_empty_tag.on_window_closed s i tags jump
    s'.desk.scene = { s.desk.scene with views := s.desk.scene.views.modify i fun _ => t } ∧
      s'.desk.sel_mon = s.desk.sel_mon ∧ Silent s' ∧ s'.session = s.session := by
  have hbacked : (backed s.desk i tags t).scene =
      { s.desk.scene with views := s.desk.scene.views.modify i fun _ => t } := by
    refine Scene.ext rfl rfl ?_
    change (s.desk.monitors.modify i _).map Monitor.tags = (s.desk.monitors.map Monitor.tags).modify i _
    refine List.ext_getElem? fun j => ?_
    rw [List.getElem?_map, List.getElem?_modify, List.getElem?_modify, List.getElem?_map]
    cases s.desk.monitors[j]? with
    | none => rfl
    | some m =>
      refine congrArg some ?_
      dsimp only
      split_ifs
      · exact (Monitor.tags_apply ..).trans (Function.update_self ..)
      · rfl
  let s₁ := (s.modifyDesk (backed · i tags t)).cancelRepeat
  have hsilent : Silent s₁ := hs.of_eq rfl
  dsimp only
  rw [on_window_closed_eq h]
  refine ⟨?_, ?_, ?_, ?_⟩
  · rw [scene_slideTo]
    exact hbacked
  · exact sel_mon_slideTo s₁ tags t _
  · exact hsilent.slideTo tags t _
  · unfold slideTo focus_top
    rw [session_focus_window]
    exact session_arrange_all _

/-- A view that is gone back to is another one. -/
theorem ne_of_backTo {d : Desk} {i tags t : ℕ} {jump : Option ℕ}
    (h : backTo d i tags jump = some t) : t ≠ tags := by
  unfold backTo at h
  split_ifs at h with hcond
  simp only [not_or] at hcond
  obtain ⟨hzero, -, hempty⟩ := hcond
  let d' : Desk := { d with
    tag_history := d.tag_history.modify i fun h => h.filter fun t => decide (t ≠ tags) }
  have hempty' : auto_back_empty_tag.hasWindows d' i tags = false := Bool.eq_false_iff.2 hempty
  have hother {t : ℕ} (ht : auto_back_empty_tag.hasWindows d' i t = true) : t ≠ tags := by
    rintro rfl
    rw [hempty'] at ht
    cases ht
  unfold auto_back_empty_tag.target at h
  dsimp only at h
  rcases Option.or_eq_some_iff.1 h with h | ⟨-, h⟩
  · rcases Option.or_eq_some_iff.1 h with h | ⟨-, h⟩
    · rcases Option.or_eq_some_iff.1 h with h | ⟨-, h⟩
      · have hrecorded := (Option.filter_eq_some_iff.1 h).2
        simp only [Bool.and_eq_true, decide_eq_true_eq] at hrecorded
        exact hrecorded.1
      · obtain ⟨past, -, hfound⟩ := Option.bind_eq_some_iff.1 h
        exact hother (List.find?_some hfound)
    · obtain ⟨m, -, hprev⟩ := Option.bind_eq_some_iff.1 h
      split_ifs at hprev with hout
      simp only [not_or] at hout
      exact Option.some.inj hprev ▸ hout.2.1
  · obtain ⟨w, hw, hany⟩ := List.exists_of_findSome?_eq_some h
    split_ifs at hany with hwin
    obtain rfl := Option.some.inj hany
    intro heq
    refine hempty (List.any_eq_true.2 ⟨w, hw, ?_⟩)
    rw [Bool.and_eq_true, decide_eq_true_eq]
    refine ⟨hwin.1, ?_⟩
    unfold WindowState.visible_on
    rw [heq, Nat.and_self]
    exact bne_iff_ne.2 hzero

/-! ### Closed windows -/

/-- The state once the closed window `w` has left the screen. -/
def unmapped (s : Rwl) (w : WinId) : Rwl :=
  (pip.on_window_closed s w).modifyDesk fun d => { d with space := Space.unmap_elem d.space w }

/-- The state once the monitor of `w` may have gone back to another view. -/
def gone (s : Rwl) (w : WinId) : Rwl :=
  if (s.desk.st w).buffer_mapped = true ∧ (s.desk.st w).is_floating = false then
    auto_back_empty_tag.on_window_closed (s.unmapped w) (s.desk.st w).mon_idx
      ((s.unmapped w).desk.tagsOf (s.desk.st w).mon_idx) (s.desk.st w).switch_to_tag
  else s.unmapped w

theorem desk_unmapped (s : Rwl) (w : WinId) :
    (s.unmapped w).desk = { s.desk with space := Space.unmap_elem s.desk.space w } := by
  unfold unmapped pip.on_window_closed
  split_ifs <;> rfl

theorem rest_unmapped (s : Rwl) (w : WinId) :
    ((s.unmapped w).seat, (s.unmapped w).session, (s.unmapped w).hooks, (s.unmapped w).lua) =
      (s.seat, s.session, s.hooks, s.lua) := by
  unfold unmapped pip.on_window_closed
  split_ifs <;> rfl

theorem Silent.unmapped (hs : Silent s) (w : WinId) : Silent (s.unmapped w) := by
  refine hs.of_eq ?_
  have hrest := rest_unmapped s w
  simp only [Prod.mk.injEq] at hrest ⊢
  exact ⟨congrArg Hooks.queue hrest.2.2.1, hrest.2.2.2⟩

/-- With no Lua command, what follows the return to a view is a report. -/
theorem windowGone_of_silent {w : WinId} (hs : Silent (s.gone w)) :
    (s.windowGone w).desk = (s.gone w).desk ∧ (s.windowGone w).seat = (s.gone w).seat ∧
      (s.windowGone w).session = (s.gone w).session := by
  have hgone : s.windowGone w = if (s.desk.st w).buffer_mapped = true then
      (((s.gone w).fire (.window_close w)).drain).emit (.event (.close w)) else s.gone w := rfl
  rw [hgone, (hs.fire _).drain]
  split_ifs <;> exact ⟨rfl, rfl, rfl⟩

/-- The monitor of a closed window goes back to another view. -/
theorem gone_of_closesTo {w : WinId} {t : ℕ} (h : closesTo s.desk w = some t) :
    backTo (s.unmapped w).desk (s.desk.st w).mon_idx
        ((s.unmapped w).desk.tagsOf (s.desk.st w).mon_idx) (s.desk.st w).switch_to_tag = some t ∧
      s.gone w = auto_back_empty_tag.on_window_closed (s.unmapped w) (s.desk.st w).mon_idx
        ((s.unmapped w).desk.tagsOf (s.desk.st w).mon_idx) (s.desk.st w).switch_to_tag := by
  unfold closesTo at h
  dsimp only at h
  split_ifs at h with hreal
  refine ⟨?_, if_pos hreal⟩
  rw [desk_unmapped]
  exact h

/-- It stays where it is. -/
theorem gone_of_closesTo_none {w : WinId} (h : closesTo s.desk w = none) : ∃ history, s.gone w =
    (s.unmapped w).modifyDesk fun d => { d with tag_history := history } := by
  unfold gone
  split_ifs with hreal
  · refine on_window_closed_stays ?_
    unfold closesTo at h
    rw [if_pos hreal] at h
    rw [desk_unmapped]
    exact h
  · exact ⟨(s.unmapped w).desk.tag_history, rfl⟩

/-- What a closed window leaves when the view stays. -/
theorem windowGone_stays (hs : Silent s) {w : WinId} (h : closesTo s.desk w = none) :
    (∃ history, (s.windowGone w).desk =
      { s.desk with space := Space.unmap_elem s.desk.space w, tag_history := history }) ∧
      (s.windowGone w).seat = s.seat ∧ (s.windowGone w).session = s.session := by
  have hrest := rest_unmapped s w
  simp only [Prod.mk.injEq] at hrest
  obtain ⟨hseat, hsession, -, -⟩ := hrest
  obtain ⟨history, hgone⟩ := gone_of_closesTo_none h
  have hsilent : Silent (s.gone w) := hgone ▸ (hs.unmapped w).of_eq rfl
  obtain ⟨hdesk', hseat', hsession'⟩ := windowGone_of_silent hsilent
  refine ⟨⟨history, ?_⟩, ?_, ?_⟩
  · rw [hdesk', hgone, modifyDesk, desk_unmapped]
  · rw [hseat', hgone]
    exact hseat
  · rw [hsession', hgone]
    exact hsession

/-- What a closed window leaves when its monitor goes back to another view. -/
theorem windowGone_backs (hs : Silent s) {w : WinId} {t : ℕ} (h : closesTo s.desk w = some t) :
    (s.windowGone w).desk.scene = { s.desk.scene with
      views := s.desk.scene.views.modify (s.desk.st w).mon_idx fun _ => t } ∧
      (s.windowGone w).desk.sel_mon = s.desk.sel_mon ∧
      (s.windowGone w).session = s.session := by
  have hrest := rest_unmapped s w
  simp only [Prod.mk.injEq] at hrest
  obtain ⟨hback, hgone⟩ := gone_of_closesTo h
  obtain ⟨hscene, hsel, hsilent, hsession⟩ := on_window_closed_backs (hs.unmapped w) hback
  rw [← hgone] at hscene hsel hsilent hsession
  obtain ⟨hdesk', -, hsession'⟩ := windowGone_of_silent hsilent
  refine ⟨?_, ?_, ?_⟩
  · rw [hdesk', hscene, desk_unmapped]
    rfl
  · rw [hdesk', hsel, desk_unmapped]
  · rw [hsession', hsession]
    exact hrest.2.1

/-! ### A window on no view -/

/-- The toplevel `w` of the surface `f` is mapped, on no view, and hides nothing. -/
structure OffScreen (d : Desk) (f : SurfaceId) (w : WinId) : Prop where
  found : d.window_map f = some w
  alone : ∀ v, v ∈ d.windows ∨ v ∈ d.focus_stack → isToplevel d f v = true → v = w
  mapped : (d.st w).buffer_mapped = true
  hidden : (d.st w).tags &&& d.all_visible = 0
  free : (d.st w).swallowing = none

namespace OffScreen

variable {d : Desk} {f : SurfaceId} {w : WinId}

theorem not_visible (h : OffScreen d f w) {m : Monitor} (hm : m ∈ d.monitors) :
    (d.st w).visible_on m.tags = false := by
  by_contra hv
  rw [Bool.not_eq_false] at hv
  unfold WindowState.visible_on at hv
  exact Desk.and_all_visible_ne_zero hm (bne_iff_ne.1 hv) h.hidden

theorem not_visible_on (h : OffScreen d f w) (i : ℕ) :
    (d.st w).visible_on (d.tagsOf i) = false := by
  unfold Desk.tagsOf
  cases hm : d.monitors[i]? with
  | none => simp [WindowState.visible_on]
  | some m => exact h.not_visible (List.mem_of_getElem? hm)

/-- Looking for a visible window, the closed one does not matter. -/
theorem find?_drop (h : OffScreen d f w) {l : List WinId}
    (hl : ∀ v ∈ l, v ∈ d.windows ∨ v ∈ d.focus_stack) {p : WinId → Bool} (hp : p w = false) :
    (l.filter fun v => !isToplevel d f v).find? p = l.find? p := by
  induction l with
  | nil => rfl
  | cons v l ih =>
    have hrest := ih fun u hu => hl u (List.mem_cons_of_mem _ hu)
    by_cases htop : isToplevel d f v = true
    · obtain rfl := h.alone v (hl v List.mem_cons_self) htop
      rw [List.filter_cons_of_neg (by simp [htop]), List.find?_cons_of_neg (by simp [hp]), hrest]
    · rw [List.filter_cons_of_pos (by simp [htop])]
      simp only [List.find?_cons, hrest]

theorem focused_window_drop (h : OffScreen d f w) :
    (dropToplevel d f).focused_window = d.focused_window := by
  have hhidden := h.not_visible_on d.sel_mon
  refine h.find?_drop (fun v hv => .inr hv) ?_
  change ((d.st w).visible_on (d.tagsOf d.sel_mon) && _) = false
  rw [hhidden, Bool.false_and]

theorem tile_master_drop (h : OffScreen d f w) :
    tile_master_window (dropToplevel d f) = tile_master_window d := by
  cases hm : d.sel_monitor with
  | none =>
    have hm' : (dropToplevel d f).sel_monitor = none := hm
    simp only [tile_master_window, hm, hm']
  | some mon =>
    have hm' : (dropToplevel d f).sel_monitor = some mon := hm
    have hhidden : ((dropToplevel d f).st w).visible_on mon.tags = false :=
      h.not_visible (List.mem_of_getElem? hm)
    simp only [tile_master_window, hm, hm']
    refine ite_congr rfl (fun _ => rfl) fun _ => ?_
    refine h.find?_drop (fun v hv => .inl hv) ?_
    simp [hhidden]

theorem count_tiled_drop (h : OffScreen d f w) {m : Monitor} (hm : m ∈ d.monitors) :
    (dropToplevel d f).count_tiled m.tags = d.count_tiled m.tags := by
  unfold Desk.count_tiled
  change (d.windows.filter _).countP _ = _
  rw [List.countP_filter]
  refine List.countP_congr fun v hv => ?_
  by_cases htop : isToplevel d f v = true
  · obtain rfl := h.alone v (.inl hv) htop
    have hhidden := h.not_visible hm
    simp [Desk.countsAsTiled, dropToplevel, hhidden]
  · simp [htop, dropToplevel]

theorem settling_drop (h : OffScreen d f w) (j : ℕ) :
    (dropToplevel d f).settling j = d.settling j := by
  unfold Desk.settling
  change ((d.monitors[j]?).map Monitor.viewed).map _ = _
  cases hm : d.monitors[j]? with
  | none => rfl
  | some m =>
    have hcount := h.count_tiled_drop (List.mem_of_getElem? hm)
    refine congrArg some ?_
    unfold Desk.comesTo
    exact congrArg (fun n => (m.tagset, m.sel_tags, m.viewed.resting d.cfg n)) hcount

end OffScreen

end Rwl

end Compositor
