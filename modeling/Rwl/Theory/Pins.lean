import Mathlib.Tactic.Common
import Rwl.Theory.Reload

/-!
# Pinned layouts and view changes

* `pertag_layouts.tied`: the layout a view is tied to, by a pin or by a fixed rule;
  `Monitor.Settled`: the monitor has the layout its view is tied to;
* `MonitorOp.Settles`: when a change of view settles a monitor, and `settled_run_iff`;
* `held`: what decides whether monitors are settled; layout passes and focusing keep it;
* `ViewChange`: the operations that change views; `view_change_settles`: exactly when they leave
  the monitors they change settled.
-/

namespace Compositor

/-! ### Tied layouts -/

namespace pertag_layouts

/-- The layout a view is tied to: the pin of its single tag, else the tag's fixed layout. -/
def tied (cfg : Config) (overrides : List (Option ℕ)) (tags : ℕ) : Option ℕ :=
  if is_single tags = false then none
  else match (overrides[trailing_zeros tags]?).join with
    | some idx => some idx
    | none =>
      match (cfg.pertag_layouts[trailing_zeros tags]?).join with
      | some (.Fixed idx) => some idx
      | some (.ByCount _) | none => none

/-- `apply` switches to the layout the view is tied to. -/
theorem apply_eq (cfg : Config) (mon : Monitor) (tags : ℕ) : apply cfg mon tags =
    ((tied cfg mon.tag_lt_override tags).map (set_monitor_layout cfg mon)).getD mon := by
  unfold apply tied pin
  dsimp only
  by_cases hsingle : is_single tags = false
  · simp [hsingle]
  · rw [if_neg hsingle, if_neg hsingle]
    cases (mon.tag_lt_override[trailing_zeros tags]?).join with
    | some idx => rfl
    | none =>
      cases (cfg.pertag_layouts[trailing_zeros tags]?).join with
      | none => rfl
      | some rule => cases rule <;> rfl

/-- The count-based layouts leave a tied view alone. -/
theorem apply_dynamic_of_tied {cfg : Config} {mon : Monitor} {tags idx : ℕ}
    (h : tied cfg mon.tag_lt_override tags = some idx) (count : ℕ) :
    apply_dynamic cfg mon tags count = mon := by
  unfold tied at h
  unfold apply_dynamic pin
  dsimp only
  by_cases hsingle : is_single tags = false
  · rw [if_pos hsingle]
  · rw [if_neg hsingle] at h ⊢
    cases hpin : (mon.tag_lt_override[trailing_zeros tags]?).join with
    | some idx => rfl
    | none =>
      rw [hpin] at h
      cases hrule : (cfg.pertag_layouts[trailing_zeros tags]?).join with
      | none => rfl
      | some rule =>
        rw [hrule] at h
        cases rule with
        | Fixed i => rfl
        | ByCount list => cases h

theorem layout_idx_set_monitor_layout (cfg : Config) (mon : Monitor) (idx : ℕ) :
    (set_monitor_layout cfg mon idx).layout_idx = idx ↔
      mon.layout_idx = idx ∨ idx < cfg.layouts.length := by
  unfold set_monitor_layout
  split_ifs with h
  · have hpush : (mon.pushLayout idx).layout_idx = idx := Function.update_self ..
    exact iff_of_true hpush (.inr h.1)
  · constructor
    · exact .inl
    · rintro (heq | hlt)
      · exact heq
      · by_contra hne
        exact h ⟨hlt, hne⟩

end pertag_layouts

open pertag_layouts (tied)

namespace Monitor

/-- The monitor has the layout its view is tied to. -/
def Settled (cfg : Config) (mon : Monitor) : Prop :=
  ∀ idx, tied cfg mon.tag_lt_override mon.tags = some idx → mon.layout_idx = idx

/-- Applying the per-tag layouts settles a monitor when the tied layout exists. -/
theorem settled_apply_iff (cfg : Config) (mon : Monitor) :
    (pertag_layouts.apply cfg mon mon.tags).Settled cfg ↔
      ∀ idx, tied cfg mon.tag_lt_override mon.tags = some idx →
        mon.layout_idx = idx ∨ idx < cfg.layouts.length := by
  rw [pertag_layouts.apply_eq]
  cases htied : tied cfg mon.tag_lt_override mon.tags with
  | none =>
    refine iff_of_true (fun idx h => ?_) nofun
    exact absurd (htied.symm.trans h) (by simp)
  | some idx =>
    have hpins : (pertag_layouts.set_monitor_layout cfg mon idx).tag_lt_override =
        mon.tag_lt_override := by
      unfold pertag_layouts.set_monitor_layout
      split_ifs <;> rfl
    unfold Settled
    rw [Option.map_some, Option.getD_some, tags_set_monitor_layout, hpins, htied]
    constructor
    · intro h i hi
      obtain rfl := Option.some.inj hi
      exact (pertag_layouts.layout_idx_set_monitor_layout cfg mon idx).1 (h idx rfl)
    · intro h i hi
      obtain rfl := Option.some.inj hi
      exact (pertag_layouts.layout_idx_set_monitor_layout cfg mon idx).2 (h idx rfl)

end Monitor

/-- When a change of view leaves a monitor settled. A toggled view keeps the layout it finds; the
others switch to the layout the new view is tied to, when it exists. -/
def MonitorOp.Settles (cfg : Config) (mon : Monitor) : MonitorOp → Prop
  | .view mask =>
      if mask &&& cfg.tag_mask = 0 ∨ mask &&& cfg.tag_mask = mon.tags then mon.Settled cfg
      else ∀ idx, tied cfg mon.tag_lt_override (mask &&& cfg.tag_mask) = some idx →
        mon.layout_idx = idx ∨ idx < cfg.layouts.length
  | .toggle_view mask =>
      if (mon.tags ^^^ mask) &&& cfg.tag_mask = 0 then mon.Settled cfg
      else ∀ idx, tied cfg mon.tag_lt_override ((mon.tags ^^^ mask) &&& cfg.tag_mask) = some idx →
        mon.layout_idx = idx
  | .view_prev =>
      ∀ idx, tied cfg mon.tag_lt_override (mon.tagset (!mon.sel_tags)) = some idx →
        mon.layout_idx = idx ∨ idx < cfg.layouts.length
  | .retag tags =>
      ∀ idx, tied cfg mon.tag_lt_override tags = some idx →
        mon.layout_idx = idx ∨ idx < cfg.layouts.length
  -- the other operations do not change the view
  | _ => True

/-- The operations that change the view. -/
def MonitorOp.changesView : MonitorOp → Bool
  | .view _ | .toggle_view _ | .view_prev | .retag _ => true
  | _ => false

/-- **A change of view leaves a monitor settled exactly when it settles it.** -/
theorem MonitorOp.settled_run_iff (cfg : Config) (mon : Monitor) {op : MonitorOp}
    (hop : op.changesView = true) : (op.run cfg mon).Settled cfg ↔ op.Settles cfg mon := by
  cases op with
  | view mask =>
    have hpush := (mon.pushTags (mask &&& cfg.tag_mask)).settled_apply_iff cfg
    rw [show (mon.pushTags (mask &&& cfg.tag_mask)).tags = mask &&& cfg.tag_mask from
      Function.update_self ..] at hpush
    dsimp only [run, Settles, Monitor.view]
    split_ifs
    · exact Iff.rfl
    · exact hpush
  | toggle_view mask =>
    have htags : (mon.pushTags ((mon.tags ^^^ mask) &&& cfg.tag_mask)).tags =
        (mon.tags ^^^ mask) &&& cfg.tag_mask := Function.update_self ..
    dsimp only [run, Settles, Monitor.toggle_view]
    by_cases hnew : (mon.tags ^^^ mask) &&& cfg.tag_mask = 0
    · rw [if_pos hnew, if_neg (not_not.2 hnew)]
    · rw [if_neg hnew, if_pos hnew]
      unfold Monitor.Settled
      rw [htags]
      exact Iff.rfl
  | view_prev => exact Monitor.settled_apply_iff cfg { mon with sel_tags := !mon.sel_tags }
  | retag tags =>
    have hset := Monitor.settled_apply_iff cfg
      { mon with tagset := Function.update mon.tagset mon.sel_tags tags }
    rw [show Monitor.tags { mon with tagset := Function.update mon.tagset mon.sel_tags tags } = tags
      from Function.update_self ..] at hset
    exact hset
  | set_layout | reset | apply | apply_dynamic => cases hop

/-! ### What decides whether monitors are settled -/

/-- The view, the pins, and for a tied view the layout it is tied to with the one it has. -/
def MonitorView.held (cfg : Config) (v : MonitorView) : ℕ × List (Option ℕ) × Option (ℕ × ℕ) :=
  (v.tagset v.sel_tags, v.tag_lt_override,
    (tied cfg v.tag_lt_override (v.tagset v.sel_tags)).map fun idx => (idx, v.lt v.sel_lt))

theorem Monitor.settled_iff_held (cfg : Config) (m : Monitor) :
    m.Settled cfg ↔ ∀ p, (m.viewed.held cfg).2.2 = some p → p.2 = p.1 := by
  change (∀ idx, tied cfg m.tag_lt_override m.tags = some idx → m.layout_idx = idx) ↔
    ∀ p, (tied cfg m.tag_lt_override m.tags).map (fun idx => (idx, m.layout_idx)) = some p →
      p.2 = p.1
  cases tied cfg m.tag_lt_override m.tags with
  | none => simp
  | some idx => simp

theorem Monitor.settled_congr {cfg cfg' : Config} {m m' : Monitor}
    (h : m'.viewed.held cfg' = m.viewed.held cfg) : m'.Settled cfg' ↔ m.Settled cfg := by
  rw [settled_iff_held, settled_iff_held, h]

theorem Monitor.held_apply_dynamic (cfg : Config) (m : Monitor) (count : ℕ) :
    (pertag_layouts.apply_dynamic cfg m m.tags count).viewed.held cfg = m.viewed.held cfg := by
  cases htied : tied cfg m.tag_lt_override m.tags with
  | some idx => rw [pertag_layouts.apply_dynamic_of_tied htied]
  | none =>
    have hset (idx : ℕ) :
        (pertag_layouts.set_monitor_layout cfg m idx).viewed.held cfg = m.viewed.held cfg := by
      unfold pertag_layouts.set_monitor_layout
      split_ifs
      · change (m.tags, m.tag_lt_override, (tied cfg m.tag_lt_override m.tags).map _) =
          (m.tags, m.tag_lt_override, (tied cfg m.tag_lt_override m.tags).map _)
        rw [htied]
        rfl
      · rfl
    unfold pertag_layouts.apply_dynamic
    dsimp only
    split_ifs
    · rfl
    · rfl
    · split
      · split
        · rfl
        · exact hset _
      · rfl
      · rfl

namespace Desk

/-- What decides whether monitor `j` is settled. -/
def heldAt (d : Desk) (j : ℕ) : Option (ℕ × List (Option ℕ) × Option (ℕ × ℕ)) :=
  (d.monitors[j]?).map fun m => m.viewed.held d.cfg

theorem heldAt_modifyMonitor (d : Desk) (i : ℕ) (f : Monitor → Monitor) (j : ℕ) :
    (d.modifyMonitor i f).heldAt j = (d.monitors[j]?).map fun m =>
      (if i = j then f m else m).viewed.held d.cfg := by
  change ((d.monitors.modify i f)[j]?).map _ = _
  rw [List.getElem?_modify, Option.map_eq_map, Option.map_map]
  rfl

theorem heldAt_arrange (d : Desk) (i j : ℕ) : (d.arrange i).heldAt j = d.heldAt j := by
  have hcfg : (d.arrange i).cfg = d.cfg := (congrArg Desk.cfg (bare_arrange d i) :)
  have hviewed := congrArg (Option.map (MonitorView.held d.cfg)) (viewed_arrange_getElem? d i j)
  rw [Option.map_map, Option.map_map] at hviewed
  unfold heldAt
  rw [hcfg]
  refine Eq.trans hviewed (congrArg (Option.map · d.monitors[j]?) (funext fun m => ?_))
  dsimp only [Function.comp]
  split_ifs
  · exact m.held_apply_dynamic d.cfg _
  · rfl

theorem heldAt_arrangePasses (d : Desk) (j : ℕ) : d.arrangePasses.heldAt j = d.heldAt j := by
  have hcfg : d.arrangePasses.cfg = d.cfg := (congrArg Desk.cfg (bare_arrangePasses d) :)
  have hviewed := congrArg (Option.map (MonitorView.held d.cfg)) (viewed_arrangePasses d j)
  rw [Option.map_map, Option.map_map] at hviewed
  unfold heldAt
  rw [hcfg]
  refine Eq.trans hviewed (congrArg (Option.map · d.monitors[j]?) (funext fun m => ?_))
  exact m.held_apply_dynamic d.cfg _

theorem heldAt_mark_slide_outs (d : Desk) (old new : ℕ) (ow : ℚ) (j : ℕ) :
    (d.mark_slide_outs old new ow).heldAt j = d.heldAt j := by
  unfold mark_slide_outs
  dsimp only
  split_ifs <;> rfl

theorem heldAt_start_tag_transition (d : Desk) (old new : ℕ) (ow : ℚ) (j : ℕ) :
    (d.start_tag_transition old new ow).heldAt j = d.heldAt j := by
  unfold start_tag_transition
  dsimp only
  split_ifs <;> rfl

end Desk

namespace Rwl

/-! ### Arranging and focusing -/

theorem heldAt_arrange_all (s : Rwl) (j : ℕ) : s.arrange_all.desk.heldAt j = s.desk.heldAt j := by
  refine Eq.trans ?_ (Desk.heldAt_arrangePasses s.desk j)
  unfold arrange_all refresh_pointer_focus
  split_ifs <;> rfl

theorem heldAt_followFocus (s : Rwl) (w : WinId) (prev : Option WinId) (j : ℕ) :
    (s.followFocus w prev).desk.heldAt j = s.desk.heldAt j := by
  have hsel : ((s.modifyDesk fun d => { d with sel_mon := (s.desk.st w).mon_idx }).arrange
      (s.desk.st w).mon_idx).desk.heldAt j = s.desk.heldAt j := Desk.heldAt_arrange _ _ j
  unfold followFocus
  dsimp only
  split
  · split_ifs
    · exact (Desk.heldAt_arrange _ _ j).trans hsel
    · exact hsel
  · exact hsel

theorem heldAt_focusChanged (s : Rwl) (prev : Option WinId) (j : ℕ) :
    (s.focusChanged prev).desk.heldAt j = s.desk.heldAt j := by
  have hnotify : s.notifyFocus.desk = s.desk := by
    unfold notifyFocus fireFocus
    dsimp only
    split
    · split_ifs <;> rfl
    · rfl
  unfold focusChanged
  split
  · rw [heldAt_followFocus, hnotify]
  · rw [heldAt_arrange_all, hnotify]

theorem heldAt_focus_window (s : Rwl) (window : Option WinId) (j : ℕ) :
    (s.focus_window window).desk.heldAt j = s.desk.heldAt j := by
  have hfocus (s₁ : Rwl) (f : Option SurfaceId) (prev : Option WinId) :
      (if s₁.session.locked then s₁
        else if (s₁.kb_set_focus f).desk.focus_stack.head? = prev then s₁.kb_set_focus f
        else (s₁.kb_set_focus f).focusChanged prev).desk.heldAt j = s₁.desk.heldAt j := by
    split_ifs
    · rfl
    · rfl
    · exact heldAt_focusChanged (s₁.kb_set_focus f) prev j
  cases window with
  | none => exact hfocus s _ _
  | some w => exact hfocus (s.modifyDesk (raise · w)) _ _

theorem heldAt_slideTo (s : Rwl) (old new : ℕ) (ow : ℚ) (j : ℕ) :
    (s.slideTo old new ow).desk.heldAt j = s.desk.heldAt j := by
  unfold slideTo focus_top
  dsimp only
  rw [heldAt_focus_window]
  refine (Desk.heldAt_start_tag_transition _ _ _ _ j).trans ?_
  rw [heldAt_arrange_all]
  exact Desk.heldAt_mark_slide_outs s.desk old new ow j

/-! ### Operations that change views -/

/-- The operations that change views: the actions, leaving an empty view, following an urgent
window, the socket commands, and an output that comes back. -/
inductive ViewChange
  | view (mask : ℕ)
  | toggle_view (mask : ℕ)
  | view_prev
  | auto_back (mon_idx current_tags : ℕ) (switch_to_tag : Option ℕ)
  | focus_urgent
  | ipc_view (which : Option ℕ) (val : ℕ)
  | ipc_toggleview (which : Option ℕ) (val : ℕ)
  | replug (o : OutputId) (info : OutputInfo)

/-- The state after the operation. -/
def ViewChange.run (s : Rwl) : ViewChange → Rwl
  | .view mask => s.dispatch (.View mask)
  | .toggle_view mask => s.dispatch (.ToggleView mask)
  | .view_prev => s.dispatch .ViewPrev
  | .auto_back i tags jump => auto_back_empty_tag.on_window_closed s i tags jump
  | .focus_urgent => s.focus_urgent
  | .ipc_view which val => s.ipc_command .view which val
  | .ipc_toggleview which val => s.ipc_command .toggleview which val
  | .replug o info => s.output_added o info

/-- The view `auto_back_empty_tag` goes back to, when it does. -/
def backTo (d : Desk) (i tags : ℕ) (jump : Option ℕ) : Option ℕ :=
  if tags = 0 ∨ d.cfg.auto_back_empty_tag = false ∨ auto_back_empty_tag.hasWindows d i tags then none
  else auto_back_empty_tag.target
    { d with tag_history := d.tag_history.modify i fun h => h.filter fun t => decide (t ≠ tags) }
    i tags jump

/-- The desk that shows the view gone back to, before anything slides. -/
def backed (d : Desk) (i tags t : ℕ) : Desk :=
  { d with tag_history := d.tag_history.modify i fun h => h.filter fun t => decide (t ≠ tags) }.modifyMonitor
    i fun m => MonitorOp.run d.cfg m (.retag t)

theorem on_window_closed_eq {s : Rwl} {i tags t : ℕ} {jump : Option ℕ}
    (h : backTo s.desk i tags jump = some t) :
    auto_back_empty_tag.on_window_closed s i tags jump =
      ((s.modifyDesk (backed · i tags t)).cancelRepeat).slideTo tags t
        ((backed s.desk i tags t).outputWidth i) := by
  unfold backTo at h
  unfold auto_back_empty_tag.on_window_closed
  split_ifs at h ⊢
  dsimp only [modifyDesk] at h ⊢
  rw [h]
  rfl

/-- Without a view to go back to, only the history changes. -/
theorem on_window_closed_stays {s : Rwl} {i tags : ℕ} {jump : Option ℕ}
    (h : backTo s.desk i tags jump = none) : ∃ history,
      auto_back_empty_tag.on_window_closed s i tags jump =
        s.modifyDesk fun d => { d with tag_history := history } := by
  unfold backTo at h
  unfold auto_back_empty_tag.on_window_closed
  split_ifs at h ⊢
  · exact ⟨s.desk.tag_history, rfl⟩
  · refine ⟨s.desk.tag_history.modify i fun h => h.filter fun t => decide (t ≠ tags), ?_⟩
    dsimp only [modifyDesk] at h ⊢
    rw [h]

/-- What the operation does to monitor `j`. -/
def ViewChange.op (d : Desk) (j : ℕ) : ViewChange → Option MonitorOp
  | .view mask => if j = d.sel_mon then some (.view mask) else none
  | .toggle_view mask => if j = d.sel_mon then some (.toggle_view mask) else none
  | .view_prev => if j = d.sel_mon then some .view_prev else none
  | .auto_back i tags jump =>
      if j = i then (backTo d i tags jump).map MonitorOp.retag else none
  | .focus_urgent => (urgentWindow d).bind fun w =>
      if j = (d.st w).mon_idx ∧ (d.st w).tags ≠ 0 then some (.view (d.st w).tags) else none
  | .ipc_view which val => if j ∈ ipcOutputs d which then some (.view val) else none
  | .ipc_toggleview which val => if j ∈ ipcOutputs d which then some (.toggle_view val) else none
  | .replug _ _ => none

theorem ViewChange.changesView_op {c : ViewChange} {d : Desk} {j : ℕ} {op : MonitorOp}
    (h : c.op d j = some op) : op.changesView = true := by
  cases c with
  | focus_urgent =>
    obtain ⟨w, -, h⟩ := Option.bind_eq_some_iff.1 h
    split_ifs at h
    exact Option.some.inj h ▸ rfl
  | auto_back i tags jump =>
    dsimp only [ViewChange.op] at h
    split_ifs at h
    obtain ⟨t, -, rfl⟩ := Option.map_eq_some_iff.1 h
    rfl
  | replug => cases h
  | view | toggle_view | view_prev | ipc_view | ipc_toggleview =>
    dsimp only [ViewChange.op] at h
    split_ifs at h
    exact Option.some.inj h ▸ rfl

/-- What decides whether a monitor is settled once `op` has run on it. -/
def heldAfter (d : Desk) (op : Option MonitorOp) (j : ℕ) : Option (ℕ × List (Option ℕ) × Option (ℕ × ℕ)) :=
  (d.monitors[j]?).map fun m => ((op.map (·.run d.cfg m)).getD m).viewed.held d.cfg

theorem heldAt_monitor (d : Desk) (i : ℕ) (op : MonitorOp) (j : ℕ) :
    (d.modifyMonitor i fun m => op.run d.cfg m).heldAt j =
      heldAfter d (if j = i then some op else none) j := by
  rw [Desk.heldAt_modifyMonitor]
  unfold heldAfter
  by_cases hij : i = j
  · subst hij
    simp
  · simp [hij, Ne.symm hij]

theorem heldAfter_update_tag_history (d : Desk) (i tags : ℕ) (op : Option MonitorOp) (j : ℕ) :
    heldAfter (d.update_tag_history i tags) op j = heldAfter d op j := by
  unfold heldAfter
  rw [Desk.cfg_update_tag_history, Desk.monitors_update_tag_history]

/-- The view that is left is recorded first. -/
theorem heldAt_recorded (d : Desk) (i tags : ℕ) (op : MonitorOp) (j : ℕ) :
    ((d.update_tag_history i tags).modifyMonitor i fun m => op.run d.cfg m).heldAt j =
      heldAfter d (if j = i then some op else none) j := by
  rw [← heldAfter_update_tag_history d i tags, ← heldAt_monitor, Desk.cfg_update_tag_history]

/-- What an action makes of the desk does not depend on the overview. -/
theorem desk_dispatch {s : Rwl} {a : Action}
    (ha : ∀ drain s', act drain s' a = s'.notifyChanges (s'.perform a)) (hkill : a ≠ .KillClient) :
    ∃ s' : Rwl, s'.desk = s.desk ∧ (s.dispatch a).desk = (s'.perform a).desk := by
  have hact (s' : Rwl) : (act drain s' a).desk = (s'.perform a).desk := by
    rw [ha, (Prod.mk.inj (store_of_ground (ground_notifyChanges s' _))).1]
  unfold dispatch dispatchWith
  split_ifs
  · exact ⟨s, rfl, hact s⟩
  · exact ⟨overview.force_close s, rfl, hact _⟩

/-! ### Socket commands -/

/-- What a socket command does to a monitor. -/
def IpcCmd.op (val : ℕ) : IpcCmd → MonitorOp
  | .view => .view val
  | .toggleview => .toggle_view val
  | .setlayout => .set_layout val

theorem view_and_tag_mask (cfg : Config) (m : Monitor) (val : ℕ) :
    m.view cfg (val &&& cfg.tag_mask) = m.view cfg val := by
  unfold Monitor.view
  rw [Nat.and_assoc, Nat.and_self]

/-- Modifying an entry by a function that keeps it. -/
theorem modify_eq_self {l : List Monitor} {i : ℕ} {f : Monitor → Monitor}
    (h : ∀ m, l[i]? = some m → f m = m) : l.modify i f = l := by
  refine List.ext_getElem? fun j => ?_
  rw [List.getElem?_modify]
  by_cases hij : i = j
  · subst hij
    cases hm : l[i]? with
    | none => rfl
    | some m => simp [h m hm]
  · simp [hij]

/-- **One output's share of a socket command is the operation on its monitor.** -/
theorem ipcApply_spec (cmd : IpcCmd) (val : ℕ) (d : Desk) (idx : ℕ) :
    (ipcApply cmd val d idx).cfg = d.cfg ∧
      (ipcApply cmd val d idx).monitors =
        d.monitors.modify idx fun m => (cmd.op val).run d.cfg m := by
  have hrecord (p : Prop) [Decidable p] (mask : ℕ) :
      (if p then d.update_tag_history idx mask else d).cfg = d.cfg ∧
        (if p then d.update_tag_history idx mask else d).monitors = d.monitors := by
    split_ifs
    · exact ⟨Desk.cfg_update_tag_history d idx mask, Desk.monitors_update_tag_history d idx mask⟩
    · exact ⟨rfl, rfl⟩
  cases cmd with
  | view =>
    dsimp only [ipcApply, IpcCmd.op, MonitorOp.run]
    split
    · rename_i hmask
      refine ⟨rfl, (modify_eq_self fun m _ => ?_).symm⟩
      unfold Monitor.view
      rw [if_pos (.inl hmask)]
    · dsimp only
      rw [Desk.cfg_mark_slide_outs, Desk.monitors_mark_slide_outs]
      refine ⟨(hrecord _ _).1, ?_⟩
      change List.modify _ idx _ = _
      rw [(hrecord _ _).2]
      simp only [view_and_tag_mask]
  | toggleview =>
    dsimp only [ipcApply, IpcCmd.op, MonitorOp.run]
    split
    · rename_i hnew
      refine ⟨rfl, (modify_eq_self fun m hm => ?_).symm⟩
      rw [hm, Option.map_some, Option.getD_some] at hnew
      unfold Monitor.toggle_view
      rw [if_neg (not_not.2 hnew)]
    · refine ⟨(hrecord _ _).1, ?_⟩
      change List.modify _ idx _ = _
      rw [(hrecord _ _).2]
  | setlayout => exact ⟨rfl, rfl⟩

theorem foldl_ipcApply (cmd : IpcCmd) (val : ℕ) (d : Desk) {l : List ℕ} (hl : l.Nodup) (j : ℕ) :
    (l.foldl (ipcApply cmd val) d).cfg = d.cfg ∧
      (l.foldl (ipcApply cmd val) d).monitors[j]? = (d.monitors[j]?).map fun m =>
        if j ∈ l then (cmd.op val).run d.cfg m else m := by
  induction l generalizing d with
  | nil => simp
  | cons i l ih =>
    obtain ⟨hi, hl⟩ := List.nodup_cons.1 hl
    obtain ⟨hcfg, hmonitors⟩ := ipcApply_spec cmd val d i
    obtain ⟨hcfg', hmonitors'⟩ := ih (ipcApply cmd val d i) hl
    rw [List.foldl_cons]
    refine ⟨hcfg'.trans hcfg, hmonitors'.trans ?_⟩
    rw [hcfg, hmonitors, List.getElem?_modify, Option.map_eq_map, Option.map_map]
    refine congrArg (Option.map · d.monitors[j]?) (funext fun m => ?_)
    by_cases hij : i = j
    · subst hij
      simp [hi]
    · simp [hij, Ne.symm hij]

theorem nodup_ipcOutputs (d : Desk) (which : Option ℕ) : (ipcOutputs d which).Nodup := by
  cases which with
  | none => exact List.nodup_range
  | some idx => exact List.nodup_singleton idx

theorem heldAt_ipc_command (s : Rwl) (cmd : IpcCmd) (which : Option ℕ) (val j : ℕ) :
    (s.ipc_command cmd which val).desk.heldAt j =
      heldAfter s.desk (if j ∈ ipcOutputs s.desk which then some (cmd.op val) else none) j := by
  obtain ⟨hcfg, hmonitors⟩ := foldl_ipcApply cmd val s.desk (nodup_ipcOutputs s.desk which) j
  have happlied : ((s.modifyDesk fun d =>
      (ipcOutputs s.desk which).foldl (ipcApply cmd val) d).arrange_all).desk.heldAt j =
        heldAfter s.desk (if j ∈ ipcOutputs s.desk which then some (cmd.op val) else none) j := by
    rw [heldAt_arrange_all]
    unfold Desk.heldAt heldAfter
    dsimp only [modifyDesk]
    rw [hcfg, hmonitors, Option.map_map]
    refine congrArg (Option.map · s.desk.monitors[j]?) (funext fun m => ?_)
    dsimp only [Function.comp]
    split_ifs <;> rfl
  have htop (p : Prop) [Decidable p] (s₁ : Rwl) :
      (if p then s₁.focus_top else s₁).desk.heldAt j = s₁.desk.heldAt j := by
    split_ifs
    · exact heldAt_focus_window s₁ _ j
    · rfl
  have hemit (l : List ℕ) (s₁ : Rwl) :
      (l.foldl (fun s idx => s.emit (.event (.tag idx))) s₁).desk = s₁.desk :=
    Recency.foldl_keeps Rwl.desk (fun (s : Rwl) (idx : ℕ) => s.emit (.event (.tag idx)))
      (fun _ _ => rfl) l s₁
  unfold ipc_command
  dsimp only
  split
  · rw [htop, happlied]
  · rw [hemit, htop, happlied]

/-! ### View changes -/

/-- **What an operation that changes views makes of the held data.** -/
theorem heldAt_run (s : Rwl) (c : ViewChange) (hc : ∀ o info, c ≠ .replug o info) (j : ℕ) :
    (c.run s).desk.heldAt j = heldAfter s.desk (c.op s.desk j) j := by
  cases c with
  | view mask =>
    obtain ⟨s', hs, hrun⟩ := desk_dispatch (s := s) (a := .View mask) (fun _ _ => rfl) nofun
    refine (congrArg (Desk.heldAt · j) hrun).trans ?_
    rw [← hs]
    change (s'.view mask).desk.heldAt j = _
    unfold Rwl.view
    rw [heldAt_slideTo]
    exact heldAt_recorded s'.desk s'.desk.sel_mon mask (.view mask) j
  | toggle_view mask =>
    obtain ⟨s', hs, hrun⟩ := desk_dispatch (s := s) (a := .ToggleView mask) (fun _ _ => rfl) nofun
    refine (congrArg (Desk.heldAt · j) hrun).trans ?_
    rw [← hs]
    change (s'.toggle_view mask).desk.heldAt j = _
    unfold Rwl.toggle_view focus_top
    dsimp only
    rw [heldAt_focus_window, heldAt_arrange_all]
    split_ifs
    · exact (heldAt_monitor _ _ (.toggle_view mask) j).trans (heldAfter_update_tag_history ..)
    · exact heldAt_monitor s'.desk s'.desk.sel_mon (.toggle_view mask) j
  | view_prev =>
    obtain ⟨s', hs, hrun⟩ := desk_dispatch (s := s) (a := .ViewPrev) (fun _ _ => rfl) nofun
    refine (congrArg (Desk.heldAt · j) hrun).trans ?_
    rw [← hs]
    change s'.view_prev.desk.heldAt j = _
    unfold Rwl.view_prev
    dsimp only
    rw [heldAt_slideTo]
    exact heldAt_recorded s'.desk s'.desk.sel_mon _ .view_prev j
  | auto_back i tags jump =>
    change (auto_back_empty_tag.on_window_closed s i tags jump).desk.heldAt j =
      heldAfter s.desk (if j = i then (backTo s.desk i tags jump).map MonitorOp.retag else none) j
    cases ht : backTo s.desk i tags jump with
    | none =>
      obtain ⟨history, heq⟩ := on_window_closed_stays ht
      rw [heq, Option.map_none, ite_self]
      rfl
    | some t =>
      rw [on_window_closed_eq ht, heldAt_slideTo, Option.map_some]
      exact heldAt_monitor _ i (.retag t) j
  | focus_urgent =>
    change s.focus_urgent.desk.heldAt j = _
    unfold Rwl.focus_urgent ViewChange.op
    cases urgentWindow s.desk with
    | none => rfl
    | some w =>
      dsimp only [Option.bind_some]
      rw [heldAt_focus_window, heldAt_arrange_all]
      split_ifs with htags hj hj
      · refine (heldAt_monitor _ _ (.view _) j).trans ?_
        rw [if_pos hj.1]
        rfl
      · refine (heldAt_monitor _ _ (.view _) j).trans ?_
        rw [if_neg fun h => hj ⟨h, htags⟩]
        rfl
      · exact absurd hj.2 htags
      · rfl
  | ipc_view which val => exact heldAt_ipc_command s .view which val j
  | ipc_toggleview which val => exact heldAt_ipc_command s .toggleview which val j
  | replug o info => exact absurd rfl (hc o info)

/-- The new monitor comes last; the others keep what they hold. -/
theorem heldAt_output_added (s : Rwl) (o : OutputId) (info : OutputInfo) (j : ℕ) :
    (s.output_added o info).desk.heldAt j =
      ((s.desk.monitors ++ [s.desk.newMonitor o info])[j]?).map fun m =>
        m.viewed.held s.desk.cfg := by
  rw [desk_output_added, Desk.heldAt_arrangePasses]
  rfl

end Rwl

/-- The remembered layouts of an output, as `restore` clamps them, agree on tag 1: the active one
is the one tag 1 is tied to. -/
def MonitorMemory.Settles (cfg : Config) (mem : MonitorMemory) : Prop :=
  let clamp (i : ℕ) : ℕ := min i (cfg.layouts.length - 1)
  let pin := if 0 < cfg.tag_count then (mem.tag_lt_override[0]?).join.map clamp else none
  ∀ idx, tied cfg [pin] 1 = some idx → clamp (mem.lt mem.sel_lt) = idx

theorem Monitor.settled_restore_iff (cfg : Config) (mon : Monitor) (mem : MonitorMemory)
    (htags : mon.tags = 1) : (mon.restore cfg mem).Settled cfg ↔ mem.Settles cfg := by
  have hpins : (mon.restore cfg mem).tag_lt_override[0]? =
      if 0 < cfg.tag_count then
        some ((mem.tag_lt_override[0]?).join.map fun i => min i (cfg.layouts.length - 1))
      else none := by
    dsimp only [restore]
    rw [List.getElem?_map]
    split_ifs with hn
    · rw [List.getElem?_range hn, Option.map_some]
    · rw [List.getElem?_eq_none (by simpa using hn)]
      rfl
  have hview : (mon.restore cfg mem).tags = 1 := htags
  have hzero : pertag_layouts.trailing_zeros 1 = 0 := by decide
  have htied : tied cfg (mon.restore cfg mem).tag_lt_override 1 = tied cfg [if 0 < cfg.tag_count then
      (mem.tag_lt_override[0]?).join.map fun i => min i (cfg.layouts.length - 1) else none] 1 := by
    unfold tied
    rw [hzero, hpins]
    by_cases hn : 0 < cfg.tag_count
    · rw [if_pos hn, if_pos hn]
      rfl
    · rw [if_neg hn, if_neg hn]
      rfl
  unfold Settled MonitorMemory.Settles
  rw [hview, htied]
  exact Iff.rfl

namespace Rwl

/-- The monitors an operation gives a view: those it operates on, and an output that comes back. -/
def ViewChange.changes (d : Desk) (j : ℕ) : ViewChange → Prop
  | .replug _ info => j = d.monitors.length ∧ (d.monitor_memory info.name).isSome
  | c => (c.op d j).isSome

/-- When an operation leaves the monitors it gives a view settled. -/
def ViewChange.Settles (d : Desk) : ViewChange → Prop
  | .replug _ info => ∀ mem, d.monitor_memory info.name = some mem → mem.Settles d.cfg
  | c => ∀ j mon op, d.monitors[j]? = some mon → c.op d j = some op → op.Settles d.cfg mon

/-- A monitor that holds what another one holds is settled when that one is. -/
theorem settled_of_heldAt {d : Desk} {j : ℕ} {cfg : Config} {m : Monitor}
    (h : d.heldAt j = some (m.viewed.held cfg)) :
    (∀ m', d.monitors[j]? = some m' → m'.Settled d.cfg) ↔ m.Settled cfg := by
  obtain ⟨m', hm', hheld⟩ := Option.map_eq_some_iff.1 h
  rw [← Monitor.settled_congr hheld, hm']
  exact ⟨fun h => h m' rfl, fun h m₁ hm₁ => Option.some.inj hm₁ ▸ h⟩

/-- **Which view changes leave a pinned layout in force.** In every state, after an operation that
changes views, the monitors it gives a view have the layouts their views are tied to exactly when
the operation settles them. -/
theorem view_change_settles (s : Rwl) (c : ViewChange) :
    (∀ j mon, c.changes s.desk j → (c.run s).desk.monitors[j]? = some mon →
      mon.Settled (c.run s).desk.cfg) ↔ c.Settles s.desk := by
  by_cases hc : ∃ o info, c = .replug o info
  · obtain ⟨o, info, rfl⟩ := hc
    have hheld := heldAt_output_added s o info s.desk.monitors.length
    rw [List.getElem?_concat_length, Option.map_some] at hheld
    have hsettled := settled_of_heldAt hheld
    dsimp only [ViewChange.changes, ViewChange.Settles, ViewChange.run]
    cases hmem : s.desk.monitor_memory info.name with
    | none => simp
    | some mem =>
      have hnew : s.desk.newMonitor o info = Monitor.restore s.desk.cfg
          { Monitor.new s.desk.cfg o info.name with
            m := (s.desk.newMonitor o info).m
            w := (s.desk.newMonitor o info).w } mem := by
        unfold Desk.newMonitor
        rw [hmem]
        rfl
      rw [hnew, Monitor.settled_restore_iff _ _ _ rfl] at hsettled
      constructor
      · intro h mem' hmem'
        obtain rfl := Option.some.inj hmem'
        exact hsettled.1 fun mon hmon => h _ mon ⟨rfl, rfl⟩ hmon
      · rintro h j mon ⟨rfl, -⟩ hmon
        exact hsettled.2 (h mem rfl) mon hmon
  · have hrun := heldAt_run s c fun o info h => hc ⟨o, info, h⟩
    have hop (j : ℕ) (mon : Monitor) (op : MonitorOp) (hmon : s.desk.monitors[j]? = some mon)
        (hj : c.op s.desk j = some op) :
        (∀ mon', (c.run s).desk.monitors[j]? = some mon' → mon'.Settled (c.run s).desk.cfg) ↔
          op.Settles s.desk.cfg mon := by
      rw [← MonitorOp.settled_run_iff _ _ (ViewChange.changesView_op hj)]
      refine settled_of_heldAt ((hrun j).trans ?_)
      unfold heldAfter
      rw [hmon, hj]
      rfl
    have hchanges (j : ℕ) : c.changes s.desk j ↔ (c.op s.desk j).isSome := by
      cases c with
      | replug o info => exact absurd ⟨o, info, rfl⟩ hc
      | view | toggle_view | view_prev | auto_back | focus_urgent | ipc_view | ipc_toggleview =>
        exact Iff.rfl
    have hsettles : c.Settles s.desk ↔ ∀ j mon op, s.desk.monitors[j]? = some mon →
        c.op s.desk j = some op → op.Settles s.desk.cfg mon := by
      cases c with
      | replug o info => exact absurd ⟨o, info, rfl⟩ hc
      | view | toggle_view | view_prev | auto_back | focus_urgent | ipc_view | ipc_toggleview =>
        exact Iff.rfl
    rw [hsettles]
    constructor
    · intro h j mon op hmon hj
      exact (hop j mon op hmon hj).1 fun mon' hmon' =>
        h j mon' ((hchanges j).2 (by rw [hj]; rfl)) hmon'
    · intro h j mon' hj hmon'
      obtain ⟨op, hop'⟩ := Option.isSome_iff_exists.1 ((hchanges j).1 hj)
      cases hmon : s.desk.monitors[j]? with
      | none =>
        have hnone := hrun j
        unfold Desk.heldAt heldAfter at hnone
        rw [hmon, hmon'] at hnone
        cases hnone
      | some mon => exact (hop j mon op hmon hop').2 (h j mon op hmon hop') mon' hmon'

/-- A setup with two layouts. -/
def twoLayouts : Setup :=
  { plainSetup [] [] with
    cfg := { plainConfig [] [] with layouts := [⟨"[]=", .Tile⟩, ⟨"[M]", .Monocle⟩] } }

/-- Tag 1 is pinned to the second layout and tag 2 to the first; then tag 1 joins the view. -/
def pinRun : List Event :=
  [.output_added 0 (plainOutput "a"), .ipc_outputs .setlayout none 1, .ipc_outputs .view none 2,
    .ipc_outputs .setlayout none 0, .ipc_outputs .toggleview none 1]

/-- Toggling tag 2 away leaves tag 1 with the layout of tag 2. -/
theorem not_view_change_settles : ¬∀ (s : Rwl) (c : ViewChange), Reachable s →
    ∀ j mon, c.changes s.desk j → (c.run s).desk.monitors[j]? = some mon →
      mon.Settled (c.run s).desk.cfg := by
  intro h
  let s := Transition.run step (init twoLayouts) pinRun
  have hheld : (s.dispatch (.ToggleView 2)).desk.heldAt 0 =
      some (1, [some 1, some 0, none, none, none, none, none, none, none], some (1, 0)) := by
    decide +kernel
  obtain ⟨mon, hmon, hview⟩ := Option.map_eq_some_iff.1 hheld
  have hchanges : (ViewChange.op s.desk 0 (.toggle_view 2)).isSome = true := by decide +kernel
  have hsettled := h s (.toggle_view 2) ⟨_, pinRun, rfl⟩ 0 mon hchanges hmon
  rw [Monitor.settled_iff_held] at hsettled
  exact absurd (hsettled (1, 0) (congrArg (fun p => p.2.2) hview)) (by decide)

end Rwl

end Compositor
