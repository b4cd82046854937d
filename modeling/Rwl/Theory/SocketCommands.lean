import Mathlib.Tactic.Common
import Rwl.Theory.FocusRests

/-!
# Socket commands and the actions they stand for

`view`, `toggleview` and `setlayout` on the selected output do what the actions of these names
do, by code of their own.

* `quiet`: the state without the reports it has sent;
* `IpcCmd.Keeps`: the command leaves the view and the layout of a monitor;
* `ipc_eq_dispatch`: exactly when a command and its action end in the same state.
-/

namespace Compositor

namespace Rwl

/-- The state without the reports it has sent. -/
def quiet (s : Rwl) : Rwl := { s with out := [] }

@[simp] theorem quiet_emit (s : Rwl) (e : Effect) : (s.emit e).quiet = s.quiet := rfl

/-! ### The hooks of a dispatch -/

/-- The hooks of a changed view or layout change the state exactly when there is such a change. -/
theorem quiet_notifyChanges_iff {s t : Rwl} (hsel : t.desk.sel_mon = s.desk.sel_mon) :
    (s.notifyChanges t).quiet = t.quiet ↔
      ∀ m m', s.desk.sel_monitor = some m → t.desk.sel_monitor = some m' →
        m'.tags = m.tags ∧ m'.layout_idx = m.layout_idx := by
  unfold notifyChanges
  cases hm : s.desk.sel_monitor with
  | none => exact iff_of_true rfl fun m m' h => absurd h (by simp)
  | some m =>
    cases hm' : t.desk.sel_monitor with
    | none => exact iff_of_true rfl fun _ m' _ h => absurd h (by simp)
    | some m' =>
      dsimp only
      rw [if_neg (not_not.2 hsel.symm)]
      by_cases htags : m.tags = m'.tags
      · by_cases hlayout : m.layout_idx = m'.layout_idx
        · rw [if_neg (not_not.2 htags), if_neg (not_not.2 hlayout)]
          refine iff_of_true rfl fun a b ha hb => ?_
          obtain rfl := Option.some.inj ha
          obtain rfl := Option.some.inj hb
          exact ⟨htags.symm, hlayout.symm⟩
        · rw [if_neg (not_not.2 htags), if_pos hlayout]
          refine iff_of_false (fun h => ?_) fun h => hlayout (h m m' rfl rfl).2.symm
          have hcalls : t.hooks.calls + 1 = t.hooks.calls :=
            (congrArg (fun s : Rwl => s.hooks.calls) h :)
          omega
      · rw [if_pos htags]
        refine iff_of_false (fun h => ?_) fun h => htags (h m m' rfl rfl).1.symm
        have hcalls := (congrArg (fun s : Rwl => s.hooks.calls) h :)
        split_ifs at hcalls
        · have htwo : t.hooks.calls + 1 + 1 = t.hooks.calls := hcalls
          omega
        · have hone : t.hooks.calls + 1 = t.hooks.calls := hcalls
          omega

/-! ### What a command makes of the selected monitor -/

/-- The selected monitor of `t` is that of `s` after `op`, with its count-based layout. -/
def Applied (s : Rwl) (op : MonitorOp) (t : Rwl) : Prop :=
  t.desk.sel_mon = s.desk.sel_mon ∧
    (t.desk.sel_monitor).map Monitor.viewed = s.desk.sel_monitor.map fun m =>
      (pertag_layouts.apply_dynamic s.desk.cfg (op.run s.desk.cfg m) (op.run s.desk.cfg m).tags
        (s.desk.count_tiled (op.run s.desk.cfg m).tags)).viewed

theorem sel_viewed (d : Desk) : d.sel_monitor.map Monitor.viewed = d.viewed[d.sel_mon]? := by
  unfold Desk.sel_monitor Desk.viewed
  rw [List.getElem?_map]

theorem Applied.of_viewed {s t t' : Rwl} {op : MonitorOp} (h : Applied s op t)
    (hviewed : t'.desk.viewed = t.desk.viewed) (hsel : t'.desk.sel_mon = t.desk.sel_mon) :
    Applied s op t' := by
  refine ⟨hsel.trans h.1, ?_⟩
  rw [sel_viewed, hviewed, hsel, ← sel_viewed]
  exact h.2

theorem applied_arrange_all {s : Rwl} {op : MonitorOp} {d : Desk} (hcfg : d.cfg = s.desk.cfg)
    (hsel : d.sel_mon = s.desk.sel_mon)
    (hmonitors : d.monitors = s.desk.monitors.modify s.desk.sel_mon (op.run s.desk.cfg))
    (hcount : ∀ tags, d.count_tiled tags = s.desk.count_tiled tags) :
    Applied s op (s.modifyDesk fun _ => d).arrange_all := by
  have hkeep : d.arrangePasses.sel_mon = d.sel_mon :=
    (congrArg Desk.sel_mon (Desk.bare_arrangePasses d) :)
  refine ⟨?_, ?_⟩
  · rw [desk_arrange_all]
    exact hkeep.trans hsel
  · rw [desk_arrange_all]
    unfold Desk.sel_monitor
    change (d.arrangePasses.monitors[d.arrangePasses.sel_mon]?).map _ = _
    rw [hkeep, hsel, Desk.viewed_arrangePasses, hcfg, hmonitors, List.getElem?_modify]
    cases s.desk.monitors[s.desk.sel_mon]? with
    | none => rfl
    | some m => simp [hcount]

/-- An applied operation changes neither view nor layout exactly when it brings the monitor to
rest where it was. -/
theorem Applied.unchanged_iff {s t : Rwl} {op : MonitorOp} (h : Applied s op t) :
    (∀ m m', s.desk.sel_monitor = some m → t.desk.sel_monitor = some m' →
      m'.tags = m.tags ∧ m'.layout_idx = m.layout_idx) ↔
    ∀ m, s.desk.sel_monitor = some m →
      (op.run s.desk.cfg m).tags = m.tags ∧
        pertag_layouts.resting s.desk.cfg (op.run s.desk.cfg m).tag_lt_override
          (op.run s.desk.cfg m).tags (s.desk.count_tiled (op.run s.desk.cfg m).tags)
          (op.run s.desk.cfg m).layout_idx = m.layout_idx := by
  have hafter := h.2
  cases hm : s.desk.sel_monitor with
  | none => exact iff_of_true (fun m m' h => absurd h (by simp)) fun m h => absurd h (by simp)
  | some m =>
    rw [hm, Option.map_some] at hafter
    obtain ⟨m', hm', hviewed⟩ := Option.map_eq_some_iff.1 hafter
    have htags := Monitor.tags_of_viewed hviewed
    have hlayout := (congrArg (fun v : MonitorView => v.lt v.sel_lt) hviewed :)
    change m'.layout_idx = Monitor.layout_idx _ at hlayout
    rw [Monitor.tags_apply_dynamic] at htags
    rw [pertag_layouts.layout_idx_apply_dynamic] at hlayout
    rw [hm']
    constructor
    · intro hall a ha
      obtain rfl := Option.some.inj ha
      have hboth := hall m m' rfl rfl
      rw [htags, hlayout] at hboth
      exact hboth
    · intro hall a b ha hb
      obtain rfl := Option.some.inj ha
      obtain rfl := Option.some.inj hb
      rw [htags, hlayout]
      exact hall m rfl

end Rwl

/-! ### What the commands keep -/

namespace Monitor

/-- Whether `set_layout` takes the index. -/
def takes (cfg : Config) (m : Monitor) (idx : ℕ) : Bool :=
  decide (idx = toggleLayout ∨ idx < cfg.layouts.length ∧ m.layout_idx ≠ idx)

/-- The layout an index names. -/
def chosen (m : Monitor) (idx : ℕ) : ℕ := if idx = toggleLayout then m.lt (!m.sel_lt) else idx

/-- The pins with the layout an index names. -/
def pinned (m : Monitor) (idx : ℕ) : List (Option ℕ) :=
  if pertag_layouts.is_single m.tags then
    m.tag_lt_override.set (pertag_layouts.trailing_zeros m.tags) (some (m.chosen idx))
  else m.tag_lt_override

/-- The monitor has the layout its view comes to rest on. -/
def AtRest (d : Desk) (m : Monitor) : Prop :=
  pertag_layouts.resting d.cfg m.tag_lt_override m.tags (d.count_tiled m.tags) m.layout_idx =
    m.layout_idx

theorem pinLayout_spec (m : Monitor) : m.pinLayout.tags = m.tags ∧
    m.pinLayout.layout_idx = m.layout_idx ∧ m.pinLayout.tag_lt_override =
      if pertag_layouts.is_single m.tags then
        m.tag_lt_override.set (pertag_layouts.trailing_zeros m.tags) (some m.layout_idx)
      else m.tag_lt_override := by
  unfold pinLayout
  split_ifs <;> exact ⟨rfl, rfl, rfl⟩

/-- What `set_layout` does with an index it takes. -/
theorem set_layout_of_takes {cfg : Config} {m : Monitor} {idx : ℕ} (h : m.takes cfg idx = true) :
    (m.set_layout cfg idx).tags = m.tags ∧ (m.set_layout cfg idx).layout_idx = m.chosen idx ∧
      (m.set_layout cfg idx).tag_lt_override = m.pinned idx := by
  unfold takes at h
  unfold set_layout pinned chosen
  by_cases htoggle : idx = toggleLayout
  · rw [if_pos htoggle, if_pos htoggle]
    exact pinLayout_spec { m with sel_lt := !m.sel_lt }
  · rw [if_neg htoggle, if_neg htoggle]
    have hother : idx < cfg.layouts.length ∧ m.layout_idx ≠ idx := by
      simpa [htoggle] using h
    have hpush : (m.pushLayout idx).layout_idx = idx := Function.update_self ..
    have hpin := pinLayout_spec (m.pushLayout idx)
    rw [hpush] at hpin
    rw [if_pos hother]
    exact hpin

theorem set_layout_of_not_takes {cfg : Config} {m : Monitor} {idx : ℕ}
    (h : m.takes cfg idx = false) : m.set_layout cfg idx = m := by
  unfold takes at h
  have hnot := of_decide_eq_false h
  unfold set_layout
  rw [if_neg fun ht => hnot (.inl ht), if_neg fun hi => hnot (.inr hi)]

theorem tags_set_layout (cfg : Config) (m : Monitor) (idx : ℕ) :
    (m.set_layout cfg idx).tags = m.tags := by
  by_cases h : m.takes cfg idx = true
  · exact (set_layout_of_takes h).1
  · rw [set_layout_of_not_takes (Bool.eq_false_iff.2 h)]

end Monitor

namespace Rwl

/-- The command leaves the view and the layout of the monitor `m`: the view it asks for is empty
or there already, the layout it asks for is there already, and so is the count-based one. -/
def IpcCmd.Keeps (d : Desk) (m : Monitor) (val : ℕ) : IpcCmd → Prop
  | .view => (val &&& d.cfg.tag_mask = 0 ∨ val &&& d.cfg.tag_mask = m.tags) ∧ m.AtRest d
  | .toggleview =>
      ((m.tags ^^^ val) &&& d.cfg.tag_mask = 0 ∨ (m.tags ^^^ val) &&& d.cfg.tag_mask = m.tags) ∧
        m.AtRest d
  | .setlayout =>
      if m.takes d.cfg val then
        pertag_layouts.resting d.cfg (m.pinned val) m.tags (d.count_tiled m.tags) (m.chosen val) =
          m.layout_idx
      else m.AtRest d

theorem IpcCmd.keeps_iff (d : Desk) (m : Monitor) (val : ℕ) (cmd : IpcCmd) :
    cmd.Keeps d m val ↔ ((cmd.op val).run d.cfg m).tags = m.tags ∧
      pertag_layouts.resting d.cfg ((cmd.op val).run d.cfg m).tag_lt_override
        ((cmd.op val).run d.cfg m).tags (d.count_tiled ((cmd.op val).run d.cfg m).tags)
        ((cmd.op val).run d.cfg m).layout_idx = m.layout_idx := by
  cases cmd with
  | view =>
    dsimp only [Keeps, IpcCmd.op, MonitorOp.run]
    by_cases hstay : val &&& d.cfg.tag_mask = 0 ∨ val &&& d.cfg.tag_mask = m.tags
    · have hview : m.view d.cfg val = m := if_pos hstay
      rw [hview]
      exact ⟨fun h => ⟨rfl, h.2⟩, fun h => ⟨hstay, h.2⟩⟩
    · refine iff_of_false (fun h => hstay h.1) fun h => hstay (.inr ?_)
      have hview : m.view d.cfg val = pertag_layouts.apply d.cfg
          (m.pushTags (val &&& d.cfg.tag_mask)) (val &&& d.cfg.tag_mask) := if_neg hstay
      have htags := h.1
      rw [hview, Monitor.tags_apply] at htags
      exact (Function.update_self ..).symm.trans htags
  | toggleview =>
    dsimp only [Keeps, IpcCmd.op, MonitorOp.run]
    by_cases hnew : (m.tags ^^^ val) &&& d.cfg.tag_mask = 0
    · have htoggle : m.toggle_view d.cfg val = m := if_neg (not_not.2 hnew)
      rw [htoggle]
      exact ⟨fun h => ⟨rfl, h.2⟩, fun h => ⟨.inl hnew, h.2⟩⟩
    · have htoggle : m.toggle_view d.cfg val =
          m.pushTags ((m.tags ^^^ val) &&& d.cfg.tag_mask) := if_pos hnew
      have htags : (m.pushTags ((m.tags ^^^ val) &&& d.cfg.tag_mask)).tags =
          (m.tags ^^^ val) &&& d.cfg.tag_mask := Function.update_self ..
      rw [htoggle, htags]
      constructor
      · rintro ⟨hkeep, hrest⟩
        have hsame := hkeep.resolve_left hnew
        rw [hsame]
        exact ⟨rfl, hrest⟩
      · rintro ⟨hsame, hrest⟩
        rw [hsame] at hrest
        exact ⟨.inr hsame, hrest⟩
  | setlayout =>
    dsimp only [Keeps, IpcCmd.op, MonitorOp.run]
    by_cases htakes : m.takes d.cfg val = true
    · obtain ⟨htags, hlayout, hpins⟩ := Monitor.set_layout_of_takes htakes
      rw [if_pos htakes, htags, hlayout, hpins]
      exact ⟨fun h => ⟨rfl, h⟩, fun h => h.2⟩
    · rw [if_neg htakes, Monitor.set_layout_of_not_takes (by simpa using htakes)]
      exact ⟨fun h => ⟨rfl, h⟩, fun h => h.2⟩

/-! ### Running the commands -/

/-- The action of the same name. -/
def IpcCmd.action (val : ℕ) : IpcCmd → Action
  | .view => .View val
  | .toggleview => .ToggleView val
  | .setlayout => .SetLayout val

/-- A command on the selected output. -/
theorem ipc_selected (s : Rwl) (cmd : IpcCmd) (val : ℕ) :
    s.ipc_command cmd (some s.desk.sel_mon) val =
      if cmd = .setlayout then
        (s.modifyDesk fun d => ipcApply cmd val d s.desk.sel_mon).arrange_all.focus_top
      else ((s.modifyDesk fun d => ipcApply cmd val d s.desk.sel_mon).arrange_all.focus_top).emit
        (.event (.tag s.desk.sel_mon)) := by
  have hmem : s.desk.sel_mon ∈ [s.desk.sel_mon] := List.mem_singleton.2 rfl
  unfold ipc_command ipcOutputs
  dsimp only
  rw [if_pos hmem]
  rfl

theorem ipc_setlayout (s : Rwl) (val : ℕ) :
    s.ipc_command .setlayout (some s.desk.sel_mon) val = (s.set_layout val).focus_top :=
  ipc_selected s .setlayout val

theorem ipc_toggleview (s : Rwl) (val : ℕ) :
    s.ipc_command .toggleview (some s.desk.sel_mon) val =
      (s.toggle_view val).emit (.event (.tag s.desk.sel_mon)) := by
  have hsame : s.toggle_view val =
      (s.modifyDesk fun d => ipcApply .toggleview val d s.desk.sel_mon).arrange_all.focus_top := by
    unfold toggle_view ipcApply Desk.sel_monitor
    dsimp only
    by_cases hnew : ((s.desk.monitors[s.desk.sel_mon]?).map fun m =>
        (m.tags ^^^ val) &&& s.desk.cfg.tag_mask).getD 0 = 0
    · rw [if_neg (not_not.2 hnew)]
      refine congrArg (fun s : Rwl => s.arrange_all.focus_top) ?_
      dsimp only [modifyDesk]
      rw [if_pos hnew]
      refine congrArg (fun l => { s with desk := { s.desk with monitors := l } })
        (modify_eq_self fun m hm => ?_)
      rw [hm, Option.map_some, Option.getD_some] at hnew
      exact if_neg (not_not.2 hnew)
    · rw [if_pos hnew]
      refine congrArg (fun s : Rwl => s.arrange_all.focus_top) ?_
      dsimp only [modifyDesk]
      rw [if_neg hnew, if_pos rfl, Desk.cfg_update_tag_history]
  rw [hsame]
  exact ipc_selected s .toggleview val

/-- A slide moves no surface the pointer can be over. -/
theorem refresh_start_tag_transition (s : Rwl) (old new : ℕ) (ow : ℚ) :
    (s.modifyDesk (Desk.start_tag_transition · old new ow)).refresh_pointer_focus =
      s.refresh_pointer_focus.modifyDesk (Desk.start_tag_transition · old new ow) := by
  have hunder (p : PointF) :
      (s.modifyDesk (Desk.start_tag_transition · old new ow)).pointer_focus_under p =
        s.pointer_focus_under p := by
    unfold Desk.start_tag_transition modifyDesk
    dsimp only
    split_ifs <;> rfl
  have hsession : (s.modifyDesk (Desk.start_tag_transition · old new ow)).session = s.session := rfl
  have hseat : (s.modifyDesk (Desk.start_tag_transition · old new ow)).seat = s.seat := rfl
  unfold refresh_pointer_focus reevaluate_pointer
  rw [hunder, hsession, hseat]
  split_ifs <;> rfl

/-- A waiting slide starts when everything is arranged. -/
theorem arrange_all_pending (s : Rwl) {d : Desk} (hd : d.pending_tag_transition = none)
    (old new : ℕ) (ow : ℚ) :
    (s.modifyDesk fun _ => { d with pending_tag_transition := some (old, new, ow) }).arrange_all =
      ((s.modifyDesk fun _ => d).arrange_all).modifyDesk
        (Desk.start_tag_transition · old new ow) := by
  have hpasses : Desk.arrangePasses { d with pending_tag_transition := some (old, new, ow) } =
      d.arrangePasses.start_tag_transition old new ow := by
    unfold Desk.arrangePasses
    rw [hd]
    rfl
  unfold arrange_all
  rw [← refresh_start_tag_transition]
  refine congrArg refresh_pointer_focus ?_
  unfold modifyDesk
  dsimp only
  rw [hpasses]
  rfl

/-- `View` with the view that is left recorded in `d`. -/
def viewFrom (s : Rwl) (d : Desk) (val : ℕ) : Rwl :=
  (s.modifyDesk fun _ => d.modifyMonitor s.desk.sel_mon (Monitor.view s.desk.cfg · val)).slideTo
    (s.desk.tagsOf s.desk.sel_mon) val (s.desk.outputWidth s.desk.sel_mon)

/-- What the `view` command records. -/
def ipcRecord (d : Desk) (val : ℕ) : Desk :=
  if val &&& d.cfg.tag_mask = 0 then d
  else d.update_tag_history d.sel_mon (val &&& d.cfg.tag_mask)

theorem view_eq_viewFrom (s : Rwl) (val : ℕ) :
    s.view val = s.viewFrom (s.desk.update_tag_history s.desk.sel_mon val) val := by
  unfold view viewFrom showTags
  rfl

theorem mark_slide_outs_and_tag_mask {d : Desk} {cfg : Config} (h : d.cfg = cfg) (old val : ℕ)
    (ow : ℚ) : d.mark_slide_outs old (val &&& cfg.tag_mask) ow = d.mark_slide_outs old val ow := by
  subst h
  unfold Desk.mark_slide_outs
  rw [Nat.and_assoc, Nat.and_self]

theorem start_tag_transition_and_tag_mask {d : Desk} {cfg : Config} (h : d.cfg = cfg)
    (old val : ℕ) (ow : ℚ) :
    d.start_tag_transition old (val &&& cfg.tag_mask) ow = d.start_tag_transition old val ow := by
  subst h
  unfold Desk.start_tag_transition
  rw [Nat.and_assoc, Nat.and_self]

/-- The desk `View` arranges, with the view that is left recorded in `d₁`. -/
def shownFrom (d d₁ : Desk) (val : ℕ) : Desk :=
  (d₁.modifyMonitor d.sel_mon (Monitor.view d.cfg · val)).mark_slide_outs (d.tagsOf d.sel_mon) val
    (d.outputWidth d.sel_mon)

/-- The `view` command leaves the slide waiting. -/
theorem ipcApply_view {d : Desk} {val : ℕ} (hmask : val &&& d.cfg.tag_mask ≠ 0) :
    ipcApply .view val d d.sel_mon = { shownFrom d (ipcRecord d val) val with
      pending_tag_transition := some (d.tagsOf d.sel_mon, val &&& d.cfg.tag_mask,
        d.outputWidth d.sel_mon) } := by
  have hrecord : ipcRecord d val = d.update_tag_history d.sel_mon (val &&& d.cfg.tag_mask) :=
    if_neg hmask
  have hcfg : (ipcRecord d val).cfg = d.cfg := by
    rw [hrecord, Desk.cfg_update_tag_history]
  have hmonitors : (ipcRecord d val).monitors = d.monitors := by
    rw [hrecord, Desk.monitors_update_tag_history]
  have hold : (ipcRecord d val).tagsOf d.sel_mon = d.tagsOf d.sel_mon := by
    unfold Desk.tagsOf
    rw [hmonitors]
  have how : (ipcRecord d val).outputWidth d.sel_mon = d.outputWidth d.sel_mon := by
    unfold Desk.outputWidth
    rw [hmonitors]
  have hmark : ((ipcRecord d val).modifyMonitor d.sel_mon (Monitor.view d.cfg · val)).mark_slide_outs
      (d.tagsOf d.sel_mon) (val &&& d.cfg.tag_mask) (d.outputWidth d.sel_mon) =
        shownFrom d (ipcRecord d val) val := by
    have hviewed : ((ipcRecord d val).modifyMonitor d.sel_mon (Monitor.view d.cfg · val)).cfg =
        d.cfg := hcfg
    exact mark_slide_outs_and_tag_mask hviewed _ val _
  unfold ipcApply
  dsimp only
  rw [if_neg hmask, if_pos rfl, ← hrecord, hold, how]
  simp only [view_and_tag_mask]
  rw [hmark]

theorem pending_shownFrom {d : Desk} (hd : d.pending_tag_transition = none) (val : ℕ) :
    (shownFrom d (ipcRecord d val) val).pending_tag_transition = none := by
  have hrecord : (ipcRecord d val).pending_tag_transition = none := by
    unfold ipcRecord Desk.update_tag_history
    split_ifs
    · exact hd
    · split
      · split_ifs <;> exact hd
      · exact hd
  unfold shownFrom Desk.mark_slide_outs
  dsimp only
  split_ifs <;> exact hrecord

theorem cfg_shownFrom (d : Desk) (val : ℕ) : (shownFrom d (ipcRecord d val) val).cfg = d.cfg := by
  refine (Desk.cfg_mark_slide_outs ..).trans ?_
  change (ipcRecord d val).cfg = d.cfg
  unfold ipcRecord
  split_ifs
  · rfl
  · exact Desk.cfg_update_tag_history ..

/-- **The `view` command is the action, but for what it records.** -/
theorem ipc_view {s : Rwl} (hs : s.desk.pending_tag_transition = none) (val : ℕ) :
    s.ipc_command .view (some s.desk.sel_mon) val =
      (s.viewFrom (ipcRecord s.desk val) val).emit (.event (.tag s.desk.sel_mon)) := by
  let old := s.desk.tagsOf s.desk.sel_mon
  let ow := s.desk.outputWidth s.desk.sel_mon
  let d := shownFrom s.desk (ipcRecord s.desk val) val
  have hcfg : (s.modifyDesk fun _ => d).arrange_all.desk.cfg = s.desk.cfg := by
    rw [desk_arrange_all]
    exact (congrArg Desk.cfg (Desk.bare_arrangePasses d) :).trans (cfg_shownFrom s.desk val)
  have hshow : s.viewFrom (ipcRecord s.desk val) val =
      ((s.modifyDesk fun _ => d).arrange_all.modifyDesk
        (Desk.start_tag_transition · old val ow)).focus_top := rfl
  refine (ipc_selected s .view val).trans ?_
  rw [hshow]
  refine congrArg (fun s : Rwl => s.focus_top.emit _) ?_
  by_cases hmask : val &&& s.desk.cfg.tag_mask = 0
  · have hipc : ipcApply .view val s.desk s.desk.sel_mon = s.desk := if_pos hmask
    have hrecord : ipcRecord s.desk val = s.desk := if_pos hmask
    have hview : s.desk.modifyMonitor s.desk.sel_mon (Monitor.view s.desk.cfg · val) = s.desk :=
      congrArg (fun l => { s.desk with monitors := l })
        (modify_eq_self fun m _ => if_pos (.inl hmask))
    have hnot (d : Desk) (hd : d.cfg = s.desk.cfg) : ¬d.slides old (val &&& d.cfg.tag_mask) :=
      fun h => h.2.1 (hd ▸ hmask)
    have hd : d = s.desk := by
      change shownFrom s.desk (ipcRecord s.desk val) val = s.desk
      unfold shownFrom
      rw [hrecord, hview]
      exact if_neg (hnot _ rfl)
    rw [modifyDesk_eq_self (f := (Desk.start_tag_transition · old val ow))
      (if_neg (hnot _ hcfg))]
    exact congrArg (fun d => ({ s with desk := d } : Rwl).arrange_all) (hipc.trans hd.symm)
  · calc (s.modifyDesk fun d => ipcApply .view val d s.desk.sel_mon).arrange_all
        = (s.modifyDesk fun _ => { d with
            pending_tag_transition := some (old, val &&& s.desk.cfg.tag_mask, ow) }).arrange_all :=
          congrArg (fun d => ({ s with desk := d } : Rwl).arrange_all) (ipcApply_view hmask)
      _ = (s.modifyDesk fun _ => d).arrange_all.modifyDesk
            (Desk.start_tag_transition · old (val &&& s.desk.cfg.tag_mask) ow) :=
          arrange_all_pending s (pending_shownFrom hs val) old _ ow
      _ = (s.modifyDesk fun _ => d).arrange_all.modifyDesk
            (Desk.start_tag_transition · old val ow) :=
          congrArg (fun d' => { (s.modifyDesk fun _ => d).arrange_all with desk := d' })
            (start_tag_transition_and_tag_mask hcfg old val ow)

/-! ### What neither route writes -/

theorem kept_viewFrom (s : Rwl) (d : Desk) (val : ℕ) :
    ((s.viewFrom d val).overview, (s.viewFrom d val).desk.tag_history) =
      (s.overview, d.tag_history) := by
  have hmark (d : Desk) (old : ℕ) (ow : ℚ) :
      (d.mark_slide_outs old val ow).tag_history = d.tag_history ∧
        (d.start_tag_transition old val ow).tag_history = d.tag_history := by
    unfold Desk.mark_slide_outs Desk.start_tag_transition
    dsimp only
    constructor <;> split_ifs <;> rfl
  have harranged (t : Rwl) (old : ℕ) (ow : ℚ) :
      ((t.arrange_all.modifyDesk (Desk.start_tag_transition · old val ow)).overview,
        (t.arrange_all.modifyDesk (Desk.start_tag_transition · old val ow)).desk.tag_history) =
          (t.overview, t.desk.tag_history) := by
    refine Eq.trans ?_ (kept_arrange_all t)
    exact Prod.ext rfl (hmark _ _ _).2
  unfold viewFrom slideTo focus_top
  dsimp only
  rw [kept_focus_window]
  exact (harranged _ _ _).trans (Prod.ext rfl (hmark _ _ _).1)

theorem seat_notifyChanges (s t : Rwl) : (s.notifyChanges t).seat = t.seat := by
  unfold notifyChanges
  split
  · dsimp only
    split_ifs <;> rfl
  · rfl

theorem overview_notifyChanges (s t : Rwl) : (s.notifyChanges t).overview = t.overview := by
  unfold notifyChanges
  split
  · dsimp only
    split_ifs <;> rfl
  · rfl

/-! ### The commands and the actions -/

/-- Recording a view writes the history only. -/
theorem exists_recorded (d : Desk) (i tags : ℕ) :
    ∃ h, d.update_tag_history i tags = { d with tag_history := h } := by
  unfold Desk.update_tag_history
  split
  · split_ifs
    · exact ⟨_, rfl⟩
    · exact ⟨d.tag_history, rfl⟩
  · exact ⟨d.tag_history, rfl⟩

theorem exists_ipcRecord (d : Desk) (val : ℕ) :
    ∃ h, ipcRecord d val = { d with tag_history := h } := by
  unfold ipcRecord
  split_ifs
  · exact ⟨d.tag_history, rfl⟩
  · exact exists_recorded d _ _

theorem applied_viewFrom (s : Rwl) (h : List (List ℕ)) (val : ℕ) :
    Applied s (.view val) (s.viewFrom { s.desk with tag_history := h } val) := by
  let d := shownFrom s.desk { s.desk with tag_history := h } val
  have hcount (tags : ℕ) : d.count_tiled tags = s.desk.count_tiled tags :=
    Desk.count_tiled_congr (Desk.bare_mark_slide_outs _ _ _ _) tags
  have hkeep (d : Desk) (old : ℕ) (ow : ℚ) : (d.mark_slide_outs old val ow).sel_mon = d.sel_mon ∧
      (d.start_tag_transition old val ow).sel_mon = d.sel_mon ∧
      (d.start_tag_transition old val ow).cfg = d.cfg ∧
      (d.start_tag_transition old val ow).viewed = d.viewed := by
    unfold Desk.mark_slide_outs Desk.start_tag_transition
    dsimp only
    refine ⟨?_, ?_, ?_, ?_⟩ <;> split_ifs <;> rfl
  have harranged : Applied s (.view val) (s.modifyDesk fun _ => d).arrange_all :=
    applied_arrange_all (Desk.cfg_mark_slide_outs ..) (hkeep _ _ _).1
      (Desk.monitors_mark_slide_outs ..) hcount
  let t := (s.modifyDesk fun _ => d).arrange_all.modifyDesk
    (Desk.start_tag_transition · (s.desk.tagsOf s.desk.sel_mon) val
      (s.desk.outputWidth s.desk.sel_mon))
  have hforce : t.desk.InForce := by
    obtain ⟨-, -, hcfg, hviewed⟩ := hkeep (s.modifyDesk fun _ => d).arrange_all.desk
      (s.desk.tagsOf s.desk.sel_mon) (s.desk.outputWidth s.desk.sel_mon)
    exact (Desk.inForce_congr hcfg hviewed
      (Desk.count_tiled_congr (Desk.bare_start_tag_transition _ _ _ _))).2 (inForce_arrange_all _)
  have hstarted : Applied s (.view val) t :=
    harranged.of_viewed (hkeep _ _ _).2.2.2 (hkeep _ _ _).2.1
  exact hstarted.of_viewed (viewed_focus_top hforce).1 (viewed_focus_top hforce).2

theorem applied_toggle_view (s : Rwl) (val : ℕ) :
    Applied s (.toggle_view val) (s.toggle_view val) := by
  have hrun (h : List (List ℕ)) : Applied s (.toggle_view val) (s.modifyDesk fun _ =>
      { s.desk with
        tag_history := h
        monitors := s.desk.monitors.modify s.desk.sel_mon
          (Monitor.toggle_view s.desk.cfg · val) }).arrange_all.focus_top := by
    have harranged : Applied s (.toggle_view val) (s.modifyDesk fun _ =>
        { s.desk with
          tag_history := h
          monitors := s.desk.monitors.modify s.desk.sel_mon
            (Monitor.toggle_view s.desk.cfg · val) }).arrange_all :=
      applied_arrange_all rfl rfl rfl fun _ => rfl
    obtain ⟨hviewed, hsel⟩ := viewed_focus_top (inForce_arrange_all (s.modifyDesk fun _ =>
      { s.desk with
        tag_history := h
        monitors := s.desk.monitors.modify s.desk.sel_mon
          (Monitor.toggle_view s.desk.cfg · val) }))
    exact harranged.of_viewed hviewed hsel
  unfold toggle_view
  dsimp only
  split_ifs
  · obtain ⟨h, hh⟩ := exists_recorded s.desk s.desk.sel_mon ((s.desk.sel_monitor.map fun m =>
      (m.tags ^^^ val) &&& s.desk.cfg.tag_mask).getD 0)
    unfold modifyDesk
    dsimp only
    rw [hh]
    exact hrun h
  · exact hrun s.desk.tag_history

theorem applied_set_layout (s : Rwl) (val : ℕ) : Applied s (.set_layout val) (s.set_layout val) := by
  have harranged : Applied s (.set_layout val) (s.modifyDesk fun _ =>
      s.desk.modifyMonitor s.desk.sel_mon (Monitor.set_layout s.desk.cfg · val)).arrange_all :=
    applied_arrange_all rfl rfl rfl fun _ => rfl
  exact harranged

/-- A new layout moves no focus. -/
theorem focusRests_set_layout (s : Rwl) (val : ℕ) : (s.set_layout val).FocusRests ↔ s.FocusRests := by
  let d := s.desk.modifyMonitor s.desk.sel_mon (Monitor.set_layout s.desk.cfg · val)
  have hdesk : (s.set_layout val).desk = d.arrangePasses := desk_arrange_all _
  have hbare := Desk.bare_arrangePasses d
  have hst (w : WinId) : Desk.bareWindow (d.arrangePasses.st w) = Desk.bareWindow (s.desk.st w) :=
    (congrArg (fun d : Desk => d.st w) hbare :)
  have hstack : (s.set_layout val).desk.focus_stack = s.desk.focus_stack := by
    rw [hdesk]
    exact (congrArg Desk.focus_stack hbare :)
  have hclient : (s.set_layout val).desk.client = s.desk.client := by
    rw [hdesk]
    exact (congrArg Desk.client hbare :)
  have hurgent (w : WinId) : ((s.set_layout val).desk.st w).is_urgent = (s.desk.st w).is_urgent := by
    rw [hdesk]
    exact (congrArg WindowState.is_urgent (hst w) :)
  have happlied := applied_set_layout s val
  have htags : (s.set_layout val).desk.tagsOf s.desk.sel_mon = s.desk.tagsOf s.desk.sel_mon := by
    have hview := congrArg (Option.map fun v : MonitorView => v.tagset v.sel_tags) happlied.2
    rw [Option.map_map, Option.map_map] at hview
    have hmap : (s.set_layout val).desk.sel_monitor.map Monitor.tags =
        s.desk.sel_monitor.map Monitor.tags := by
      refine Eq.trans hview (congrArg (Option.map · s.desk.sel_monitor) (funext fun m => ?_))
      exact (Monitor.tags_apply_dynamic ..).trans (m.tags_set_layout s.desk.cfg val)
    unfold Desk.sel_monitor at hmap
    rw [happlied.1] at hmap
    exact congrArg (Option.getD · 0) hmap
  have hfocused : (s.set_layout val).desk.focused_window = s.desk.focused_window := by
    refine focused_window_congr hstack happlied.1 htags fun w => ?_
    rw [hdesk]
    exact ⟨(congrArg WindowState.tags (hst w) :), (congrArg WindowState.mon_idx (hst w) :)⟩
  have hsession : (s.set_layout val).session = s.session := session_arrange_all _
  have hseat (f : Option SurfaceId) : (s.set_layout val).seat.Rests f ↔ s.seat.Rests f :=
    rests_arrange_all _ f
  have hsurface : (s.set_layout val).desk.wl_surface = s.desk.wl_surface := by
    funext w
    unfold Desk.wl_surface
    rw [hclient]
  constructor
  · rintro ⟨htop, hkb⟩
    rw [hfocused, hstack] at htop
    rw [hfocused, hsession, hsurface, hseat] at hkb
    exact ⟨fun w hw => ⟨(htop w hw).1, hurgent w ▸ (htop w hw).2⟩, hkb⟩
  · rintro ⟨htop, hkb⟩
    refine ⟨fun w hw => ?_, ?_⟩
    · rw [hfocused] at hw
      rw [hstack, hurgent]
      exact htop w hw
    · rw [hfocused, hsession, hsurface, hseat]
      exact hkb

theorem overview_perform (s : Rwl) (cmd : IpcCmd) (val : ℕ) :
    (s.perform (cmd.action val)).overview = s.overview := by
  have harranged (t : Rwl) : t.arrange_all.overview = t.overview :=
    (Prod.mk.inj (kept_arrange_all t)).1
  have hfocused (t : Rwl) : t.focus_top.overview = t.overview :=
    (Prod.mk.inj (kept_focus_window t _)).1
  cases cmd with
  | view =>
    change (s.view val).overview = _
    rw [view_eq_viewFrom]
    exact (Prod.mk.inj (kept_viewFrom s _ val)).1
  | toggleview =>
    change (s.toggle_view val).overview = _
    unfold toggle_view
    dsimp only
    rw [hfocused, harranged]
    split_ifs <;> rfl
  | setlayout => exact harranged _

theorem overview_ipc_command (s : Rwl) (cmd : IpcCmd) (val : ℕ) :
    (s.ipc_command cmd (some s.desk.sel_mon) val).overview = s.overview := by
  have hrun : (s.modifyDesk fun d =>
      ipcApply cmd val d s.desk.sel_mon).arrange_all.focus_top.overview = s.overview :=
    (Prod.mk.inj (kept_focus_window _ _)).1.trans (Prod.mk.inj (kept_arrange_all _)).1
  rw [ipc_selected]
  split_ifs
  · exact hrun
  · exact hrun

/-- What the action does when the overview is not open. -/
theorem dispatch_action {s : Rwl} (h : s.overview = none) (cmd : IpcCmd) (val : ℕ) :
    s.dispatch (cmd.action val) = s.notifyChanges (s.perform (cmd.action val)) := by
  have hnone : s.overview.isNone = true := by rw [h]; rfl
  unfold dispatch dispatchWith
  rw [if_pos (.inl hnone)]
  cases cmd <;> rfl

/-- The action closes an open overview. -/
theorem overview_dispatch_action {s : Rwl} (h : s.overview ≠ none) (cmd : IpcCmd) (val : ℕ) :
    (s.dispatch (cmd.action val)).overview = none := by
  have hact : s.dispatch (cmd.action val) =
      (overview.force_close s).notifyChanges ((overview.force_close s).perform (cmd.action val)) := by
    unfold dispatch dispatchWith
    cases cmd <;> rw [if_neg (by simpa [keepsOverview, IpcCmd.action] using h)] <;> rfl
  rw [hact, overview_notifyChanges, overview_perform]
  rfl

theorem recorded_eq_self_iff {d : Desk} {m : Monitor} (hm : d.sel_monitor = some m) (val : ℕ) :
    d.update_tag_history d.sel_mon val = d ↔ m.tags = val ∨
      ∀ h, d.tag_history[d.sel_mon]? = some h → Desk.pushHistory h m.tags = h := by
  have hmon : d.monitors[d.sel_mon]? = some m := hm
  unfold Desk.update_tag_history
  rw [hmon]
  dsimp only
  by_cases hsame : m.tags = val
  · rw [if_neg (not_not.2 hsame)]
    exact iff_of_true rfl (.inl hsame)
  · rw [if_pos hsame]
    constructor
    · intro h
      refine .inr fun l hl => ?_
      have hlist : (d.tag_history.modify d.sel_mon (Desk.pushHistory · m.tags))[d.sel_mon]? =
          d.tag_history[d.sel_mon]? := (congrArg (fun d : Desk => d.tag_history[d.sel_mon]?) h :)
      rw [List.getElem?_modify, hl] at hlist
      simpa using hlist
    · rintro (h | h)
      · exact absurd h hsame
      · refine congrArg (fun l => { d with tag_history := l }) (List.ext_getElem? fun j => ?_)
        rw [List.getElem?_modify]
        by_cases hj : d.sel_mon = j
        · subst hj
          cases hl : d.tag_history[d.sel_mon]? with
          | none => rfl
          | some l => simp [h l hl]
        · simp [hj]

theorem ipcRecord_eq_self {d : Desk} {val : ℕ} (h : ∀ m, d.sel_monitor = some m →
    val &&& d.cfg.tag_mask = 0 ∨ val &&& d.cfg.tag_mask = m.tags) : ipcRecord d val = d := by
  unfold ipcRecord
  split_ifs with hmask
  · rfl
  · unfold Desk.update_tag_history
    cases hm : d.monitors[d.sel_mon]? with
    | none => rfl
    | some m =>
      have hsame := (h m hm).resolve_left hmask
      exact if_neg (not_not.2 hsame.symm)

/-- Nothing a command does without its action shows: the overview is closed, the view and the
layout are there already, `view` has nothing to record, and `setlayout` nothing to focus. -/
structure SocketRests (s : Rwl) (cmd : IpcCmd) (val : ℕ) : Prop where
  overview : s.overview = none
  keeps : ∀ m, s.desk.sel_monitor = some m → cmd.Keeps s.desk m val
  history : cmd = .view → ∀ m, s.desk.sel_monitor = some m → m.tags = val ∨
    ∀ h, s.desk.tag_history[s.desk.sel_mon]? = some h → Desk.pushHistory h m.tags = h
  focus : cmd = .setlayout → s.FocusRests

/-- The hooks of the action say nothing exactly when the command keeps the monitor. -/
theorem quiet_notifyChanges_iff_keeps {s t : Rwl} {cmd : IpcCmd} {val : ℕ}
    (h : Applied s (cmd.op val) t) : (s.notifyChanges t).quiet = t.quiet ↔
      ∀ m, s.desk.sel_monitor = some m → cmd.Keeps s.desk m val := by
  rw [quiet_notifyChanges_iff h.1, h.unchanged_iff]
  exact forall_congr' fun m => imp_congr_right fun _ => (cmd.keeps_iff s.desk m val).symm

/-- One output with tag 1 in view. -/
def oneOutput : Rwl := Transition.run step (init (plainSetup [] [])) [.output_added 0 (plainOutput "a")]

theorem reachable_oneOutput : Reachable oneOutput := ⟨_, _, rfl⟩

end Rwl

end Compositor
