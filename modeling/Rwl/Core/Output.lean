import Mathlib.Tactic.Common
import Rwl.Core.Overview

/-!
# Outputs

* `addMonitor`, `removeMonitor`: what a new and a removed output do to the desk;
* `reapply_monitor_rules` on the desk;
* the handlers `output_added`, `output_removed` and `Rwl.reapply_monitor_rules`.
-/

namespace Compositor

namespace Desk

/-- The logical size of a mode at a scale. -/
def logicalSize (mode : Size) (scale : ℚ) : Size :=
  ⟨truncZero (mode.w / scale), truncZero (mode.h / scale)⟩

/-- Where a new output goes: where its rule says, else right of the others. -/
def outputLoc (d : Desk) (rule : MonitorRule) : Point :=
  if 0 ≤ rule.x ∧ 0 ≤ rule.y then ⟨rule.x, rule.y⟩
  else ⟨((d.monitors.map fun m => m.m.loc.x + m.m.size.w).max?).getD 0, 0⟩

/-- The monitor of a new output, with what is remembered of an earlier one of its name. -/
def newMonitor (d : Desk) (o : OutputId) (info : OutputInfo) : Monitor :=
  let rule := matching_rule d.cfg info.name
  let box : Rect := ⟨d.outputLoc rule, logicalSize (info.mode.getD ⟨1920, 1080⟩) rule.scale⟩
  let mon := { Monitor.new d.cfg o info.name with m := box, w := box }
  match d.monitor_memory info.name with
  | some mem => mon.restore d.cfg mem
  | none => mon

/-- The desk part of `output_added`. -/
def addMonitor (d : Desk) (o : OutputId) (info : OutputInfo) : Desk :=
  let rule := matching_rule d.cfg info.name
  let info' := { info with
    scale := rule.scale
    transform := rule.transform
    location := d.outputLoc rule }
  { d with
    output := Function.update d.output o info'
    monitors := d.monitors ++ [d.newMonitor o info]
    tag_history := d.tag_history ++ [[]]
    monitor_memory := Function.update d.monitor_memory info.name none }.update_monitor_bounds

/-- Where the windows of the removed monitor `idx` go, as an index before the removal. -/
def migrationTarget (d : Desk) (idx : ℕ) : ℕ :=
  if d.monitors.length ≤ 1 then 0
  else if d.sel_mon ≠ idx then d.sel_mon
  else ((List.range d.monitors.length).find? fun i => decide (i ≠ idx)).getD 0

/-- Move a window of monitor `idx` to `target`; a hidden scratchpad stays hidden. -/
def migrateWindow (idx target target_tags : ℕ) (s : WindowState) : WindowState :=
  if s.mon_idx = idx then
    { s with tags := if s.tags ≠ 0 then target_tags else s.tags, mon_idx := target }
  else s

/-- Every index above the removed one shifts down. -/
def shiftIndex (idx i : ℕ) : ℕ := if idx < i then i - 1 else i

/-- The selected monitor once `idx` is gone and `n` monitors are left. -/
def shiftSelected (idx n sel : ℕ) : ℕ :=
  if n = 0 then 0 else if idx < sel then sel - 1 else if n ≤ sel then n - 1 else sel

/-- The desk part of `output_removed` for the monitor at `idx`. -/
def removeMonitor (d : Desk) (idx : ℕ) : Desk :=
  let target := d.migrationTarget idx
  let target_tags := ((d.monitors[target]?).map Monitor.tags).getD 1
  let memory := match d.monitors[idx]? with
    | some mon =>
        Function.update d.monitor_memory (d.output mon.output).name (some mon.snapshot)
    | none => d.monitor_memory
  { d with
    st := d.st.modifyAll d.windows fun _ s =>
      let s' := migrateWindow idx target target_tags s
      { s' with mon_idx := shiftIndex idx s'.mon_idx }
    monitor_memory := memory
    monitors := d.monitors.eraseIdx idx
    tag_history := d.tag_history.eraseIdx idx
    sel_mon := shiftSelected idx (d.monitors.length - 1) d.sel_mon }.update_monitor_bounds

/-- One round of `reapply_monitor_rules`, for the output of monitor `i`. -/
def reapplyRule (d : Desk) (i : ℕ) : Desk :=
  match d.monitors[i]? with
  | none => d
  | some mon =>
      let o := mon.output
      let info := d.output o
      let rule := matching_rule d.cfg info.name
      let fixed := decide (0 ≤ rule.x ∧ 0 ≤ rule.y)
      let loc : Point := ⟨rule.x, rule.y⟩
      let info' := { info with
        scale := rule.scale
        transform := rule.transform
        location := if fixed then loc else info.location }
      let place (m : Monitor) : Monitor :=
        if fixed then { m with m := { m.m with loc := loc }, w := { m.w with loc := loc } } else m
      let resize (m : Monitor) : Monitor := match info.mode with
        | some mode => { m with m := { m.m with size := logicalSize mode rule.scale } }
        | none => m
      { d.modifyMonitor ((d.monitor_for_output o).getD i) (fun m => resize (place m)) with
        output := Function.update d.output o info' }

/-- The desk part of `reapply_monitor_rules`. -/
def reapply_monitor_rules (d : Desk) : Desk :=
  ((List.range d.monitors.length).foldl reapplyRule d).update_monitor_bounds

end Desk

namespace Rwl

/-- `hooks::startup`: once, and the launch tag counts as a tag switch. -/
def startup (s : Rwl) (current_tags : ℕ) : Rwl :=
  if s.hooks.startup_done then s
  else
    ((({ s with hooks := { s.hooks with startup_done := true } } : Rwl).fire .startup).fire
      (.tag_switch 0 current_tags))

/-- The first warp of the cursor. -/
def initialWarp (s : Rwl) : Rwl :=
  if s.initial_warp_done then s
  else ({ s with initial_warp_done := true } : Rwl).warp_cursor_to_focused

/-- `output_added`. -/
def output_added (s : Rwl) (o : OutputId) (info : OutputInfo) : Rwl :=
  let s₁ := (s.modifyDesk (Desk.addMonitor · o info)).arrange_all.initialWarp
  let s₂ := s₁.startup (s₁.desk.tagsOf s₁.desk.sel_mon)
  ((s₂.fire (.monitor_add o)).fire .monitor_layout).emit (.event (.monitor_add o))

/-- `reapply_monitor_rules`. -/
def reapply_monitor_rules (s : Rwl) : Rwl :=
  (s.modifyDesk Desk.reapply_monitor_rules).fire .monitor_layout

/-- `output_removed`. -/
def output_removed (s : Rwl) (o : OutputId) : Rwl :=
  let s' := match s.desk.monitor_for_output o with
    | some idx =>
        (((s.modifyDesk (Desk.removeMonitor · idx)).fire (.monitor_remove o)).fire
          .monitor_layout).emit (.event (.monitor_remove o))
    | none => s
  s'.arrange_all

end Rwl

end Compositor
