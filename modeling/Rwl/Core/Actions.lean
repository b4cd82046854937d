import Mathlib.Tactic.Common
import Rwl.Core.Lock
import Rwl.Core.Output

/-!
# Actions

* the helpers behind the actions: `zoom`, `focus_urgent`, `focus_stack_step`, the view switches,
  `focus_mon`, `tag_mon`, the scratchpads;
* `perform`: the action itself; `notifyChanges`: the hooks and events of a changed view or layout;
* `dispatchWith`, `apply`, `drain`, `dispatch`: an action may run Lua, whose commands may
  dispatch actions; a drain inside a drain does nothing;
* `overview.finish_close`, `overview.advance`.
-/

namespace Compositor

namespace Rwl

/-! ### Programs and closing -/

/-- `spawn`. -/
def spawn (s : Rwl) (cmd : List String) : Rwl := if cmd = [] then s else s.emit (.spawn cmd)

/-- `kill_focused`. -/
def kill_focused (s : Rwl) : Rwl :=
  match s.desk.focused_window with
  | some w => s.emit (.close w)
  | none => s

/-! ### Window order and focus -/

/-- Whether `w` is tiled on monitor `mon_idx` with the view `tags`, as `zoom` has it. -/
def zoomable (d : Desk) (tags mon_idx : ℕ) (w : WinId) : Bool :=
  (d.st w).visible_on tags && !(d.st w).is_floating && (d.st w).rules_applied &&
    decide ((d.st w).mon_idx = mon_idx)

/-- The first window that is not the focused one, and whether the focused one came before. -/
def zoomScan (focused : WinId) : Bool → List WinId → Option (WinId × Bool)
  | _, [] => none
  | promote_c, w :: ws => if w = focused then zoomScan focused true ws else some (w, promote_c)

/-- The window `zoom` promotes. -/
def zoomTarget (d : Desk) : Option WinId :=
  match d.focused_window, d.sel_monitor with
  | some focused, some mon =>
      if (d.st focused).is_floating ∨ (d.st focused).is_fullscreen then none
      else (zoomScan focused false (d.windows.filter (zoomable d mon.tags d.sel_mon))).map
        fun (c, promote_c) => if promote_c then c else focused
  | _, _ => none

/-- `zoom`. -/
def zoom (s : Rwl) : Rwl :=
  match zoomTarget s.desk with
  | none => s
  | some w =>
      if w ∈ s.desk.windows then
        ((s.modifyDesk fun d => { d with windows := Recency.toFront w d.windows }).focus_window
          (some w)).arrange_all
      else s

/-- The first urgent window, the focus stack before the window list. -/
def urgentWindow (d : Desk) : Option WinId :=
  (d.focus_stack.find? fun w => (d.st w).is_urgent).or (d.windows.find? fun w => (d.st w).is_urgent)

/-- `focus_urgent`. -/
def focus_urgent (s : Rwl) : Rwl :=
  match urgentWindow s.desk with
  | none => s
  | some w =>
      let st := s.desk.st w
      let s₁ := s.modifyDesk fun d => { d with sel_mon := st.mon_idx }
      let s₂ := if st.tags ≠ 0 then
          s₁.modifyDesk fun d => d.modifyMonitor st.mon_idx (Monitor.view d.cfg · st.tags)
        else s₁
      s₂.arrange_all.focus_window (some w)

/-- The window `focus_stack_step` focuses. -/
def stepTarget (d : Desk) (dir : ℤ) : Option WinId :=
  let on_mon := d.windows.filter fun w =>
    (d.st w).visible_on (d.tagsOf d.sel_mon) && (d.st w).rules_applied &&
      decide ((d.st w).mon_idx = d.sel_mon)
  let count := on_mon.length
  if count = 0 then none
  else
    let next := match d.focused_window.bind fun f => on_mon.findIdx? fun w => decide (w = f) with
      | some pos => if 0 < dir then (pos + 1) % count else (pos + count - 1) % count
      | none => if 0 < dir then 0 else count - 1
    on_mon[next]?

/-- `focus_stack_step`. -/
def focus_stack_step (s : Rwl) (dir : ℤ) : Rwl :=
  match stepTarget s.desk dir with
  | some w => s.focus_window (some w)
  | none => s

/-! ### Views -/

/-- Slide from one view to another, arrange and refocus. -/
def slideTo (s : Rwl) (old_tag new_tag : ℕ) (output_w : ℚ) : Rwl :=
  let s₁ := (s.modifyDesk (Desk.mark_slide_outs · old_tag new_tag output_w)).arrange_all
  (s₁.modifyDesk (Desk.start_tag_transition · old_tag new_tag output_w)).focus_top

/-- Record the view that is left and show `mask` on the selected monitor. -/
def showTags (d : Desk) (mask : ℕ) : Desk :=
  (d.update_tag_history d.sel_mon mask).modifyMonitor d.sel_mon (Monitor.view d.cfg · mask)

/-- `Action::View`. -/
def view (s : Rwl) (mask : ℕ) : Rwl :=
  (s.modifyDesk (showTags · mask)).slideTo (s.desk.tagsOf s.desk.sel_mon) mask
    (s.desk.outputWidth s.desk.sel_mon)

/-- `Action::ViewNextOccTag`. -/
def view_next_occ_tag (s : Rwl) (dir : ℤ) : Rwl :=
  match s.desk.next_occ_tag dir with
  | some mask => s.view mask
  | none => s

/-- `Action::ViewPrev`. -/
def view_prev (s : Rwl) : Rwl :=
  let i := s.desk.sel_mon
  let prev_tag := (s.desk.sel_monitor.map fun m => m.tagset (!m.sel_tags)).getD 0
  let s₁ := s.modifyDesk fun d =>
    (d.update_tag_history i prev_tag).modifyMonitor i (Monitor.view_prev d.cfg)
  s₁.slideTo (s.desk.tagsOf i) prev_tag (s.desk.outputWidth i)

/-- `Action::ToggleView`. -/
def toggle_view (s : Rwl) (mask : ℕ) : Rwl :=
  let i := s.desk.sel_mon
  let new_tags :=
    (s.desk.sel_monitor.map fun m => (m.tags ^^^ mask) &&& s.desk.cfg.tag_mask).getD 0
  let s₁ := if new_tags ≠ 0 then s.modifyDesk (Desk.update_tag_history · i new_tags) else s
  (s₁.modifyDesk fun d =>
    d.modifyMonitor i (Monitor.toggle_view d.cfg · mask)).arrange_all.focus_top

/-- `view_tag_spawn`. -/
def view_tag_spawn (s : Rwl) (mask : ℕ) : Rwl :=
  let cfg := s.desk.cfg
  let mask := mask &&& cfg.tag_mask
  let s₁ := s.modifyDesk (showTags · mask)
  let s₂ := if s₁.desk.count_tiled mask = 0 then
      match (cfg.auto_spawn[pertag_layouts.trailing_zeros mask]?).join with
      | some cmd => s₁.spawn cmd
      | none => s₁
    else s₁
  s₂.slideTo (s.desk.tagsOf s.desk.sel_mon) mask (s.desk.outputWidth s.desk.sel_mon)

/-! ### Tags of the focused window -/

/-- `Action::Tag`. -/
def tag (s : Rwl) (mask : ℕ) : Rwl :=
  let mask := mask &&& s.desk.cfg.tag_mask
  if mask = 0 then s
  else
    let s₁ := match s.desk.focused_window with
      | some w =>
          let s₁ := s.modifyDesk (Desk.set_window_tags · w mask)
          if s.desk.cfg.follow then s₁.modifyDesk (showTags · mask) else s₁
      | none => s
    s₁.arrange_all.focus_top

/-- `Action::ToggleTag`. -/
def toggle_tag (s : Rwl) (mask : ℕ) : Rwl :=
  let s₁ := match s.desk.focused_window with
    | some w =>
        let new := ((s.desk.st w).tags ^^^ mask) &&& s.desk.cfg.tag_mask
        if new ≠ 0 then s.modifyDesk (Desk.set_window_tags · w new) else s
    | none => s
  s₁.arrange_all

/-! ### Monitors -/

/-- `focus_mon`. -/
def focus_mon (s : Rwl) (dir : ℤ) : Rwl :=
  match s.desk.dir_to_monitor s.desk.sel_mon dir with
  | some next =>
      let s₁ := s.modifyDesk fun d => { d with sel_mon := next }
      (s₁.focus_window (s₁.desk.topOn (s₁.desk.tagsOf next) next)).arrange_all
  | none => s

/-- Give a window to monitor `next`, on the tags it shows. -/
def sendTo (d : Desk) (w : WinId) (next : ℕ) : Desk :=
  let new_tags := ((d.monitors[next]?).map Monitor.tags).getD 1
  d.modifyWindow w fun st => { st with tags := new_tags, mon_idx := next }

/-- `tag_mon`. -/
def tag_mon (s : Rwl) (dir : ℤ) : Rwl :=
  match s.desk.focused_window, s.desk.dir_to_monitor s.desk.sel_mon dir with
  | some focused, some next =>
      let s₁ := s.modifyDesk (sendTo · focused next)
      let s₂ := if s.desk.cfg.follow then
          (s₁.modifyDesk fun d => { d with sel_mon := next }).focus_window (some focused)
        else s₁
      s₂.arrange_all
  | _, _ => s

/-! ### Layouts -/

/-- Change the selected monitor and arrange everything. -/
def relayout (s : Rwl) (f : Config → Monitor → Monitor) : Rwl :=
  (s.modifyDesk fun d => d.modifyMonitor d.sel_mon (f d.cfg)).arrange_all

/-- `inc_nmaster`. -/
def inc_nmaster (s : Rwl) (delta : ℤ) : Rwl :=
  s.relayout fun _ m => { m with nmaster := max (m.nmaster + delta) 0 }

/-- `set_mfact`. -/
def set_mfact (s : Rwl) (delta : ℚ) : Rwl :=
  s.relayout fun _ m => { m with mfact := clampQ (m.mfact + delta) (5 / 100) (95 / 100) }

/-- `Action::SetLayout`. -/
def set_layout (s : Rwl) (idx : ℕ) : Rwl := s.relayout fun cfg m => m.set_layout cfg idx

/-- `Action::CycleLayout`. -/
def cycle_layout (s : Rwl) : Rwl :=
  let n := s.desk.cfg.layouts.length
  let cur := (s.desk.sel_monitor.map Monitor.layout_idx).getD 0
  if n = 0 then s.arrange_all else s.set_layout ((cur + 1) % n)

/-- `Action::ResetLayout`. -/
def reset_layout (s : Rwl) : Rwl := s.relayout fun cfg m => pertag_layouts.reset cfg m m.tags

/-- Flip the gaps. -/
def toggle_gaps (s : Rwl) : Rwl :=
  (s.modifyDesk fun d => { d with gaps_enabled := !d.gaps_enabled }).arrange_all

/-- `toggle_focused_floating`. -/
def toggle_focused_floating (s : Rwl) : Rwl :=
  match s.desk.focused_window with
  | some w =>
      (s.modifyDesk fun d => d.modifyWindow w fun st =>
        { st with
          is_floating := !st.is_floating
          needs_centering := !st.is_floating || st.needs_centering }).arrange_all
  | none => s

/-- `set_fullscreen`. -/
def set_fullscreen (d : Desk) (w : WinId) (fs : Bool) : Desk :=
  d.modifyWindow w fun st => { st with is_fullscreen := fs }

/-- `toggle_focused_fullscreen`. -/
def toggle_focused_fullscreen (s : Rwl) : Rwl :=
  match s.desk.focused_window with
  | some w =>
      let new_fs := !(s.desk.st w).is_fullscreen
      let s₁ := (s.modifyDesk (set_fullscreen · w new_fs)).arrange_all
      (s₁.fire (.fullscreen w new_fs)).emit (.event (.fullscreen w))
  | none => s

/-! ### Scratchpads -/

/-- `find_scratch`. -/
def find_scratch (d : Desk) (key : Char) : Option WinId :=
  d.windows.find? fun w => decide ((d.st w).scratch_key = key)

/-- Hide a scratchpad and focus what is below it. -/
def hideScratch (s : Rwl) (w : WinId) : Rwl :=
  let s₁ := s.modifyDesk fun d =>
    { d.set_window_tags w 0 with focus_stack := d.focus_stack.filter fun v => decide (v ≠ w) }
  s₁.focus_top.arrange_all.warp_cursor_to_focused

/-- Show a scratchpad on the selected monitor's view and focus it. -/
def showScratch (s : Rwl) (w : WinId) : Rwl :=
  let show_tags := (s.desk.sel_monitor.map Monitor.tags).getD 1
  ((s.modifyDesk (Desk.set_window_tags · w show_tags)).focus_window
    (some w)).arrange_all.warp_cursor_to_focused

/-- `toggle_scratch`. -/
def toggle_scratch (s : Rwl) (cmd : ScratchCmd) : Rwl :=
  match find_scratch s.desk cmd.key with
  | some w =>
      if (s.desk.st w).visible_on (s.desk.tagsOf s.desk.sel_mon) then s.hideScratch w
      else s.showScratch w
  | none => s.spawn cmd.cmd

/-- `focus_or_toggle_scratch`. -/
def focus_or_toggle_scratch (s : Rwl) (cmd : ScratchCmd) : Rwl :=
  match find_scratch s.desk cmd.key with
  | some w => if s.desk.focused_window = some w then s.hideScratch w else s.showScratch w
  | none => s.spawn cmd.cmd

/-- `focus_or_toggle_matching_scratch`. -/
def focus_or_toggle_matching_scratch (s : Rwl) (cmd : ScratchCmd) : Rwl :=
  let match_id := (cmd.cmd.head?).getD ""
  let candidate := s.desk.windows.find? fun w =>
    decide ((s.desk.st w).scratch_key = cmd.key) ||
      (s.desk.st w).last_appid.any fun id => contains id match_id
  match candidate with
  | some w =>
      if (s.desk.st w).visible_on (s.desk.tagsOf s.desk.sel_mon) then s.hideScratch w
      else s.showScratch w
  | none => s.spawn cmd.cmd

/-! ### The rest -/

/-- `Action::TogglePassthrough`. -/
def toggle_passthrough (s : Rwl) : Rwl :=
  { s with keys := { s.keys with passthrough := !s.keys.passthrough } }

/-- `Action::ReloadConfig`. -/
def reload_config (s : Rwl) : Rwl :=
  let s₁ := (s.modifyDesk fun d => { d with cfg := s.config_file }).reapply_monitor_rules
  let s₂ := s₁.modifyDesk fun d =>
    { d with monitors := d.monitors.map fun m => pertag_layouts.apply d.cfg m m.tags }
  s₂.arrange_all.emit (.bar "all reload")

/-- The body of `dispatch`, for the actions that do not return early. -/
def perform (s : Rwl) : Action → Rwl
  | .Spawn cmd => s.spawn cmd
  | .FocusStack dir => s.focus_stack_step dir
  | .IncNmaster delta => s.inc_nmaster delta
  | .SetMfact delta => s.set_mfact delta
  | .Zoom => s.zoom
  | .ViewPrev => s.view_prev
  | .ViewNextOccTag dir => s.view_next_occ_tag dir
  | .KillClient => s.kill_focused
  | .SetLayout idx => s.set_layout idx
  | .CycleLayout => s.cycle_layout
  | .ResetLayout => s.reset_layout
  | .ToggleFloating => s.toggle_focused_floating
  | .ToggleFullscreen => s.toggle_focused_fullscreen
  | .TogglePassthrough => s.toggle_passthrough
  | .ToggleGaps => s.toggle_gaps
  | .View mask => s.view mask
  | .ViewTagSpawn mask => s.view_tag_spawn mask
  | .ToggleView mask => s.toggle_view mask
  | .Tag mask => s.tag mask
  | .ToggleTag mask => s.toggle_tag mask
  | .FocusMon dir => s.focus_mon dir
  | .TagMon dir => s.tag_mon dir
  | .ToggleScratch cmd => s.toggle_scratch cmd
  | .FocusOrToggleScratch cmd => s.focus_or_toggle_scratch cmd
  | .FocusOrToggleMatchingScratch cmd => s.focus_or_toggle_matching_scratch cmd
  | .Chvt vt => s.emit (.chvt vt)
  | .ReloadConfig => s.reload_config
  | .Quit => { s with running := false }
  | .ToggleBar => (s.emit (.bar "all toggle-visibility")).toggle_gaps
  | .BarPrompt => s.emit (.bar "selected prompt")
  | .ToggleOverview => overview.toggle s false
  | .ToggleOverviewAll => overview.toggle s true
  | .OverviewNav keysym => overview.handle_key s keysym
  | .TogglePip => pip.toggle s
  | .Lock => s.lock
  -- these two need the window under the cursor and act in `process_pointer_button`
  | .Move | .Resize => s
  -- the corner of the thumbnail is drawing data
  | .MovePip => s
  | .LockConsume | .Consumed => s
  -- handled by `dispatchWith`
  | .CallLua _ | .SendKeys _ => s

/-- Tell Lua and the event stream that the selected monitor's view or layout changed. -/
def notifyChanges (before after : Rwl) : Rwl :=
  match before.desk.sel_monitor, after.desk.sel_monitor with
  | some m, some m' =>
      if before.desk.sel_mon ≠ after.desk.sel_mon then after
      else
        let i := before.desk.sel_mon
        let s₁ := if m.tags ≠ m'.tags then
            (after.fire (.tag_switch m.tags m'.tags)).emit (.event (.tag i))
          else after
        if m.layout_idx ≠ m'.layout_idx then
          (s₁.fire (.layout_change m.layout_idx m'.layout_idx)).emit
            (.event (.layout i m.layout_idx m'.layout_idx))
        else s₁
  | _, _ => after

/-- The part of `dispatch` below the overview's. -/
def act (drain : Rwl → Rwl) (s : Rwl) : Action → Rwl
  | .CallLua name => drain (s.fire (.call name))
  | .SendKeys syms => s.emit (.text syms s.seat.kb_focus)
  | a => s.notifyChanges (s.perform a)

/-- The actions an open overview survives. -/
def keepsOverview : Action → Bool
  | .OverviewNav _ | .ToggleOverview | .ToggleOverviewAll | .Consumed => true
  | _ => false

/-- `dispatch`, with the drain that `CallLua` runs. -/
def dispatchWith (drain : Rwl → Rwl) (s : Rwl) (a : Action) : Rwl :=
  if s.overview.isNone ∨ keepsOverview a then s.act drain a
  else if a = .KillClient then overview.kill_selected s
  else (overview.force_close s).act drain a

/-! ### Lua commands -/

/-- `hooks::apply`. -/
def apply (s : Rwl) : HookCmd → Rwl
  | .Spawn argv => s.spawn argv
  | .View mask =>
      let mask := mask &&& s.desk.cfg.tag_mask
      if mask ≠ 0 then s.dispatchWith id (.View mask) else s
  | .Notify msg => s.emit (.notify msg)
  | .SetTags w mask =>
      let mask := mask &&& s.desk.cfg.tag_mask
      if mask ≠ 0 ∧ w ∈ s.desk.windows then
        (s.modifyDesk (Desk.set_window_tags · w mask)).arrange_all.focus_top
      else s
  | .SetFloating w floating =>
      if w ∈ s.desk.windows then
        (s.modifyDesk fun d => d.modifyWindow w fun st =>
          { st with
            is_floating := floating
            needs_centering := floating || st.needs_centering }).arrange_all
      else s
  | .Focus w => if w ∈ s.desk.windows then s.focus_window (some w) else s
  | .Close w => if (s.desk.client w).x11.isNone then s.emit (.close w) else s
  | .SetLayout idx => s.dispatchWith id (.SetLayout idx)
  | .Dispatch action => s.dispatchWith id action
  | .SetFullscreen w fs =>
      if w ∈ s.desk.windows then (s.modifyDesk (set_fullscreen · w fs)).arrange_all else s
  | .ToggleTags w mask =>
      let next := ((s.desk.st w).tags ^^^ (mask &&& s.desk.cfg.tag_mask)) &&& s.desk.cfg.tag_mask
      if mask &&& s.desk.cfg.tag_mask ≠ 0 ∧ w ∈ s.desk.windows ∧ next ≠ 0 then
        (s.modifyDesk (Desk.set_window_tags · w next)).arrange_all.focus_top
      else s
  | .MoveToMonitor w dir =>
      if w ∈ s.desk.windows then
        match s.desk.dir_to_monitor (s.desk.st w).mon_idx dir with
        | some next => (s.modifyDesk (sendTo · w next)).arrange_all.focus_top
        | none => s
      else s
  | .Warp w =>
      if w ∈ s.desk.windows then (s.focus_window (some w)).warp_cursor_to_focused else s
  | .SetScratch w key =>
      if w ∈ s.desk.windows then
        s.modifyDesk fun d => d.modifyWindow w fun st => { st with scratch_key := key }
      else s
  -- the wallpaper is drawing data
  | .SetWallpaper _ => s

/-- Rounds of `hooks::drain`. -/
def drainRounds : ℕ → Rwl → Rwl
  | 0, s => s
  | n + 1, s =>
      if s.hooks.queue.isEmpty then s
      else drainRounds n
        (s.hooks.queue.foldl apply { s with hooks := { s.hooks with queue := [] } })

/-- `hooks::drain`. -/
def drain (s : Rwl) : Rwl := drainRounds 8 s

/-- `dispatch`. -/
def dispatch (s : Rwl) (a : Action) : Rwl := s.dispatchWith drain a

end Rwl

/-! ### The end of the overview's closing animation -/

namespace overview

/-- `finish_close`. -/
def finish_close (s : Rwl) : Rwl :=
  match s.overview with
  | none => s
  | some ov =>
      let s₁ : Rwl := { s with overview := none }
      match ov.closing with
      | some (.Window w tag) =>
          let s₂ := if tag ≠ 0 ∧ tag ≠ s₁.desk.tagsOf s₁.desk.sel_mon then s₁.dispatch (.View tag)
            else s₁
          (s₂.focus_window (some w)).warp_cursor_to_focused
      | some .Cancel | none => s₁

/-- `advance`. -/
def advance (s : Rwl) : Rwl :=
  match s.overview with
  | none => s
  | some ov =>
      if ov.closing.isSome ∧ max s.desk.cfg.overview_animation_ms 1 ≤ s.desk.now - ov.anim_start then
        finish_close s
      else s

end overview

end Compositor
