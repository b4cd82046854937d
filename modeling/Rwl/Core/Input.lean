import Mathlib.Tactic.Common
import Rwl.Core.Actions
import Rwl.Core.GrabOps

/-!
# Input devices

* the key filter: `filterAction` (which action a key is taken for, if any) and `filterState`
  (what the filter writes);
* `process_key_event`, `start_key_repeat`, `key_repeat_tick`, `update_mod_tap`;
* `process_pointer_motion`, `process_pointer_motion_abs`;
* `process_pointer_button`: `consumedBy` says what takes a press away from the clients;
* `process_pointer_axis`.
-/

namespace Compositor

namespace Rwl

/-! ### The key filter -/

/-- `focused_app_id`. -/
def focused_app_id (d : Desk) : Option String := d.focused_window.bind fun w => (d.st w).last_appid

/-- The binding of a key, app-specific ones first. -/
def keyBinding (s : Rwl) (code : ℕ) (app_id : Option String) (extra : KeyBind → Bool) :
    Option Action :=
  (match_keybind s.desk.cfg.keys (s.seat.modified_sym code) (s.seat.base_sym code)
    (mods_to_bits s.seat.modifier_state) app_id extra).map KeyBind.action

/-- What an open overview makes of a press: the arrows navigate, a binding runs, anything else
goes to the overview. -/
def overviewKey (s : Rwl) (code : ℕ) : Action :=
  let keysym := s.seat.modified_sym code
  if keysym = xkb.KEY_Left ∨ keysym = xkb.KEY_Right ∨ keysym = xkb.KEY_Up ∨
      keysym = xkb.KEY_Down then .OverviewNav keysym
  else (s.keyBinding code (focused_app_id s.desk) fun _ => true).getD (.OverviewNav keysym)

/-- What a press means on an unlocked desktop. -/
def desktopKey (s : Rwl) (code : ℕ) : Option Action :=
  if s.overview.isSome then some (s.overviewKey code)
  else if s.pip.isSome ∧ s.seat.modified_sym code = xkb.KEY_Escape ∧
      clean_mask (mods_to_bits s.seat.modifier_state) = 0 then some .TogglePip
  else if s.keys.passthrough then
    s.keyBinding code none fun b => decide (b.action = .TogglePassthrough)
  else s.keyBinding code (focused_app_id s.desk) fun _ => true

/-- The filter of `process_key_event`, once the keyboard has the transition: the action the key
is intercepted for, `none` when it is forwarded. -/
def filterAction (s : Rwl) (code : ℕ) (pressed : Bool) : Option Action :=
  if s.session.native_lock.isSome then some .LockConsume
  else if s.seat.modified_sym code = xkb.KEY_NoSymbol then none
  else if pressed = false then if code ∈ s.keys.intercepted_keys then some .Consumed else none
  else if s.session.locked then none
  else s.desktopKey code

/-- Remove a key from `intercepted_keys`. -/
def forgetKey (s : Rwl) (code : ℕ) : Rwl :=
  { s with keys := { s.keys with
      intercepted_keys := s.keys.intercepted_keys.filter fun k => decide (k ≠ code) } }

/-- Add a key to `intercepted_keys`. -/
def rememberKey (s : Rwl) (code : ℕ) : Rwl :=
  { s with keys := { s.keys with intercepted_keys := code :: s.keys.intercepted_keys } }

/-- What the filter writes: the native locker's buffer, and the set it takes a release from. -/
def filterState (s : Rwl) (code : ℕ) (pressed : Bool) : Rwl :=
  if s.session.native_lock.isSome then
    if pressed then s.feed_key (s.seat.modified_sym code) (s.seat.key_char code) else s
  else if s.seat.modified_sym code = xkb.KEY_NoSymbol then s
  else if pressed = false then s.forgetKey code
  else s

/-- `KeyboardHandle::input`: the state after the key, and the action it was intercepted for. -/
def keyInput (s : Rwl) (code : ℕ) (pressed : Bool) : Rwl × Option Action :=
  if s.seat.is_transition code pressed then
    let s₁ := s.modifySeat (Seat.key_input · code pressed)
    let s₂ := s₁.filterState code pressed
    match s₁.filterAction code pressed with
    | some a => (s₂.emit (.keyIntercepted code pressed), some a)
    | none => (s₂.key_forward code pressed, none)
  else (s, none)

/-! ### Key repeat and mod-tap -/

/-- `start_key_repeat`. -/
def start_key_repeat (s : Rwl) (a : Action) : Rwl :=
  let cfg := s.desk.cfg
  if cfg.repeat_delay ≤ 0 ∨ cfg.repeat_rate ≤ 0 then s.cancelRepeat
  else { s with keys := { s.keys with key_repeat_timer := true, key_repeat_action := some a } }

/-- The key-repeat timer fires. -/
def key_repeat_tick (s : Rwl) : Rwl :=
  if s.keys.key_repeat_timer then
    match s.keys.key_repeat_action with
    | some a => s.dispatch a
    | none => s
  else s

/-- Set the mod-tap candidate. -/
def setModTap (s : Rwl) (m : Option (ℕ × ℕ)) : Rwl := { s with keys := { s.keys with mod_tap := m } }

/-- The candidate after a press that takes the modifiers from `before` to `after`. -/
def armModTap (now before after : ℕ) (cand : Option (ℕ × ℕ)) : Option (ℕ × ℕ) :=
  let newly := after ^^^ (after &&& before)
  if newly = 0 then none
  else if newly &&& MODKEY ≠ 0 then some (now, after)
  else cand.map fun (_, peak) => (now, peak ||| after)

/-- The action the release of the mod key fires. -/
def modTapAction (s : Rwl) : Option Action :=
  s.keys.mod_tap.bind fun (start, peak) =>
    if s.desk.now - start ≤ 250 then (mod_tap_bind s.desk.cfg.keys peak).map KeyBind.action
    else none

/-- `update_mod_tap`. -/
def update_mod_tap (s : Rwl) (pressed : Bool) (bits_before bits_after : ℕ) : Rwl :=
  if pressed then s.setModTap (armModTap s.desk.now bits_before bits_after s.keys.mod_tap)
  else if bits_before &&& MODKEY ≠ 0 ∧ bits_after &&& MODKEY = 0 then
    match s.modTapAction with
    | some a => (s.setModTap none).dispatch a
    | none => s.setModTap none
  else s

/-- Run the action of a key. -/
def runAction (s : Rwl) (a : Action) : Rwl :=
  if action_should_repeat a then (s.dispatch a).start_key_repeat a else (s.dispatch a).cancelRepeat

/-- The part of `process_key_event` between the filter and the mod-tap gesture. -/
def afterFilter (s : Rwl) (code : ℕ) (pressed : Bool) (act : Option Action) : Rwl :=
  let s₁ := if pressed then (if act.isSome then s.rememberKey code else s) else s.cancelRepeat
  match act with
  | some a => s₁.runAction a
  | none => s₁

/-- `process_key_event`. -/
def process_key_event (s : Rwl) (code : ℕ) (pressed : Bool) : Rwl :=
  let bits_before := mods_to_bits s.seat.modifier_state
  let s₁ := (s.keyInput code pressed).1.afterFilter code pressed (s.keyInput code pressed).2
  s₁.update_mod_tap pressed bits_before (mods_to_bits s₁.seat.modifier_state)

/-! ### Pointer motion -/

/-- `sel_layout_is_monocle`. -/
def sel_layout_is_monocle (d : Desk) : Bool :=
  d.sel_monitor.any fun m => decide (m.layout_kind d.cfg = .Monocle)

/-- Focus follows the pointer onto a window that is not focused yet. -/
def mouseFocus (s : Rwl) (loc : PointF) : Rwl :=
  if s.desk.cfg.mouse_focus ∧ s.grab.cursor_mode = .Normal ∧ s.keys.passthrough = false ∧
      sel_layout_is_monocle s.desk = false then
    match s.desk.element_under loc with
    | some w => if s.desk.focused_window ≠ some w then s.focus_window (some w) else s
    | none => s
  else s

/-- The pointer goes to `loc`. Only the relative handler routes hover to an open overview. -/
def pointerTo (hovers : Bool) (s : Rwl) (loc : PointF) : Rwl :=
  let s := s.modifyDesk fun d => { d with sel_mon := (d.monitor_at loc).getD d.sel_mon }
  if s.session.locked then s.ptr_motion (s.pointer_focus_under loc) loc
  else match s.grab.cursor_mode with
    | .Move => (grab.handle_move s loc).ptr_motion none loc
    | .Resize => (grab.handle_resize s loc).ptr_motion none loc
    | .Normal | .Pressed =>
        if hovers ∧ s.overview.isSome then
          overview.handle_pointer_motion (s.ptr_motion none loc) loc
        else
          let s' := s.mouseFocus loc
          s'.ptr_motion (s'.pointer_focus_under loc) loc

/-- Where a relative motion takes the pointer. -/
def relLocation (s : Rwl) (dx dy : ℚ) : PointF :=
  s.desk.clamp_pointer ⟨s.seat.location.x + dx, s.seat.location.y + dy⟩

/-- `process_pointer_motion`. -/
def process_pointer_motion (s : Rwl) (dx dy : ℚ) : Rwl := pointerTo true s (s.relLocation dx dy)

/-- Where a position in fractions of the selected monitor is. -/
def absLocation (s : Rwl) (fx fy : ℚ) : PointF :=
  s.desk.clamp_pointer (match s.desk.sel_monitor with
    | some mon => ⟨mon.m.loc.x + fx * mon.m.size.w, mon.m.loc.y + fy * mon.m.size.h⟩
    | none => ⟨fx * 1920, fy * 1080⟩)

/-- `process_pointer_motion_abs`. -/
def process_pointer_motion_abs (s : Rwl) (fx fy : ℚ) : Rwl := pointerTo false s (s.absLocation fx fy)

/-! ### Pointer buttons -/

/-- `PointerHandle::button`. -/
def deliverButton (s : Rwl) (btn : ℕ) (pressed : Bool) (serial : ℕ) : Rwl :=
  (s.modifySeat fun se => (se.button btn pressed serial).2).emit
    (.button btn pressed (s.seat.button btn pressed serial).1)

/-- The button binding of a press. -/
def buttonBinding (s : Rwl) (btn : ℕ) : Option Action :=
  (match_buttonbind s.desk.cfg.buttons btn (mods_to_bits s.seat.modifier_state)
    (focused_app_id s.desk)).map ButtonBind.action

/-- Set the cursor mode. -/
def setCursorMode (s : Rwl) (mode : CursorMode) : Rwl :=
  { s with grab := { s.grab with cursor_mode := mode } }

/-- A press on the desktop before the bindings: the mode, and click-to-focus. -/
def pressFocus (s : Rwl) (under : Option WinId) : Rwl :=
  match under with
  | some w =>
      if s.keys.passthrough then s.setCursorMode .Pressed
      else (s.setCursorMode .Pressed).focus_window (some w)
  | none => s.setCursorMode .Pressed

/-- The binding that takes the press away from the clients. -/
def boundAction (s : Rwl) (btn : ℕ) : Option Action :=
  if s.keys.passthrough then none
  else (s.pressFocus (s.desk.element_under s.seat.location)).buttonBinding btn

/-- Run a button binding; the grabs need a window under the cursor. -/
def runButton (s : Rwl) (under : Option WinId) : Action → Rwl
  | .Move => match under with
      | some w => grab.start_move s w
      | none => s
  | .Resize => match under with
      | some w => grab.start_resize s w
      | none => s
  | a => s.dispatch a

/-- A release on the desktop ends a grab. -/
def releaseGrab (s : Rwl) : Rwl :=
  if s.grab.cursor_mode = .Move ∨ s.grab.cursor_mode = .Resize then grab.end_grab s
  else s.setCursorMode .Normal

/-- `process_pointer_button`. -/
def process_pointer_button (s : Rwl) (btn : ℕ) (pressed : Bool) (serial : ℕ) : Rwl :=
  if s.session.locked then s.deliverButton btn pressed serial
  else
    let s := s.setModTap none
    if s.overview.isSome then
      (if pressed then overview.handle_pointer_click s s.seat.location else s).emit
        (.buttonConsumed btn pressed)
    else if pressed then
      let under := s.desk.element_under s.seat.location
      match s.boundAction btn with
      | some a => ((s.pressFocus under).runButton under a).emit (.buttonConsumed btn true)
      | none => (s.pressFocus under).deliverButton btn true serial
    else s.releaseGrab.deliverButton btn false serial

/-! ### Scrolling -/

/-- What a device reports of one axis. -/
structure AxisAmount where
  amount : ℚ
  v120 : Option ℚ
  deriving DecidableEq

/-- One axis of the frame: a zero amount is the end of the scroll. -/
def axisPart (factor : ℚ) (a : AxisAmount) : AxisPart :=
  if a.amount = 0 then .stop
  else .value (a.amount * factor) (a.v120.map fun d => truncZero (d * factor))

/-- The frame `process_pointer_axis` sends. -/
def axisFrame (cfg : Config) (source : AxisSource) (horizontal vertical : Option AxisAmount) :
    AxisFrame :=
  let factor := match source with
    | .Finger | .Continuous => cfg.touchpad_scroll_factor
    | .Wheel | .WheelTilt => cfg.mouse_scroll_factor
  ⟨source, horizontal.map (axisPart factor), vertical.map (axisPart factor)⟩

/-- `process_pointer_axis`: a lost pointer focus is found again first. -/
def process_pointer_axis (s : Rwl) (source : AxisSource) (horizontal vertical : Option AxisAmount) :
    Rwl :=
  let s₁ := if s.seat.ptr_focus.isNone then s.reevaluate_pointer else s
  let s₂ := s₁.modifySeat Seat.axis
  s₂.emit (.axis (axisFrame s.desk.cfg source horizontal vertical) s₂.seat.ptr_focus)

end Rwl

end Compositor
