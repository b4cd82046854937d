import Mathlib.Tactic.Common
import Rwl.Core.Arrange
import Rwl.Core.Seat

/-!
# The compositor state

`Rwl`, split into the parts its handlers work on:

* `Desk` (windows and monitors) and `Seat` (keyboard and pointer), from their own modules;
* `Keys`: the bookkeeping of `process_key_event`;
* `Grab`: an interactive move or resize;
* `Session`: the lock flag, the native locker, the external lock objects, the workers that
  check a password;
* `OverviewState`, `PipState`, `Screencopy`, `Hooks`;
* `Effect`: what leaves the compositor, newest first in `Rwl.out`.
-/

namespace Compositor

/-! ### Hooks -/

/-- The fields an `on_window_rule` callback may override. -/
structure RuleOverride where
  tags : Option ℕ
  floating : Option Bool
  monitor : Option ℤ
  switch_to_tag : Option Bool
  scratch_key : Option Char
  no_swallow : Option Bool

/-- A command a Lua callback enqueues. -/
inductive HookCmd
  | Spawn (argv : List String)
  | View (mask : ℕ)
  | Notify (msg : String)
  | SetTags (w : WinId) (mask : ℕ)
  | SetFloating (w : WinId) (floating : Bool)
  | Focus (w : WinId)
  | Close (w : WinId)
  | SetLayout (idx : ℕ)
  | Dispatch (action : Action)
  | SetFullscreen (w : WinId) (fs : Bool)
  | ToggleTags (w : WinId) (mask : ℕ)
  | MoveToMonitor (w : WinId) (dir : ℤ)
  | Warp (w : WinId)
  | SetScratch (w : WinId) (key : Char)
  | SetWallpaper (path : Option String)

/-- A call of a Lua callback. -/
inductive HookCall
  | window_open (w : WinId)
  | window_close (w : WinId)
  | focus (w : WinId)
  | startup
  | tag_switch (old new : ℕ)
  | title_change (w : WinId) (title : String)
  | layout_change (old new : ℕ)
  | fullscreen (w : WinId) (fs : Bool)
  | monitor_add (o : OutputId)
  | monitor_remove (o : OutputId)
  | monitor_layout
  | urgency (w : WinId)
  | lock
  | unlock
  | window_rule (w : WinId)
  | call (name : String)

/-- The user's Lua machine: the commands each call enqueues and what each `on_window_rule` call
returns, by the number of the call. -/
structure Lua where
  callback : ℕ → HookCall → List HookCmd
  window_rule : ℕ → WinId → Option RuleOverride

/-- The command queue, the number of calls so far and the window `on_focus` last fired for. -/
structure Hooks where
  queue : List HookCmd
  calls : ℕ
  last_focus : Option SurfaceId
  startup_done : Bool

/-! ### Input bookkeeping -/

/-- What `process_key_event` keeps between events. `mod_tap` is the start time and the
modifiers of the gesture. -/
structure Keys where
  intercepted_keys : List ℕ
  key_repeat_timer : Bool
  key_repeat_action : Option Action
  mod_tap : Option (ℕ × ℕ)
  passthrough : Bool

/-- `CursorMode`. -/
inductive CursorMode
  | Normal
  | Pressed
  | Move
  | Resize
  deriving DecidableEq

/-- An interactive move or resize. -/
structure Grab where
  cursor_mode : CursorMode
  grabbed_window : Option WinId
  grab_start : Option PointF
  grab_geom : Option Rect
  grab_mfact : Option ℚ
  grab_cfact : Option ℚ
  grab_col_idx : Option ℕ
  grab_col_facts : Option (List ℚ)
  grab_was_floating : Bool

/-- No grab, with the given cursor mode. -/
def Grab.idle (mode : CursorMode) : Grab where
  cursor_mode := mode
  grabbed_window := none
  grab_start := none
  grab_geom := none
  grab_mfact := none
  grab_cfact := none
  grab_col_idx := none
  grab_col_facts := none
  grab_was_floating := false

/-! ### The session -/

/-- The phase of the native locker. -/
inductive Phase
  | Typing
  | Authenticating
  | Failed
  deriving DecidableEq

/-- The native locker. `channel` names the result channel its workers report to. -/
structure LockState where
  password : List Char
  phase : Phase
  channel : ℕ
  flash_timer : Bool
  deriving DecidableEq

/-- An `ext_session_lock_v1` object: the client that holds it, and whether its lock was
confirmed. -/
structure ExtLock where
  client : ℕ
  confirmed : Bool
  deriving DecidableEq

/-- The lock state. `workers` are the channels of the password checks in flight, `flash_timers`
the one-shot timers pending in the event loop. -/
structure Session where
  locked : Bool
  native_lock : Option LockState
  lock_surfaces : List (SurfaceId × OutputId)
  ext_locks : ℕ → Option ExtLock
  workers : List ℕ
  next_channel : ℕ
  flash_timers : ℕ

/-! ### Overview, Picture-in-Picture, screencopy -/

/-- One thumbnail of the overview. -/
structure OverviewCell where
  window : WinId
  source : Rect
  target : Rect
  hint : List Char
  tag : ℕ

/-- Where a closing overview is heading. -/
inductive Selection
  | Window (w : WinId) (tag : ℕ)
  | Cancel

/-- An overview session. -/
structure OverviewState where
  cells : List OverviewCell
  output : OutputId
  typed : List Char
  hovered : Option ℕ
  selected : Option ℕ
  all_tags : Bool
  anim_start : ℕ
  closing : Option Selection

/-- A Picture-in-Picture window. -/
structure PipState where
  window : WinId
  output : OutputId
  deriving DecidableEq

/-- A screencopy frame object: the output it captures, `none` when the capture failed at once,
and whether it was copied already. -/
structure ScreencopyFrame where
  capture : Option OutputId
  used : Bool

/-- A queued copy. -/
structure PendingFrame where
  frame : ℕ
  output : OutputId
  deriving DecidableEq

/-- The screencopy objects and the queue served by the next frame of each output. -/
structure Screencopy where
  frames : ℕ → Option ScreencopyFrame
  pending_screencopy_frames : List PendingFrame

/-! ### Effects -/

/-- The events of the IPC stream. -/
inductive IpcEvent
  | open (w : WinId)
  | close (w : WinId)
  | title (w : WinId)
  | focus (w : Option WinId)
  | fullscreen (w : WinId)
  | tag (mon_idx : ℕ)
  | layout (mon_idx old new : ℕ)
  | monitor_add (o : OutputId)
  | monitor_remove (o : OutputId)
  | urgency (w : WinId)
  deriving DecidableEq

/-- What produced a scroll event. -/
inductive AxisSource
  | Finger
  | Continuous
  | Wheel
  | WheelTilt
  deriving DecidableEq

/-- What a scroll frame says of one axis. -/
inductive AxisPart
  | stop
  | value (v : ℚ) (v120 : Option ℤ)
  deriving DecidableEq

/-- A scroll frame as a client gets it. -/
structure AxisFrame where
  source : AxisSource
  horizontal : Option AxisPart
  vertical : Option AxisPart
  deriving DecidableEq

/-- What the compositor does to the outside. -/
inductive Effect
  | key (code : ℕ) (pressed : Bool) (target : Option SurfaceId)
  | keyIntercepted (code : ℕ) (pressed : Bool)
  | text (syms : List ℕ) (target : Option SurfaceId)
  | button (btn : ℕ) (pressed : Bool) (target : Option SurfaceId)
  | buttonConsumed (btn : ℕ) (pressed : Bool)
  | motion (target : Option SurfaceId)
  | axis (frame : AxisFrame) (target : Option SurfaceId)
  | spawn (cmd : List String)
  | close (w : WinId)
  | print_status
  | event (e : IpcEvent)
  | notify (msg : String)
  | bar (cmd : String)
  | chvt (vt : ℕ)
  | composited (o : OutputId) (locked : Bool)
  | frameReady (frame : ℕ)
  | frameFailed (frame : ℕ)
  | lockConfirmed (obj : ℕ)
  | lockFinished (obj : ℕ)

/-! ### The whole state -/

/-- The compositor. `config_file` is what a reload would read, `lua` the user's callbacks;
`tag_transition_was_active` and `post_transition_wakeup` follow a tag slide from frame to frame. -/
structure Rwl where
  desk : Desk
  seat : Seat
  keys : Keys
  grab : Grab
  session : Session
  overview : Option OverviewState
  pip : Option PipState
  screencopy : Screencopy
  hooks : Hooks
  lua : Lua
  config_file : Config
  initial_warp_done : Bool
  tag_transition_was_active : Bool
  post_transition_wakeup : ℕ
  running : Bool
  out : List Effect

end Compositor
