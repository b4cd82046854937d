import Mathlib.Tactic.Common
import Rwl.Core.Focus

/-!
# Session locks

* the native locker: `LockState` editing (`push`, `backspace`, `clear`, `submit`), `lock`,
  `feed_key`, `on_auth_result`, `flash_expired`, `unlock`;
* `release_all_pressed_keys`;
* the `ext-session-lock-v1` handler: `ext_lock`, `ext_unlock`, `ext_destroy`, `new_surface`,
  and what a client's death does to its objects.
-/

namespace Compositor

/-! ### The password buffer -/

/-- `PASSWORD_CAP`, in bytes. -/
def PASSWORD_CAP : ℕ := 1024

namespace LockState

/-- `password.len()`. -/
def len (l : LockState) : ℕ := (l.password.map Char.utf8Size).sum

/-- `LockState::push`. -/
def push (l : LockState) (c : Char) : LockState :=
  if l.phase = .Authenticating ∨ PASSWORD_CAP ≤ l.len then l
  else { l with password := l.password ++ [c] }

/-- `LockState::backspace`. -/
def backspace (l : LockState) : LockState :=
  if l.phase = .Authenticating then l else { l with password := l.password.dropLast }

/-- `LockState::clear`. -/
def clear (l : LockState) : LockState :=
  if l.phase = .Authenticating then l else { l with password := [] }

/-- Whether `submit` starts a check. -/
def submits (l : LockState) : Prop := l.phase ≠ .Authenticating ∧ l.password ≠ []

instance (l : LockState) : Decidable l.submits := inferInstanceAs (Decidable (_ ∧ _))

end LockState

/-- `char::is_control`. -/
def is_control (c : Char) : Bool :=
  decide (c.toNat ≤ 0x1f ∨ 0x7f ≤ c.toNat ∧ c.toNat ≤ 0x9f)

/-! ### Keysyms -/

namespace xkb

def KEY_NoSymbol : ℕ := 0
def KEY_BackSpace : ℕ := 0xff08
def KEY_Return : ℕ := 0xff0d
def KEY_Escape : ℕ := 0xff1b
def KEY_Left : ℕ := 0xff51
def KEY_Up : ℕ := 0xff52
def KEY_Right : ℕ := 0xff53
def KEY_Down : ℕ := 0xff54
def KEY_KP_Enter : ℕ := 0xff8d

end xkb

/-! ### Keys that reach a client -/

namespace Rwl

/-- `KeyboardHandle::input_forward`. -/
def key_forward (s : Rwl) (code : ℕ) (pressed : Bool) : Rwl :=
  let s' := s.modifySeat (Seat.input_forward · code pressed)
  s'.emit (.key code pressed s'.seat.kb_focus)

/-- `KeyboardHandle::input` of a synthetic release that is always forwarded. -/
def releaseKey (s : Rwl) (code : ℕ) : Rwl :=
  if s.seat.is_transition code false then
    (s.modifySeat (Seat.key_input · code false)).key_forward code false
  else s

/-- `release_all_pressed_keys`. -/
def release_all_pressed_keys (s : Rwl) : Rwl := s.seat.pressed_keys.foldl releaseKey s

/-! ### The native locker -/

/-- Change the session. -/
def modifySession (s : Rwl) (f : Session → Session) : Rwl := { s with session := f s.session }

/-- Stop the key repeat. -/
def cancelRepeat (s : Rwl) : Rwl :=
  { s with keys := { s.keys with key_repeat_timer := false, key_repeat_action := none } }

/-- The session with the native locker engaged. -/
def engage (ss : Session) : Session :=
  { ss with
    locked := true
    native_lock := some
      { password := [], phase := .Typing, channel := ss.next_channel, flash_timer := false }
    next_channel := ss.next_channel + 1 }

/-- `lock::lock`. -/
def lock (s : Rwl) : Rwl :=
  if s.session.locked ∨ s.session.native_lock.isSome then s
  else
    let s₁ := (s.modifySession engage).fire .lock
    let s₂ := ({ s₁ with grab := { s₁.grab with cursor_mode := .Normal } } : Rwl).cancelRepeat
    (s₂.kb_set_focus none).reevaluate_pointer

/-- `LockState::submit`, with the worker it starts. -/
def submit (ss : Session) (l : LockState) : Session :=
  if l.submits then
    { ss with
      native_lock := some { l with phase := .Authenticating, password := [] }
      workers := ss.workers ++ [l.channel] }
  else ss

/-- The session after `feed_key`. -/
def feed (ss : Session) (l : LockState) (keysym : ℕ) (ch : Option Char) : Session :=
  if keysym = xkb.KEY_Return ∨ keysym = xkb.KEY_KP_Enter then submit ss l
  else if keysym = xkb.KEY_Escape then { ss with native_lock := some l.clear }
  else if keysym = xkb.KEY_BackSpace then { ss with native_lock := some l.backspace }
  else match ch with
    | some c => if is_control c then ss else { ss with native_lock := some (l.push c) }
    | none => ss

/-- `feed_key`. -/
def feed_key (s : Rwl) (keysym : ℕ) (ch : Option Char) : Rwl :=
  match s.session.native_lock with
  | some l => s.modifySession fun ss => feed ss l keysym ch
  | none => s

/-- The session once the native locker is gone; the pending flash timer goes with it. -/
def disengage (ss : Session) : Session :=
  { ss with
    locked := false
    native_lock := none
    flash_timers :=
      if ss.native_lock.any LockState.flash_timer then ss.flash_timers - 1 else ss.flash_timers }

/-- `lock::unlock`. -/
def unlock (s : Rwl) : Rwl :=
  let s₁ := ((s.modifySession disengage).fire .unlock).release_all_pressed_keys
  (s₁.kb_set_focus (s₁.desk.focused_window.bind s₁.desk.wl_surface)).reevaluate_pointer

/-- A rejected attempt: the bar flashes until a one-shot timer fires. -/
def reject (ss : Session) : Session :=
  match ss.native_lock with
  | some l =>
      { ss with
        native_lock := some { l with password := [], phase := .Failed, flash_timer := true }
        flash_timers := ss.flash_timers + 1 }
  | none => ss

/-- `on_auth_result`. -/
def on_auth_result (s : Rwl) (ok : Bool) : Rwl :=
  if ok then s.unlock else s.modifySession reject

/-- The worker at position `i` reports; the result reaches the locker when its channel is still
registered. -/
def worker_done (s : Rwl) (i : ℕ) (ok : Bool) : Rwl :=
  match s.session.workers[i]? with
  | none => s
  | some c =>
      let s' := s.modifySession fun ss => { ss with workers := ss.workers.eraseIdx i }
      if s.session.native_lock.any fun l => decide (l.channel = c) then s'.on_auth_result ok else s'

/-- A failure-flash timer fires. -/
def flash_expired (s : Rwl) : Rwl :=
  if s.session.flash_timers = 0 then s
  else s.modifySession fun ss =>
    { ss with
      flash_timers := ss.flash_timers - 1
      native_lock := ss.native_lock.map fun l =>
        { l with flash_timer := false, phase := if l.phase = .Failed then .Typing else l.phase } }

/-! ### External lock clients -/

/-- `SessionLockHandler::lock` for the new lock object `obj` of `client`. -/
def ext_lock (s : Rwl) (obj client : ℕ) : Rwl :=
  let create (confirmed : Bool) (ss : Session) : Session :=
    { ss with ext_locks := Function.update ss.ext_locks obj (some ⟨client, confirmed⟩) }
  if (s.session.ext_locks obj).isSome then s
  else if s.session.native_lock.isSome then
    (s.modifySession (create false)).emit (.lockFinished obj)
  else
    let s₁ := s.modifySession fun ss => { create true ss with locked := true }
    ((s₁.emit (.lockConfirmed obj)).fire .lock).reevaluate_pointer

/-- `SessionLockHandler::unlock`. -/
def session_unlock (s : Rwl) : Rwl :=
  if s.session.native_lock.isSome then s
  else
    let s₁ := (s.modifySession fun ss => { ss with locked := false, lock_surfaces := [] }).fire
      .unlock
    (s₁.kb_set_focus (s₁.desk.focused_window.bind s₁.desk.wl_surface)).reevaluate_pointer

/-- `unlock_and_destroy`: an object that was never confirmed gets a protocol error, and the
handler runs all the same. -/
def ext_unlock (s : Rwl) (obj : ℕ) : Rwl :=
  if (s.session.ext_locks obj).isNone then s
  else s.session_unlock.modifySession fun ss =>
    { ss with ext_locks := Function.update ss.ext_locks obj none }

/-- `destroy`: refused for a confirmed object. -/
def ext_destroy (s : Rwl) (obj : ℕ) : Rwl :=
  if (s.session.ext_locks obj).any ExtLock.confirmed then s
  else s.modifySession fun ss =>
    { ss with ext_locks := Function.update ss.ext_locks obj none }

/-- `SessionLockHandler::new_surface`. -/
def new_surface (s : Rwl) (surface : SurfaceId) (output : Option OutputId) : Rwl :=
  if s.session.native_lock.isSome then s
  else
    let s₁ := match output.or (s.desk.monitors.head?.map Monitor.output) with
      | some o => s.modifySession fun ss =>
          { ss with lock_surfaces := ss.lock_surfaces ++ [(surface, o)] }
      | none => s
    s₁.kb_set_focus (some surface)

/-- `get_lock_surface` on the lock object `obj`. -/
def ext_get_surface (s : Rwl) (obj : ℕ) (surface : SurfaceId) (output : Option OutputId) : Rwl :=
  if (s.session.ext_locks obj).isNone then s else s.new_surface surface output

/-- A client's lock objects and surfaces go with it; nothing unlocks. -/
def client_disconnected (s : Rwl) (client : ℕ) : Rwl :=
  let s₁ := s.modifySession fun ss =>
    { ss with ext_locks := fun o => (ss.ext_locks o).filter fun l => decide (l.client ≠ client) }
  s₁.modifySeat fun se =>
    { se with
      alive := fun f => se.alive f && decide (se.owner f ≠ client)
      active_grabs := se.active_grabs.filter fun g => decide (se.owner g ≠ client) }

end Rwl

end Compositor
