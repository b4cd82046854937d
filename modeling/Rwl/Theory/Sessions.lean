import Mathlib.Tactic.Common
import Rwl.Theory.StepActs

/-!
# The lock state

* `Locks`: the event locks the session;
* `SessionStep`: what an event may do to the lock state, one constructor for each way;
* `step_session`: every event does one of them.
-/

namespace Compositor

namespace Rwl

/-! ### What an event may do -/

/-- The lock state once the worker at position `i` has reported. -/
def withoutWorker (i : ℕ) (ss : Session) : Session := { ss with workers := ss.workers.eraseIdx i }

/-- The lock state with another entry for the lock object `obj`. -/
def setExtLock (obj : ℕ) (l : Option ExtLock) (ss : Session) : Session :=
  { ss with ext_locks := Function.update ss.ext_locks obj l }

/-- The lock state without the objects of a client. -/
def dropClient (client : ℕ) (ss : Session) : Session :=
  { ss with ext_locks := fun o => (ss.ext_locks o).filter fun l => decide (l.client ≠ client) }

/-- The lock state after a failure flash. -/
def unflash (ss : Session) : Session :=
  { ss with
    flash_timers := ss.flash_timers - 1
    native_lock := ss.native_lock.map fun l =>
      { l with flash_timer := false, phase := if l.phase = .Failed then .Typing else l.phase } }

/-- The event locks the session. -/
def Locks (s : Rwl) (e : Event) : Prop :=
  s.session.locked = false ∧ (step s e).session.locked = true

instance (s : Rwl) (e : Event) : Decidable (s.Locks e) := inferInstanceAs (Decidable (_ ∧ _))

/-- The events of the external lock protocol. -/
def Event.isExtLock : Event → Bool
  | .ext_lock .. | .ext_unlock .. | .ext_destroy .. | .ext_get_surface .. => true
  | .client_disconnected .. => true
  | _ => false

/-- One event, the lock state before it and the lock state after it. -/
inductive SessionStep : Event → Session → Session → Prop
  | same (e ss) : SessionStep e ss ss
  /-- The native locker engages. -/
  | engage (e ss) : e.isExtLock = false → ss.locked = false → ss.native_lock = none →
      SessionStep e ss (engage ss)
  /-- The native locker takes a key. -/
  | feed (code pressed ss l keysym ch) : ss.native_lock = some l →
      SessionStep (.key code pressed) ss (feed ss l keysym ch)
  /-- A password check reports to a locker that is gone. -/
  | late (i ok ss c) : ss.workers[i]? = some c →
      ss.native_lock.any (fun l => decide (l.channel = c)) = false →
      SessionStep (.auth i ok) ss (withoutWorker i ss)
  | accepted (i ss c) : ss.workers[i]? = some c →
      ss.native_lock.any (fun l => decide (l.channel = c)) = true →
      SessionStep (.auth i true) ss (disengage (withoutWorker i ss))
  | rejected (i ss c) : ss.workers[i]? = some c →
      ss.native_lock.any (fun l => decide (l.channel = c)) = true →
      SessionStep (.auth i false) ss (reject (withoutWorker i ss))
  | flash (ss) : SessionStep .flash ss (unflash ss)
  /-- A lock request while the native locker is engaged. -/
  | refused (obj client ss) : ss.ext_locks obj = none → ss.native_lock.isSome = true →
      SessionStep (.ext_lock obj client) ss (setExtLock obj (some ⟨client, false⟩) ss)
  /-- A lock request is confirmed, whether the session is locked or not. -/
  | confirmed (obj client ss) : ss.ext_locks obj = none → ss.native_lock = none →
      SessionStep (.ext_lock obj client) ss
        { setExtLock obj (some ⟨client, true⟩) ss with locked := true }
  /-- `unlock_and_destroy` while the native locker is engaged. -/
  | ignored (obj ss) : (ss.ext_locks obj).isSome = true → ss.native_lock.isSome = true →
      SessionStep (.ext_unlock obj) ss (setExtLock obj none ss)
  /-- `unlock_and_destroy` unlocks, from whatever object it comes. -/
  | unlocked (obj ss) : (ss.ext_locks obj).isSome = true → ss.native_lock = none →
      SessionStep (.ext_unlock obj) ss
        { setExtLock obj none ss with locked := false, lock_surfaces := [] }
  | destroyed (obj ss) : (ss.ext_locks obj).any ExtLock.confirmed = false →
      SessionStep (.ext_destroy obj) ss (setExtLock obj none ss)
  | surface (obj f output ss o) : ss.native_lock = none →
      SessionStep (.ext_get_surface obj f output) ss
        { ss with lock_surfaces := ss.lock_surfaces ++ [(f, o)] }
  | disconnected (client ss) : SessionStep (.client_disconnected client) ss (dropClient client ss)

/-! ### Every event does one of them -/

theorem native_lock_feed {ss : Session} {l : LockState} (keysym : ℕ) (ch : Option Char)
    (h : ss.native_lock = some l) : (feed ss l keysym ch).native_lock.isSome = true := by
  have hss : ss.native_lock.isSome = true := by rw [h]; rfl
  unfold feed submit
  split_ifs
  · rfl
  · exact hss
  · rfl
  · rfl
  · split
    · split_ifs
      · exact hss
      · rfl
    · exact hss

/-- A key changes nothing of the lock state but the locker and its workers. -/
theorem feed_same (ss : Session) (l : LockState) (keysym : ℕ) (ch : Option Char) :
    (feed ss l keysym ch).locked = ss.locked ∧ (feed ss l keysym ch).ext_locks = ss.ext_locks := by
  unfold feed submit
  split_ifs
  · exact ⟨rfl, rfl⟩
  · exact ⟨rfl, rfl⟩
  · exact ⟨rfl, rfl⟩
  · exact ⟨rfl, rfl⟩
  · split
    · split_ifs <;> exact ⟨rfl, rfl⟩
    · exact ⟨rfl, rfl⟩

theorem reject_same (ss : Session) :
    (reject ss).locked = ss.locked ∧ (reject ss).ext_locks = ss.ext_locks ∧
      (reject ss).native_lock.isSome = ss.native_lock.isSome := by
  unfold reject
  split
  · rename_i l hl
    exact ⟨rfl, rfl, by rw [hl]; rfl⟩
  · exact ⟨rfl, rfl, rfl⟩

/-- The key filter feeds the native locker and changes nothing else of the lock state. -/
theorem session_filterState (s : Rwl) (code : ℕ) (pressed : Bool) :
    (s.filterState code pressed).session = s.session ∨
      ∃ l keysym ch, s.session.native_lock = some l ∧
        (s.filterState code pressed).session = feed s.session l keysym ch := by
  unfold filterState
  split_ifs
  · unfold feed_key
    cases h : s.session.native_lock with
    | none => exact .inl rfl
    | some l => exact .inr ⟨l, _, _, rfl, rfl⟩
  · exact .inl rfl
  · exact .inl rfl
  · exact .inl rfl
  · exact .inl rfl

theorem session_afterKey (s : Rwl) (code : ℕ) (pressed : Bool) :
    (s.afterKey code pressed).session = s.session ∨
      ∃ l keysym ch, s.session.native_lock = some l ∧
        (s.afterKey code pressed).session = feed s.session l keysym ch := by
  have hinput : (s.keyInput code pressed).1.session = s.session ∨
      ∃ l keysym ch, s.session.native_lock = some l ∧
        (s.keyInput code pressed).1.session = feed s.session l keysym ch := by
    unfold keyInput
    split_ifs
    · have h := session_filterState (s.modifySeat (Seat.key_input · code pressed)) code pressed
      dsimp only
      split <;> exact h
    · exact .inl rfl
  unfold afterKey
  split_ifs
  · exact hinput
  · exact hinput

@[simp] theorem session_release_all_pressed_keys (s : Rwl) :
    s.release_all_pressed_keys.session = s.session := by
  refine Recency.foldl_keeps Rwl.session releaseKey (fun s code => ?_) _ s
  unfold releaseKey
  split_ifs <;> rfl

@[simp] theorem session_unlock_eq (s : Rwl) : s.unlock.session = disengage s.session :=
  session_release_all_pressed_keys _

@[simp] theorem session_serveWith (f : PendingFrame → Effect) (s : Rwl) (o : OutputId) :
    (serveWith f s o).session = s.session :=
  Recency.foldl_keeps Rwl.session (fun s pf => s.emit (f pf)) (fun _ _ => rfl) _ _

theorem sessionStep_acts {g : Registry.Grant WinId} {s s' : Rwl} {e : Event} (h : Acts g s s')
    (he : e.isExtLock = false) : SessionStep e s.session s'.session := by
  rcases h.session with h | ⟨hl, hn, h⟩
  · rw [h]
    exact .same _ _
  · rw [h]
    exact .engage _ _ he hl hn

/-- **Every event changes the lock state in one of the ways listed.** -/
theorem step_session (s : Rwl) (e : Event) : SessionStep e s.session (step s e).session := by
  have hsame {s' : Rwl} (h : s'.session = s.session) : SessionStep e s.session s'.session := by
    rw [h]
    exact .same _ _
  cases he : e.isOrdinary with
  | true => exact sessionStep_acts (acts_step s e he) (by cases e <;> first | rfl | cases he)
  | false =>
    cases e with
    | key code pressed =>
      have hacts := (acts_key (s.grant (.key code pressed)) s code pressed).session
      rcases session_afterKey s code pressed with h | ⟨l, keysym, ch, hl, h⟩
      · rw [h] at hacts
        rcases hacts with h | ⟨hl, hn, h⟩
        · exact hsame h
        · simp only [step, h]
          exact .engage _ _ rfl hl hn
      · rw [h] at hacts
        rcases hacts with h | ⟨_, hn, _⟩
        · simp only [step, h]
          exact .feed _ _ _ l keysym ch hl
        · have hsome := native_lock_feed keysym ch hl
          rw [hn] at hsome
          cases hsome
    | button btn pressed serial =>
      obtain ⟨s', hacts, hstep⟩ := acts_button s btn pressed serial
      have h : (step s (.button btn pressed serial)).session = s'.session := by
        simp only [step, hstep]
        split_ifs <;> rfl
      rw [h]
      exact sessionStep_acts hacts rfl
    | axis source horizontal vertical =>
      refine hsame ?_
      simp only [step, process_pointer_axis]
      split_ifs <;> rfl
    | auth i ok =>
      simp only [step, worker_done]
      split
      · exact .same _ _
      · rename_i c hc
        split_ifs with hany
        · cases ok with
          | true =>
            simp only [on_auth_result, if_true, session_unlock_eq]
            exact .accepted _ _ c hc hany
          | false => exact .rejected _ _ c hc hany
        · exact .late _ _ _ c hc (Bool.eq_false_iff.2 hany)
    | flash =>
      simp only [step, flash_expired]
      split_ifs
      · exact .same _ _
      · exact .flash _
    | ext_lock obj client =>
      simp only [step, Rwl.ext_lock]
      split_ifs with hobj hn
      · exact .same _ _
      · exact .refused _ _ _ (Option.not_isSome_iff_eq_none.1 hobj) hn
      · exact .confirmed _ _ _ (Option.not_isSome_iff_eq_none.1 hobj)
          (Option.not_isSome_iff_eq_none.1 hn)
    | ext_unlock obj =>
      simp only [step, Rwl.ext_unlock, session_unlock]
      split_ifs with hobj hn
      · exact .same _ _
      · exact .ignored _ _ (Option.isSome_iff_ne_none.2 fun h => hobj (by rw [h]; rfl)) hn
      · exact .unlocked _ _ (Option.isSome_iff_ne_none.2 fun h => hobj (by rw [h]; rfl))
          (Option.not_isSome_iff_eq_none.1 hn)
    | ext_destroy obj =>
      simp only [step, Rwl.ext_destroy]
      split_ifs with hobj
      · exact .same _ _
      · exact .destroyed _ _ (Bool.eq_false_iff.2 hobj)
    | ext_get_surface obj f output =>
      simp only [step, Rwl.ext_get_surface, new_surface]
      split_ifs with hobj hn
      · exact .same _ _
      · exact .same _ _
      · split
        · exact .surface _ _ _ _ _ (Option.not_isSome_iff_eq_none.1 hn)
        · exact .same _ _
    | ipc_resume => exact hsame (session_release_all_pressed_keys s)
    | popup_grab | surface_destroyed | frame_destroyed => exact hsame rfl
    | client_disconnected client => exact .disconnected _ _
    | capture_output frame output =>
      refine hsame ?_
      simp only [step, Rwl.capture_output]
      split_ifs
      · rfl
      · split <;> rfl
    | copy frame =>
      refine hsame ?_
      simp only [step, Rwl.copy]
      split
      · rfl
      · split_ifs
        · rfl
        · split <;> rfl
        · split <;> rfl
    | vblank o out =>
      simp only [step, on_vblank]
      split_ifs with hgate
      · exact .same _ _
      all_goals have hacts := sessionStep_acts (e := .vblank o out) (acts_vblank s o out hgate) rfl
      · exact hacts
      · exact hacts
      · rw [submit_screencopy_frames, session_serveWith]
        exact hacts
      · rw [fail_screencopy_frames, session_serveWith]
        exact hacts
    | winit_frame o out =>
      simp only [step, render_frame]
      split_ifs with hgate
      · exact .same _ _
      all_goals
        have hacts := sessionStep_acts (e := .winit_frame o out) (acts_winit_frame s o out hgate) rfl
      · rw [submit_screencopy_frames, session_serveWith]
        exact hacts
      · exact hacts
    | _ => cases he

end Rwl

end Compositor
