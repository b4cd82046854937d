import Mathlib.Tactic.Common
import Rwl.Theory.NativeLock

/-!
# External lock clients

`SessionLockHandler::lock` confirms every request that finds no native locker, and keeps no
owner.

* `Owned`, `ownedStep`: the state beside the client whose request locked the session;
* `ExtExclusive`: what an event may do while that client holds the lock;
* `NoRival`: no lock is requested while an external lock is held, and `unlock_and_destroy` comes
  from an object that was confirmed;
* `ext_lock_exclusive`: every event of a run that meets `NoRival` is exclusive.
-/

namespace Compositor

namespace Rwl

open Transition

/-! ### The holder of the lock -/

/-- The holder of the lock after an event that takes `ss` to `ss'`: the client of the request
that locks an unlocked session, until the session is unlocked. -/
def heldBy (ss ss' : Session) (e : Event) (holder : Option ℕ) : Option ℕ :=
  if ss'.locked = false then none
  else if ss.locked = false then
    match e with
    | .ext_lock _ client => some client
    | _ => none
  else holder

/-- A state, and the client whose lock request locked the session, if one did. -/
structure Owned where
  state : Rwl
  holder : Option ℕ

/-- One event. -/
def ownedStep (s : Owned) (e : Event) : Owned :=
  ⟨step s.state e, heldBy s.state.session (step s.state e).session e s.holder⟩

/-- The start: nobody holds a lock. -/
def ownedInit (env : Setup) : Owned := ⟨init env, none⟩

/-- While client `a` holds the lock, nothing but its own `unlock_and_destroy` unlocks, and the
request of another client is refused and changes nothing. -/
def ExtExclusive (s : Owned) (e : Event) : Prop :=
  ∀ a, s.holder = some a →
    ((step s.state e).session.locked = false →
      ∃ obj, e = .ext_unlock obj ∧ s.state.session.ext_locks obj = some ⟨a, true⟩) ∧
    ∀ obj b, e = .ext_lock obj b → b ≠ a → s.state.session.ext_locks obj = none →
      step s.state e =
        (s.state.modifySession (setExtLock obj (some ⟨b, false⟩))).emit (.lockFinished obj)

/-- No lock is requested while an external lock is held, and an object that was refused does not
unlock. -/
def NoRival (ss : Session) : Event → Prop
  | .ext_lock obj _ => ss.locked = true → ss.native_lock = none → ss.ext_locks obj ≠ none
  | .ext_unlock obj => ss.native_lock = none → ∀ l ∈ ss.ext_locks obj, l.confirmed = true
  | _ => True

instance (ss : Session) (e : Event) : Decidable (NoRival ss e) := by
  unfold NoRival
  split <;> infer_instance

/-! ### The invariant -/

/-- At most one lock object is confirmed, and it is the one of the holder, who holds the session
without the native locker; with no holder, the lock is the native locker's. -/
structure OwnedInv (ss : Session) (holder : Option ℕ) : Prop where
  native : ss.native_lock.isSome = true → ss.locked = true
  held : ∀ a, holder = some a → ss.locked = true ∧ ss.native_lock = none
  confirmed : ∀ obj l, ss.ext_locks obj = some l → l.confirmed = true → holder = some l.client
  unique : ∀ obj obj', (ss.ext_locks obj).any ExtLock.confirmed = true →
    (ss.ext_locks obj').any ExtLock.confirmed = true → obj = obj'
  free : holder = none → ss.locked = true → ss.native_lock.isSome = true

namespace OwnedInv

variable {ss ss' : Session} {holder : Option ℕ} {e : Event}

/-- Entries that go, or that are not confirmed, leave the holder alone. -/
theorem ext_locks (h : OwnedInv ss holder) {table : ℕ → Option ExtLock}
    (ht : ∀ obj l, table obj = some l → l.confirmed = true → ss.ext_locks obj = some l) :
    OwnedInv { ss with ext_locks := table } holder := by
  have hany (obj : ℕ) (ho : (table obj).any ExtLock.confirmed = true) :
      (ss.ext_locks obj).any ExtLock.confirmed = true := by
    cases hl : table obj with
    | none => rw [hl] at ho; cases ho
    | some l =>
      rw [hl] at ho
      rw [ht obj l hl ho]
      exact ho
  exact ⟨h.native, h.held, fun obj l hl hc => h.confirmed obj l (ht obj l hl hc) hc,
    fun obj obj' ho ho' => h.unique obj obj' (hany obj ho) (hany obj' ho'), h.free⟩

theorem setExtLock (h : OwnedInv ss holder) (obj : ℕ) {l : Option ExtLock}
    (hl : l.any ExtLock.confirmed = false) : OwnedInv (setExtLock obj l ss) holder := by
  refine h.ext_locks fun o l' ho hc => ?_
  by_cases hobj : o = obj
  · subst hobj
    rw [Function.update_self] at ho
    rw [ho, Option.any_some, hc] at hl
    cases hl
  · rwa [Function.update_of_ne hobj] at ho

/-- Nobody holds a session that is not locked. -/
theorem holder_of_unlocked (h : OwnedInv ss holder) (hl : ss.locked = false) : holder = none := by
  cases hh : holder with
  | none => rfl
  | some a => exact absurd ((h.held a hh).1.symm.trans hl) (by decide)

/-- Nobody holds a session that the native locker owns. -/
theorem holder_of_native (h : OwnedInv ss holder) (hn : ss.native_lock.isSome = true) :
    holder = none := by
  cases hh : holder with
  | none => rfl
  | some a =>
    rw [(h.held a hh).2] at hn
    cases hn

/-- With no holder, no object is confirmed. -/
theorem unconfirmed (h : OwnedInv ss none) (obj : ℕ) :
    (ss.ext_locks obj).any ExtLock.confirmed = false := by
  cases ho : ss.ext_locks obj with
  | none => rfl
  | some l => exact Bool.eq_false_iff.2 fun hc => nomatch h.confirmed obj l ho hc

/-- The lock state of the native locker changes, and stays its own. -/
theorem of_native (h : OwnedInv ss holder) (hn : ss.native_lock.isSome = true)
    (hn' : ss'.native_lock.isSome = true) (hl : ss'.locked = ss.locked)
    (ht : ss'.ext_locks = ss.ext_locks) : OwnedInv ss' holder := by
  obtain rfl := h.holder_of_native hn
  refine ⟨fun _ => hl.trans (h.native hn), nofun, ?_, ?_, fun _ _ => hn'⟩
  · rw [ht]; exact h.confirmed
  · rw [ht]; exact h.unique

/-- A session that is locked exactly as before keeps its holder. -/
theorem keep (h : OwnedInv ss holder) (hl : ss'.locked = ss.locked) (h' : OwnedInv ss' holder) :
    OwnedInv ss' (heldBy ss ss' e holder) := by
  have hsame : heldBy ss ss' e holder = holder := by
    unfold heldBy
    rw [hl]
    split_ifs with hf
    · exact (h.holder_of_unlocked hf).symm
    · rfl
  rwa [hsame]

/-- A client locks an unlocked session. -/
theorem taken (h : OwnedInv ss none) (hl : ss.locked = false) (hn : ss.native_lock = none)
    {obj client : ℕ} :
    OwnedInv { Rwl.setExtLock obj (some ⟨client, true⟩) ss with locked := true }
      (heldBy ss { Rwl.setExtLock obj (some ⟨client, true⟩) ss with locked := true }
        (.ext_lock obj client) none) := by
  have hnext : heldBy ss { Rwl.setExtLock obj (some ⟨client, true⟩) ss with locked := true }
      (.ext_lock obj client) none = some client := by
    unfold heldBy
    rw [if_neg Bool.noConfusion, if_pos hl]
  have honly (o : ℕ) (ho : ((Function.update ss.ext_locks obj
      (some ⟨client, true⟩)) o).any ExtLock.confirmed = true) : o = obj := by
    by_contra hne
    rw [Function.update_of_ne hne, h.unconfirmed o] at ho
    cases ho
  rw [hnext]
  refine ⟨fun _ => rfl, fun _ _ => ⟨rfl, hn⟩, fun o l ho hc => ?_,
    fun o o' ho ho' => (honly o ho).trans (honly o' ho').symm, nofun⟩
  have hlo : (Function.update ss.ext_locks obj (some ⟨client, true⟩)) o = some l := ho
  obtain rfl := honly o (by rw [hlo]; exact hc)
  rw [Function.update_self] at hlo
  rw [← Option.some.inj hlo]

/-- The confirmed object unlocks. -/
theorem released (h : OwnedInv ss holder) {obj : ℕ} (hobj : (ss.ext_locks obj).isSome = true)
    (hn : ss.native_lock = none) (hc : ∀ l ∈ ss.ext_locks obj, l.confirmed = true) :
    OwnedInv { Rwl.setExtLock obj none ss with locked := false, lock_surfaces := [] } none := by
  obtain ⟨l, hl⟩ := Option.isSome_iff_exists.1 hobj
  have hany : (ss.ext_locks obj).any ExtLock.confirmed = true := by
    rw [hl]
    exact hc l hl
  have hnone (o : ℕ) : ((Function.update ss.ext_locks obj none) o).any ExtLock.confirmed = false := by
    by_cases hne : o = obj
    · rw [hne, Function.update_self]
      rfl
    · rw [Function.update_of_ne hne]
      exact Bool.eq_false_iff.2 fun ho => hne (h.unique o obj ho hany)
  refine ⟨fun hn' => ?_, nofun, fun o l ho hc => ?_, fun o o' ho _ => ?_, nofun⟩
  · have hsome : ss.native_lock.isSome = true := hn'
    rw [hn] at hsome
    cases hsome
  · have hlo : (Function.update ss.ext_locks obj none) o = some l := ho
    have := hnone o
    rw [hlo, Option.any_some, hc] at this
    cases this
  · exact absurd ((hnone o).symm.trans ho) (by decide)

/-- **One event keeps the invariant.** -/
theorem sessionStep (h : SessionStep e ss ss') (hs : OwnedInv ss holder) (hg : NoRival ss e) :
    OwnedInv ss' (heldBy ss ss' e holder) := by
  cases h with
  | same => exact hs.keep rfl hs
  | engage _ _ he hl hn =>
    obtain rfl := hs.holder_of_unlocked hl
    have hfree : heldBy ss (engage ss) e none = none := by
      unfold heldBy
      split_ifs
      · rfl
      · cases e <;> first | rfl | cases he
    rw [hfree]
    exact ⟨fun _ => rfl, nofun, hs.confirmed, hs.unique, fun _ _ => rfl⟩
  | feed _ _ _ l keysym ch hl =>
    have hn : ss.native_lock.isSome = true := by rw [hl]; rfl
    obtain ⟨hlocked, htable⟩ := feed_same ss l keysym ch
    exact hs.keep hlocked (hs.of_native hn (native_lock_feed keysym ch hl) hlocked htable)
  | late => exact hs.keep rfl ⟨hs.native, hs.held, hs.confirmed, hs.unique, hs.free⟩
  | accepted i _ c _ hany =>
    obtain rfl := hs.holder_of_native (Option.isSome_of_any hany)
    exact ⟨nofun, nofun, hs.confirmed, hs.unique, nofun⟩
  | rejected i _ c _ hany =>
    have hn := Option.isSome_of_any hany
    obtain ⟨hlocked, htable, hsome⟩ := reject_same (withoutWorker i ss)
    exact hs.keep hlocked (hs.of_native hn (hsome.trans hn) hlocked htable)
  | flash =>
    have hsome : (unflash ss).native_lock.isSome = ss.native_lock.isSome := Option.isSome_map ..
    refine hs.keep rfl ⟨fun hn => hs.native (hsome ▸ hn), fun a ha => ?_, hs.confirmed,
      hs.unique, fun hh hl => hsome.trans (hs.free hh hl)⟩
    obtain ⟨hl, hn⟩ := hs.held a ha
    exact ⟨hl, Option.map_eq_none_iff.2 hn⟩
  | confirmed obj client _ hobj hn =>
    have hl : ss.locked = false := Bool.eq_false_iff.2 fun hl => hg hl hn hobj
    obtain rfl := hs.holder_of_unlocked hl
    exact hs.taken hl hn
  | unlocked obj _ hobj hn => exact hs.released hobj hn (hg hn)
  | refused obj client => exact hs.keep rfl (hs.setExtLock obj rfl)
  | ignored obj | destroyed obj => exact hs.keep rfl (hs.setExtLock obj rfl)
  | surface => exact hs.keep rfl ⟨hs.native, hs.held, hs.confirmed, hs.unique, hs.free⟩
  | disconnected client =>
    refine hs.keep rfl (hs.ext_locks fun obj l hl _ => ?_)
    exact (Option.filter_eq_some_iff.1 hl).1

/-- Only the holder's own request unlocks. -/
theorem unlocked_by {a : ℕ} (h : SessionStep e ss ss') (hs : OwnedInv ss (some a))
    (hg : NoRival ss e) (hl' : ss'.locked = false) :
    ∃ obj, e = .ext_unlock obj ∧ ss.ext_locks obj = some ⟨a, true⟩ := by
  obtain ⟨hl, hn⟩ := hs.held a rfl
  have hkept (h : ss'.locked = ss.locked) : False := absurd (hl.symm.trans (h.symm.trans hl')) (by decide)
  have hlocker (h : ss.native_lock.isSome = true) : False := by
    rw [hn] at h
    cases h
  cases h with
  | unlocked obj _ hobj _ =>
    obtain ⟨⟨client, confirmed⟩, hl⟩ := Option.isSome_iff_exists.1 hobj
    obtain rfl : confirmed = true := hg hn _ hl
    obtain rfl := Option.some.inj (hs.confirmed obj _ hl rfl)
    exact ⟨obj, rfl, hl⟩
  | accepted _ _ _ _ hany | rejected _ _ _ _ hany => exact (hlocker (Option.isSome_of_any hany)).elim
  | feed _ _ _ _ _ _ hl => exact (hlocker (by rw [hl]; rfl)).elim
  | engage _ _ _ hfree => exact absurd (hl.symm.trans hfree) (by decide)
  | confirmed => cases hl'
  | same | late | flash | refused | ignored | destroyed | surface | disconnected =>
    exact (hkept rfl).elim

end OwnedInv

/-! ### Runs -/

/-- An event that meets the guard is exclusive. -/
theorem OwnedInv.exclusive {s : Owned} {e : Event} (hs : OwnedInv s.state.session s.holder)
    (hg : NoRival s.state.session e) : ExtExclusive s e := by
  intro a ha
  rw [ha] at hs
  refine ⟨OwnedInv.unlocked_by (step_session s.state e) hs hg, fun obj b he _ hobj => ?_⟩
  subst he
  obtain ⟨hl, hn⟩ := hs.held a rfl
  exact absurd hobj (hg hl hn)

theorem ownedInit_inv (env : Setup) :
    OwnedInv (ownedInit env).state.session (ownedInit env).holder :=
  ⟨fun h => absurd h Bool.false_ne_true, nofun, nofun,
    fun _ _ h => absurd h Bool.false_ne_true, fun _ h => absurd h Bool.false_ne_true⟩

/-- **In a run without rival requests, nothing but the holder's own request unlocks.** -/
theorem ext_lock_exclusive (env : Setup) (es : List Event)
    (h : Guarded ownedStep (fun s e => NoRival s.state.session e) (ownedInit env) es) :
    Guarded ownedStep ExtExclusive (ownedInit env) es :=
  h.of_inv (I := fun s => OwnedInv s.state.session s.holder)
    (fun s e hs hg => OwnedInv.sessionStep (step_session s.state e) hs hg)
    (fun _ _ hs hg => hs.exclusive hg) (ownedInit_inv env)

/-- Client 1 locks, shows a surface and unlocks; then client 2 does. -/
theorem ext_lock_exclusive_turns :
    Guarded ownedStep ExtExclusive (ownedInit (plainSetup [] []))
      [.output_added 0 (plainOutput "a"), .ext_lock 0 1, .ext_get_surface 0 20 (some 0),
        .key 30 true, .ext_unlock 0, .ext_lock 1 2, .client_disconnected 1, .ext_unlock 1] :=
  ext_lock_exclusive _ _ (by decide +kernel)

/-- Client 2 locks the session that client 1 holds, and unlocks it. -/
theorem not_ext_lock_exclusive :
    ¬∀ env es, Guarded ownedStep ExtExclusive (ownedInit env) es := by
  intro h
  obtain ⟨-, -, hunlock, -⟩ := h (plainSetup [] []) [.ext_lock 0 1, .ext_lock 1 2, .ext_unlock 1]
  obtain ⟨obj, he, hobj⟩ := (hunlock 1 rfl).1 rfl
  obtain rfl := Event.ext_unlock.inj he
  have hother : (run step (init (plainSetup [] [])) [.ext_lock 0 1, .ext_lock 1 2]).session.ext_locks
      1 = some ⟨2, true⟩ := rfl
  exact absurd (hother.symm.trans hobj) (by decide)

end Rwl

end Compositor
