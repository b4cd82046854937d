import Mathlib.Tactic.Common
import Rwl.Theory.Sessions

/-!
# The native locker

* `LockInv`: the native locker holds the session locked, and the one password check that may be
  in flight is its own;
* `step_lockInv`: every event keeps it;
* `NativeExclusive`, `native_lock_exclusive`: what this means for the other events, in every run.
-/

namespace Compositor

namespace LockState

/-! ### Editing keeps the phase -/

@[simp] theorem phase_clear (l : LockState) : l.clear.phase = l.phase := by
  unfold clear
  split_ifs <;> rfl

@[simp] theorem channel_clear (l : LockState) : l.clear.channel = l.channel := by
  unfold clear
  split_ifs <;> rfl

@[simp] theorem phase_backspace (l : LockState) : l.backspace.phase = l.phase := by
  unfold backspace
  split_ifs <;> rfl

@[simp] theorem channel_backspace (l : LockState) : l.backspace.channel = l.channel := by
  unfold backspace
  split_ifs <;> rfl

@[simp] theorem phase_push (l : LockState) (c : Char) : (l.push c).phase = l.phase := by
  unfold push
  split_ifs <;> rfl

@[simp] theorem channel_push (l : LockState) (c : Char) : (l.push c).channel = l.channel := by
  unfold push
  split_ifs <;> rfl

end LockState

namespace Rwl

open Transition

/-! ### The invariant -/

/-- The native locker holds the session locked, and the only check in flight is its own. -/
structure LockInv (ss : Session) : Prop where
  locked : ss.native_lock.isSome = true → ss.locked = true
  workers : ss.workers = [] ∨
    ∃ l, ss.native_lock = some l ∧ l.phase = .Authenticating ∧ ss.workers = [l.channel]

namespace LockInv

variable {ss : Session} {l : LockState}

/-- No check is in flight outside the `Authenticating` phase. -/
theorem idle (h : LockInv ss) (hl : ss.native_lock = some l) (hp : l.phase ≠ .Authenticating) :
    ss.workers = [] := by
  rcases h.workers with hw | ⟨l', hl', hp', _⟩
  · exact hw
  · obtain rfl := Option.some.inj (hl.symm.trans hl')
    exact absurd hp' hp

/-- The worker that reports is the one of the locker. -/
theorem worker {i c : ℕ} (h : LockInv ss) (hc : ss.workers[i]? = some c) :
    (withoutWorker i ss).workers = [] ∧
      ss.native_lock.any (fun l => decide (l.channel = c)) = true := by
  rcases h.workers with hw | ⟨l, hl, _, hw⟩
  · rw [hw] at hc
    cases hc
  · rw [hw] at hc
    obtain ⟨hi, hc⟩ := List.getElem?_eq_some_iff.1 hc
    obtain rfl : i = 0 := Nat.lt_one_iff.1 hi
    refine ⟨by simp [withoutWorker, hw], ?_⟩
    rw [hl, Option.any_some]
    exact decide_eq_true hc

/-- The locker is edited in place. -/
theorem edit (h : LockInv ss) (hl : ss.native_lock = some l) {l' : LockState}
    (hp : l'.phase = l.phase) (hc : l'.channel = l.channel) :
    LockInv { ss with native_lock := some l' } := by
  refine ⟨fun _ => h.locked (by rw [hl]; rfl), ?_⟩
  rcases h.workers with hw | ⟨l₀, hl₀, hp₀, hw⟩
  · exact .inl hw
  · obtain rfl := Option.some.inj (hl.symm.trans hl₀)
    exact .inr ⟨l', rfl, hp.trans hp₀, by rw [hc]; exact hw⟩

theorem submit (h : LockInv ss) (hl : ss.native_lock = some l) : LockInv (submit ss l) := by
  unfold Rwl.submit
  split_ifs with hs
  · refine ⟨fun _ => h.locked (by rw [hl]; rfl), .inr ⟨_, rfl, rfl, ?_⟩⟩
    change ss.workers ++ [l.channel] = [l.channel]
    rw [h.idle hl hs.1, List.nil_append]
  · exact h

theorem feed (h : LockInv ss) (hl : ss.native_lock = some l) (keysym : ℕ) (ch : Option Char) :
    LockInv (feed ss l keysym ch) := by
  unfold Rwl.feed
  split_ifs
  · exact h.submit hl
  · exact h.edit hl l.phase_clear l.channel_clear
  · exact h.edit hl l.phase_backspace l.channel_backspace
  · split
    · split_ifs
      · exact h
      · exact h.edit hl (l.phase_push _) (l.channel_push _)
    · exact h

theorem unflash (h : LockInv ss) : LockInv (unflash ss) := by
  refine ⟨fun hn => h.locked ?_, ?_⟩
  · rwa [Rwl.unflash, Option.isSome_map] at hn
  · rcases h.workers with hw | ⟨l, hl, hp, hw⟩
    · exact .inl hw
    · refine .inr ⟨{ l with flash_timer := false }, ?_, hp, hw⟩
      simp [Rwl.unflash, hl, hp]

end LockInv

/-- **Every event keeps the invariant.** -/
theorem step_lockInv {s : Rwl} (e : Event) (hs : LockInv s.session) :
    LockInv (step s e).session := by
  have h := step_session s e
  generalize (step s e).session = ss' at h
  generalize s.session = ss at h hs
  have hnone (hn : ss.native_lock = none) : ss.workers = [] := by
    rcases hs.workers with hw | ⟨l, hl, _⟩
    · exact hw
    · rw [hn] at hl
      cases hl
  cases h with
  | same => exact hs
  | engage _ _ _ _ hn => exact ⟨fun _ => rfl, .inl (hnone hn)⟩
  | feed _ _ _ l keysym ch hl => exact hs.feed hl keysym ch
  | late i ok _ c hc hlate => exact absurd ((hs.worker hc).2.symm.trans hlate) (by decide)
  | accepted i _ c hc _ => exact ⟨nofun, .inl (hs.worker hc).1⟩
  | rejected i _ c hc _ =>
    obtain ⟨hw, _⟩ := hs.worker hc
    unfold reject
    split
    · rename_i l hl
      have hlock : ss.native_lock = some l := hl
      exact ⟨fun _ => hs.locked (by rw [hlock]; rfl), .inl hw⟩
    · exact ⟨hs.locked, .inl hw⟩
  | flash => exact hs.unflash
  | confirmed _ _ _ _ hn => exact ⟨fun _ => rfl, .inl (hnone hn)⟩
  | unlocked _ _ _ hn =>
    refine ⟨fun h => ?_, .inl (hnone hn)⟩
    have h' : ss.native_lock.isSome = true := h
    rw [hn] at h'
    cases h'
  | refused | ignored | destroyed | surface | disconnected => exact ⟨hs.locked, hs.workers⟩

/-! ### The claims of the locker -/

/-- The native locker is engaged on a locked session only; it lets go of it after an accepted
password only, whatever lock clients ask for; and it checks one password at a time. -/
structure NativeExclusive (s : Rwl) : Prop where
  locked : s.session.native_lock.isSome = true → s.session.locked = true
  released : ∀ e, s.session.native_lock.isSome = true →
    (step s e).session.native_lock = none → ∃ i, e = .auth i true
  ignored : ∀ e, e.isExtLock = true → s.session.native_lock.isSome = true →
    (step s e).session.locked = s.session.locked ∧
      (step s e).session.native_lock = s.session.native_lock ∧
      (step s e).session.lock_surfaces = s.session.lock_surfaces
  one_attempt : s.session.workers.length ≤ 1

/-- Only an accepted password takes the native locker away. -/
theorem step_native_released (s : Rwl) (e : Event) (hn : s.session.native_lock.isSome = true)
    (hgone : (step s e).session.native_lock = none) : ∃ i, e = .auth i true := by
  have h := step_session s e
  generalize (step s e).session = ss' at h hgone
  generalize s.session = ss at h hn
  have hne : ss.native_lock ≠ none := fun h => by rw [h] at hn; cases hn
  cases h with
  | accepted i => exact ⟨i, rfl⟩
  | engage => cases hgone
  | feed _ _ _ l keysym ch hl =>
    have hsome := native_lock_feed keysym ch hl
    rw [hgone] at hsome
    cases hsome
  | rejected i _ c hc hany =>
    unfold reject at hgone
    split at hgone
    · cases hgone
    · exact absurd hgone hne
  | flash => exact absurd (Option.map_eq_none_iff.1 hgone) hne
  | same | late | refused | confirmed | ignored | unlocked | destroyed | surface | disconnected =>
    exact absurd hgone hne

/-- The native locker shields the lock from the external lock protocol. -/
theorem step_native_ignored (s : Rwl) (e : Event) (he : e.isExtLock = true)
    (hn : s.session.native_lock.isSome = true) :
    (step s e).session.locked = s.session.locked ∧
      (step s e).session.native_lock = s.session.native_lock ∧
      (step s e).session.lock_surfaces = s.session.lock_surfaces := by
  have h := step_session s e
  generalize (step s e).session = ss' at h
  generalize s.session = ss at h hn
  cases h with
  | same | refused | ignored | destroyed | disconnected => exact ⟨rfl, rfl, rfl⟩
  | engage _ _ he' => rw [he] at he'; cases he'
  | confirmed _ _ _ _ hnone | unlocked _ _ _ hnone | surface _ _ _ _ _ hnone =>
    rw [hnone] at hn
    cases hn
  | feed | late | accepted | rejected | flash => cases he

theorem LockInv.exclusive {s : Rwl} (h : LockInv s.session) : NativeExclusive s := by
  refine ⟨h.locked, step_native_released s, step_native_ignored s, ?_⟩
  rcases h.workers with hw | ⟨l, _, _, hw⟩
  · rw [hw]; exact Nat.zero_le _
  · rw [hw]; exact Nat.le_refl _

theorem init_lockInv (env : Setup) : LockInv (init env).session :=
  ⟨fun h => absurd h Bool.false_ne_true, .inl rfl⟩

/-- **The native locker owns the session it locked, in every run.** -/
theorem native_lock_exclusive (env : Setup) (es : List Event) :
    Always step NativeExclusive (init env) es :=
  (always_of_step (I := fun s : Rwl => LockInv s.session) (fun _ e => step_lockInv e)
    (init_lockInv env) es).mono fun _ => LockInv.exclusive

end Rwl

end Compositor
