import Mathlib.Tactic.Common
import Rwl.Theory.KeyPairing
import Rwl.Theory.NativeLock

/-!
# The password buffer

`push` looks at the length before it appends, so a character of several bytes may run over the
capacity.

* `LockState.Fits`: a typed character leaves the buffer within its capacity;
* `session_key`: what a key does to the session under the native locker;
* `PasswordSafe`: the buffer is within its capacity, and no key changes it during a check;
* `password_safe_iff`: this holds all along exactly the runs that type only what fits.
-/

namespace Compositor

/-! ### Editing -/

namespace LockState

variable {l : LockState} {c : Char}

/-- A typed character leaves the buffer within its capacity, or is ignored. -/
def Fits (l : LockState) (c : Char) : Prop :=
  l.phase = .Authenticating ∨ PASSWORD_CAP ≤ l.len ∨ l.len + c.utf8Size ≤ PASSWORD_CAP

instance decidableFitsCap (l : LockState) (c : Char) : Decidable (l.Fits c) :=
  inferInstanceAs (Decidable (_ ∨ _ ∨ _))

theorem len_push (hp : l.phase ≠ .Authenticating) (hlt : l.len < PASSWORD_CAP) :
    (l.push c).len = l.len + c.utf8Size := by
  unfold push
  rw [if_neg (by simp [hp, hlt])]
  simp [len]

/-- Pushing keeps to the capacity exactly when the character fits. -/
theorem len_push_le_iff (h : l.len ≤ PASSWORD_CAP) :
    (l.push c).len ≤ PASSWORD_CAP ↔ l.Fits c := by
  by_cases hstay : l.phase = .Authenticating ∨ PASSWORD_CAP ≤ l.len
  · have hpush : l.push c = l := if_pos hstay
    rw [hpush]
    exact iff_of_true h (hstay.imp_right .inl)
  · obtain ⟨hp, hlt⟩ := not_or.1 hstay
    rw [len_push hp (not_le.1 hlt)]
    unfold Fits
    simp [hp, hlt]

theorem len_backspace_le (l : LockState) : l.backspace.len ≤ l.len := by
  unfold backspace
  split_ifs
  · exact le_refl _
  · show ((l.password.dropLast).map Char.utf8Size).sum ≤ (l.password.map Char.utf8Size).sum
    rcases List.eq_nil_or_concat l.password with hnil | ⟨init, last, hlast⟩
    · simp [hnil]
    · rw [hlast, List.concat_eq_append, List.dropLast_concat, List.map_append, List.sum_append]
      exact Nat.le_add_right _ _

theorem len_clear_le (l : LockState) : l.clear.len ≤ l.len := by
  unfold clear
  split_ifs
  · exact le_refl _
  · exact Nat.zero_le _

end LockState

namespace Rwl

open Transition

/-! ### One key -/

/-- The character that a key gives to `push`. -/
def typed (keysym : ℕ) (ch : Option Char) : Option Char :=
  if keysym = xkb.KEY_Return ∨ keysym = xkb.KEY_KP_Enter ∨ keysym = xkb.KEY_Escape ∨
      keysym = xkb.KEY_BackSpace then none
  else ch.filter fun c => !is_control c

/-- The password is within the capacity of its buffer. -/
def Session.Bounded (ss : Session) : Prop := ∀ l ∈ ss.native_lock, l.len ≤ PASSWORD_CAP

section Feed

variable {ss : Session} {l : LockState} {keysym : ℕ} {ch : Option Char}

theorem feed_typed {c : Char} (h : typed keysym ch = some c) :
    feed ss l keysym ch = { ss with native_lock := some (l.push c) } := by
  unfold typed at h
  split_ifs at h with hkey
  simp only [not_or] at hkey
  obtain ⟨hreturn, henter, hescape, hback⟩ := hkey
  obtain ⟨rfl, hc⟩ := Option.filter_eq_some_iff.1 h
  unfold feed
  rw [if_neg (by simp [hreturn, henter]), if_neg hescape, if_neg hback]
  simp_all

/-- A key that types no character makes the password no longer. -/
theorem bounded_feed_untyped (h : typed keysym ch = none) (hl : ss.native_lock = some l)
    (hss : Session.Bounded ss) : Session.Bounded (feed ss l keysym ch) := by
  have hlen : l.len ≤ PASSWORD_CAP := hss l hl
  have hset {l' : LockState} (hle : l'.len ≤ l.len) :
      Session.Bounded { ss with native_lock := some l' } := by
    rintro _ ⟨⟩
    exact hle.trans hlen
  unfold feed
  split_ifs with hsubmit hescape hback
  · unfold submit
    split_ifs
    · exact hset (Nat.zero_le _)
    · exact hss
  · exact hset l.len_clear_le
  · exact hset l.len_backspace_le
  · cases ch with
    | none => exact hss
    | some c =>
      dsimp only
      split_ifs with hc
      · exact hss
      · simp_all [typed]

/-- During a check a key changes nothing. -/
theorem feed_authenticating (hl : ss.native_lock = some l) (hp : l.phase = .Authenticating) :
    feed ss l keysym ch = ss := by
  have hsame : ({ ss with native_lock := some l } : Session) = ss := by rw [← hl]
  have hclear : l.clear = l := if_pos hp
  have hback : l.backspace = l := if_pos hp
  have hpush (c : Char) : l.push c = l := if_pos (.inl hp)
  have hsubmit : submit ss l = ss := if_neg fun h => h.1 hp
  unfold feed
  simp only [hclear, hback, hpush, hsubmit, hsame]
  split_ifs
  · rfl
  · rfl
  · rfl
  · cases ch with
    | none => rfl
    | some c => exact ite_self _

end Feed

section Key

variable {s : Rwl} {l : LockState} {code : ℕ} {pressed : Bool}

/-- Under the native locker every key is consumed. -/
theorem filterAction_consumed (hl : s.session.native_lock = some l) :
    (s.keyed code pressed).filterAction code pressed = some .LockConsume := by
  have hn : (s.keyed code pressed).session.native_lock.isSome = true := by
    show s.session.native_lock.isSome = true
    rw [hl]
    rfl
  exact if_pos hn

/-- **What a key does to the session under the native locker.** -/
theorem session_key (hl : s.session.native_lock = some l) :
    (step s (.key code pressed)).session =
      if s.seat.is_transition code pressed = true ∧ pressed = true then
        feed s.session l ((s.keyed code pressed).seat.modified_sym code)
          ((s.keyed code pressed).seat.key_char code)
      else s.session := by
  have hn : (s.keyed code pressed).session.native_lock.isSome = true := by
    show s.session.native_lock.isSome = true
    rw [hl]
    rfl
  have hafter : (s.afterKey code pressed).session =
      if s.seat.is_transition code pressed = true ∧ pressed = true then
        feed s.session l ((s.keyed code pressed).seat.modified_sym code)
          ((s.keyed code pressed).seat.key_char code)
      else s.session := by
    by_cases ht : s.seat.is_transition code pressed = true
    · have hfilter : ((s.keyed code pressed).filterState code pressed).session =
          if s.seat.is_transition code pressed = true ∧ pressed = true then
            feed s.session l ((s.keyed code pressed).seat.modified_sym code)
              ((s.keyed code pressed).seat.key_char code)
          else s.session := by
        unfold filterState feed_key
        rw [if_pos hn]
        have hl' : (s.keyed code pressed).session.native_lock = some l := hl
        cases pressed with
        | true =>
          rw [if_pos rfl, if_pos ⟨ht, rfl⟩, hl']
          rfl
        | false =>
          rw [if_neg (by decide), if_neg (by simp)]
          rfl
      rw [afterKey_of_some ht (filterAction_consumed hl), ← hfilter]
      split_ifs <;> rfl
    · rw [if_neg fun h => ht h.1]
      unfold afterKey keyInput
      simp [ht]
  rcases (acts_key (s.grant (.key code pressed)) s code pressed).session with h | ⟨_, hnone, _⟩
  · exact h.trans hafter
  · have hsome : (s.afterKey code pressed).session.native_lock.isSome = true := by
      rw [hafter]
      split_ifs
      · exact native_lock_feed _ _ hl
      · exact hn
    rw [hnone] at hsome
    cases hsome

end Key

/-! ### Every event -/

/-- What the event types under the native locker fits. -/
def Room (s : Rwl) : Event → Prop
  | .key code true => s.seat.is_transition code true = true → ∀ l ∈ s.session.native_lock,
      ∀ c ∈ typed ((s.keyed code true).seat.modified_sym code)
        ((s.keyed code true).seat.key_char code), l.Fits c
  | _ => True

/-- The typed character is looked up, so the instance does not go through all characters. -/
instance decidableAllFit (l : LockState) (typed : Option Char) :
    Decidable (∀ c ∈ typed, l.Fits c) :=
  @Option.decidableForallMem _ _ l.decidableFitsCap typed

instance decidableRoom (s : Rwl) (e : Event) : Decidable (s.Room e) := by
  unfold Room
  split <;> infer_instance

/-- The password is within its buffer, and no key changes it while a check is in flight. -/
structure PasswordSafe (s : Rwl) : Prop where
  bounded : Session.Bounded s.session
  frozen : s.session.workers ≠ [] → ∀ code pressed,
    (step s (.key code pressed)).session.native_lock.map LockState.password =
      s.session.native_lock.map LockState.password

theorem bounded_key_iff {s : Rwl} {code : ℕ} {pressed : Bool} (hs : Session.Bounded s.session) :
    Session.Bounded (step s (.key code pressed)).session ↔ s.Room (.key code pressed) := by
  cases hl : s.session.native_lock with
  | none =>
    refine iff_of_true ?_ ?_
    · have hafter : (s.afterKey code pressed).session = s.session := by
        rcases session_afterKey s code pressed with h | ⟨l, _, _, hl', _⟩
        · exact h
        · rw [hl] at hl'
          cases hl'
      rcases (acts_key (s.grant (.key code pressed)) s code pressed).session with h | ⟨_, _, h⟩
      · have hsame : (step s (.key code pressed)).session = s.session := h.trans hafter
        rw [hsame]
        exact hs
      · have hengage : (step s (.key code pressed)).session = engage _ := h
        rw [hengage]
        rintro _ ⟨⟩
        exact Nat.zero_le _
    · cases pressed with
      | true => exact fun _ l hmem => by rw [hl] at hmem; cases hmem
      | false => trivial
  | some l =>
    have hlen : l.len ≤ PASSWORD_CAP := hs l hl
    rw [session_key hl]
    cases pressed with
    | false => exact iff_of_true (by rw [if_neg (by simp)]; exact hs) trivial
    | true =>
      by_cases ht : s.seat.is_transition code true = true
      · rw [if_pos ⟨ht, rfl⟩]
        cases hc : typed ((s.keyed code true).seat.modified_sym code)
            ((s.keyed code true).seat.key_char code) with
        | none =>
          refine iff_of_true (bounded_feed_untyped hc hl hs) fun _ l' _ c hmem => ?_
          rw [hc] at hmem
          cases hmem
        | some c =>
          rw [feed_typed hc]
          constructor
          · rintro h _ l' hl' c' hc'
            obtain rfl : l = l' := Option.some.inj (hl.symm.trans hl')
            obtain rfl : c = c' := Option.some.inj (hc.symm.trans hc')
            exact (LockState.len_push_le_iff hlen).1 (h _ rfl)
          · rintro h _ ⟨⟩
            exact (LockState.len_push_le_iff hlen).2 (h ht l hl c hc)
      · rw [if_neg fun h => ht h.1]
        exact iff_of_true hs fun h => absurd h ht

/-- **An event keeps the password within its buffer exactly when what it types fits.** -/
theorem bounded_step_iff {s : Rwl} (e : Event) (hs : Session.Bounded s.session) :
    Session.Bounded (step s e).session ↔ s.Room e := by
  by_cases hkey : ∃ code pressed, e = .key code pressed
  · obtain ⟨code, pressed, rfl⟩ := hkey
    exact bounded_key_iff hs
  · have hroom : s.Room e := by
      unfold Room
      split
      · exact absurd ⟨_, _, rfl⟩ hkey
      · trivial
    refine iff_of_true ?_ hroom
    have h := step_session s e
    generalize (step s e).session = ss' at h
    generalize s.session = ss at h hs
    cases h with
    | same | late | refused | confirmed | ignored | unlocked | destroyed | surface | disconnected =>
      exact hs
    | engage => rintro _ ⟨⟩; exact Nat.zero_le _
    | feed code pressed => exact absurd ⟨_, _, rfl⟩ hkey
    | accepted => rintro _ ⟨⟩
    | rejected i _ c hc _ =>
      unfold reject
      split
      · rintro _ ⟨⟩
        exact Nat.zero_le _
      · exact hs
    | flash =>
      intro l hl
      obtain ⟨l₀, hl₀, rfl⟩ := Option.map_eq_some_iff.1 (Option.mem_def.1 hl)
      exact (hs l₀ hl₀ :)

/-- A check in flight is one of the locker itself, which takes no key meanwhile. -/
theorem LockInv.frozen {s : Rwl} (h : LockInv s.session) (hw : s.session.workers ≠ [])
    (code : ℕ) (pressed : Bool) :
    (step s (.key code pressed)).session.native_lock.map LockState.password =
      s.session.native_lock.map LockState.password := by
  rcases h.workers with hnil | ⟨l, hl, hp, _⟩
  · exact absurd hnil hw
  · rw [session_key hl, feed_authenticating hl hp, ite_self]

/-- **The password buffer never reallocates, and never changes during a check, all along exactly
the runs in which every typed character fits.** -/
theorem password_safe_iff (env : Setup) (es : List Event) :
    Always step PasswordSafe (init env) es ↔ Guarded step Room (init env) es := by
  refine always_iff_guarded (I := fun s : Rwl => LockInv s.session)
    (fun s e hs _ => step_lockInv e hs) (fun s e hs hsafe => ?_) (init_lockInv env) ⟨?_, ?_⟩
  · rw [← bounded_step_iff e hsafe.bounded]
    exact ⟨PasswordSafe.bounded, fun h => ⟨h, (step_lockInv e hs).frozen⟩⟩
  · rintro l hl
    cases hl
  · exact (init_lockInv env).frozen

/-! ### A password that is too long -/

/-- A fresh key that types a character appends it. -/
theorem step_typed {s : Rwl} {l : LockState} {code : ℕ} {c : Char}
    (hl : s.session.native_lock = some l) (hp : l.phase ≠ .Authenticating)
    (hlt : l.len < PASSWORD_CAP) (hfree : code ∉ s.seat.pressed_keys)
    (hc : typed ((s.keyed code true).seat.modified_sym code)
      ((s.keyed code true).seat.key_char code) = some c) :
    (step s (.key code true)).session.native_lock =
        some { l with password := l.password ++ [c] } ∧
      (step s (.key code true)).seat.held = (s.keyed code true).seat.held := by
  have ht : s.seat.is_transition code true = true := decide_eq_true hfree
  constructor
  · rw [session_key hl, if_pos ⟨ht, rfl⟩, feed_typed hc]
    show some (l.push c) = _
    unfold LockState.push
    rw [if_neg (by simp [hp, hlt])]
  · refine (acts_key (s.grant (.key code true)) s code true).held.trans ?_
    rw [afterKey_of_some ht (filterAction_consumed hl), if_pos rfl]
    unfold filterState feed_key
    have hl' : (s.keyed code true).session.native_lock = some l := hl
    simp only [hl', Option.isSome_some, if_true]
    rfl

/-- `n` presses of keys whose characters take three bytes, one after the other. -/
def longTyping (n : ℕ) : List Event := (List.range n).map fun i => .key (0x800 + i) true

theorem longTyping_char : ∀ i < 341,
    typed (0x800 + i) (some (Char.ofNat (0x800 + i))) = some (Char.ofNat (0x800 + i)) ∧
      (Char.ofNat (0x800 + i)).utf8Size = 3 := by decide +kernel

/-- The native locker has taken `n` characters of three bytes. -/
structure Typed (n : ℕ) (s : Rwl) : Prop where
  keymap : s.seat.keymap = plainKeymap
  pressed : ∀ k ∈ s.seat.pressed_keys, k < 0x800 + n
  password : ∃ l, s.session.native_lock = some l ∧ l.phase = .Typing ∧ l.len = 3 * n

theorem typed_longTyping {s : Rwl} (hs : Typed 0 s) :
    ∀ n ≤ 341, Typed n (run step s (longTyping n)) := by
  intro n hn
  induction n with
  | zero => exact hs
  | succ n ih =>
    obtain ⟨hkeymap, hpressed, l, hl, hp, hlen⟩ := ih (by omega)
    have hsplit : longTyping (n + 1) = longTyping n ++ [.key (0x800 + n) true] := by
      simp [longTyping, List.range_succ]
    rw [hsplit, run_concat]
    generalize run step s (longTyping n) = t at hkeymap hpressed hl
    obtain ⟨hchar, hsize⟩ := longTyping_char n (by omega)
    have htyped : typed ((t.keyed (0x800 + n) true).seat.modified_sym (0x800 + n))
        ((t.keyed (0x800 + n) true).seat.key_char (0x800 + n)) =
          some (Char.ofNat (0x800 + n)) := by
      have hkeymap' : (t.keyed (0x800 + n) true).seat.keymap = plainKeymap := hkeymap
      unfold Seat.modified_sym Seat.key_char
      rw [hkeymap']
      exact hchar
    have hcap : l.len < PASSWORD_CAP := by
      unfold PASSWORD_CAP
      omega
    obtain ⟨hlock, hheld⟩ := step_typed hl (by rw [hp]; decide) hcap
      (fun hmem => absurd (hpressed _ hmem) (lt_irrefl _)) htyped
    refine ⟨?_, ?_, _, hlock, hp, ?_⟩
    · exact (congrArg Held.keymap hheld :).trans hkeymap
    · have hkeys : (step t (.key (0x800 + n) true)).seat.pressed_keys =
          (0x800 + n) :: t.seat.pressed_keys := congrArg Held.pressed_keys hheld
      rw [hkeys]
      rintro k (_ | ⟨_, hmem⟩)
      · omega
      · have := hpressed k hmem
        omega
    · have hsum : (l.password.map Char.utf8Size).sum = 3 * n := hlen
      show ((l.password ++ [_]).map Char.utf8Size).sum = _
      rw [List.map_append, List.sum_append, hsum]
      simp only [List.map_cons, List.map_nil, List.sum_cons, List.sum_nil, hsize]
      omega

/-- 341 characters of three bytes, and one of four. -/
theorem not_password_safe : ¬∀ env es, Always step PasswordSafe (init env) es := by
  intro h
  have hlocked : Typed 0 (run step (init (plainSetup [] [])) [.ipc .Lock]) :=
    ⟨rfl, by decide +kernel, _, rfl, rfl, rfl⟩
  -- a variable keeps the long run from being evaluated
  obtain ⟨n, hn⟩ : ∃ n, n = 341 := ⟨_, rfl⟩
  obtain ⟨hkeymap, hpressed, l, hl, hp, hlen⟩ := typed_longTyping hlocked n (by omega)
  have hend := (h (plainSetup [] []) (.ipc .Lock :: (longTyping n ++ [.key 0x10000 true]))).last
  rw [run_cons, run_concat] at hend
  rw [run_cons, run_nil] at hkeymap hpressed hl
  generalize run step _ (longTyping n) = t at hkeymap hpressed hl hend
  have htyped : typed ((t.keyed 0x10000 true).seat.modified_sym 0x10000)
      ((t.keyed 0x10000 true).seat.key_char 0x10000) = some (Char.ofNat 0x10000) := by
    have hkeymap' : (t.keyed 0x10000 true).seat.keymap = plainKeymap := hkeymap
    unfold Seat.modified_sym Seat.key_char
    rw [hkeymap']
    show typed 0x10000 (some (Char.ofNat 0x10000)) = _
    decide +kernel
  obtain ⟨hlock, _⟩ := step_typed hl (by rw [hp]; decide) (by rw [hlen, hn]; decide)
    (fun hmem => absurd (hpressed _ hmem) (by omega)) htyped
  have hle : ((l.password ++ [Char.ofNat 0x10000]).map Char.utf8Size).sum ≤ PASSWORD_CAP :=
    hend.bounded _ hlock
  have hsum : (l.password.map Char.utf8Size).sum = 3 * n := hlen
  have hsize : (Char.ofNat 0x10000).utf8Size = 4 := by decide +kernel
  rw [List.map_append, List.sum_append, hsum, List.map_singleton, List.sum_singleton, hsize,
    hn] at hle
  exact absurd hle (by decide)

end Rwl

end Compositor
