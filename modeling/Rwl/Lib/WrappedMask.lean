import Mathlib.Tactic.Common
import Mathlib.Data.Nat.Bitwise

/-!
# Masks whose shifts wrap

Numbers from 0 to 255 in the bits of a 32-bit word, where a shift is by the amount modulo 32.

* `bit`, `bits`: the bit of a number, and those of a list of numbers;
* `has`: a number is looked up by a shift the other way;
* `has_bits_iff`, `meets_bits_iff`: both tests find the numbers that are equal modulo 32.
-/

namespace WrappedMask

/-- The bit of a number. -/
def bit (n : UInt8) : UInt32 := 1 <<< n.toUInt32

/-- The bits of a list of numbers. -/
def bits (l : List UInt8) : UInt32 := l.foldl (fun acc n => acc ||| bit n) 0

/-- Look a number up. -/
def has (m : UInt32) (n : UInt8) : Bool := (m >>> n.toUInt32) &&& 1 == 1

/-- The bit where a number ends up. -/
def place (n : UInt8) : ℕ := n.toNat % 32

theorem place_of_lt {n : UInt8} (h : n < 32) : place n = n.toNat :=
  Nat.mod_eq_of_lt (UInt8.lt_iff_toNat_lt.1 h)

theorem testBit_bit (n : UInt8) (i : ℕ) : (bit n).toNat.testBit i = decide (place n = i) := by
  have hlt : n.toNat % 32 < 32 := Nat.mod_lt _ (by decide)
  have hpow : 2 ^ (n.toNat % 32) < 2 ^ 32 := Nat.pow_lt_pow_right (by decide) hlt
  have hbit : (bit n).toNat = 2 ^ place n := by
    unfold bit place
    rw [UInt32.toNat_shiftLeft, UInt8.toNat_toUInt32]
    show 1 <<< (n.toNat % 32) % 2 ^ 32 = 2 ^ (n.toNat % 32)
    rw [Nat.one_shiftLeft, Nat.mod_eq_of_lt hpow]
  rw [hbit, Nat.testBit_two_pow]

theorem testBit_foldl (l : List UInt8) (m : UInt32) (i : ℕ) :
    (l.foldl (fun acc n => acc ||| bit n) m).toNat.testBit i = true ↔
      m.toNat.testBit i = true ∨ ∃ n ∈ l, place n = i := by
  induction l generalizing m with
  | nil => simp
  | cons n l ih =>
    rw [List.foldl_cons, ih, UInt32.toNat_or, Nat.testBit_or, testBit_bit]
    simp [or_assoc]

/-- A bit of the mask is that of some number. -/
theorem testBit_bits (l : List UInt8) (i : ℕ) :
    (bits l).toNat.testBit i = true ↔ ∃ n ∈ l, place n = i := by
  unfold bits
  rw [testBit_foldl]
  simp

theorem has_iff (m : UInt32) (n : UInt8) : has m n = true ↔ m.toNat.testBit (place n) = true := by
  unfold has place
  rw [beq_iff_eq, ← UInt32.toNat_inj, UInt32.toNat_and, UInt32.toNat_shiftRight,
    UInt8.toNat_toUInt32, UInt32.toNat_one, Nat.and_one_is_mod, Nat.testBit_eq_decide_div_mod_eq,
    Nat.shiftRight_eq_div_pow, decide_eq_true_eq]

/-- What a lookup finds. -/
theorem has_bits_iff (l : List UInt8) (n : UInt8) :
    has (bits l) n = true ↔ ∃ k ∈ l, place k = place n := by
  rw [has_iff, testBit_bits]

/-- What the test against the bit of a number finds. -/
theorem meets_bits_iff (m : UInt32) (n : UInt8) :
    m &&& bit n = 0 ↔ m.toNat.testBit (place n) = false := by
  rw [← UInt32.toNat_inj, UInt32.toNat_and, UInt32.toNat_zero]
  constructor
  · intro h
    have hbit := congrArg (Nat.testBit · (place n)) h
    simpa [testBit_bit] using hbit
  · intro h
    refine Nat.eq_of_testBit_eq fun i => ?_
    rw [Nat.testBit_and, testBit_bit, Nat.zero_testBit]
    by_cases hi : place n = i
    · rw [← hi, h, Bool.false_and]
    · rw [decide_eq_false hi, Bool.and_false]

/-- Among numbers below 32 only the number itself shares its bit. -/
theorem exists_place_iff {l : List UInt8} (hl : ∀ k ∈ l, k < 32) {n : UInt8} (hn : n < 32) :
    (∃ k ∈ l, place k = place n) ↔ n ∈ l := by
  constructor
  · rintro ⟨k, hk, heq⟩
    rw [place_of_lt (hl k hk), place_of_lt hn] at heq
    rwa [← UInt8.toNat_inj.1 heq]
  · exact fun h => ⟨n, h, rfl⟩

end WrappedMask
