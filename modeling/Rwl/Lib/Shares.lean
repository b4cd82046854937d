import Mathlib.Algebra.BigOperators.Group.List.Basic
import Mathlib.Algebra.Order.Field.Basic
import Mathlib.Tactic.Common
import Mathlib.Tactic.FieldSimp
import Mathlib.Tactic.Linarith

/-!
# Shares of a whole

A whole is divided among the entries of a list, and the boundary between two neighbours moves.

* `Whole`: no entries, or positive ones that add up to 1; `whole_replicate`: equal shares;
* `moveBoundary l i a b`: entry `i` becomes `a` and its right neighbour `b`;
* `Moved l i m l'`: what a move that leaves both at least `m` keeps; `Moved.whole`.
-/

namespace Shares

variable {K : Type*}

/-- No entries, or positive ones that add up to 1. -/
def Whole [Semiring K] [Preorder K] (l : List K) : Prop := l = [] ∨ (∀ x ∈ l, 0 < x) ∧ l.sum = 1

theorem Whole.pos [Semiring K] [Preorder K] {l : List K} (h : Whole l) {x : K} (hx : x ∈ l) : 0 < x := by
  rcases h with rfl | h
  · cases hx
  · exact h.1 x hx

/-- Equal shares. -/
theorem whole_replicate [Field K] [LinearOrder K] [IsStrictOrderedRing K] (n : ℕ) :
    Whole (List.replicate n (1 / n : K)) := by
  rcases Nat.eq_zero_or_pos n with rfl | hn
  · exact .inl rfl
  · have hn : (0 : K) < n := Nat.cast_pos.2 hn
    refine .inr ⟨fun x hx => ?_, ?_⟩
    · rw [List.eq_of_mem_replicate hx]
      exact one_div_pos.2 hn
    · rw [List.sum_replicate, nsmul_eq_mul]
      field_simp

/-! ### Moving a boundary -/

/-- Entry `i` becomes `a` and its right neighbour `b`. -/
def moveBoundary (l : List K) (i : ℕ) (a b : K) : List K := (l.set i a).set (i + 1) b

section

variable {l : List K} {i : ℕ} {x y a b : K}

theorem getElem?_moveBoundary_left (hx : l[i]? = some x) :
    (moveBoundary l i a b)[i]? = some a := by
  have hi : i < l.length := (List.getElem?_eq_some_iff.1 hx).1
  unfold moveBoundary
  rw [List.getElem?_set_ne (by omega), List.getElem?_set_self hi]

theorem getElem?_moveBoundary_right (hy : l[i + 1]? = some y) :
    (moveBoundary l i a b)[i + 1]? = some b := by
  have hi : i + 1 < l.length := (List.getElem?_eq_some_iff.1 hy).1
  unfold moveBoundary
  rw [List.getElem?_set_self (by rwa [List.length_set])]

theorem getElem?_moveBoundary_other {j : ℕ} (h : j ≠ i) (h' : j ≠ i + 1) :
    (moveBoundary l i a b)[j]? = l[j]? := by
  unfold moveBoundary
  rw [List.getElem?_set_ne h'.symm, List.getElem?_set_ne h.symm]

theorem sum_moveBoundary [Field K] [LinearOrder K] [IsStrictOrderedRing K]
    (hx : l[i]? = some x) (hy : l[i + 1]? = some y) (h : a + b = x + y) :
    (moveBoundary l i a b).sum = l.sum := by
  obtain ⟨hi, rfl⟩ := List.getElem?_eq_some_iff.1 hx
  obtain ⟨hi', rfl⟩ := List.getElem?_eq_some_iff.1 hy
  have hlen : i + 1 < (l.set i a).length := by rwa [List.length_set]
  unfold moveBoundary
  rw [List.sum_set', dif_pos hlen, List.sum_set', dif_pos hi, List.getElem_set_ne (by omega)]
  linarith

end

variable [Field K] [LinearOrder K] [IsStrictOrderedRing K]

/-- The boundary right of entry `i` of `l` has moved, and both neighbours are at least `m`. -/
structure Moved (l : List K) (i : ℕ) (m : K → K) (l' : List K) : Prop where
  length : l'.length = l.length
  sum : l'.sum = l.sum
  others : ∀ j, j ≠ i → j ≠ i + 1 → l'[j]? = l[j]?
  neighbours : ∃ x y a b, l[i]? = some x ∧ l[i + 1]? = some y ∧ l'[i]? = some a ∧
    l'[i + 1]? = some b ∧ a + b = x + y ∧ m (x + y) ≤ a ∧ m (x + y) ≤ b

theorem moved_moveBoundary {l : List K} {i : ℕ} {x y a b : K} {m : K → K} (hx : l[i]? = some x)
    (hy : l[i + 1]? = some y) (h : a + b = x + y) (ha : m (x + y) ≤ a) (hb : m (x + y) ≤ b) :
    Moved l i m (moveBoundary l i a b) where
  length := by
    unfold moveBoundary
    rw [List.length_set, List.length_set]
  sum := sum_moveBoundary hx hy h
  others _ hj hj' := getElem?_moveBoundary_other hj hj'
  neighbours := ⟨x, y, a, b, hx, hy, getElem?_moveBoundary_left hx,
    getElem?_moveBoundary_right hy, h, ha, hb⟩

/-- The entries stay shares when the bound is positive on positive sums. -/
theorem Moved.whole {l l' : List K} {i : ℕ} {m : K → K} (h : Moved l i m l') (hl : Whole l)
    (hm : ∀ t, 0 < t → 0 < m t) : Whole l' := by
  obtain ⟨x, y, a, b, hx, hy, ha, hb, -, hma, hmb⟩ := h.neighbours
  have hmx := List.mem_of_getElem? hx
  have hbound : 0 < m (x + y) := hm _ (add_pos (hl.pos hmx) (hl.pos (List.mem_of_getElem? hy)))
  rcases hl with rfl | ⟨hpos, hsum⟩
  · cases hmx
  · refine .inr ⟨fun z hz => ?_, h.sum.trans hsum⟩
    obtain ⟨j, hj⟩ := List.mem_iff_getElem?.1 hz
    by_cases hji : j = i
    · subst hji
      rw [ha] at hj
      cases hj
      exact hbound.trans_le hma
    · by_cases hji' : j = i + 1
      · subst hji'
        rw [hb] at hj
        cases hj
        exact hbound.trans_le hmb
      · rw [h.others j hji hji'] at hj
        exact hpos z (List.mem_of_getElem? hj)

end Shares
