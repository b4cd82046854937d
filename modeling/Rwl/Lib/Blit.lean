import Mathlib.Tactic.Common

/-!
# Copying rows

Rows of a tightly packed source are copied to places of a list that are `stride` apart.

* `put`: some elements over those of a list from a position on;
* `Rows`, `Rows.Has`: where the rows are;
* `Copied`: the rows hold the source, and nothing else changed; `Copied.row` adds a row.

Where the rows lie apart from each other every row holds its part of the source in full. Where they
overlap, a later row may cover the end of an earlier one, and still nothing else changes.
-/

namespace Blit

variable {α : Type*}

/-- `xs` over the elements of `l` from position `i`. -/
def put (l : List α) (i : ℕ) (xs : List α) : List α := l.take i ++ xs ++ l.drop (i + xs.length)

@[simp] theorem put_nil (l : List α) (i : ℕ) : put l i [] = l := by
  simp [put]

theorem length_put {l : List α} {i : ℕ} {xs : List α} (h : i + xs.length ≤ l.length) :
    (put l i xs).length = l.length := by
  simp [put]
  omega

theorem getElem?_put {l : List α} {i : ℕ} {xs : List α} (h : i + xs.length ≤ l.length) (k : ℕ) :
    (put l i xs)[k]? = if i ≤ k ∧ k < i + xs.length then xs[k - i]? else l[k]? := by
  have htake : (l.take i).length = i := by
    rw [List.length_take]
    omega
  unfold put
  by_cases hlow : k < i
  · rw [if_neg (by omega), List.append_assoc, List.getElem?_append_left (by omega),
      List.getElem?_take_of_lt hlow]
  · by_cases hhigh : k < i + xs.length
    · rw [if_pos ⟨by omega, hhigh⟩, List.append_assoc, List.getElem?_append_right (by omega),
        htake, List.getElem?_append_left (by omega)]
    · rw [if_neg (by omega), List.getElem?_append_right (by
        rw [List.length_append, htake]
        omega), List.length_append, htake, List.getElem?_drop]
      congr 1
      omega

/-- `count` rows of `width` elements from `start`, `stride` apart. -/
structure Rows where
  start : ℕ
  stride : ℕ
  width : ℕ
  count : ℕ

/-- The position belongs to a row. -/
def Rows.Has (R : Rows) (k : ℕ) : Prop :=
  ∃ row < R.count, ∃ j < R.width, k = R.start + row * R.stride + j

/-- The rows hold the rows of `src`, if they lie apart, and nothing else changed. -/
structure Copied (R : Rows) (src l l' : List α) : Prop where
  length : l'.length = l.length
  frame : ∀ k, ¬R.Has k → l'[k]? = l[k]?
  rows : R.width ≤ R.stride → ∀ row < R.count, ∀ j < R.width,
    l'[R.start + row * R.stride + j]? = src[row * R.width + j]?

theorem copied_zero (start stride width : ℕ) (src l : List α) :
    Copied ⟨start, stride, width, 0⟩ src l l where
  length := rfl
  frame _ _ := rfl
  rows _ row hrow := absurd hrow (by simp)

/-- One more row, which is copied in full if the rows lie apart. -/
theorem Copied.row {start stride width n : ℕ} {src l l' : List α}
    (h : Copied ⟨start, stride, width, n⟩ src l l') (len : ℕ) (hlen : len ≤ width)
    (hfit : start + n * stride + len ≤ l.length) (hsrc : n * width + len ≤ src.length)
    (hfull : width ≤ stride → len = width) :
    Copied ⟨start, stride, width, n + 1⟩ src l
      (put l' (start + n * stride) ((src.drop (n * width)).take len)) := by
  have hpart : ((src.drop (n * width)).take len).length = len := by
    rw [List.length_take, List.length_drop]
    omega
  have hroom : start + n * stride + ((src.drop (n * width)).take len).length ≤ l'.length := by
    rw [hpart, h.length]
    exact hfit
  refine ⟨by rw [length_put hroom, h.length], fun k hk => ?_, fun hapart row hrow j hj => ?_⟩
  · have hout : ¬(start + n * stride ≤ k ∧
        k < start + n * stride + ((src.drop (n * width)).take len).length) := by
      rintro ⟨hlow, hhigh⟩
      refine hk ⟨n, by simp, k - (start + n * stride), ?_, ?_⟩
      · show k - (start + n * stride) < width
        omega
      · show k = start + n * stride + (k - (start + n * stride))
        omega
    rw [getElem?_put hroom, if_neg hout]
    refine h.frame k fun ⟨row, hrow, j, hj, hk'⟩ => hk ⟨row, ?_, j, hj, hk'⟩
    have hrow' : row < n := hrow
    show row < n + 1
    omega
  · have hapart' : width ≤ stride := hapart
    have hj' : j < width := hj
    have hrow' : row < n + 1 := hrow
    obtain rfl := hfull hapart'
    show (put l' (start + n * stride) _)[start + row * stride + j]? = src[row * len + j]?
    rw [getElem?_put hroom, hpart]
    by_cases hlast : row = n
    · subst hlast
      rw [if_pos ⟨by omega, by omega⟩, List.getElem?_take_of_lt (by omega), List.getElem?_drop]
      congr 1
      omega
    · -- an earlier row ends before the new one begins
      have hstep : (row + 1) * stride ≤ n * stride := Nat.mul_le_mul_right stride (by omega)
      have hexp : (row + 1) * stride = row * stride + stride := Nat.succ_mul row stride
      rw [if_neg (by omega)]
      exact h.rows hapart' row (show row < n by omega) j hj'

end Blit
