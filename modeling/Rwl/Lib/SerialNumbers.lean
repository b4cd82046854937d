import Mathlib.Tactic.Common
import Mathlib.Data.Nat.ModEq

/-!
# Numbers that wrap

A counter that starts again after `P` numbers, and a comparison that takes the shorter way round.

* `number P m k`: the `k`-th number from `m` on;
* `order half a b`: the comparison, inverted for a distance of `half` and more;
* `order_number`: the later number is the greater one, as long as it is less than `half` later and
  not within `half` of a whole round;
* `drop_older`: then those of a list that are newer than one of its elements are the ones behind
  it.
-/

namespace SerialNumbers

/-- The `k`-th number behind `m`. -/
def number (P m k : ℕ) : ℕ := (m + k) % P

/-- The comparison of two numbers that wrap. -/
def order (half a b : ℕ) : Ordering :=
  if max a b - min a b < half then compare a b else compare b a

variable {P half m : ℕ}

theorem number_succ (P m k : ℕ) : number P m (k + 1) = number P ((m + 1) % P) k := by
  unfold number
  rw [Nat.mod_add_mod]
  congr 1
  omega

/-- A number that comes `d` later is `d` greater, or `P - d` less. -/
theorem number_add {i d : ℕ} (hd : d < P) :
    number P m (i + d) = number P m i + d ∨ number P m (i + d) + P = number P m i + d := by
  unfold number
  rw [← Nat.add_assoc]
  generalize m + i = k
  have hk : k % P < P := Nat.mod_lt _ (by omega)
  rw [Nat.add_mod, Nat.mod_eq_of_lt hd]
  by_cases h : k % P + d < P
  · exact .inl (Nat.mod_eq_of_lt h)
  · right
    rw [Nat.mod_eq_sub_mod (by omega), Nat.mod_eq_of_lt (by omega)]
    omega

/-- **The later number is the greater one.** -/
theorem order_number {i j : ℕ} (hij : i < j) (hhalf : j - i < half) (hround : j - i + half ≤ P) :
    order half (number P m j) (number P m i) = .gt ∧
      order half (number P m i) (number P m j) = .lt := by
  obtain ⟨d, rfl⟩ := Nat.exists_eq_add_of_lt hij
  have hnumber := number_add (P := P) (m := m) (i := i) (d := d + 1) (by omega)
  rw [← Nat.add_assoc] at hnumber
  unfold order
  generalize number P m (i + d + 1) = b at *
  generalize number P m i = a at *
  rcases hnumber with h | h
  · have hlt : a < b := by omega
    rw [if_pos (by omega), if_pos (by omega)]
    exact ⟨Nat.compare_eq_gt.mpr hlt, Nat.compare_eq_lt.mpr hlt⟩
  · have hlt : b < a := by omega
    rw [if_neg (by omega), if_neg (by omega)]
    exact ⟨Nat.compare_eq_gt.mpr hlt, Nat.compare_eq_lt.mpr hlt⟩

theorem order_add_one (half a b : ℕ) : order half (a + 1) (b + 1) = order half a b := by
  have hdist : max (a + 1) (b + 1) - min (a + 1) (b + 1) = max a b - min a b := by omega
  have hcompare : ∀ a b : ℕ, compare (a + 1) (b + 1) = compare a b := fun a b => by
    simp only [Nat.compare_eq_ite_lt, Nat.add_lt_add_iff_right]
  unfold order
  rw [hdist, hcompare, hcompare]

theorem order_self (hhalf : 0 < half) (a : ℕ) : order half a a = .eq := by
  unfold order
  rw [if_pos (by omega)]
  exact Nat.compare_eq_eq.mpr rfl

/-- In a list from old to new, what is newer than an element is what is behind it. -/
theorem drop_older {α : Type*} {newer : α → α → Prop} [DecidableRel newer] {pre post : List α}
    {c : α} (h : (pre ++ c :: post).Pairwise fun a b => newer b a ∧ ¬newer a b)
    (hc : ¬newer c c) :
    (pre ++ c :: post).filter (fun a => decide (newer a c)) = post := by
  obtain ⟨-, htail, hcross⟩ := List.pairwise_append.mp h
  have hpre : pre.filter (fun a => decide (newer a c)) = [] :=
    List.filter_eq_nil_iff.mpr fun a ha => by
      simpa using (hcross a ha c List.mem_cons_self).2
  have hpost : post.filter (fun a => decide (newer a c)) = post :=
    List.filter_eq_self.mpr fun a ha => by
      simpa using ((List.pairwise_cons.mp htail).1 a ha).1
  rw [List.filter_append, hpre, List.filter_cons_of_neg (by simpa using hc), hpost, List.nil_append]

end SerialNumbers
