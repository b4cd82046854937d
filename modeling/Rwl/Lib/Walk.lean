import Mathlib.Tactic.Common
import Mathlib.Data.List.Rotate
import Mathlib.Data.List.Perm.Subperm
import Mathlib.Algebra.Order.Group.Unbundled.Int
import Mathlib.Tactic.LinearCombination
import Mathlib.Tactic.Ring
import Mathlib.Tactic.Zify

/-!
# Walking round a circle of places

The places are `0, …, n - 1`; a walk takes one step at a time in one direction.

* `round n p dir`: the places met in one turn from `p`, which comes last;
* `perm_round`: a turn meets every place once; `round_getElem`: the turn from a place met is a
  rotation of the first one;
* `tour`: go to the next place with some property, again and again; `tour_eq`: the tour meets the
  places with the property in the order of the first turn.
-/

namespace Walk

variable {n : ℕ} {dir : ℤ}

/-- The places met in one turn from `p`. -/
def round (n : ℕ) (p dir : ℤ) : List ℕ :=
  (List.range n).map fun k => ((p + dir * (k + 1 : ℕ)).emod n).toNat

@[simp] theorem length_round (n : ℕ) (p dir : ℤ) : (round n p dir).length = n := by
  simp [round]

theorem getElem_round (p : ℤ) {k : ℕ} (hk : k < (round n p dir).length) :
    (round n p dir)[k] = ((p + dir * (k + 1 : ℕ)).emod n).toNat := by
  simp [round]

/-- A place met, as an integer. -/
theorem coe_place (hn : 0 < n) (a : ℤ) : ((a.emod n).toNat : ℤ) = a % n :=
  Int.toNat_of_nonneg (Int.emod_nonneg a (by omega))

theorem lt_of_mem_round {p : ℤ} {t : ℕ} (ht : t ∈ round n p dir) : t < n := by
  obtain ⟨k, hk, rfl⟩ := List.getElem_of_mem ht
  rw [length_round] at hk
  have hlt := Int.emod_lt_of_pos (p + dir * (k + 1 : ℕ)) (show (0 : ℤ) < n by omega)
  have hcoe := coe_place (by omega : 0 < n) (p + dir * (k + 1 : ℕ))
  rw [getElem_round]
  omega

/-- Two steps of one turn meet different places. -/
theorem nodup_round (hdir : dir = 1 ∨ dir = -1) (p : ℤ) : (round n p dir).Nodup := by
  refine List.Nodup.map_on (fun i hi j hj he => ?_) List.nodup_range
  rw [List.mem_range] at hi hj
  have hn : 0 < n := by omega
  have hmod : (p + dir * (i + 1 : ℕ)) % n = (p + dir * (j + 1 : ℕ)) % n := by
    rw [← coe_place hn, ← coe_place hn, he]
  have hdvd : (n : ℤ) ∣ (i - j : ℤ) := by
    have hsub := Int.dvd_of_emod_eq_zero (Int.emod_eq_emod_iff_emod_sub_eq_zero.1 hmod)
    have heq : p + dir * (i + 1 : ℕ) - (p + dir * (j + 1 : ℕ)) = dir * (i - j) := by
      push_cast
      ring
    rw [heq] at hsub
    rcases hdir with rfl | rfl
    · rwa [one_mul] at hsub
    · rwa [neg_one_mul, Int.dvd_neg] at hsub
  have hzero := Int.eq_zero_of_abs_lt_dvd hdvd (abs_lt.2 ⟨by omega, by omega⟩)
  omega

/-- **A turn meets every place once.** -/
theorem perm_round (hdir : dir = 1 ∨ dir = -1) (p : ℤ) :
    (round n p dir).Perm (List.range n) := by
  refine (List.subperm_of_subset (nodup_round hdir p) fun t ht => ?_).perm_of_length_le ?_
  · exact List.mem_range.2 (lt_of_mem_round ht)
  · simp

/-- The turn from a place met goes on where the first one was. -/
theorem round_getElem (p : ℤ) {k : ℕ} (hk : k < (round n p dir).length) :
    round n ((round n p dir)[k] : ℕ) dir = (round n p dir).rotate (k + 1) := by
  refine List.ext_getElem (by simp) fun i h₁ h₂ => ?_
  rw [length_round] at h₁ hk
  have hn : 0 < n := by omega
  rw [List.getElem_rotate, getElem_round, getElem_round, getElem_round, coe_place hn]
  congr 1
  have hsum := Nat.mod_add_div (i + (k + 1)) n
  change ((p + dir * (k + 1 : ℕ)) % n + dir * (i + 1 : ℕ)) % n = _ % n
  rw [Int.emod_add_emod, length_round]
  refine Int.emod_eq_emod_iff_emod_sub_eq_zero.2 (Int.emod_eq_zero_of_dvd ?_)
  -- the two differ by whole turns
  refine ⟨dir * ((i + (k + 1)) / n : ℕ), ?_⟩
  zify at hsum ⊢
  linear_combination (-dir) * hsum

/-! ### Tours -/

/-- Go to the next place with the property `q`, `c` times. -/
def tour (n : ℕ) (dir : ℤ) (q : ℕ → Bool) : ℕ → ℤ → List ℕ
  | 0, _ => []
  | c + 1, p => match (round n p dir).find? q with
    | some t => t :: tour n dir q c t
    | none => []

/-- **A tour meets the places with the property in the order of the first turn.** -/
theorem tour_eq (q : ℕ → Bool) {c : ℕ} {p : ℤ} (hc : c ≤ ((round n p dir).filter q).length) :
    tour n dir q c p = ((round n p dir).filter q).take c := by
  induction c generalizing p with
  | zero => rfl
  | succ c ih =>
    unfold tour
    cases ht : (round n p dir).find? q with
    | none =>
      have hnil : (round n p dir).filter q = [] := by
        rw [← List.head?_filter, List.head?_eq_none_iff] at ht
        exact ht
      rw [hnil] at hc
      simp at hc
    | some t =>
      obtain ⟨hq, pre, post, hsplit, hpre⟩ := List.find?_eq_some_iff_append.1 ht
      have hskip : pre.filter q = [] :=
        List.filter_eq_nil_iff.2 fun a ha => by simpa using hpre a ha
      have hfirst : (round n p dir).filter q = t :: post.filter q := by
        rw [hsplit, List.filter_append, List.filter_cons_of_pos hq, hskip, List.nil_append]
      -- the next turn starts behind `t` and ends with it
      have hlt : pre.length < (round n p dir).length := by
        rw [hsplit]
        simp
      have hplace : (round n p dir)[pre.length] = t := by simp [hsplit]
      have hnext : round n t dir = post ++ (pre ++ [t]) := by
        have hrotate := round_getElem p hlt
        rw [hplace] at hrotate
        have hlen : pre.length + 1 = (pre ++ [t]).length := by simp
        rw [hrotate, hsplit, List.append_cons, hlen, List.rotate_append_length_eq]
      have hfilter : (round n t dir).filter q = post.filter q ++ [t] := by
        rw [hnext, List.filter_append, List.filter_append, hskip, List.nil_append,
          List.filter_cons_of_pos hq, List.filter_nil]
      rw [hfirst, List.length_cons] at hc
      have hle : c ≤ (post.filter q).length := by omega
      have hrest : tour n dir q c t = (post.filter q).take c := by
        rw [ih (by rw [hfilter, List.length_append]; omega), hfilter,
          List.take_append_of_le_length hle]
      rw [hfirst, List.take_succ_cons, ← hrest]

end Walk
