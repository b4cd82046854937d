import Mathlib.Algebra.Order.BigOperators.Group.List
import Mathlib.Tactic.Common
import Mathlib.Tactic.FieldSimp
import Mathlib.Tactic.Linarith
import Rwl.Theory.LayoutSplits

/-!
# Proportional division

`weighted_spans` rounds the share of each weight in what is left over the weights that are left.

* `share_nonneg`, `share_le`: a share is between nothing and all that is left;
* `share_of_nonpos`, `share_last`: what a weight gets that is nothing, or the last that is
  something;
* `Between q n total`: `n` entries of `q` or `q + 1` can make up the total; `between_share`: one
  share keeps it;
* `weighted_spans_divides`: the sum, the sign, the zero weights, the equal weights and the bound.
-/

namespace Compositor

namespace layout

/-- The weights that are left weigh something. -/
def Weighs (ws : List ℚ) : Prop := ∃ w ∈ ws, 0 < w

theorem sum_max_nonneg (ws : List ℚ) : 0 ≤ (ws.map (max · 0)).sum :=
  List.sum_nonneg fun _ hx => by
    obtain ⟨w, _, rfl⟩ := List.mem_map.1 hx
    exact le_max_right w 0

theorem sum_max_pos_iff (ws : List ℚ) : 0 < (ws.map (max · 0)).sum ↔ Weighs ws := by
  induction ws with
  | nil => simp [Weighs]
  | cons w ws ih =>
    have hrest := sum_max_nonneg ws
    rw [List.map_cons, List.sum_cons]
    constructor
    · intro h
      by_cases hw : 0 < w
      · exact ⟨w, List.mem_cons_self, hw⟩
      · rw [max_eq_right (not_lt.1 hw), zero_add] at h
        obtain ⟨v, hv, hpos⟩ := ih.1 h
        exact ⟨v, List.mem_cons_of_mem _ hv, hpos⟩
    · rintro ⟨v, hv, hpos⟩
      rcases List.mem_cons.1 hv with rfl | hv
      · have := le_max_left v 0
        linarith
      · have := ih.2 ⟨v, hv, hpos⟩
        have := le_max_right w 0
        linarith

/-! ### One share -/

section

variable {total : ℤ} {f : ℚ} {rest : List ℚ}

theorem share_of_weighs (h : Weighs (f :: rest)) :
    share total f rest =
      roundAway (total * (max f 0 / (max f 0 + (rest.map (max · 0)).sum))) := by
  have hpos := (sum_max_pos_iff _).2 h
  rw [List.map_cons, List.sum_cons] at hpos
  unfold share
  simp only [List.map_cons, List.sum_cons]
  rw [if_pos hpos]

theorem share_of_not_weighs (h : ¬ Weighs (f :: rest)) :
    share total f rest = total.tdiv (rest.length + 1 : ℕ) := by
  unfold share
  exact if_neg fun hpos => h ((sum_max_pos_iff _).1 hpos)

/-- The part of a weight in what is left is between nothing and all of it. -/
theorem part_mem (h : Weighs (f :: rest)) :
    0 ≤ max f 0 / (max f 0 + (rest.map (max · 0)).sum) ∧
      max f 0 / (max f 0 + (rest.map (max · 0)).sum) ≤ 1 := by
  have hpos := (sum_max_pos_iff _).2 h
  rw [List.map_cons, List.sum_cons] at hpos
  have hf := le_max_right f 0
  have hrest := sum_max_nonneg rest
  constructor
  · exact div_nonneg hf hpos.le
  · rw [div_le_one hpos]
    linarith

theorem share_nonneg (htotal : 0 ≤ total) : 0 ≤ share total f rest := by
  by_cases h : Weighs (f :: rest)
  · rw [share_of_weighs h]
    apply le_roundAway
    have hcast : (0 : ℚ) ≤ total := by exact_mod_cast htotal
    rw [Int.cast_zero]
    exact mul_nonneg hcast (part_mem h).1
  · rw [share_of_not_weighs h, Int.tdiv_eq_ediv_of_nonneg htotal]
    exact Int.ediv_nonneg htotal (by omega)

theorem share_le (htotal : 0 ≤ total) : share total f rest ≤ total := by
  by_cases h : Weighs (f :: rest)
  · rw [share_of_weighs h]
    apply roundAway_le
    have hcast : (0 : ℚ) ≤ total := by exact_mod_cast htotal
    exact mul_le_of_le_one_right hcast (part_mem h).2
  · rw [share_of_not_weighs h, Int.tdiv_eq_ediv_of_nonneg htotal]
    exact Int.ediv_le_self _ htotal

/-- A weight that is nothing gets nothing while a later one weighs something. -/
theorem share_of_nonpos (hf : f ≤ 0) (h : Weighs rest) : share total f rest = 0 := by
  obtain ⟨w, hw, hpos⟩ := h
  rw [share_of_weighs ⟨w, List.mem_cons_of_mem _ hw, hpos⟩, max_eq_right hf, zero_div, mul_zero]
  exact roundAway_intCast 0

/-- The last weight that is something gets all that is left. -/
theorem share_last (hf : 0 < f) (h : ¬ Weighs rest) : share total f rest = total := by
  have hrest : (rest.map (max · 0)).sum = 0 :=
    le_antisymm (not_lt.1 fun hpos => h ((sum_max_pos_iff rest).1 hpos)) (sum_max_nonneg rest)
  have hmax : max f 0 ≠ 0 := by
    rw [max_eq_left hf.le]
    exact hf.ne'
  rw [share_of_weighs ⟨f, List.mem_cons_self, hf⟩, hrest, add_zero, div_self hmax, mul_one]
  exact roundAway_intCast total

end

/-! ### Signs and zero weights -/

theorem weighted_spans_nonneg {total : ℤ} (htotal : 0 ≤ total) (ws : List ℚ) :
    ∀ s ∈ weighted_spans total ws, 0 ≤ s := by
  induction ws generalizing total with
  | nil => exact fun s hs => nomatch hs
  | cons w ws ih =>
    intro s hs
    rw [weighted_spans_cons] at hs
    rcases List.mem_cons.1 hs with rfl | hs
    · exact share_nonneg htotal
    · exact ih (sub_nonneg.2 (share_le htotal)) s hs

/-- What is used before any entry is between nothing and the total. -/
theorem usedBefore_mem {total : ℤ} (htotal : 0 ≤ total) (ws : List ℚ) (k : ℕ) :
    0 ≤ usedBefore total ws k ∧ usedBefore total ws k ≤ total := by
  induction ws generalizing total k with
  | nil => simp [usedBefore, weighted_spans, htotal]
  | cons w ws ih =>
    cases k with
    | zero => simp [htotal]
    | succ k =>
      have hshare : 0 ≤ share total w ws := share_nonneg htotal
      have hle : share total w ws ≤ total := share_le htotal
      have hleft := ih (sub_nonneg.2 hle) k
      rw [usedBefore_succ]
      omega

theorem weighted_spans_zero (ws : List ℚ) : ∀ s ∈ weighted_spans 0 ws, s = 0 := by
  induction ws with
  | nil => exact fun s hs => nomatch hs
  | cons w ws ih =>
    intro s hs
    have hshare : share 0 w ws = 0 := le_antisymm (share_le le_rfl) (share_nonneg le_rfl)
    rw [weighted_spans_cons, hshare] at hs
    rcases List.mem_cons.1 hs with rfl | hs
    · rfl
    · exact ih s hs

theorem span_of_zero {total : ℤ} {ws : List ℚ} (h : Weighs ws) {k : ℕ} (hk : ws[k]? = some 0) :
    (weighted_spans total ws)[k]? = some 0 := by
  induction ws generalizing total k with
  | nil => cases hk
  | cons w ws ih =>
    obtain ⟨v, hv, hpos⟩ := h
    by_cases hrest : Weighs ws
    · cases k with
      | zero =>
        obtain rfl : w = 0 := Option.some.inj hk
        rw [weighted_spans_cons, List.getElem?_cons_zero, share_of_nonpos le_rfl hrest]
      | succ k => exact ih hrest hk
    · -- only the first weight is something: it takes all, and nothing is left for the others
      have hfirst : 0 < w := by
        rcases List.mem_cons.1 hv with rfl | hv
        · exact hpos
        · exact absurd ⟨v, hv, hpos⟩ hrest
      cases k with
      | zero =>
        obtain rfl : w = 0 := Option.some.inj hk
        exact absurd hfirst (lt_irrefl 0)
      | succ k =>
        rw [List.getElem?_cons_succ] at hk
        have hlt : k < (weighted_spans 0 ws).length := by
          rw [length_weighted_spans]
          exact (List.getElem?_eq_some_iff.1 hk).1
        rw [weighted_spans_cons, share_last hfirst hrest, sub_self, List.getElem?_cons_succ,
          List.getElem?_eq_getElem hlt, weighted_spans_zero ws _ (List.getElem_mem hlt)]

/-! ### Equal weights -/

/-- `n` entries, each `q` or one more, can make up the total. -/
def Between (q : ℤ) (n : ℕ) (total : ℤ) : Prop := q * n ≤ total ∧ total ≤ (q + 1) * n

theorem between_ediv {total : ℤ} {n : ℕ} (hn : 0 < n) : Between (total / n) n total := by
  have hn : (0 : ℤ) < n := by exact_mod_cast hn
  constructor
  · exact Int.ediv_mul_le _ hn.ne'
  · exact (Int.lt_ediv_add_one_mul_self _ hn).le

/-- A number next to the part of one of `n + 1` equal entries leaves a part between the same bounds
for the others. -/
theorem between_of_near {q total s : ℤ} {n : ℕ} (h : Between q (n + 1) total)
    (hlow : 2 * (total - s * (n + 1)) ≤ n + 1) (hhigh : -(n + 1) ≤ 2 * (total - s * (n + 1)))
    (hs : q ≤ s ∧ s ≤ q + 1) : Between q n (total - s) := by
  obtain ⟨hq, hq'⟩ := h
  have heq : s = q ∨ s = q + 1 := by omega
  push_cast at hq hq'
  constructor <;> rcases heq with rfl | rfl <;> ring_nf at * <;> omega

/-- The exact part of one of `n + 1` equal weights, when they weigh something. -/
theorem share_replicate {total : ℤ} {f : ℚ} (n : ℕ) (hf : 0 < f) :
    share total f (List.replicate n f) = roundAway (total / (n + 1 : ℚ)) := by
  rw [share_of_weighs ⟨f, List.mem_cons_self, hf⟩, List.map_replicate, List.sum_replicate,
    nsmul_eq_mul, max_eq_left hf.le]
  congr 1
  have hn : (n : ℚ) + 1 ≠ 0 := by positivity
  field_simp
  ring

theorem between_share {q total : ℤ} {f : ℚ} {n : ℕ} (hq : 0 ≤ q) (h : Between q (n + 1) total) :
    (q ≤ share total f (List.replicate n f) ∧ share total f (List.replicate n f) ≤ q + 1) ∧
      Between q n (total - share total f (List.replicate n f)) := by
  obtain ⟨hlow, hhigh⟩ := h
  by_cases hf : 0 < f
  · -- the share is the nearest number to the exact part
    rw [share_replicate n hf]
    have hn : (0 : ℚ) < n + 1 := by positivity
    have hlow' : (q : ℚ) ≤ total / (n + 1 : ℚ) := by
      rw [le_div_iff₀ hn]
      exact_mod_cast hlow
    have hhigh' : (total : ℚ) / (n + 1 : ℚ) ≤ (q + 1 : ℤ) := by
      rw [div_le_iff₀ hn]
      exact_mod_cast hhigh
    have hs := And.intro (le_roundAway hlow') (roundAway_le hhigh')
    refine ⟨hs, between_of_near ⟨hlow, hhigh⟩ ?_ ?_ hs⟩
    · have hnear := (roundAway_bounds (total / (n + 1 : ℚ))).1
      rw [sub_le_iff_le_add, div_le_iff₀ hn] at hnear
      have hcast : (2 * (total - roundAway (total / (n + 1 : ℚ)) * (n + 1)) : ℚ) ≤ n + 1 := by
        linarith
      exact_mod_cast hcast
    · have hnear := (roundAway_bounds (total / (n + 1 : ℚ))).2
      rw [← sub_le_iff_le_add, le_div_iff₀ hn] at hnear
      have hcast : (-(n + 1) : ℚ) ≤ 2 * (total - roundAway (total / (n + 1 : ℚ)) * (n + 1)) := by
        linarith
      exact_mod_cast hcast
  · -- nothing weighs anything: the share is the exact part rounded down
    have htotal : 0 ≤ total := le_trans (mul_nonneg hq (by omega)) hlow
    have hnot : ¬ Weighs (f :: List.replicate n f) := by
      rintro ⟨w, hw, hpos⟩
      rcases List.mem_cons.1 hw with rfl | hw
      · exact hf hpos
      · exact hf (List.eq_of_mem_replicate hw ▸ hpos)
    rw [share_of_not_weighs hnot, List.length_replicate, Int.tdiv_eq_ediv_of_nonneg htotal]
    have hn : (0 : ℤ) < (n + 1 : ℕ) := by omega
    have hqle : q ≤ total / (n + 1 : ℕ) := (Int.le_ediv_iff_mul_le hn).2 hlow
    have hle : total / (n + 1 : ℕ) ≤ q + 1 := Int.ediv_le_of_le_mul hn hhigh
    refine ⟨⟨hqle, hle⟩, ?_⟩
    have hfloor : total / (n + 1 : ℕ) * (n + 1 : ℕ) ≤ total := Int.ediv_mul_le total hn.ne'
    have hlt := Int.lt_ediv_add_one_mul_self total hn
    generalize total / ((n + 1 : ℕ) : ℤ) = s at *
    have hs : s = q ∨ s = q + 1 := by omega
    push_cast at *
    constructor <;> rcases hs with rfl | rfl <;> ring_nf at * <;> omega

theorem spans_between {q total : ℤ} (hq : 0 ≤ q) (f : ℚ) (n : ℕ) (h : Between q n total) :
    ∀ s ∈ weighted_spans total (List.replicate n f), q ≤ s ∧ s ≤ q + 1 := by
  induction n generalizing total with
  | zero => exact fun s hs => nomatch hs
  | succ n ih =>
    obtain ⟨hshare, hrest⟩ := between_share (f := f) hq h
    intro s hs
    rw [List.replicate_succ, weighted_spans_cons] at hs
    rcases List.mem_cons.1 hs with rfl | hs
    · exact hshare
    · exact ih hrest s hs

/-- Spans of equal weights differ by at most one. -/
theorem spans_of_equal {total : ℤ} (htotal : 0 ≤ total) {ws : List ℚ} {f : ℚ}
    (heq : ∀ w ∈ ws, w = f) {s t : ℤ} (hs : s ∈ weighted_spans total ws)
    (ht : t ∈ weighted_spans total ws) : s ≤ t + 1 := by
  have hrep : ws = List.replicate ws.length f := List.eq_replicate_of_mem heq
  rcases Nat.eq_zero_or_pos ws.length with hn | hn
  · rw [List.length_eq_zero_iff.1 hn] at hs
    cases hs
  · have hq : 0 ≤ total / (ws.length : ℤ) := Int.ediv_nonneg htotal (by omega)
    have hall := spans_between hq f ws.length (between_ediv hn)
    rw [← hrep] at hall
    have := hall s hs
    have := hall t ht
    omega

/-! ### The division -/

/-- The spans are one non-negative integer a weight and add up to the total; weights that are
nothing get nothing while any other is something, equal weights get the same up to one pixel, and
no span is more than what is left. -/
theorem weighted_spans_divides (total : ℤ) (ws : List ℚ) (htotal : 0 ≤ total) :
    (weighted_spans total ws).length = ws.length ∧
    (∀ s ∈ weighted_spans total ws, 0 ≤ s) ∧
    (ws ≠ [] → (weighted_spans total ws).sum = total) ∧
    ((∃ w ∈ ws, 0 < w) → ∀ k : ℕ, ws[k]? = some 0 → (weighted_spans total ws)[k]? = some 0) ∧
    (∀ f, (∀ w ∈ ws, w = f) → ∀ s ∈ weighted_spans total ws, ∀ t ∈ weighted_spans total ws,
      s ≤ t + 1) ∧
    ∀ (k : ℕ) (s : ℤ), (weighted_spans total ws)[k]? = some s →
      s ≤ total - usedBefore total ws k := by
  refine ⟨length_weighted_spans total ws, weighted_spans_nonneg htotal ws,
    fun hne => sum_weighted_spans total hne, fun h k hk => span_of_zero h hk,
    fun f heq s hs t ht => spans_of_equal htotal heq hs ht, fun k s hs => ?_⟩
  rw [getElem?_weighted_spans] at hs
  obtain ⟨f, -, rfl⟩ := Option.map_eq_some_iff.1 hs
  exact share_le (sub_nonneg.2 (usedBefore_mem htotal ws k).2)

theorem weighted_spans_divides_three :
    (weighted_spans 100 [1, 0, 1 / 2]).sum = 100 ∧
      (weighted_spans 100 [1, 0, 1 / 2])[1]? = some 0 := by
  have h := weighted_spans_divides 100 [1, 0, 1 / 2] (by decide)
  exact ⟨h.2.2.1 (by decide), h.2.2.2.1 ⟨1, by decide, by decide⟩ 1 rfl⟩

end layout

end Compositor
