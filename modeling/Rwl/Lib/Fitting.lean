import Mathlib.Tactic.Common
import Mathlib.Data.List.Basic

/-!
# Laying items side by side

Items with widths are laid one after the other, as long as they fit into the room there is.

* `span`: the width of a list of items; `fit`: those laid before the first that does not fit;
* `fit_of_between`, `fit_of_span_le`: which rooms give the same items;
* `ahead`: the width of the items with keys below a bound;
* `laid`: each item with where it starts; `exists_laid_iff`: of items sorted by a key, those with
  keys in an interval cover an interval;
* `through`: the width of what a partial function gives; `fit_filterMap`, `mem_laid_filterMap`:
  items of no width make no difference;
* `ahead_of_span_eq`: a sublist of the same width is as wide as the list in front of each bound;
* `exists_step`, `findIdx?_ends`: of stretches one behind the other, the one at a place.
-/

namespace Fitting

variable {α β : Type*} (w : α → ℕ)

/-- The width of the items. -/
def span : List α → ℕ
  | [] => 0
  | a :: l => w a + span l

/-- The items that fit, up to the first that does not. -/
def fit : ℕ → List α → List α
  | _, [] => []
  | room, a :: l => if w a ≤ room then a :: fit (room - w a) l else []

/-- The items from `x` on, each with where it starts. -/
def laid : ℕ → List α → List (α × ℕ)
  | _, [] => []
  | x, a :: l => (a, x) :: laid (x + w a) l

/-- The width of the items with keys below `b`. -/
def ahead (key : α → ℕ) (b : ℕ) : List α → ℕ
  | [] => 0
  | a :: l => (if key a < b then w a else 0) + ahead key b l

variable {w}

@[simp] theorem span_nil : span w [] = 0 := rfl

@[simp] theorem span_cons (a : α) (l : List α) : span w (a :: l) = w a + span w l := rfl

@[simp] theorem fit_nil (room : ℕ) : fit w room [] = [] := rfl

theorem fit_cons_of_le {room : ℕ} {a : α} (h : w a ≤ room) (l : List α) :
    fit w room (a :: l) = a :: fit w (room - w a) l := if_pos h

theorem fit_cons_of_lt {room : ℕ} {a : α} (h : room < w a) (l : List α) :
    fit w room (a :: l) = [] := if_neg (by omega)

@[simp] theorem laid_nil (x : ℕ) : laid w x [] = [] := rfl

@[simp] theorem laid_cons (x : ℕ) (a : α) (l : List α) :
    laid w x (a :: l) = (a, x) :: laid w (x + w a) l := rfl

theorem span_map (f : β → α) (l : List β) : span w (l.map f) = span (fun b => w (f b)) l := by
  induction l with
  | nil => rfl
  | cons b l ih => rw [List.map_cons, span_cons, span_cons, ih]

theorem fit_map (f : β → α) (room : ℕ) (l : List β) :
    fit w room (l.map f) = (fit (fun b => w (f b)) room l).map f := by
  induction l generalizing room with
  | nil => rfl
  | cons b l ih =>
    rw [List.map_cons, fit, fit, ih]
    split_ifs
    · rfl
    · rfl

/-! ### What fits -/

theorem prefix_fit (room : ℕ) (l : List α) : fit w room l <+: l := by
  induction l generalizing room with
  | nil => exact List.prefix_refl _
  | cons a l ih =>
    by_cases h : w a ≤ room
    · rw [fit_cons_of_le h]
      exact (List.prefix_cons_inj a).2 (ih _)
    · rw [fit_cons_of_lt (by omega)]
      exact List.nil_prefix

theorem span_fit_le (room : ℕ) (l : List α) : span w (fit w room l) ≤ room := by
  induction l generalizing room with
  | nil => simp
  | cons a l ih =>
    by_cases h : w a ≤ room
    · rw [fit_cons_of_le h, span_cons]
      have := ih (room - w a)
      omega
    · rw [fit_cons_of_lt (by omega)]
      simp

/-- Less room makes no difference while what was laid still fits. -/
theorem fit_of_between {room room' : ℕ} {l : List α} (h : span w (fit w room l) ≤ room')
    (hle : room' ≤ room) : fit w room' l = fit w room l := by
  induction l generalizing room room' with
  | nil => rfl
  | cons a l ih =>
    by_cases ha : w a ≤ room
    · rw [fit_cons_of_le ha, span_cons] at h
      have hrest : fit w (room' - w a) l = fit w (room - w a) l := ih (by omega) (by omega)
      rw [fit_cons_of_le ha, fit_cons_of_le (by omega), hrest]
    · rw [fit_cons_of_lt (by omega), fit_cons_of_lt (by omega)]

/-- Everything fits if the whole does. -/
theorem fit_of_span_le {room : ℕ} {l : List α} (h : span w l ≤ room) : fit w room l = l := by
  induction l generalizing room with
  | nil => rfl
  | cons a l ih =>
    rw [span_cons] at h
    rw [fit_cons_of_le (by omega), ih (by omega)]

/-! ### Where it is -/

theorem laid_bounds {x : ℕ} {l : List α} {m : α × ℕ} (h : m ∈ laid w x l) :
    x ≤ m.2 ∧ m.2 + w m.1 ≤ x + span w l := by
  induction l generalizing x with
  | nil => cases h
  | cons a l ih =>
    rw [laid_cons] at h
    rcases List.mem_cons.1 h with rfl | h
    · simp only [span_cons]
      omega
    · have := ih h
      rw [span_cons]
      omega

/-! ### In front of a bound -/

section

variable {key : α → ℕ} {a : α} {b lo hi : ℕ} {l : List α}

theorem ahead_cons_of_lt (h : key a < b) (l : List α) :
    ahead w key b (a :: l) = w a + ahead w key b l := by
  rw [ahead, if_pos h]

theorem ahead_cons_of_le (h : b ≤ key a) (l : List α) :
    ahead w key b (a :: l) = ahead w key b l := by
  rw [ahead, if_neg (by omega), Nat.zero_add]

theorem ahead_append (l m : List α) :
    ahead w key b (l ++ m) = ahead w key b l + ahead w key b m := by
  induction l with
  | nil => rw [List.nil_append, ahead, Nat.zero_add]
  | cons a l ih => rw [List.cons_append, ahead, ih, ahead, Nat.add_assoc]

theorem ahead_map (f : β → α) (l : List β) :
    ahead w key b (l.map f) = ahead (fun c => w (f c)) (fun c => key (f c)) b l := by
  induction l with
  | nil => rfl
  | cons c l ih => rw [List.map_cons, ahead, ahead, ih]

theorem ahead_eq_zero (h : ∀ a ∈ l, b ≤ key a) : ahead w key b l = 0 := by
  induction l with
  | nil => rfl
  | cons a l ih =>
    rw [ahead_cons_of_le (h a List.mem_cons_self), ih fun a ha => h a (List.mem_cons_of_mem _ ha)]

theorem ahead_eq_span (h : ∀ a ∈ l, key a < b) : ahead w key b l = span w l := by
  induction l with
  | nil => rfl
  | cons a l ih =>
    rw [ahead_cons_of_lt (h a List.mem_cons_self), ih fun a ha => h a (List.mem_cons_of_mem _ ha),
      span_cons]

theorem ahead_le_span (key : α → ℕ) (b : ℕ) (l : List α) : ahead w key b l ≤ span w l := by
  induction l with
  | nil => exact Nat.le_refl 0
  | cons a l ih =>
    rw [ahead, span_cons]
    split_ifs
    · omega
    · omega

theorem ahead_mono (h : lo ≤ hi) (l : List α) : ahead w key lo l ≤ ahead w key hi l := by
  induction l with
  | nil => exact Nat.le_refl 0
  | cons a l ih =>
    rw [ahead, ahead]
    split_ifs
    · omega
    · omega
    · omega
    · omega

/-- Of items sorted by a key, those with keys from `lo` to `hi` cover one interval. -/
theorem exists_laid_iff {x y : ℕ} (hl : l.Pairwise fun a b => key a ≤ key b) (hle : lo ≤ hi) :
    (∃ m ∈ laid w x l, (m.2 ≤ y ∧ y < m.2 + w m.1) ∧ lo ≤ key m.1 ∧ key m.1 < hi) ↔
      x + ahead w key lo l ≤ y ∧ y < x + ahead w key hi l := by
  induction l generalizing x with
  | nil =>
    simp only [laid_nil, ahead]
    constructor
    · rintro ⟨m, hm, -⟩
      cases hm
    · omega
  | cons a l ih =>
    obtain ⟨ha, hl⟩ := List.pairwise_cons.1 hl
    have hcons : (∃ m ∈ laid w x (a :: l), (m.2 ≤ y ∧ y < m.2 + w m.1) ∧
          lo ≤ key m.1 ∧ key m.1 < hi) ↔
        ((x ≤ y ∧ y < x + w a) ∧ lo ≤ key a ∧ key a < hi) ∨
          ∃ m ∈ laid w (x + w a) l, (m.2 ≤ y ∧ y < m.2 + w m.1) ∧
            lo ≤ key m.1 ∧ key m.1 < hi := by
      rw [laid_cons, List.exists_mem_cons_iff]
    rw [hcons, ih hl]
    by_cases hlo : key a < lo
    · rw [ahead_cons_of_lt hlo, ahead_cons_of_lt (by omega)]
      omega
    · -- all that follows stands behind `lo` as well
      have hzero : ahead w key lo l = 0 := ahead_eq_zero fun b hb => by
        have := ha b hb
        omega
      rw [ahead_cons_of_le (by omega), hzero]
      by_cases hhi : key a < hi
      · rw [ahead_cons_of_lt hhi]
        omega
      · have hzero' : ahead w key hi l = 0 := ahead_eq_zero fun b hb => by
          have := ha b hb
          omega
        rw [ahead_cons_of_le (by omega), hzero']
        omega

end

/-! ### Side by side -/

theorem laid_append (x : ℕ) (l m : List α) :
    laid w x (l ++ m) = laid w x l ++ laid w (x + span w l) m := by
  induction l generalizing x with
  | nil => rfl
  | cons a l ih => rw [List.cons_append, laid_cons, ih, laid_cons, span_cons, List.cons_append,
      Nat.add_assoc]

theorem laid_map (f : β → α) (x : ℕ) (l : List β) :
    laid w x (l.map f) = (laid (fun b => w (f b)) x l).map fun m => (f m.1, m.2) := by
  induction l generalizing x with
  | nil => rfl
  | cons b l ih => rw [List.map_cons, laid_cons, ih, laid_cons, List.map_cons]

theorem map_fst_laid (x : ℕ) (l : List α) : (laid w x l).map Prod.fst = l := by
  induction l generalizing x with
  | nil => rfl
  | cons a l ih => rw [laid_cons, List.map_cons, ih]

theorem mem_of_mem_laid {x : ℕ} {l : List α} {m : α × ℕ} (h : m ∈ laid w x l) : m.1 ∈ l := by
  rw [← map_fst_laid (w := w) x l]
  exact List.mem_map_of_mem h

/-- Items that all have a width start one behind the other. -/
theorem laid_sorted (hw : ∀ a, 0 < w a) (x : ℕ) (l : List α) :
    (laid w x l).Pairwise fun m n => m.2 < n.2 := by
  induction l generalizing x with
  | nil => exact List.Pairwise.nil
  | cons a l ih =>
    refine List.pairwise_cons.2 ⟨fun m hm => ?_, ih _⟩
    have hpos := hw a
    have := (laid_bounds hm).1
    show x < m.2
    omega

/-! ### Items of no width -/

/-- The width of what `f` gives, if anything. -/
def through (w : α → ℕ) (f : β → Option α) (b : β) : ℕ := ((f b).map w).getD 0

variable {f : β → Option α}

theorem through_of_none {b : β} (h : f b = none) : through w f b = 0 := by
  rw [through, h]
  rfl

theorem through_of_some {b : β} {a : α} (h : f b = some a) : through w f b = w a := by
  rw [through, h]
  rfl

theorem span_filterMap (l : List β) : span w (l.filterMap f) = span (through w f) l := by
  induction l with
  | nil => rfl
  | cons b l ih =>
    rw [span_cons, ← ih]
    cases h : f b with
    | none => rw [List.filterMap_cons_none h, through_of_none h, Nat.zero_add]
    | some a => rw [List.filterMap_cons_some h, through_of_some h, span_cons]

theorem fit_filterMap (room : ℕ) (l : List β) :
    fit w room (l.filterMap f) = (fit (through w f) room l).filterMap f := by
  induction l generalizing room with
  | nil => rfl
  | cons b l ih =>
    cases h : f b with
    | none =>
      have hzero : through w f b = 0 := through_of_none h
      rw [List.filterMap_cons_none h, fit_cons_of_le (by omega), List.filterMap_cons_none h, hzero,
        ih]
      rfl
    | some a =>
      have hw : through w f b = w a := through_of_some h
      rw [List.filterMap_cons_some h]
      by_cases ha : w a ≤ room
      · rw [fit_cons_of_le ha, fit_cons_of_le (by omega), List.filterMap_cons_some h, hw, ih]
      · rw [fit_cons_of_lt (by omega), fit_cons_of_lt (by omega)]
        rfl

theorem mem_laid_filterMap {x : ℕ} {l : List β} {m : α × ℕ} :
    m ∈ laid w x (l.filterMap f) ↔
      ∃ n ∈ laid (through w f) x l, f n.1 = some m.1 ∧ n.2 = m.2 := by
  induction l generalizing x with
  | nil => simp
  | cons b l ih =>
    rw [laid_cons, List.exists_mem_cons_iff]
    cases h : f b with
    | none => simp [List.filterMap_cons_none h, ih, through_of_none h]
    | some a =>
      rw [List.filterMap_cons_some h, laid_cons, List.mem_cons, ih, through_of_some h]
      refine or_congr_left ⟨?_, ?_⟩
      · rintro rfl
        exact ⟨rfl, rfl⟩
      · rintro ⟨ha, hx⟩
        exact Prod.ext (Option.some.inj ha).symm hx.symm

/-! ### Parts of equal width -/

theorem span_le_of_sublist {l m : List α} (h : l.Sublist m) : span w l ≤ span w m := by
  induction h with
  | slnil => exact Nat.le_refl _
  | cons a _ ih =>
    rw [span_cons]
    omega
  | cons_cons a _ ih =>
    rw [span_cons, span_cons]
    omega

/-- A sublist of the same width is as wide as the list in front of each bound. -/
theorem ahead_of_span_eq {l m : List α} (h : l.Sublist m) (heq : span w l = span w m)
    (key : α → ℕ) (b : ℕ) : ahead w key b l = ahead w key b m := by
  induction h with
  | slnil => rfl
  | @cons l m a hsub ih =>
    have hle := span_le_of_sublist (w := w) hsub
    rw [span_cons] at heq
    rw [ih (by omega), ahead]
    split_ifs
    · omega
    · omega
  | @cons_cons l m a _ ih =>
    rw [span_cons, span_cons] at heq
    rw [ahead, ahead, ih (by omega)]

/-! ### Looking up a place -/

/-- A place behind the start of the first stretch and in front of the end of the last is in one. -/
theorem exists_step {f : ℕ → ℕ} {n y : ℕ} (h0 : f 0 ≤ y) (hn : y < f n) :
    ∃ k, f k ≤ y ∧ y < f (k + 1) := by
  induction n with
  | zero => omega
  | succ n ih =>
    by_cases h : y < f n
    · exact ih h
    · exact ⟨n, by omega, hn⟩

/-- The first stretch that ends behind a place is the one it is in. -/
theorem findIdx?_ends {f : ℕ → ℕ} (hf : ∀ j k, j ≤ k → f j ≤ f k) (h0 : f 0 = 0) {n y k : ℕ} :
    ((List.range n).map fun k => f (k + 1)).findIdx? (fun stop => decide (y < stop)) = some k ↔
      k < n ∧ f k ≤ y ∧ y < f (k + 1) := by
  rw [List.findIdx?_eq_some_iff_getElem]
  simp only [List.length_map, List.length_range, List.getElem_map, List.getElem_range,
    decide_eq_true_eq, Nat.not_lt]
  constructor
  · rintro ⟨hk, hlt, hbefore⟩
    refine ⟨hk, ?_, hlt⟩
    cases k with
    | zero => omega
    | succ k => exact hbefore k (Nat.lt_succ_self k)
  · rintro ⟨hk, hle, hlt⟩
    exact ⟨hk, hlt, fun j hj => Nat.le_trans (hf (j + 1) k hj) hle⟩

end Fitting
