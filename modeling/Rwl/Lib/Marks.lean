import Mathlib.Tactic.Common

/-!
# Marks in a text

A text with marks between its letters is kept as the letters alone, and the marks with the place
where each stands: the size of the letters in front of it.

* `Item`, `letters`, `signs`: letters and marks in one list, and each kind alone;
* `placed`: the marks with their places;
* `placed_sorted`, `placed_between`: the places do not decrease, and each is the end of a prefix;
* `lead_split`, `takeWhile_placed`: a reader that takes the marks of one place at each letter takes
  exactly those in front of it.
-/

namespace Marks

variable {α β : Type*}

/-- A letter of a text, or a mark. -/
inductive Item (α β : Type*)
  | letter (a : α)
  | mark (b : β)
  deriving DecidableEq

/-- The letters alone. -/
def letters : List (Item α β) → List α
  | [] => []
  | .letter a :: l => a :: letters l
  | .mark _ :: l => letters l

/-- The marks alone. -/
def signs : List (Item α β) → List β
  | [] => []
  | .letter _ :: l => signs l
  | .mark b :: l => b :: signs l

@[simp] theorem letters_append (l m : List (Item α β)) :
    letters (l ++ m) = letters l ++ letters m := by
  induction l with
  | nil => rfl
  | cons x l ih =>
    cases x with
    | letter a => exact congrArg (a :: ·) ih
    | mark b => exact ih

@[simp] theorem signs_append (l m : List (Item α β)) : signs (l ++ m) = signs l ++ signs m := by
  induction l with
  | nil => rfl
  | cons x l ih =>
    cases x with
    | letter a => exact ih
    | mark b => exact congrArg (b :: ·) ih

@[simp] theorem letters_map_mark (bs : List β) : letters (bs.map (Item.mark (α := α))) = [] := by
  induction bs with
  | nil => rfl
  | cons b bs ih => exact ih

@[simp] theorem signs_map_mark (bs : List β) : signs (bs.map (Item.mark (α := α))) = bs := by
  induction bs with
  | nil => rfl
  | cons b bs ih => exact congrArg (b :: ·) ih

@[simp] theorem letters_map_letter (l : List α) :
    letters (l.map (Item.letter (β := β))) = l := by
  induction l with
  | nil => rfl
  | cons a l ih => exact congrArg (a :: ·) ih

@[simp] theorem signs_map_letter (l : List α) : signs (l.map (Item.letter (β := β))) = [] := by
  induction l with
  | nil => rfl
  | cons a l ih => exact ih

/-! ### Places -/

variable (size : α → ℕ)

/-- The size of a text. -/
def total : List α → ℕ
  | [] => 0
  | a :: l => size a + total l

/-- The marks with their places, from `pos` on. -/
def placed : ℕ → List (Item α β) → List (ℕ × β)
  | _, [] => []
  | pos, .letter a :: l => placed (pos + size a) l
  | pos, .mark b :: l => (pos, b) :: placed pos l

variable {size}

@[simp] theorem total_nil : total size [] = 0 := rfl

@[simp] theorem total_cons (a : α) (l : List α) : total size (a :: l) = size a + total size l := rfl

@[simp] theorem total_append (l m : List α) :
    total size (l ++ m) = total size l + total size m := by
  induction l with
  | nil => simp
  | cons a l ih => rw [List.cons_append, total_cons, ih, total_cons, Nat.add_assoc]

theorem placed_append (pos : ℕ) (l m : List (Item α β)) :
    placed size pos (l ++ m) = placed size pos l ++ placed size (pos + total size (letters l)) m := by
  induction l generalizing pos with
  | nil => rfl
  | cons x l ih =>
    cases x with
    | letter a =>
      rw [List.cons_append, placed, ih, placed, letters, total_cons, Nat.add_assoc]
    | mark b => rw [List.cons_append, placed, ih, placed, letters, List.cons_append]

/-- Each mark stands at the end of the letters in front of it. -/
theorem placed_between {pos : ℕ} {l : List (Item α β)} {m : ℕ × β} (hm : m ∈ placed size pos l) :
    ∃ u v, l = u ++ .mark m.2 :: v ∧ m.1 = pos + total size (letters u) := by
  induction l generalizing pos with
  | nil => cases hm
  | cons x l ih =>
    cases x with
    | letter a =>
      obtain ⟨u, v, rfl, hpos⟩ := ih hm
      refine ⟨.letter a :: u, v, rfl, ?_⟩
      rw [hpos, letters, total_cons, Nat.add_assoc]
    | mark b =>
      rcases List.mem_cons.1 hm with rfl | hm
      · exact ⟨[], l, rfl, rfl⟩
      · obtain ⟨u, v, rfl, hpos⟩ := ih hm
        exact ⟨.mark b :: u, v, rfl, hpos⟩

theorem le_of_mem_placed {pos : ℕ} {l : List (Item α β)} {m : ℕ × β}
    (hm : m ∈ placed size pos l) : pos ≤ m.1 := by
  obtain ⟨u, v, -, hpos⟩ := placed_between hm
  omega

/-- The places do not decrease. -/
theorem placed_sorted (pos : ℕ) (l : List (Item α β)) :
    (placed size pos l).Pairwise fun m m' => m.1 ≤ m'.1 := by
  induction l generalizing pos with
  | nil => exact List.Pairwise.nil
  | cons x l ih =>
    cases x with
    | letter a => exact ih _
    | mark b => exact List.Pairwise.cons (fun m hm => le_of_mem_placed hm) (ih pos)

@[simp] theorem placed_map_mark (pos : ℕ) (bs : List β) :
    placed size pos (bs.map Item.mark) = bs.map fun b => (pos, b) := by
  induction bs with
  | nil => rfl
  | cons b bs ih => exact congrArg ((pos, b) :: ·) ih

/-! ### Reading -/

/-- What stands in front of the first letter. -/
theorem lead_split {l : List (Item α β)} {a : α} {t : List α} (h : letters l = a :: t) :
    ∃ (bs : List β) (r : List (Item α β)), l = bs.map Item.mark ++ .letter a :: r ∧ letters r = t := by
  induction l with
  | nil => cases h
  | cons x l ih =>
    cases x with
    | letter a' =>
      cases h
      exact ⟨[], l, rfl, rfl⟩
    | mark b =>
      obtain ⟨bs, r, rfl, hr⟩ := ih h
      exact ⟨b :: bs, r, rfl, hr⟩

theorem placed_lead (pos : ℕ) (bs : List β) (a : α) (r : List (Item α β)) :
    placed size pos (bs.map Item.mark ++ .letter a :: r) =
      bs.map (fun b => (pos, b)) ++ placed size (pos + size a) r := by
  rw [placed_append, placed_map_mark, letters_map_mark, total_nil, Nat.add_zero]
  rfl

/-- At a letter the marks in front of it are taken, and no other. -/
theorem takeWhile_placed (pos : ℕ) (bs : List β) {a : α} (ha : 0 < size a)
    (r : List (Item α β)) :
    (placed size pos (bs.map Item.mark ++ .letter a :: r)).takeWhile (fun m => decide (m.1 = pos)) =
        bs.map (fun b => (pos, b)) ∧
      (placed size pos (bs.map Item.mark ++ .letter a :: r)).dropWhile
        (fun m => decide (m.1 = pos)) = placed size (pos + size a) r := by
  have hall : ∀ m ∈ bs.map (fun b => (pos, b)), decide (m.1 = pos) = true := by
    intro m hm
    obtain ⟨b, -, rfl⟩ := List.mem_map.1 hm
    exact decide_eq_true rfl
  have hnone : ∀ m ∈ placed size (pos + size a) r, decide (m.1 = pos) = false := by
    intro m hm
    have hle := le_of_mem_placed hm
    exact decide_eq_false (by omega)
  have htake : (placed size (pos + size a) r).takeWhile (fun m => decide (m.1 = pos)) = [] := by
    cases hr : placed size (pos + size a) r with
    | nil => rfl
    | cons m ms =>
      rw [List.takeWhile_cons, hnone m (by rw [hr]; exact List.mem_cons_self)]
      rfl
  have hdrop : (placed size (pos + size a) r).dropWhile (fun m => decide (m.1 = pos)) =
      placed size (pos + size a) r := by
    cases hr : placed size (pos + size a) r with
    | nil => rfl
    | cons m ms =>
      rw [List.dropWhile_cons, hnone m (by rw [hr]; exact List.mem_cons_self)]
      rfl
  rw [placed_lead, List.takeWhile_append_of_pos hall, List.dropWhile_append_of_pos hall, htake,
    hdrop, List.append_nil]
  exact ⟨rfl, rfl⟩

end Marks
