import Mathlib.Tactic.Common
import Mathlib.Data.List.Perm.Basic
import Mathlib.Data.List.Nodup

/-!
# Most-recent-first lists

* `toFront a l`: bring `a` to the front of `l`, inserting it when it is absent; on a slice this
  is a rotation of the prefix that ends at `a`;
* the facts about membership, duplicates and order;
* `foldl_keeps`: a left fold of steps that keep a quantity keeps it; `foldl_latest`: one that
  overwrites ends on the last entry that does;
* `map_modify`, `forall_mem_modify_iff`: one entry of a list changes; `getElem?_concat`: one is
  added at the end.
-/

namespace Recency

variable {α β γ : Type*} [DecidableEq α]

/-- Bring `a` to the front. -/
def toFront (a : α) (l : List α) : List α := a :: l.erase a

@[simp] theorem head?_toFront (a : α) (l : List α) : (toFront a l).head? = some a := rfl

@[simp] theorem mem_toFront {a b : α} {l : List α} : b ∈ toFront a l ↔ b = a ∨ b ∈ l := by
  by_cases h : b = a
  · simp [toFront, h]
  · simp [toFront, h, List.mem_erase_of_ne h]

theorem nodup_toFront {a : α} {l : List α} (h : l.Nodup) : (toFront a l).Nodup :=
  List.nodup_cons.2 ⟨h.not_mem_erase, h.erase a⟩

/-- On a list that has `a`, only the order changes. -/
theorem toFront_perm {a : α} {l : List α} (h : a ∈ l) : (toFront a l).Perm l :=
  (List.perm_cons_erase h).symm

/-- Taking an entry out again after bringing it to the front. -/
theorem filter_ne_toFront (a : α) (l : List α) :
    (toFront a l).filter (fun b => decide (b ≠ a)) = l.filter fun b => decide (b ≠ a) := by
  have herase : (l.erase a).filter (fun b => decide (b ≠ a)) =
      l.filter fun b => decide (b ≠ a) := by
    rw [← List.erase_filter]
    exact List.erase_of_not_mem (by simp)
  rw [toFront, List.filter_cons_of_neg (by simp), herase]

@[simp] theorem toFront_toFront (a : α) (l : List α) : toFront a (toFront a l) = toFront a l := by
  simp [toFront]

omit [DecidableEq α] in
/-- A left fold of steps that each keep `g` keeps `g`. -/
theorem foldl_keeps (g : α → γ) (f : α → β → α) (h : ∀ a b, g (f a b) = g a) (l : List β) (a : α) :
    g (l.foldl f a) = g a := by
  induction l generalizing a with
  | nil => rfl
  | cons b l ih => rw [List.foldl_cons, ih, h]

omit [DecidableEq α] in
/-- Modifying one entry keeps what the modification keeps of every entry. -/
theorem map_modify_eq (g : α → β) (f : α → α) (h : ∀ a, g (f a) = g a) (l : List α) (i : ℕ) :
    (l.modify i f).map g = l.map g := by
  induction l generalizing i with
  | nil => cases i <;> rfl
  | cons a l ih =>
    cases i with
    | zero => simp only [List.modify_zero_cons, List.map_cons, h]
    | succ i => simp only [List.modify_succ_cons, List.map_cons, ih]

omit [DecidableEq α] in
/-- Modifying one entry is modifying its image. -/
theorem map_modify (g : α → β) {f : α → α} {f' : β → β} {l : List α} {i : ℕ}
    (h : ∀ a, l[i]? = some a → g (f a) = f' (g a)) :
    (l.modify i f).map g = (l.map g).modify i f' := by
  refine List.ext_getElem? fun j => ?_
  rw [List.getElem?_map]
  by_cases hij : i = j
  · subst hij
    rw [List.getElem?_modify_eq, List.getElem?_modify_eq, List.getElem?_map]
    rcases hi : l[i]? with _ | a
    · rfl
    · exact congrArg some (h a hi)
  · rw [List.getElem?_modify_ne _ _ hij, List.getElem?_modify_ne _ _ hij, List.getElem?_map]

omit [DecidableEq α] in
/-- What holds of every entry still does exactly when the modified one has it. -/
theorem forall_mem_modify_iff {P : α → Prop} {f : α → α} {l : List α} (h : ∀ a ∈ l, P a) (i : ℕ) :
    (∀ a ∈ l.modify i f, P a) ↔ ∀ a, l[i]? = some a → P (f a) := by
  constructor
  · intro hall a ha
    refine hall (f a) (List.mem_of_getElem? (i := i) ?_)
    rw [List.getElem?_modify_eq, ha]
    rfl
  · intro hi b hb
    obtain ⟨j, hj⟩ := List.mem_iff_getElem?.1 hb
    rw [List.getElem?_modify] at hj
    obtain ⟨a, ha, rfl⟩ := Option.map_eq_some_iff.1 hj
    split_ifs with hij
    · exact hi a (hij ▸ ha)
    · exact h a (List.mem_of_getElem? ha)

omit [DecidableEq α] in
/-- Modifying one entry keeps what holds of every entry, when the modification does. -/
theorem forall_mem_modify {P : α → Prop} {f : α → α} (hf : ∀ a, P a → P (f a)) {l : List α}
    (h : ∀ a ∈ l, P a) (i : ℕ) : ∀ a ∈ l.modify i f, P a :=
  (forall_mem_modify_iff h i).2 fun a ha => hf a (h a (List.mem_of_getElem? ha))

omit [DecidableEq α] in
/-- A fold that overwrites ends on the last entry that does. -/
theorem foldl_latest (p : α → Prop) [DecidablePred p] (f : α → β) (l : List α) (b : β) :
    l.foldl (fun b a => if p a then f a else b) b =
      ((l.reverse.find? fun a => decide (p a)).map f).getD b := by
  induction l generalizing b with
  | nil => rfl
  | cons a l ih =>
    rw [List.foldl_cons, ih, List.reverse_cons, List.find?_append]
    rcases l.reverse.find? (fun a => decide (p a)) with _ | x
    · by_cases ha : p a
      · simp [ha]
      · simp [ha]
    · rfl

omit [DecidableEq α] in
theorem getElem?_concat {l : List α} {new a : α} {i : ℕ} (h : (l ++ [new])[i]? = some a) :
    l[i]? = some a ∨ i = l.length ∧ a = new := by
  rcases Nat.lt_or_ge i l.length with hlt | hge
  · exact .inl ((List.getElem?_append_left hlt).symm.trans h)
  · rw [List.getElem?_append_right hge, List.getElem?_singleton] at h
    split_ifs at h with hzero
    exact .inr ⟨by omega, (Option.some.inj h).symm⟩

end Recency
