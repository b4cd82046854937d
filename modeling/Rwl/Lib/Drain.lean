import Mathlib.Tactic.Common
import Mathlib.Data.List.Perm.Subperm

/-!
# Draining a list

A loop walks through a list and takes the elements that it is after out of it, each replaced by
the last one.

* `swapRemove`: the removal;
* `drain p f n i l s`: the loop, which hands what it takes to `f`;
* `Drained`, `drain_spec`: it takes exactly the elements with `p`, each once.
-/

namespace Drain

open scoped List

variable {α σ : Type*} (p : α → Bool) (f : σ → α → σ)

/-- `Vec::swap_remove`, for an index in range. -/
def swapRemove (l : List α) (i : ℕ) : List α :=
  match l.getLast? with
  | none => l
  | some b => (l.set i b).dropLast

/-- The loop from index `i`; every round takes one unit of fuel. -/
def drain : ℕ → ℕ → List α → σ → List α × σ
  | 0, _, l, s => (l, s)
  | n + 1, i, l, s =>
      match l[i]? with
      | none => (l, s)
      | some a =>
          -- the slot holds another element now, so the index stays
          if p a then drain n i (swapRemove l i) (f s a) else drain n (i + 1) l s

variable {p f}

/-- Behind what the loop has passed, the removal leaves the other elements in some order. -/
theorem swapRemove_append (passed : List α) (a : α) (l : List α) :
    ∃ l', swapRemove (passed ++ a :: l) passed.length = passed ++ l' ∧ l' ~ l := by
  rcases List.eq_nil_or_concat l with rfl | ⟨l, b, rfl⟩
  · refine ⟨[], ?_, .refl _⟩
    simp [swapRemove]
  · refine ⟨b :: l, ?_, ?_⟩
    · have hsplit : passed ++ a :: l.concat b = (passed ++ a :: l) ++ [b] := by simp
      have hset : (passed ++ a :: l.concat b).set passed.length b = (passed ++ b :: l) ++ [b] := by
        simp
      have hlast : (passed ++ a :: l.concat b).getLast? = some b := by
        rw [hsplit, List.getLast?_concat]
      rw [swapRemove, hlast]
      show ((passed ++ a :: l.concat b).set passed.length b).dropLast = passed ++ b :: l
      rw [hset, List.dropLast_concat]
    · rw [List.concat_eq_append]
      exact (List.perm_append_singleton b l).symm

/-- What is left and what was taken of a list. -/
structure Drained (p : α → Bool) (l kept taken : List α) : Prop where
  perm : taken ++ kept ~ l
  taken : ∀ a ∈ taken, p a = true
  kept : ∀ a ∈ kept, p a = false

/-- With fuel for every element, the loop takes those with `p` and leaves the others. -/
theorem drain_append {n : ℕ} (passed : List α) {l : List α} (hn : l.length ≤ n) (s : σ) :
    ∃ kept taken, Drained p l kept taken ∧
      drain p f n passed.length (passed ++ l) s = (passed ++ kept, taken.foldl f s) := by
  induction n generalizing passed l s with
  | zero =>
    obtain rfl := List.eq_nil_of_length_eq_zero (Nat.le_zero.1 hn)
    exact ⟨[], [], ⟨.refl _, by simp, by simp⟩, rfl⟩
  | succ n ih =>
    cases l with
    | nil =>
      refine ⟨[], [], ⟨.refl _, by simp, by simp⟩, ?_⟩
      have hend : (passed ++ [])[passed.length]? = none := by simp
      simp only [drain, hend]
      rfl
    | cons a l =>
      have hget : (passed ++ a :: l)[passed.length]? = some a := by simp
      rw [List.length_cons] at hn
      by_cases ha : p a = true
      · obtain ⟨l', hremove, hperm⟩ := swapRemove_append passed a l
        have hlen : l'.length ≤ n := by
          rw [hperm.length_eq]
          omega
        obtain ⟨kept, taken, hd, hrun⟩ := ih passed hlen (f s a)
        refine ⟨kept, a :: taken, ⟨?_, ?_, hd.kept⟩, ?_⟩
        · exact (hd.perm.trans hperm).cons a
        · rintro b (_ | ⟨_, hb⟩)
          · exact ha
          · exact hd.taken b hb
        · simp only [drain, hget, if_pos ha, hremove]
          exact hrun
      · obtain ⟨kept, taken, hd, hrun⟩ := ih (passed ++ [a]) (l := l) (by omega) s
        refine ⟨a :: kept, taken, ⟨?_, hd.taken, ?_⟩, ?_⟩
        · exact List.perm_middle.trans (hd.perm.cons a)
        · rintro b (_ | ⟨_, hb⟩)
          · exact Bool.eq_false_iff.2 ha
          · exact hd.kept b hb
        · simp only [drain, hget, if_neg ha]
          simpa using hrun

theorem drain_spec (l : List α) (s : σ) :
    ∃ kept taken, Drained p l kept taken ∧
      drain p f l.length 0 l s = (kept, taken.foldl f s) :=
  drain_append [] (Nat.le_refl _) s

end Drain
