import Mathlib.Tactic.Common
import Mathlib.Data.List.Dedup
import Mathlib.Data.List.DropRight

/-!
# Bounded logs of distinct entries

A log keeps the latest `n` distinct entries, the last one entered at the end.

* `keepLatest n l a`: enter `a` in the log `l`; the oldest entry goes when there are too many;
* `latestDistinct n l`: the log of all entries of `l`;
* `keepLatest_latestDistinct`: entering in the log of `l` gives the log of `l ++ [a]`;
  `foldl_keepLatest`: the same for several entries;
* `keepLatest_eq_self_iff`: only the last entry is entered without any change.
-/

namespace Latest

variable {α : Type*} [DecidableEq α]

/-- Enter `a` at the end of the log; the oldest of more than `n` entries goes. -/
def keepLatest (n : ℕ) (l : List α) (a : α) : List α :=
  let l' := l.filter (fun b => decide (b ≠ a)) ++ [a]
  if n < l'.length then l'.tail else l'

/-- The log of `l`: each entry where it comes last, and the latest `n` of these. -/
def latestDistinct (n : ℕ) (l : List α) : List α := l.dedup.rtake n

/-- A log: no entry twice, and no more than `n`. -/
def IsLog (n : ℕ) (l : List α) : Prop := l.Nodup ∧ l.length ≤ n

variable {n : ℕ} {l : List α} {a : α}

/-! ### The last entries of a list -/

omit [DecidableEq α] in
/-- The last entries of a list that is one too long at most. -/
theorem rtake_eq_ite (h : l.length ≤ n + 1) :
    l.rtake n = if n < l.length then l.tail else l := by
  unfold List.rtake
  split_ifs with hlong
  · rw [show l.length - n = 1 by omega, List.drop_one]
  · rw [show l.length - n = 0 by omega, List.drop_zero]

omit [DecidableEq α] in
theorem rtake_append_of_le {e : List α} (h : n ≤ l.length) : (e ++ l).rtake n = l.rtake n := by
  unfold List.rtake
  rw [List.length_append, show e.length + l.length - n = e.length + (l.length - n) by omega,
    List.drop_append, List.drop_eq_nil_of_le (by omega), List.nil_append]
  congr 1
  omega

omit [DecidableEq α] in
theorem length_rtake_le (n : ℕ) (l : List α) : (l.rtake n).length ≤ n := by
  unfold List.rtake
  rw [List.length_drop]
  omega

/-! ### The entries of a longer list -/

theorem dedup_concat (l : List α) (a : α) :
    (l ++ [a]).dedup = l.dedup.filter (fun b => decide (b ≠ a)) ++ [a] := by
  induction l with
  | nil => simp
  | cons b l ih =>
    rw [List.cons_append, List.dedup_cons, List.dedup_cons, ih]
    by_cases hb : b ∈ l
    · simp [hb]
    · by_cases hba : b = a
      · subst hba
        simp [hb]
      · simp [hb, hba]

/-- At most one entry of a log is `a`. -/
theorem length_le_filter_ne (h : l.Nodup) (a : α) :
    l.length ≤ (l.filter fun b => decide (b ≠ a)).length + 1 := by
  have hsplit := List.length_eq_countP_add_countP (fun b => decide (b ≠ a)) (l := l)
  have hone : l.countP (fun b => ¬decide (b ≠ a)) ≤ 1 := by
    have hcount := List.nodup_iff_count_le_one.1 h a
    refine le_trans (le_of_eq (List.countP_congr fun b _ => ?_)) hcount
    simp
  rw [List.countP_eq_length_filter] at hsplit
  omega

/-! ### Entering -/

/-- **Entering in the log of a list gives the log of the longer list.** -/
theorem keepLatest_latestDistinct (hn : 0 < n) (l : List α) (a : α) :
    keepLatest n (latestDistinct n l) a = latestDistinct n (l ++ [a]) := by
  let dropped := l.dedup.take (l.dedup.length - n)
  let kept := l.dedup.rtake n
  have hsplit : dropped ++ kept = l.dedup := List.take_append_drop ..
  have hkept : kept.length ≤ n := length_rtake_le n l.dedup
  have hnodup : kept.Nodup := (List.nodup_dedup l).sublist (List.drop_sublist _ _)
  let entered := kept.filter (fun b => decide (b ≠ a)) ++ [a]
  have hlength : entered.length = (kept.filter fun b => decide (b ≠ a)).length + 1 :=
    List.length_append
  have hshort : entered.length ≤ n + 1 := by
    have hfilter := List.length_filter_le (fun b => decide (b ≠ a)) kept
    omega
  have hall : (l ++ [a]).dedup = dropped.filter (fun b => decide (b ≠ a)) ++ entered := by
    rw [dedup_concat, ← hsplit, List.filter_append, List.append_assoc]
  unfold latestDistinct
  rw [hall]
  refine (rtake_eq_ite hshort).symm.trans ?_
  by_cases hfull : n ≤ l.dedup.length
  · -- the log is full: what was dropped before stays dropped
    refine (rtake_append_of_le ?_).symm
    have hfilter := length_le_filter_ne hnodup a
    have hlen : kept.length = n := by
      show (List.drop _ _).length = n
      rw [List.length_drop]
      omega
    omega
  · have hnone : dropped = [] := by
      show List.take _ _ = []
      rw [show l.dedup.length - n = 0 by omega, List.take_zero]
    rw [hnone]
    rfl

theorem foldl_keepLatest (hn : 0 < n) (l l' : List α) :
    l'.foldl (keepLatest n) (latestDistinct n l) = latestDistinct n (l ++ l') := by
  induction l' generalizing l with
  | nil => rw [List.append_nil, List.foldl_nil]
  | cons a l' ih =>
    rw [List.foldl_cons, keepLatest_latestDistinct hn, ih, List.append_assoc, List.singleton_append]

/-- A log is the log of its entries. -/
theorem IsLog.latestDistinct_eq (h : IsLog n l) : latestDistinct n l = l := by
  have hzero : l.length - n = 0 := by
    have hle := h.2
    omega
  unfold latestDistinct List.rtake
  rw [h.1.dedup, hzero, List.drop_zero]

theorem isLog_latestDistinct (n : ℕ) (l : List α) : IsLog n (latestDistinct n l) :=
  ⟨(List.nodup_dedup l).sublist (List.drop_sublist _ _), length_rtake_le n _⟩

theorem isLog_keepLatest (hn : 0 < n) (h : IsLog n l) (a : α) : IsLog n (keepLatest n l a) := by
  rw [← h.latestDistinct_eq, keepLatest_latestDistinct hn]
  exact isLog_latestDistinct n _

theorem isLog_foldl (hn : 0 < n) (h : IsLog n l) (l' : List α) :
    IsLog n (l'.foldl (keepLatest n) l) := by
  rw [← h.latestDistinct_eq, foldl_keepLatest hn]
  exact isLog_latestDistinct n _

/-- The last entry of a log is the last one entered. -/
theorem getLast?_keepLatest (hn : 0 < n) (l : List α) (a : α) :
    (keepLatest n l a).getLast? = some a := by
  unfold keepLatest
  dsimp only
  split_ifs with hlong
  · cases hl : l.filter fun b => decide (b ≠ a) with
    | nil =>
      rw [hl, List.nil_append, List.length_singleton] at hlong
      omega
    | cons b l' => rw [List.cons_append, List.tail_cons, List.getLast?_concat]
  · exact List.getLast?_concat

/-- **Only the last entry is entered without any change.** -/
theorem keepLatest_eq_self_iff (hn : 0 < n) (h : IsLog n l) :
    keepLatest n l a = l ↔ l.getLast? = some a := by
  constructor
  · intro hsame
    rw [← hsame]
    exact getLast?_keepLatest hn l a
  · intro hlast
    obtain ⟨l', rfl⟩ := List.getLast?_eq_some_iff.1 hlast
    have hnew : a ∉ l' := fun hmem =>
      (List.nodup_append.1 h.1).2.2 a hmem a (List.mem_singleton.2 rfl) rfl
    have hfilter : (l' ++ [a]).filter (fun b => decide (b ≠ a)) = l' := by
      rw [List.filter_append, List.filter_eq_self.2 fun b hb => decide_eq_true (by
        rintro rfl
        exact hnew hb)]
      simp
    unfold keepLatest
    dsimp only
    rw [hfilter, if_neg (by have hle := h.2; omega)]

end Latest
