import Mathlib.Tactic.Common
import Mathlib.Algebra.Ring.Nat
import Mathlib.Data.List.Induction

/-!
# Splitting lists at separators

* `tokens p l`: the maximal runs of `l` without a separator, in order;
* `cut a l`: what stands before and after the first `a`;
* `trim p l`: `l` without the separators at its ends;
* `lines nl cr l`: the lines of `l`, each ended by `nl`, with one `cr` before the `nl` taken off;

* `filter_flatMap_iff`: when a filter on the elements of some blocks selects whole blocks.

Joining words that have no separator in them and taking the tokens again gives the words back;
and a list of lines written one after the other is read back when no line has an `nl` in it or
ends in a `cr`.
-/

namespace Split

variable {α : Type*}

/-! ### Tokens -/

/-- The maximal runs of elements that are no separators. -/
def tokens (p : α → Bool) (l : List α) : List (List α) :=
  (l.splitOnP p).filter fun t => !t.isEmpty

/-- A token that survives: not empty and free of separators. -/
def Word (p : α → Bool) (t : List α) : Prop := t ≠ [] ∧ ∀ x ∈ t, p x = false

variable {p : α → Bool}

@[simp] theorem tokens_nil : tokens p [] = [] := rfl

theorem tokens_of_word {t : List α} (h : Word p t) : tokens p t = [t] := by
  unfold tokens
  rw [List.splitOnP_eq_singleton h.2]
  simp [h.1]

theorem tokens_append_sep (l m : List α) {sep : α} (hsep : p sep = true) :
    tokens p (l ++ sep :: m) = tokens p l ++ tokens p m := by
  unfold tokens
  rw [List.splitOnP_append_cons l m hsep, List.filter_append]

theorem tokens_cons_sep (m : List α) {sep : α} (hsep : p sep = true) :
    tokens p (sep :: m) = tokens p m := tokens_append_sep [] m hsep

theorem mem_splitOnP {l t : List α} (h : t ∈ l.splitOnP p) : ∀ x ∈ t, p x = false := by
  induction l generalizing t with
  | nil =>
    rw [List.splitOnP_nil, List.mem_singleton] at h
    subst h
    intro x hx
    cases hx
  | cons a l ih =>
    rw [List.splitOnP_cons_eq_if_modifyHead] at h
    split_ifs at h with ha
    · rcases List.mem_cons.1 h with rfl | h
      · intro x hx
        cases hx
      · exact ih h
    · cases hsplit : l.splitOnP p with
      | nil => exact absurd hsplit (List.splitOnP_ne_nil p l)
      | cons head rest =>
        rw [hsplit, List.modifyHead_cons] at h
        rcases List.mem_cons.1 h with rfl | h
        · intro x hx
          rcases List.mem_cons.1 hx with rfl | hx
          · exact Bool.eq_false_iff.2 ha
          · exact ih (hsplit ▸ List.mem_cons_self) x hx
        · exact ih (hsplit ▸ List.mem_cons_of_mem _ h)

theorem word_of_mem_tokens {l t : List α} (h : t ∈ tokens p l) : Word p t := by
  obtain ⟨hsplit, hne⟩ := List.mem_filter.1 h
  refine ⟨?_, mem_splitOnP hsplit⟩
  rintro rfl
  cases hne

/-- The tokens of words joined by separators are the words. -/
theorem tokens_intercalate {sep : α} (hsep : p sep = true) (ts : List (List α)) :
    tokens p ([sep].intercalate ts) = ts.flatMap (tokens p) := by
  induction ts with
  | nil => rfl
  | cons t ts ih =>
    cases ts with
    | nil => simp
    | cons u us =>
      rw [List.intercalate_cons_cons, List.append_assoc, List.singleton_append,
        tokens_append_sep _ _ hsep, ih]
      rfl

/-- Joining and splitting gives the list back exactly when it is a list of words. -/
theorem tokens_intercalate_iff {sep : α} (hsep : p sep = true) (ts : List (List α)) :
    tokens p ([sep].intercalate ts) = ts ↔ ∀ t ∈ ts, Word p t := by
  rw [tokens_intercalate hsep]
  constructor
  · intro h t ht
    rw [← h] at ht
    obtain ⟨u, -, hu⟩ := List.mem_flatMap.1 ht
    exact word_of_mem_tokens hu
  · intro h
    induction ts with
    | nil => rfl
    | cons t ts ih =>
      rw [List.flatMap_cons, tokens_of_word (h t List.mem_cons_self),
        ih fun u hu => h u (List.mem_cons_of_mem _ hu)]
      rfl

theorem intercalate_prefix (sep : List α) (ls ms : List (List α)) :
    sep.intercalate ls <+: sep.intercalate (ls ++ ms) := by
  induction ls with
  | nil => exact List.nil_prefix
  | cons a ls ih =>
    cases ls with
    | nil =>
      cases ms with
      | nil => exact List.prefix_rfl
      | cons m ms =>
        rw [List.singleton_append, List.intercalate_cons_cons, List.intercalate_singleton,
          List.append_assoc]
        exact List.prefix_append _ _
    | cons b ls =>
      rw [List.cons_append, List.cons_append, List.intercalate_cons_cons,
        List.intercalate_cons_cons]
      exact (List.prefix_append_right_inj _).2 ih

/-- Joining the tokens again makes nothing longer, for any measure of length in which the
separator put between them is no longer than the ones taken out. -/
theorem sum_intercalate_tokens {sep : α} {len : α → ℕ} (hsep : ∀ c, p c = true → len sep ≤ len c)
    (l : List α) : (([sep].intercalate (tokens p l)).map len).sum ≤ (l.map len).sum := by
  -- what has been read of the current token is kept apart
  have hread (u : List α) (hu : ∀ x ∈ u, p x = false) :
      (([sep].intercalate (tokens p (u ++ l))).map len).sum ≤ ((u ++ l).map len).sum := by
    induction l generalizing u with
    | nil =>
      rw [List.append_nil]
      by_cases hne : u = []
      · subst hne
        exact Nat.le_refl _
      · rewrite [tokens_of_word ⟨hne, hu⟩, List.intercalate_singleton]
        exact Nat.le_refl _
    | cons c l ih =>
      by_cases hc : p c = true
      · have hrest := ih [] (by simp)
        rw [List.nil_append] at hrest
        rw [tokens_append_sep u l hc]
        by_cases hne : u = []
        · subst hne
          rw [tokens_nil, List.nil_append, List.nil_append, List.map_cons, List.sum_cons]
          omega
        · rw [tokens_of_word ⟨hne, hu⟩, List.singleton_append, List.map_append, List.sum_append,
            List.map_cons, List.sum_cons]
          have hlen := hsep c hc
          cases htok : tokens p l with
          | nil =>
            rw [List.intercalate_singleton]
            omega
          | cons t ts =>
            rw [htok] at hrest
            rw [List.intercalate_cons_cons, List.append_assoc, List.map_append, List.sum_append,
              List.singleton_append, List.map_cons, List.sum_cons]
            omega
      · have hmore := ih (u ++ [c]) fun x hx => by
          rcases List.mem_append.1 hx with hx | hx
          · exact hu x hx
          · obtain rfl := List.mem_singleton.1 hx
            exact Bool.eq_false_iff.2 hc
        rwa [List.append_assoc, List.singleton_append] at hmore
  exact hread [] (by simp)

/-! ### Trimming -/

/-- Take the separators off the end. -/
def rtrim (p : α → Bool) (l : List α) : List α := (l.reverse.dropWhile p).reverse

/-- Take the separators off both ends. -/
def trim (p : α → Bool) (l : List α) : List α := rtrim p (l.dropWhile p)

theorem rtrim_append_singleton (l : List α) (a : α) :
    rtrim p (l ++ [a]) = if p a then rtrim p l else l ++ [a] := by
  unfold rtrim
  rw [List.reverse_append, List.reverse_singleton, List.singleton_append]
  split_ifs with ha
  · rw [List.dropWhile_cons_of_pos ha]
  · rw [List.dropWhile_cons_of_neg ha, List.reverse_cons, List.reverse_reverse]

theorem rtrim_cons (a : α) (l : List α) :
    rtrim p (a :: l) = if rtrim p l = [] ∧ p a = true then [] else a :: rtrim p l := by
  induction l using List.reverseRecOn with
  | nil =>
    have h := rtrim_append_singleton (p := p) [] a
    rw [List.nil_append] at h
    rw [h]
    split_ifs <;> simp_all [rtrim]
  | append_singleton l b ih =>
    rw [← List.cons_append, rtrim_append_singleton, rtrim_append_singleton]
    by_cases hb : p b = true
    · rw [if_pos hb, if_pos hb, ih]
    · simp [hb]

/-- Nothing is taken off the front of a text that begins with no separator. -/
theorem trim_cons {a : α} (ha : p a = false) (l : List α) : trim p (a :: l) = a :: rtrim p l := by
  unfold trim
  rw [List.dropWhile_cons_of_neg (by simp [ha]), rtrim_cons, if_neg (by simp [ha])]

theorem trim_cons_sep {a : α} (ha : p a = true) (l : List α) : trim p (a :: l) = trim p l := by
  unfold trim
  rw [List.dropWhile_cons_of_pos ha]

theorem rtrim_rtrim (l : List α) : rtrim p (rtrim p l) = rtrim p l := by
  induction l using List.reverseRecOn with
  | nil => rfl
  | append_singleton l a ih =>
    rw [rtrim_append_singleton]
    split_ifs with ha
    · exact ih
    · rw [rtrim_append_singleton, if_neg ha]

/-- Trimming the end first changes nothing. -/
theorem trim_rtrim (l : List α) : trim p (rtrim p l) = trim p l := by
  induction l with
  | nil => rfl
  | cons a l ih =>
    by_cases ha : p a = true
    · rw [trim_cons_sep ha, rtrim_cons]
      split_ifs with h
      · rw [← ih, h.1]
      · rw [trim_cons_sep ha, ih]
    · rw [rtrim_cons, if_neg (fun h => ha h.2), trim_cons (Bool.eq_false_iff.2 ha),
        trim_cons (Bool.eq_false_iff.2 ha), rtrim_rtrim]

theorem tokens_dropWhile (l : List α) : tokens p (l.dropWhile p) = tokens p l := by
  induction l with
  | nil => rfl
  | cons a l ih =>
    by_cases ha : p a = true
    · rw [List.dropWhile_cons_of_pos ha, ih, tokens_cons_sep l ha]
    · rw [List.dropWhile_cons_of_neg ha]

theorem tokens_rtrim (l : List α) : tokens p (rtrim p l) = tokens p l := by
  induction l using List.reverseRecOn with
  | nil => rfl
  | append_singleton l a ih =>
    rw [rtrim_append_singleton]
    split_ifs with ha
    · rw [ih, tokens_append_sep l [] ha, tokens_nil, List.append_nil]
    · rfl

@[simp] theorem tokens_trim (l : List α) : tokens p (trim p l) = tokens p l := by
  unfold trim
  rw [tokens_rtrim, tokens_dropWhile]

/-- A word has nothing to take off. -/
theorem trim_of_word {t : List α} (h : Word p t) : trim p t = t := by
  have hr : rtrim p t = t := by
    cases t using List.reverseRecOn with
    | nil => rfl
    | append_singleton l a =>
      rw [rtrim_append_singleton, if_neg]
      rw [h.2 a (by simp)]
      decide
  cases t with
  | nil => exact absurd rfl h.1
  | cons a l =>
    unfold trim
    rw [List.dropWhile_cons_of_neg (by simp [h.2 a List.mem_cons_self]), hr]

/-! ### Writing lines -/

/-- Lines written one after the other. -/
def unlines (nl : α) (ls : List (List α)) : List α := ls.flatMap fun l => l ++ [nl]

@[simp] theorem unlines_nil {nl : α} : unlines nl ([] : List (List α)) = [] := rfl

theorem unlines_cons {nl : α} (l : List α) (ls : List (List α)) :
    unlines nl (l :: ls) = l ++ nl :: unlines nl ls := by
  simp [unlines]

theorem unlines_append {nl : α} (ls ms : List (List α)) :
    unlines nl (ls ++ ms) = unlines nl ls ++ unlines nl ms := by
  simp [unlines]

/-- Lines written one after the other end with an end of line. -/
theorem getLast?_unlines {nl : α} (ls : List (List α)) :
    unlines nl ls = [] ∨ (unlines nl ls).getLast? = some nl := by
  cases ls using List.reverseRecOn with
  | nil => exact .inl rfl
  | append_singleton ls l =>
    refine .inr ?_
    rw [unlines_append, unlines_cons, unlines_nil, List.getLast?_append]
    simp

/-! ### Blocks -/

section Blocks

variable {β : Type*} {p : α → Bool} {D : β → Bool} {g : β → List α}

/-- A filter on the elements never takes more of the blocks than it takes of the blocks that `D`
names and of the others together. -/
theorem length_filter_flatMap (l : List β) :
    ((l.filter D).flatMap fun a => (g a).filter p).length ≤ ((l.flatMap g).filter p).length := by
  induction l with
  | nil => simp
  | cons a l ih =>
    by_cases ha : D a = true
    · rw [List.filter_cons_of_pos ha, List.flatMap_cons, List.flatMap_cons, List.filter_append,
        List.length_append, List.length_append]
      omega
    · rw [List.filter_cons_of_neg ha, List.flatMap_cons, List.filter_append, List.length_append]
      omega

/-- A filter on the elements takes exactly the blocks that `D` names when it agrees with `D` on
every element of every block. -/
theorem filter_flatMap_iff (l : List β) :
    (l.flatMap g).filter p = (l.filter D).flatMap g ↔ ∀ a ∈ l, ∀ b ∈ g a, p b = D a := by
  constructor
  · intro h
    -- what is taken passes the filter, so no named block loses anything
    have hnamed : ∀ a ∈ l, D a = true → ∀ b ∈ g a, p b = true := by
      intro a ha hD b hb
      have hmem : b ∈ (l.flatMap g).filter p := by
        rw [h]
        exact List.mem_flatMap.2 ⟨a, List.mem_filter.2 ⟨ha, hD⟩, hb⟩
      exact (List.mem_filter.1 hmem).2
    have hwhole (l' : List β) (hl' : ∀ a ∈ l', D a = true → ∀ b ∈ g a, p b = true) :
        ((l'.filter D).flatMap fun a => (g a).filter p) = (l'.filter D).flatMap g := by
      rw [List.flatMap_def, List.flatMap_def]
      refine congrArg List.flatten (List.map_congr_left fun a ha => ?_)
      obtain ⟨ha, hD⟩ := List.mem_filter.1 ha
      exact List.filter_eq_self.2 (hl' a ha hD)
    have hlen : ((l.flatMap g).filter p).length ≤
        ((l.filter D).flatMap fun a => (g a).filter p).length := by
      rewrite [hwhole l hnamed, h]
      exact Nat.le_refl _
    clear h
    induction l with
    | nil => simp
    | cons a l ih =>
      have hrest := length_filter_flatMap (p := p) (D := D) (g := g) l
      have htail := ih (fun c hc => hnamed c (List.mem_cons_of_mem _ hc))
      intro c hc b hb
      by_cases ha : D a = true
      · rw [List.filter_cons_of_pos ha, List.flatMap_cons, List.flatMap_cons, List.filter_append,
          List.length_append, List.length_append] at hlen
        rcases List.mem_cons.1 hc with rfl | hc
        · rw [hnamed c List.mem_cons_self ha b hb, ha]
        · exact htail (by omega) c hc b hb
      · rw [List.filter_cons_of_neg ha, List.flatMap_cons, List.filter_append,
          List.length_append] at hlen
        rcases List.mem_cons.1 hc with rfl | hc
        · have hnone : (g c).filter p = [] := List.eq_nil_of_length_eq_zero (by omega)
          rw [List.filter_eq_nil_iff] at hnone
          rw [Bool.eq_false_iff.2 (hnone b hb), Bool.eq_false_iff.2 ha]
        · exact htail (by omega) c hc b hb
  · intro h
    induction l with
    | nil => rfl
    | cons a l ih =>
      have hrest := ih fun c hc => h c (List.mem_cons_of_mem _ hc)
      have hblock := h a List.mem_cons_self
      rw [List.flatMap_cons, List.filter_append, hrest]
      by_cases ha : D a = true
      · rw [List.filter_cons_of_pos ha, List.flatMap_cons,
          List.filter_eq_self.2 fun b hb => (hblock b hb).trans ha]
      · have hnone : (g a).filter p = [] := by
          refine List.filter_eq_nil_iff.2 fun b hb => ?_
          rw [hblock b hb]
          exact ha
        rw [List.filter_cons_of_neg ha, hnone, List.nil_append]

end Blocks

/-! ### The first separator -/

/-- What stands before and after the first `a`. -/
def cut [DecidableEq α] (a : α) : List α → Option (List α × List α)
  | [] => none
  | b :: l => if b = a then some ([], l) else (cut a l).map fun c => (b :: c.1, c.2)

variable [DecidableEq α]

theorem cut_append {a : α} {l : List α} (h : a ∉ l) (m : List α) :
    cut a (l ++ a :: m) = some (l, m) := by
  induction l with
  | nil => simp [cut]
  | cons b l ih =>
    rw [List.mem_cons, not_or] at h
    rw [List.cons_append, cut, if_neg (Ne.symm h.1), ih h.2]
    rfl

theorem cut_of_not_mem {a : α} {l : List α} (h : a ∉ l) : cut a l = none := by
  induction l with
  | nil => rfl
  | cons b l ih =>
    rw [List.mem_cons, not_or] at h
    rw [cut, if_neg (Ne.symm h.1), ih h.2]
    rfl

/-- A cut rebuilds the list, and nothing before it is a separator. -/
theorem cut_eq_some {a : α} {l l₁ l₂ : List α} (h : cut a l = some (l₁, l₂)) :
    l = l₁ ++ a :: l₂ ∧ a ∉ l₁ := by
  induction l generalizing l₁ with
  | nil => cases h
  | cons b l ih =>
    rw [cut] at h
    split_ifs at h with hb
    · cases h
      exact ⟨by rw [hb]; rfl, List.not_mem_nil⟩
    · obtain ⟨⟨c₁, c₂⟩, hc, heq⟩ := Option.map_eq_some_iff.1 h
      cases heq
      obtain ⟨rfl, hc₁⟩ := ih hc
      exact ⟨rfl, by simp [hc₁, Ne.symm hb]⟩

/-! ### Reading lines -/

/-- Take one `cr` off the end. -/
def stripEnd (cr : α) (l : List α) : List α := if l.getLast? = some cr then l.dropLast else l

/-- The lines of `l`. -/
def lines (nl cr : α) (l : List α) : List (List α) :=
  let pieces := l.splitOn nl
  pieces.dropLast.map (stripEnd cr) ++ (pieces.getLast?.filter fun t => !t.isEmpty).toList

variable {nl cr : α}

@[simp] theorem lines_nil : lines nl cr [] = [] := by
  simp [lines]

theorem lines_append_nl {l : List α} (h : nl ∉ l) (m : List α) :
    lines nl cr (l ++ nl :: m) = stripEnd cr l :: lines nl cr m := by
  have hne := List.splitOn_ne_nil nl m
  unfold lines
  rw [List.splitOn_append_cons_self_of_not_mem h]
  dsimp only
  rw [List.dropLast_cons_of_ne_nil hne, List.map_cons, List.getLast?_cons_of_ne_nil hne,
    List.cons_append]

theorem lines_unlines_append {ls : List (List α)} (h : ∀ l ∈ ls, nl ∉ l) (m : List α) :
    lines nl cr (unlines nl ls ++ m) = ls.map (stripEnd cr) ++ lines nl cr m := by
  induction ls with
  | nil => rfl
  | cons l ls ih =>
    rw [unlines_cons, List.append_assoc, List.cons_append,
      lines_append_nl (h l List.mem_cons_self), ih fun u hu => h u (List.mem_cons_of_mem _ hu),
      List.map_cons, List.cons_append]

theorem splitOn_unlines {ls : List (List α)} (h : ∀ l ∈ ls, nl ∉ l) :
    (unlines nl ls).splitOn nl = ls ++ [[]] := by
  induction ls with
  | nil => rfl
  | cons l ls ih =>
    rw [unlines_cons, List.splitOn_append_cons_self_of_not_mem (h l List.mem_cons_self),
      ih fun u hu => h u (List.mem_cons_of_mem _ hu)]
    rfl

/-- Every list is some lines and a rest without an end of line. -/
theorem exists_unlines (l : List α) :
    ∃ ls rest, l = unlines nl ls ++ rest ∧ (∀ t ∈ ls, nl ∉ t) ∧ nl ∉ rest := by
  induction l with
  | nil => exact ⟨[], [], rfl, by simp, List.not_mem_nil⟩
  | cons a l ih =>
    obtain ⟨ls, rest, rfl, hls, hrest⟩ := ih
    by_cases ha : a = nl
    · subst ha
      refine ⟨[] :: ls, rest, by rw [unlines_cons]; rfl, ?_, hrest⟩
      intro t ht
      rcases List.mem_cons.1 ht with rfl | ht
      · exact List.not_mem_nil
      · exact hls t ht
    · cases ls with
      | nil =>
        refine ⟨[], a :: rest, rfl, by simp, ?_⟩
        simp [hrest, Ne.symm ha]
      | cons t ls =>
        refine ⟨(a :: t) :: ls, rest, by rw [unlines_cons, unlines_cons]; rfl, ?_, hrest⟩
        intro u hu
        rcases List.mem_cons.1 hu with rfl | hu
        · have := hls t List.mem_cons_self
          simp [this, Ne.symm ha]
        · exact hls u (List.mem_cons_of_mem _ hu)

/-- The lines of a text that begins with whole lines. -/
theorem lines_append {l : List α} (h : l = [] ∨ l.getLast? = some nl) (m : List α) :
    lines nl cr (l ++ m) = lines nl cr l ++ lines nl cr m := by
  obtain ⟨ls, rest, rfl, hls, hrest⟩ := @exists_unlines _ _ nl l
  have hempty : rest = [] := by
    rcases h with h | h
    · exact (List.append_eq_nil_iff.1 h).2
    · cases hlast : rest.getLast? with
      | none => exact List.getLast?_eq_none_iff.1 hlast
      | some x =>
        rw [List.getLast?_append, hlast, Option.some_or] at h
        obtain rfl := Option.some.inj h
        exact absurd (List.mem_of_getLast? hlast) hrest
  subst hempty
  rw [List.append_nil, lines_unlines_append hls m]
  have hself := @lines_unlines_append _ _ nl cr _ hls []
  rw [List.append_nil, lines_nil, List.append_nil] at hself
  rw [hself]

end Split
