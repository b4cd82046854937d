import Mathlib.Tactic.Common
import Mathlib.Logic.Function.Basic
import Mathlib.Logic.ExistsUnique

/-!
# Links recorded at both ends

An element may hold another one. The holder names what it holds, the held element only has a mark.

* `Paired P marked holds`: among the elements of `P`, the marks are the ends of the links;
* the rules for joining, `Paired.join`, linking, `Paired.link`, and leaving, `Paired.leave`;
* `Paired.restrict`: elements without links may go.
-/

namespace Backlink

variable {α : Type*} {P P' : α → Prop} {marked : α → Bool} {holds : α → Option α}

/-- Among the elements of `P`, every link is marked at its end, every mark is the end of one
link, and links do not lead out of `P`. -/
structure Paired (P : α → Prop) (marked : α → Bool) (holds : α → Option α) : Prop where
  marked : ∀ t, P t → (marked t = true ↔ ∃ c, P c ∧ holds c = some t)
  unique : ∀ c c' t, P c → P c' → holds c = some t → holds c' = some t → c = c'
  inside : ∀ c t, P c → holds c = some t → P t

/-! ### Leaving -/

section

variable [DecidableEq α] (w : α) (P : α → Prop) [DecidablePred P] (marked : α → Bool)
  (holds : α → Option α)

/-- The marks once `w` has left: what it held is free. -/
def freed (t : α) : Bool :=
  if holds w = some t ∧ P t then false else marked t

/-- The links once `w` has left: its holder holds nothing. -/
def cleared (c : α) : Option α :=
  if marked w = true ∧ P c ∧ holds c = some w then none else holds c

variable {w P marked holds}

theorem freed_eq_false {t : α} (h : marked t = false) : freed w P marked holds t = false := by
  unfold freed
  split_ifs
  · rfl
  · exact h

theorem cleared_eq_none {c : α} (h : holds c = none) : cleared w P marked holds c = none := by
  unfold cleared
  split_ifs
  · rfl
  · exact h

end

/-! ### Pairs -/

namespace Paired

/-- A mark is the end of exactly one link. -/
theorem marked_iff (h : Paired P marked holds) {t : α} (ht : P t) :
    marked t = true ↔ ∃! c, P c ∧ holds c = some t := by
  rw [h.marked t ht]
  constructor
  · rintro ⟨c, hc, hct⟩
    exact ⟨c, ⟨hc, hct⟩, fun c' hc' => h.unique c' c t hc'.1 hc hc'.2 hct⟩
  · rintro ⟨c, hc, -⟩
    exact ⟨c, hc⟩

/-- Elements without links may go, and what is outside `P` does not matter. -/
theorem restrict (h : Paired P marked holds) {marked' : α → Bool} {holds' : α → Option α}
    (hP : ∀ x, P' x → P x) (hfree : ∀ x, P x → ¬P' x → marked x = false ∧ holds x = none)
    (hmarked : ∀ x, P' x → marked' x = marked x) (hholds : ∀ x, P' x → holds' x = holds x) :
    Paired P' marked' holds' := by
  have hstay {c t : α} (hc : P c) (hct : holds c = some t) : P' c ∧ P' t := by
    constructor
    · by_contra hout
      have hnone := (hfree c hc hout).2
      simp [hct] at hnone
    · by_contra hout
      have hno := (hfree t (h.inside c t hc hct) hout).1
      have hyes := (h.marked t (h.inside c t hc hct)).2 ⟨c, hc, hct⟩
      simp [hno] at hyes
  constructor
  · intro t ht
    rw [hmarked t ht, h.marked t (hP t ht)]
    constructor
    · rintro ⟨c, hc, hct⟩
      have hc' := (hstay hc hct).1
      exact ⟨c, hc', (hholds c hc').trans hct⟩
    · rintro ⟨c, hc, hct⟩
      exact ⟨c, hP c hc, (hholds c hc).symm.trans hct⟩
  · intro c c' t hc hc' hct hct'
    exact h.unique c c' t (hP c hc) (hP c' hc') ((hholds c hc).symm.trans hct)
      ((hholds c' hc').symm.trans hct')
  · intro c t hc hct
    exact (hstay (hP c hc) ((hholds c hc).symm.trans hct)).2

/-- An element that is not held by anything cannot be marked. -/
theorem not_holds (h : Paired P marked holds) {c t : α} (hc : P c) (ht : ¬P t) :
    holds c ≠ some t :=
  fun hct => ht (h.inside c t hc hct)

variable [DecidableEq α]

/-- A new element joins, with no link. -/
theorem join (h : Paired P marked holds) {w : α} (hw : ¬P w) :
    Paired (fun x => x = w ∨ P x) (Function.update marked w false)
      (Function.update holds w none) := by
  have hholds {c t : α} (hc : c = w ∨ P c)
      (hct : Function.update holds w none c = some t) : P c ∧ c ≠ w ∧ holds c = some t := by
    by_cases hcw : c = w
    · subst hcw
      simp at hct
    · rw [Function.update_of_ne hcw] at hct
      exact ⟨hc.resolve_left hcw, hcw, hct⟩
  constructor
  · intro t ht
    by_cases htw : t = w
    · subst htw
      rw [Function.update_self]
      refine iff_of_false Bool.false_ne_true ?_
      rintro ⟨c, hc, hct⟩
      obtain ⟨hPc, -, hct⟩ := hholds hc hct
      exact h.not_holds hPc hw hct
    · rw [Function.update_of_ne htw, h.marked t (ht.resolve_left htw)]
      constructor
      · rintro ⟨c, hc, hct⟩
        have hcw : c ≠ w := fun heq => hw (heq ▸ hc)
        exact ⟨c, .inr hc, by rwa [Function.update_of_ne hcw]⟩
      · rintro ⟨c, hc, hct⟩
        obtain ⟨hPc, -, hct⟩ := hholds hc hct
        exact ⟨c, hPc, hct⟩
  · intro c c' t hc hc' hct hct'
    obtain ⟨hPc, -, hct⟩ := hholds hc hct
    obtain ⟨hPc', -, hct'⟩ := hholds hc' hct'
    exact h.unique c c' t hPc hPc' hct hct'
  · intro c t hc hct
    obtain ⟨hPc, -, hct⟩ := hholds hc hct
    exact .inr (h.inside c t hPc hct)

/-- An element that holds nothing takes one that is not held. -/
theorem link (h : Paired P marked holds) {c t : α} (hc : P c) (ht : P t)
    (hfree : marked t = false) (hnone : holds c = none) :
    Paired P (Function.update marked t true) (Function.update holds c (some t)) := by
  have hold {x y : α} (hxy : Function.update holds c (some t) x = some y) :
      x = c ∧ y = t ∨ x ≠ c ∧ holds x = some y := by
    by_cases hx : x = c
    · subst hx
      rw [Function.update_self] at hxy
      exact .inl ⟨rfl, (Option.some.inj hxy).symm⟩
    · rw [Function.update_of_ne hx] at hxy
      exact .inr ⟨hx, hxy⟩
  have hother {x : α} (hx : P x) : holds x ≠ some t := fun hxt =>
    absurd ((h.marked t ht).2 ⟨x, hx, hxt⟩) (by simp [hfree])
  constructor
  · intro y hy
    by_cases hyt : y = t
    · subst hyt
      rw [Function.update_self]
      exact iff_of_true rfl ⟨c, hc, Function.update_self ..⟩
    · rw [Function.update_of_ne hyt, h.marked y hy]
      constructor
      · rintro ⟨x, hx, hxy⟩
        have hxc : x ≠ c := fun heq => by simp [heq, hnone] at hxy
        exact ⟨x, hx, by rwa [Function.update_of_ne hxc]⟩
      · rintro ⟨x, hx, hxy⟩
        rcases hold hxy with ⟨-, heq⟩ | ⟨-, hxy⟩
        · exact absurd heq hyt
        · exact ⟨x, hx, hxy⟩
  · intro x x' y hx hx' hxy hxy'
    rcases hold hxy with ⟨hxc, hyt⟩ | ⟨-, hxy⟩
    · rcases hold hxy' with ⟨hxc', -⟩ | ⟨-, hxy'⟩
      · rw [hxc, hxc']
      · exact absurd (hyt ▸ hxy') (hother hx')
    · rcases hold hxy' with ⟨-, hyt⟩ | ⟨-, hxy'⟩
      · exact absurd (hyt ▸ hxy) (hother hx)
      · exact h.unique x x' y hx hx' hxy hxy'
  · intro x y hx hxy
    rcases hold hxy with ⟨-, hyt⟩ | ⟨-, hxy⟩
    · exact hyt ▸ ht
    · exact h.inside x y hx hxy

/-- An element leaves: what it held is freed and its holder is cleared. -/
theorem leave (h : Paired P marked holds) {w : α} (hw : P w) [DecidablePred P']
    (hP : ∀ x, P' x ↔ P x ∧ x ≠ w) :
    Paired P' (freed w P' marked holds) (cleared w P' marked holds) := by
  have hclear {c t : α} (hc : P' c) (hct : cleared w P' marked holds c = some t) :
      holds c = some t ∧ t ≠ w := by
    unfold cleared at hct
    split_ifs at hct with hcond
    refine ⟨hct, fun htw => hcond ⟨?_, hc, htw ▸ hct⟩⟩
    exact (h.marked w hw).2 ⟨c, ((hP c).1 hc).1, htw ▸ hct⟩
  have hkeep {c t : α} (hct : holds c = some t) (htw : t ≠ w) :
      cleared w P' marked holds c = some t := by
    unfold cleared
    rw [if_neg]
    · exact hct
    · rintro ⟨-, -, hcw⟩
      exact htw (Option.some.inj (hct.symm.trans hcw))
  constructor
  · intro t ht
    obtain ⟨hPt, htw⟩ := (hP t).1 ht
    by_cases hfree : holds w = some t
    · have hmark : freed w P' marked holds t = false := if_pos ⟨hfree, ht⟩
      rw [hmark]
      refine iff_of_false Bool.false_ne_true ?_
      rintro ⟨c, hc, hct⟩
      obtain ⟨hPc, hcw⟩ := (hP c).1 hc
      exact hcw (h.unique c w t hPc hw (hclear hc hct).1 hfree)
    · have hmark : freed w P' marked holds t = marked t := if_neg fun hcond => hfree hcond.1
      rw [hmark, h.marked t hPt]
      constructor
      · rintro ⟨c, hc, hct⟩
        have hcw : c ≠ w := fun heq => hfree (heq ▸ hct)
        exact ⟨c, (hP c).2 ⟨hc, hcw⟩, hkeep hct htw⟩
      · rintro ⟨c, hc, hct⟩
        exact ⟨c, ((hP c).1 hc).1, (hclear hc hct).1⟩
  · intro c c' t hc hc' hct hct'
    exact h.unique c c' t ((hP c).1 hc).1 ((hP c').1 hc').1 (hclear hc hct).1 (hclear hc' hct').1
  · intro c t hc hct
    obtain ⟨hct, htw⟩ := hclear hc hct
    exact (hP t).2 ⟨h.inside c t ((hP c).1 hc).1 hct, htw⟩

end Paired

end Backlink
