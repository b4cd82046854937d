import Rwl.Lib.Guillotine
import Mathlib.Data.List.Perm.Basic

/-!
# Taking strips off the edges of a box

Strips are taken off a box one after the other, each along the whole of one edge of what is left.

* `Side`, `Box.without`, `Box.strip`: one strip;
* `rest`, `strips`, `taken`: a list of strips, each with its side and its thickness;
* `rest_eq`, `rest_perm`: what is left depends on the totals only, so on no order;
* `Fits`: the strips are not thicker than the box; then they lie in the box, apart from each other
  and from the rest (`apart_strips`), and every pixel is in one of them or in the rest
  (`has_iff_strips`).
-/

namespace Guillotine

/-- A side of a box. -/
inductive Side
  | top
  | bottom
  | left
  | right
  deriving DecidableEq

namespace Box

/-- What is left of a box without its `k` rows or columns at a side. -/
def without (b : Box) (k : ℤ) : Side → Box
  | .top => ⟨b.x, b.y + k, b.w, b.h - k⟩
  | .bottom => ⟨b.x, b.y, b.w, b.h - k⟩
  | .left => ⟨b.x + k, b.y, b.w - k, b.h⟩
  | .right => ⟨b.x, b.y, b.w - k, b.h⟩

/-- The `k` rows or columns of a box at a side. -/
def strip (b : Box) (k : ℤ) : Side → Box
  | .top => ⟨b.x, b.y, b.w, k⟩
  | .bottom => ⟨b.x, b.y + (b.h - k), b.w, k⟩
  | .left => ⟨b.x, b.y, k, b.h⟩
  | .right => ⟨b.x + (b.w - k), b.y, k, b.h⟩

end Box

/-- What is left of a box when strips are taken off. -/
def rest : Box → List (Side × ℤ) → Box
  | b, [] => b
  | b, (e, k) :: cuts => rest (b.without k e) cuts

/-- The strips, in the order in which they are taken off. -/
def strips : Box → List (Side × ℤ) → List Box
  | _, [] => []
  | b, (e, k) :: cuts => b.strip k e :: strips (b.without k e) cuts

/-- What is taken off a side in all. -/
def taken (e : Side) : List (Side × ℤ) → ℤ
  | [] => 0
  | (e', k) :: cuts => (if e' = e then k else 0) + taken e cuts

section totals

theorem taken_perm (e : Side) {cuts cuts' : List (Side × ℤ)} (h : cuts.Perm cuts') :
    taken e cuts = taken e cuts' := by
  induction h with
  | nil => rfl
  | cons c _ ih => simp only [taken, ih]
  | swap c c' l =>
    simp only [taken]
    omega
  | trans _ _ ih ih' => rw [ih, ih']

theorem taken_nonneg (e : Side) {cuts : List (Side × ℤ)} (h : ∀ c ∈ cuts, 0 ≤ c.2) :
    0 ≤ taken e cuts := by
  induction cuts with
  | nil => exact le_rfl
  | cons c cuts ih =>
    have hk := h c List.mem_cons_self
    have hcuts := ih fun c hc => h c (List.mem_cons_of_mem _ hc)
    simp only [taken]
    split <;> omega

/-- The rest is the box less what is taken off its sides. -/
theorem rest_eq (b : Box) (cuts : List (Side × ℤ)) :
    rest b cuts = ⟨b.x + taken .left cuts, b.y + taken .top cuts,
      b.w - taken .left cuts - taken .right cuts,
      b.h - taken .top cuts - taken .bottom cuts⟩ := by
  induction cuts generalizing b with
  | nil => simp [rest, taken]
  | cons c cuts ih =>
    obtain ⟨e, k⟩ := c
    rw [rest, ih]
    cases e <;> simp only [Box.without, taken, reduceCtorEq, reduceIte, Box.mk.injEq] <;> omega

/-- The order of the strips makes no difference to the rest. -/
theorem rest_perm (b : Box) {cuts cuts' : List (Side × ℤ)} (h : cuts.Perm cuts') :
    rest b cuts = rest b cuts' := by
  simp only [rest_eq, taken_perm _ h]

end totals

/-- The strips are not thicker than the box. -/
structure Fits (b : Box) (cuts : List (Side × ℤ)) : Prop where
  nonneg : ∀ c ∈ cuts, 0 ≤ c.2
  wide : taken .left cuts + taken .right cuts ≤ b.w
  high : taken .top cuts + taken .bottom cuts ≤ b.h

section fits

variable {b : Box} {cuts : List (Side × ℤ)}

theorem Fits.of_perm {cuts' : List (Side × ℤ)} (h : Fits b cuts) (hp : cuts.Perm cuts') :
    Fits b cuts' where
  nonneg c hc := h.nonneg c (hp.symm.subset hc)
  wide := by simpa only [taken_perm _ hp] using h.wide
  high := by simpa only [taken_perm _ hp] using h.high

/-- When the first strip is off, the others still fit. -/
theorem Fits.tail {e : Side} {k : ℤ} (h : Fits b ((e, k) :: cuts)) : Fits (b.without k e) cuts := by
  obtain ⟨hnonneg, hwide, hhigh⟩ := h
  refine ⟨fun c hc => hnonneg c (List.mem_cons_of_mem _ hc), ?_, ?_⟩ <;>
    cases e <;> simp only [taken, Box.without, reduceCtorEq, reduceIte] at * <;> omega

/-- A strip that fits leaves the other strips room. -/
theorem Fits.head {e : Side} {k : ℤ} (h : Fits b ((e, k) :: cuts)) :
    (b.strip k e).Within b ∧ (b.without k e).Within b ∧ (b.strip k e).Apart (b.without k e) := by
  have hk : 0 ≤ k := h.nonneg _ List.mem_cons_self
  have hcuts : ∀ e, 0 ≤ taken e cuts := fun e =>
    taken_nonneg e fun c hc => h.nonneg c (List.mem_cons_of_mem _ hc)
  have htop := hcuts .top
  have hbottom := hcuts .bottom
  have hleft := hcuts .left
  have hright := hcuts .right
  obtain ⟨-, hwide, hhigh⟩ := h
  refine ⟨?_, ?_, ?_⟩ <;> cases e <;>
    simp only [taken, Box.strip, Box.without, Box.Within, Box.Apart, reduceCtorEq,
      reduceIte] at * <;>
    omega

/-- The strips and the rest lie in the box. -/
theorem within_strips (h : Fits b cuts) :
    (rest b cuts).Within b ∧ ∀ s ∈ strips b cuts, s.Within b := by
  induction cuts generalizing b with
  | nil => exact ⟨.refl b, fun s hs => (nomatch hs)⟩
  | cons c cuts ih =>
    obtain ⟨e, k⟩ := c
    obtain ⟨hstrip, hwithout, -⟩ := h.head
    obtain ⟨hrest, hstrips⟩ := ih h.tail
    refine ⟨hrest.trans hwithout, fun s hs => ?_⟩
    rcases List.mem_cons.mp hs with rfl | hs
    · exact hstrip
    · exact (hstrips s hs).trans hwithout

/-- **The strips lie apart**, from each other and from the rest. -/
theorem apart_strips (h : Fits b cuts) : (rest b cuts :: strips b cuts).Pairwise Box.Apart := by
  induction cuts generalizing b with
  | nil => exact List.pairwise_singleton _ _
  | cons c cuts ih =>
    obtain ⟨e, k⟩ := c
    obtain ⟨-, -, hapart⟩ := h.head
    obtain ⟨hrest, hstrips⟩ := within_strips h.tail
    have htail := List.pairwise_cons.mp (ih h.tail)
    -- the first strip is apart from all that is left when it is off
    have hoff : ∀ c : Box, c.Within (b.without k e) → (b.strip k e).Apart c := fun c hc =>
      hapart.mono (.refl _) hc
    refine List.pairwise_cons.mpr ⟨fun s hs => ?_, List.pairwise_cons.mpr
      ⟨fun s hs => hoff s (hstrips s hs), htail.2⟩⟩
    rcases List.mem_cons.mp hs with rfl | hs
    · exact (hoff _ hrest).symm
    · exact htail.1 s hs

/-- Every pixel is in a strip or in the rest. -/
theorem has_iff_strips (h : Fits b cuts) (px py : ℤ) :
    b.Has px py ↔ (rest b cuts).Has px py ∨ ∃ s ∈ strips b cuts, s.Has px py := by
  induction cuts generalizing b with
  | nil => simp [rest, strips]
  | cons c cuts ih =>
    obtain ⟨e, k⟩ := c
    have hsplit : b.Has px py ↔ (b.strip k e).Has px py ∨ (b.without k e).Has px py := by
      have hk : 0 ≤ k := h.nonneg _ List.mem_cons_self
      obtain ⟨hstrip, hwithout, -⟩ := h.head
      cases e <;> simp only [Box.strip, Box.without, Box.Has, Box.Within] at * <;> omega
    rw [hsplit, ih h.tail, rest, strips]
    simp only [List.mem_cons, exists_eq_or_imp]
    tauto

theorem rest_append (b : Box) (cuts cuts' : List (Side × ℤ)) :
    rest b (cuts ++ cuts') = rest (rest b cuts) cuts' := by
  induction cuts generalizing b with
  | nil => rfl
  | cons c cuts ih => exact ih _

/-- When the first strips are off, the others still fit. -/
theorem Fits.append {cuts' : List (Side × ℤ)} (h : Fits b (cuts ++ cuts')) :
    Fits (rest b cuts) cuts' := by
  induction cuts generalizing b with
  | nil => exact h
  | cons c cuts ih => exact ih h.tail

theorem Fits.left {cuts' : List (Side × ℤ)} (h : Fits b (cuts ++ cuts')) : Fits b cuts := by
  induction cuts generalizing b with
  | nil =>
    have hnonneg := fun e => taken_nonneg e h.nonneg
    have h₁ := hnonneg .left
    have h₂ := hnonneg .right
    have h₃ := hnonneg .top
    have h₄ := hnonneg .bottom
    obtain ⟨-, hwide, hhigh⟩ := h
    refine ⟨fun c hc => (nomatch hc), ?_, ?_⟩ <;>
      simp only [List.nil_append, taken] at * <;> omega
  | cons c cuts ih =>
    obtain ⟨hnonneg, hwide, hhigh⟩ := ih h.tail
    refine ⟨fun d hd => ?_, ?_, ?_⟩
    · rcases List.mem_cons.mp hd with rfl | hd
      · exact h.nonneg _ List.mem_cons_self
      · exact hnonneg d hd
    all_goals
      obtain ⟨e, k⟩ := c
      cases e <;> simp only [taken, Box.without, reduceCtorEq, reduceIte] at * <;> omega

/-- A box that strips fit in has a width and a height. -/
theorem Fits.nonneg_size (h : Fits b cuts) : 0 ≤ b.w ∧ 0 ≤ b.h := by
  have hnonneg := fun e => taken_nonneg e h.nonneg
  have h₁ := hnonneg .left
  have h₂ := hnonneg .right
  have h₃ := hnonneg .top
  have h₄ := hnonneg .bottom
  obtain ⟨-, hwide, hhigh⟩ := h
  omega

end fits

end Guillotine
