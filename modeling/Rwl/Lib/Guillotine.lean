import Mathlib.Tactic.Common
import Mathlib.Tactic.Linarith
import Mathlib.Tactic.Ring
import Mathlib.Algebra.BigOperators.Group.List.Basic

/-!
# Splitting a box with straight cuts

A box of pixels is cut in two by a strip that is as long as the box, and each half is cut again.

* `Box`, `Box.Has`, `Box.Within`, `Box.Apart`, `Box.Clear`, `Box.area`;
* `Splits gp b cells strips`: cutting `b` with strips `gp` thick leaves `cells`;
* the cells lie apart and within the box, one more than there are strips, and the areas add up;
* `Covers`: the cells reach every side of the box, and every pixel is in a cell or in a strip
  between two of them; `Splits.covers`;
* `rows`, `columns`: a box divided by a list of lengths; `splits_rows`, `splits_columns`.
-/

namespace Guillotine

/-- A box of pixels; the right and the bottom edge are outside. -/
structure Box where
  x : ℤ
  y : ℤ
  w : ℤ
  h : ℤ
  deriving DecidableEq

namespace Box

/-- The pixel is one of the box. -/
def Has (b : Box) (px py : ℤ) : Prop :=
  b.x ≤ px ∧ px < b.x + b.w ∧ b.y ≤ py ∧ py < b.y + b.h

/-- The box `c` lies in the box `b`. -/
def Within (c b : Box) : Prop :=
  b.x ≤ c.x ∧ c.x + c.w ≤ b.x + b.w ∧ b.y ≤ c.y ∧ c.y + c.h ≤ b.y + b.h

/-- One box ends before the other begins, sideways or downwards. -/
def Apart (c d : Box) : Prop :=
  c.x + c.w ≤ d.x ∨ d.x + d.w ≤ c.x ∨ c.y + c.h ≤ d.y ∨ d.y + d.h ≤ c.y

instance (b : Box) (px py : ℤ) : Decidable (b.Has px py) := inferInstanceAs (Decidable (_ ∧ _))

instance (c b : Box) : Decidable (c.Within b) := inferInstanceAs (Decidable (_ ∧ _))

instance (c d : Box) : Decidable (c.Apart d) := inferInstanceAs (Decidable (_ ∨ _))

/-- No pixel is one of both boxes. -/
def Clear (c d : Box) : Prop := ∀ px py, c.Has px py → ¬d.Has px py

/-- The number of pixels of a box. -/
def area (b : Box) : ℤ := b.w * b.h

theorem Within.refl (b : Box) : b.Within b := ⟨le_rfl, le_rfl, le_rfl, le_rfl⟩

theorem Within.trans {a b c : Box} (hab : a.Within b) (hbc : b.Within c) : a.Within c := by
  obtain ⟨h₁, h₂, h₃, h₄⟩ := hab
  obtain ⟨k₁, k₂, k₃, k₄⟩ := hbc
  exact ⟨k₁.trans h₁, h₂.trans k₂, k₃.trans h₃, h₄.trans k₄⟩

theorem Apart.symm {c d : Box} (h : c.Apart d) : d.Apart c := by
  rcases h with h | h | h | h
  · exact .inr (.inl h)
  · exact .inl h
  · exact .inr (.inr (.inr h))
  · exact .inr (.inr (.inl h))

/-- Boxes within boxes that lie apart lie apart. -/
theorem Apart.mono {a b c d : Box} (h : a.Apart b) (hc : c.Within a) (hd : d.Within b) :
    c.Apart d := by
  unfold Within at hc hd
  unfold Apart at h ⊢
  omega

theorem Apart.clear {c d : Box} (h : c.Apart d) : c.Clear d := by
  intro px py hc hd
  unfold Has at hc hd
  unfold Apart at h
  omega

/-- The first `k` columns of pixels. -/
def left (b : Box) (k : ℤ) : Box := ⟨b.x, b.y, k, b.h⟩

/-- The strip right of the first `k` columns of pixels. -/
def wall (gp : ℤ) (b : Box) (k : ℤ) : Box := ⟨b.x + k, b.y, gp, b.h⟩

/-- What is right of that strip. -/
def right (gp : ℤ) (b : Box) (k : ℤ) : Box := ⟨b.x + k + gp, b.y, b.w - k - gp, b.h⟩

/-- The first `k` rows of pixels. -/
def top (b : Box) (k : ℤ) : Box := ⟨b.x, b.y, b.w, k⟩

/-- The strip below the first `k` rows of pixels. -/
def shelf (gp : ℤ) (b : Box) (k : ℤ) : Box := ⟨b.x, b.y + k, b.w, gp⟩

/-- What is below that strip. -/
def bottom (gp : ℤ) (b : Box) (k : ℤ) : Box := ⟨b.x, b.y + k + gp, b.w, b.h - k - gp⟩

end Box

open Box

/-- Cutting `b` with strips of the thickness `gp`, each as long as the box it cuts, leaves the
cells. -/
inductive Splits (gp : ℤ) : Box → List Box → List Box → Prop
  | whole {b : Box} (hw : 0 < b.w) (hh : 0 < b.h) : Splits gp b [b] []
  | beside {b : Box} (k : ℤ) {cs ds ss ts : List Box} (hl : Splits gp (b.left k) cs ss)
      (hr : Splits gp (b.right gp k) ds ts) : Splits gp b (cs ++ ds) (b.wall gp k :: (ss ++ ts))
  | above {b : Box} (k : ℤ) {cs ds ss ts : List Box} (ht : Splits gp (b.top k) cs ss)
      (hb : Splits gp (b.bottom gp k) ds ts) :
      Splits gp b (cs ++ ds) (b.shelf gp k :: (ss ++ ts))

variable {gp : ℤ} {b : Box} {cells strips : List Box}

namespace Splits

/-- There is one strip less than there are cells. -/
theorem length_strips (h : Splits gp b cells strips) : strips.length + 1 = cells.length := by
  induction h with
  | whole hw hh => rfl
  | beside k hl hr ihl ihr =>
    simp only [List.length_cons, List.length_append]
    omega
  | above k ht hb iht ihb =>
    simp only [List.length_cons, List.length_append]
    omega

/-- A box that is split is not empty. -/
theorem pos (hgp : 0 ≤ gp) (h : Splits gp b cells strips) : 0 < b.w ∧ 0 < b.h := by
  induction h with
  | whole hw hh => exact ⟨hw, hh⟩
  | beside k hl hr ihl ihr =>
    simp only [Box.left, Box.right] at ihl ihr
    omega
  | above k ht hb iht ihb =>
    simp only [Box.top, Box.bottom] at iht ihb
    omega

theorem left_within (hgp : 0 ≤ gp) {k : ℤ} (hr : 0 < (b.right gp k).w) :
    (b.left k).Within b := by
  simp only [Box.right] at hr
  refine ⟨le_rfl, ?_, le_rfl, le_rfl⟩
  simp only [Box.left]
  omega

theorem right_within {k : ℤ} (hk : 0 ≤ k + gp) : (b.right gp k).Within b := by
  refine ⟨?_, ?_, le_rfl, le_rfl⟩ <;> simp only [Box.right] <;> omega

theorem top_within (hgp : 0 ≤ gp) {k : ℤ} (hb : 0 < (b.bottom gp k).h) :
    (b.top k).Within b := by
  simp only [Box.bottom] at hb
  refine ⟨le_rfl, le_rfl, le_rfl, ?_⟩
  simp only [Box.top]
  omega

theorem bottom_within {k : ℤ} (hk : 0 ≤ k + gp) : (b.bottom gp k).Within b := by
  refine ⟨le_rfl, le_rfl, ?_, ?_⟩ <;> simp only [Box.bottom] <;> omega

/-- The cells lie in the box. -/
theorem within (hgp : 0 ≤ gp) (h : Splits gp b cells strips) : ∀ c ∈ cells, c.Within b := by
  induction h with
  | whole hw hh =>
    intro c hc
    rw [List.mem_singleton.1 hc]
    exact Within.refl _
  | beside k hl hr ihl ihr =>
    intro c hc
    rcases List.mem_append.1 hc with hc | hc
    · exact (ihl c hc).trans (left_within hgp (hr.pos hgp).1)
    · exact (ihr c hc).trans (right_within (add_nonneg (hl.pos hgp).1.le hgp))
  | above k ht hb iht ihb =>
    intro c hc
    rcases List.mem_append.1 hc with hc | hc
    · exact (iht c hc).trans (top_within hgp (hb.pos hgp).2)
    · exact (ihb c hc).trans (bottom_within (add_nonneg (ht.pos hgp).2.le hgp))

/-- Every two cells lie apart. -/
theorem apart (hgp : 0 ≤ gp) (h : Splits gp b cells strips) : cells.Pairwise Apart := by
  induction h with
  | whole hw hh => exact List.pairwise_singleton _ _
  | @beside b k cs ds ss ts hl hr ihl ihr =>
    refine List.pairwise_append.2 ⟨ihl, ihr, fun c hc d hd => ?_⟩
    have hsides : (b.left k).Apart (b.right gp k) := by
      left
      simp only [Box.left, Box.right]
      omega
    exact hsides.mono (hl.within hgp c hc) (hr.within hgp d hd)
  | @above b k cs ds ss ts ht hb iht ihb =>
    refine List.pairwise_append.2 ⟨iht, ihb, fun c hc d hd => ?_⟩
    have hsides : (b.top k).Apart (b.bottom gp k) := by
      right; right; left
      simp only [Box.top, Box.bottom]
      omega
    exact hsides.mono (ht.within hgp c hc) (hb.within hgp d hd)

/-- No pixel is in two cells. -/
theorem clear (hgp : 0 ≤ gp) (h : Splits gp b cells strips) : cells.Pairwise Clear :=
  (h.apart hgp).imp fun hcd => hcd.clear

/-- Cells and strips together have the area of the box. -/
theorem area_add (h : Splits gp b cells strips) :
    (cells.map area).sum + (strips.map area).sum = b.area := by
  induction h with
  | whole hw hh => simp
  | beside k hl hr ihl ihr =>
    simp only [area, Box.left, Box.right, Box.wall, List.map_append, List.map_cons, List.sum_append,
      List.sum_cons] at ihl ihr ⊢
    linarith
  | above k ht hb iht ihb =>
    simp only [area, Box.top, Box.bottom, Box.shelf, List.map_append, List.map_cons,
      List.sum_append, List.sum_cons] at iht ihb ⊢
    linarith

/-! ### No pixel is left out -/

/-- The cell ends at the right edge of the box, or begins at the left one; likewise downwards. -/
def Reaches (right down : Bool) (c b : Box) : Prop :=
  (if right then c.x + c.w = b.x + b.w else c.x = b.x) ∧
    (if down then c.y + c.h = b.y + b.h else c.y = b.y)

/-- In every corner of the box there is a cell. -/
theorem exists_reaches (h : Splits gp b cells strips) (r d : Bool) :
    ∃ c ∈ cells, Reaches r d c b := by
  induction h with
  | whole hw hh =>
    refine ⟨_, List.mem_singleton_self _, ?_, ?_⟩
    · cases r <;> rfl
    · cases d <;> rfl
  | beside k hl hr ihl ihr =>
    cases r with
    | false =>
      obtain ⟨c, hc, hreach⟩ := ihl
      exact ⟨c, List.mem_append_left _ hc, hreach⟩
    | true =>
      obtain ⟨c, hc, hside, hdown⟩ := ihr
      refine ⟨c, List.mem_append_right _ hc, ?_, hdown⟩
      simp only [Box.right, if_true] at hside ⊢
      omega
  | above k ht hb iht ihb =>
    cases d with
    | false =>
      obtain ⟨c, hc, hreach⟩ := iht
      exact ⟨c, List.mem_append_left _ hc, hreach⟩
    | true =>
      obtain ⟨c, hc, hside, hdown⟩ := ihb
      refine ⟨c, List.mem_append_right _ hc, hside, ?_⟩
      simp only [Box.bottom, if_true] at hdown ⊢
      omega

end Splits

/-- The pixel is in the strip `gp` thick from the cell `c` to the cell `d` right of it or below
it, as long as the two cells together. -/
def Between (gp : ℤ) (c d : Box) (px py : ℤ) : Prop :=
  (d.x = c.x + c.w + gp ∧ c.x + c.w ≤ px ∧ px < d.x ∧
      min c.y d.y ≤ py ∧ py < max (c.y + c.h) (d.y + d.h)) ∨
    (d.y = c.y + c.h + gp ∧ c.y + c.h ≤ py ∧ py < d.y ∧
      min c.x d.x ≤ px ∧ px < max (c.x + c.w) (d.x + d.w))

/-- The box is the bounding box of the cells, and each of its pixels is in a cell or in a strip
between two cells. -/
structure Covers (gp : ℤ) (b : Box) (cells : List Box) : Prop where
  within : ∀ c ∈ cells, c.Within b
  left : ∃ c ∈ cells, c.x = b.x
  right : ∃ c ∈ cells, c.x + c.w = b.x + b.w
  top : ∃ c ∈ cells, c.y = b.y
  bottom : ∃ c ∈ cells, c.y + c.h = b.y + b.h
  filled : ∀ px py, b.Has px py →
    (∃ c ∈ cells, c.Has px py) ∨ ∃ c ∈ cells, ∃ d ∈ cells, Between gp c d px py

/-- The order of the cells does not matter. -/
theorem Covers.perm {cs ds : List Box} (h : Covers gp b cs) (hp : cs.Perm ds) :
    Covers gp b ds := by
  have hmem : ∀ {P : Box → Prop}, (∃ c ∈ cs, P c) → ∃ c ∈ ds, P c := by
    rintro P ⟨c, hc, hP⟩
    exact ⟨c, hp.subset hc, hP⟩
  refine ⟨fun c hc => h.within c (hp.symm.subset hc), hmem h.left, hmem h.right, hmem h.top,
    hmem h.bottom, fun px py hpix => ?_⟩
  rcases h.filled px py hpix with hcell | ⟨c, hc, hstrip⟩
  · exact .inl (hmem hcell)
  · exact .inr ⟨c, hp.subset hc, hmem hstrip⟩

/-- The pixels of a cut box: those of the two halves and those of the strip. -/
theorem has_wall (gp k : ℤ) {px py : ℤ} (h : b.Has px py) :
    (b.left k).Has px py ∨ (b.right gp k).Has px py ∨
      (b.x + k ≤ px ∧ px < b.x + k + gp ∧ b.y ≤ py ∧ py < b.y + b.h) := by
  simp only [Box.Has, Box.left, Box.right] at h ⊢
  omega

theorem has_shelf (gp k : ℤ) {px py : ℤ} (h : b.Has px py) :
    (b.top k).Has px py ∨ (b.bottom gp k).Has px py ∨
      (b.y + k ≤ py ∧ py < b.y + k + gp ∧ b.x ≤ px ∧ px < b.x + b.w) := by
  simp only [Box.Has, Box.top, Box.bottom] at h ⊢
  omega

/-- Every pixel of a split box is in a cell or in a strip between two of them. -/
theorem Splits.filled (h : Splits gp b cells strips) {px py : ℤ} (hpix : b.Has px py) :
    (∃ c ∈ cells, c.Has px py) ∨ ∃ c ∈ cells, ∃ d ∈ cells, Between gp c d px py := by
  induction h with
  | whole hw hh => exact .inl ⟨_, List.mem_singleton_self _, hpix⟩
  | @beside b k cs ds ss ts hl hr ihl ihr =>
    rcases has_wall gp k hpix with hpix | hpix | hpix
    · rcases ihl hpix with ⟨c, hc, hin⟩ | ⟨c, hc, d, hd, hin⟩
      · exact .inl ⟨c, List.mem_append_left _ hc, hin⟩
      · exact .inr ⟨c, List.mem_append_left _ hc, d, List.mem_append_left _ hd, hin⟩
    · rcases ihr hpix with ⟨c, hc, hin⟩ | ⟨c, hc, d, hd, hin⟩
      · exact .inl ⟨c, List.mem_append_right _ hc, hin⟩
      · exact .inr ⟨c, List.mem_append_right _ hc, d, List.mem_append_right _ hd, hin⟩
    · -- the strip reaches from the cell in the top right corner of the left half to the one in
      -- the bottom left corner of the right half
      obtain ⟨c, hc, hcx, hcy⟩ := hl.exists_reaches true false
      obtain ⟨d, hd, hdx, hdy⟩ := hr.exists_reaches false true
      refine .inr ⟨c, List.mem_append_left _ hc, d, List.mem_append_right _ hd, .inl ?_⟩
      simp [Box.left, Box.right] at hcx hcy hdx hdy
      omega
  | @above b k cs ds ss ts ht hb iht ihb =>
    rcases has_shelf gp k hpix with hpix | hpix | hpix
    · rcases iht hpix with ⟨c, hc, hin⟩ | ⟨c, hc, d, hd, hin⟩
      · exact .inl ⟨c, List.mem_append_left _ hc, hin⟩
      · exact .inr ⟨c, List.mem_append_left _ hc, d, List.mem_append_left _ hd, hin⟩
    · rcases ihb hpix with ⟨c, hc, hin⟩ | ⟨c, hc, d, hd, hin⟩
      · exact .inl ⟨c, List.mem_append_right _ hc, hin⟩
      · exact .inr ⟨c, List.mem_append_right _ hc, d, List.mem_append_right _ hd, hin⟩
    · obtain ⟨c, hc, hcx, hcy⟩ := ht.exists_reaches false true
      obtain ⟨d, hd, hdx, hdy⟩ := hb.exists_reaches true false
      refine .inr ⟨c, List.mem_append_left _ hc, d, List.mem_append_right _ hd, .inr ?_⟩
      simp [Box.top, Box.bottom] at hcx hcy hdx hdy
      omega

/-- Cutting a box leaves no dead area. -/
theorem Splits.covers (hgp : 0 ≤ gp) (h : Splits gp b cells strips) : Covers gp b cells := by
  obtain ⟨c, hc, hcx, hcy⟩ := h.exists_reaches false false
  obtain ⟨d, hd, hdx, hdy⟩ := h.exists_reaches true true
  exact ⟨h.within hgp, ⟨c, hc, hcx⟩, ⟨d, hd, hdx⟩, ⟨c, hc, hcy⟩, ⟨d, hd, hdy⟩,
    fun _ _ => h.filled⟩

/-! ### A box divided by a list of lengths -/

/-- Boxes of the given heights, one below the other. -/
def rows (gp : ℤ) : Box → List ℤ → List Box
  | _, [] => []
  | b, s :: ss => b.top s :: rows gp (b.bottom gp s) ss

/-- Boxes of the given widths, side by side. -/
def columns (gp : ℤ) : Box → List ℤ → List Box
  | _, [] => []
  | b, s :: ss => b.left s :: columns gp (b.right gp s) ss

/-- The second box is as wide as the first one and `gp` below it. -/
def Below (gp : ℤ) (c d : Box) : Prop := d.x = c.x ∧ d.w = c.w ∧ d.y = c.y + c.h + gp

/-- The second box is as high as the first one and `gp` right of it. -/
def RightOf (gp : ℤ) (c d : Box) : Prop := d.y = c.y ∧ d.h = c.h ∧ d.x = c.x + c.w + gp

theorem box_of_mem_rows {c : Box} {ss : List ℤ} (h : c ∈ rows gp b ss) :
    c.x = b.x ∧ c.w = b.w := by
  induction ss generalizing b with
  | nil => cases h
  | cons s ss ih =>
    rcases List.mem_cons.1 h with rfl | h
    · exact ⟨rfl, rfl⟩
    · exact ih (b := b.bottom gp s) h

theorem box_of_mem_columns {c : Box} {ss : List ℤ} (h : c ∈ columns gp b ss) :
    c.y = b.y ∧ c.h = b.h := by
  induction ss generalizing b with
  | nil => cases h
  | cons s ss ih =>
    rcases List.mem_cons.1 h with rfl | h
    · exact ⟨rfl, rfl⟩
    · exact ih (b := b.right gp s) h

/-- Neighbours in a column are one gap apart. -/
theorem isChain_rows (gp : ℤ) (b : Box) (ss : List ℤ) : (rows gp b ss).IsChain (Below gp) := by
  induction ss generalizing b with
  | nil => exact .nil
  | cons s ss ih =>
    cases ss with
    | nil => exact .singleton _
    | cons t ss => exact .cons_cons ⟨rfl, rfl, rfl⟩ (ih (b.bottom gp s))

/-- Neighbours in a row are one gap apart. -/
theorem isChain_columns (gp : ℤ) (b : Box) (ss : List ℤ) :
    (columns gp b ss).IsChain (RightOf gp) := by
  induction ss generalizing b with
  | nil => exact .nil
  | cons s ss ih =>
    cases ss with
    | nil => exact .singleton _
    | cons t ss => exact .cons_cons ⟨rfl, rfl, rfl⟩ (ih (b.right gp s))

/-- Positive heights that fill the box with their gaps divide it. -/
theorem splits_rows {ss : List ℤ} (hne : ss ≠ []) (hpos : ∀ s ∈ ss, 0 < s) (hw : 0 < b.w)
    (hsum : ss.sum + (ss.length - 1) * gp = b.h) : ∃ strips, Splits gp b (rows gp b ss) strips := by
  induction ss generalizing b with
  | nil => exact absurd rfl hne
  | cons s ss ih =>
    have hs : 0 < s := hpos s List.mem_cons_self
    cases ss with
    | nil =>
      have htop : b.top s = b := by
        simp at hsum
        simp [Box.top, hsum]
      have hh : 0 < b.h := by
        simp at hsum
        omega
      exact ⟨[], by rw [rows, rows, htop]; exact .whole hw hh⟩
    | cons t ss =>
      obtain ⟨strips, hrest⟩ := ih (b := b.bottom gp s) (List.cons_ne_nil _ _)
        (fun u hu => hpos u (List.mem_cons_of_mem _ hu)) hw (by
          simp only [Box.bottom, List.sum_cons, List.length_cons] at hsum ⊢
          push_cast at hsum ⊢
          linarith)
      have htop : Splits gp (b.top s) [b.top s] [] := .whole hw hs
      exact ⟨_, .above s htop hrest⟩

/-- Positive widths that fill the box with their gaps divide it. -/
theorem splits_columns {ss : List ℤ} (hne : ss ≠ []) (hpos : ∀ s ∈ ss, 0 < s) (hh : 0 < b.h)
    (hsum : ss.sum + (ss.length - 1) * gp = b.w) :
    ∃ strips, Splits gp b (columns gp b ss) strips := by
  induction ss generalizing b with
  | nil => exact absurd rfl hne
  | cons s ss ih =>
    have hs : 0 < s := hpos s List.mem_cons_self
    cases ss with
    | nil =>
      have hleft : b.left s = b := by
        simp at hsum
        simp [Box.left, hsum]
      have hw : 0 < b.w := by
        simp at hsum
        omega
      exact ⟨[], by rw [columns, columns, hleft]; exact .whole hw hh⟩
    | cons t ss =>
      obtain ⟨strips, hrest⟩ := ih (b := b.right gp s) (List.cons_ne_nil _ _)
        (fun u hu => hpos u (List.mem_cons_of_mem _ hu)) hh (by
          simp only [Box.right, List.sum_cons, List.length_cons] at hsum ⊢
          push_cast at hsum ⊢
          linarith)
      have hleft : Splits gp (b.left s) [b.left s] [] := .whole hs hh
      exact ⟨_, .beside s hleft hrest⟩

end Guillotine
