import Rwl.Lib.Guillotine

/-!
# Grids of equal cells

* `Box.outset`: a box with a margin around it;
* `cell`: the cells of a grid, row by row, with a margin before, after and between them;
* `Gridded`: the cells lie apart and within a box, with the margin on every side;
* `gridded_cells`: a grid whose rows and columns fit in a box is one.
-/

namespace Grid

open Guillotine

/-- The box with `pad` more pixels on every side. -/
def outset (pad : ℤ) (b : Box) : Box := ⟨b.x - pad, b.y - pad, b.w + 2 * pad, b.h + 2 * pad⟩

/-- Cell `i` of a grid with `cols` columns at the corner of `b`. -/
def cell (b : Box) (pad w h : ℤ) (cols i : ℕ) : Box :=
  ⟨b.x + pad + (w + pad) * (i % cols : ℕ), b.y + pad + (h + pad) * (i / cols : ℕ), w, h⟩

/-- The cells lie in the box and apart from each other, with `pad` pixels on every side. -/
structure Gridded (pad : ℤ) (b : Box) (cells : List Box) : Prop where
  inside : ∀ c ∈ cells, (outset pad c).Within b
  apart : cells.Pairwise fun c c' => (outset pad c).Apart c'
  clear : cells.Pairwise Box.Clear

variable {b : Box} {pad w h : ℤ} {cols i j n : ℕ}

/-- One coordinate of a cell: step `k` of a row of `m` spans. -/
theorem span_le {size span : ℤ} {k m : ℕ} (hk : k < m) (hspan : 0 ≤ span + pad)
    (hfit : (span + pad) * m ≤ size - pad) : (span + pad) * k + span + 2 * pad ≤ size := by
  have hstep : (span + pad) * (k + 1 : ℕ) ≤ (span + pad) * m :=
    mul_le_mul_of_nonneg_left (by exact_mod_cast hk) hspan
  push_cast at hstep
  linarith

/-- A later span begins after an earlier one and the margin. -/
theorem span_apart {span : ℤ} {k k' : ℕ} (hk : k < k') (hspan : 0 ≤ span + pad) :
    (span + pad) * k + span + pad ≤ (span + pad) * k' := by
  have hstep : (span + pad) * (k + 1 : ℕ) ≤ (span + pad) * k' :=
    mul_le_mul_of_nonneg_left (by exact_mod_cast hk) hspan
  push_cast at hstep
  linarith

theorem within_cell (hcols : 0 < cols) (hpad : 0 ≤ pad) (hw : 0 ≤ w) (hh : 0 ≤ h) {rows : ℕ}
    (hfitw : (w + pad) * cols ≤ b.w - pad) (hfith : (h + pad) * rows ≤ b.h - pad)
    (hrow : i / cols < rows) : (outset pad (cell b pad w h cols i)).Within b := by
  have hx := span_le (Nat.mod_lt i hcols) (by omega) hfitw
  have hy := span_le hrow (by omega) hfith
  have hx0 : 0 ≤ (w + pad) * (i % cols : ℕ) := mul_nonneg (by omega) (Int.natCast_nonneg _)
  have hy0 : 0 ≤ (h + pad) * (i / cols : ℕ) := mul_nonneg (by omega) (Int.natCast_nonneg _)
  unfold Box.Within outset cell
  dsimp only
  refine ⟨?_, ?_, ?_, ?_⟩ <;> linarith

theorem apart_cell (hpad : 0 ≤ pad) (hw : 0 ≤ w) (hh : 0 ≤ h) (hij : i ≠ j) :
    (outset pad (cell b pad w h cols i)).Apart (cell b pad w h cols j) := by
  unfold Box.Apart outset cell
  dsimp only
  -- two cells of one column lie in different rows
  rcases lt_trichotomy (i % cols) (j % cols) with hlt | heq | hlt
  · have := span_apart hlt (by omega : 0 ≤ w + pad)
    exact .inl (by linarith)
  · have hrows : i / cols ≠ j / cols := by
      intro hdiv
      apply hij
      rw [← Nat.div_add_mod i cols, ← Nat.div_add_mod j cols, hdiv, heq]
    rcases lt_or_gt_of_ne hrows with hlt | hlt
    · have := span_apart hlt (by omega : 0 ≤ h + pad)
      exact .inr (.inr (.inl (by linarith)))
    · have := span_apart hlt (by omega : 0 ≤ h + pad)
      exact .inr (.inr (.inr (by linarith)))
  · have := span_apart hlt (by omega : 0 ≤ w + pad)
    exact .inr (.inl (by linarith))

/-- A box lies in the box with a margin around it. -/
theorem within_outset (hpad : 0 ≤ pad) (c : Box) : c.Within (outset pad c) := by
  unfold Box.Within outset
  dsimp only
  omega

/-- **A grid whose columns and rows fit in a box keeps its margins.** -/
theorem gridded_cells (hcols : 0 < cols) (hpad : 0 ≤ pad) (hw : 0 ≤ w) (hh : 0 ≤ h) {r : ℕ}
    (hfitw : (w + pad) * cols ≤ b.w - pad) (hfith : (h + pad) * r ≤ b.h - pad)
    (hrows : ∀ i < n, i / cols < r) :
    Gridded pad b ((List.range n).map (cell b pad w h cols)) := by
  have hapart : (List.range n).Pairwise fun i j =>
      (outset pad (cell b pad w h cols i)).Apart (cell b pad w h cols j) :=
    (List.nodup_range (n := n)).imp fun hij => apart_cell hpad hw hh hij
  refine ⟨fun c hc => ?_, List.pairwise_map.2 hapart, List.pairwise_map.2 (hapart.imp fun h => ?_)⟩
  · obtain ⟨i, hi, rfl⟩ := List.mem_map.1 hc
    exact within_cell hcols hpad hw hh hfitw hfith (hrows i (List.mem_range.1 hi))
  · exact (h.mono (within_outset hpad _) (Box.Within.refl _)).clear

end Grid
