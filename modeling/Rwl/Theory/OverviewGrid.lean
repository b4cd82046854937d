import Mathlib.Tactic.Common
import Rwl.Lib.Grid
import Rwl.Theory.MarginEvents

/-!
# The grid of the overview

* `Unclamped`: no cell is forced to a width or a height of one pixel;
* `gridded_build_cells`: then the target cells keep the padding of the configuration;
* `overview_grid`: that, and the highlights are in range in every run.
-/

namespace Compositor

open Guillotine (Box)
open Grid (Gridded)

/-- The rectangle as a box of pixels. -/
def Rect.toBox (r : Rect) : Box := ⟨r.loc.x, r.loc.y, r.size.w, r.size.h⟩

namespace overview

/-- The rows of the grid of `n` windows. -/
def gridRows (cfg : Config) (n : ℕ) (work : Rect) : ℕ :=
  (n + (grid_dims cfg n work).1 - 1) / (grid_dims cfg n work).1

/-- No `max(1)` of `grid_dims` takes effect on the cells. -/
def Unclamped (cfg : Config) (n : ℕ) (work : Rect) : Prop :=
  1 ≤ (work.size.w - cfg.overview_padding).tdiv (grid_dims cfg n work).1 - cfg.overview_padding ∧
    1 ≤ (work.size.h - cfg.overview_padding).tdiv (max (gridRows cfg n work) 1 : ℕ) -
      cfg.overview_padding

instance (cfg : Config) (n : ℕ) (work : Rect) : Decidable (Unclamped cfg n work) :=
  inferInstanceAs (Decidable (_ ∧ _))

theorem cols_pos (cfg : Config) (n : ℕ) (work : Rect) : 0 < (grid_dims cfg n work).1 :=
  lt_of_lt_of_le Nat.one_pos (Nat.le_max_right _ _)

/-- A truncated quotient that is positive is a quotient. -/
theorem tdiv_mul_le {a : ℤ} {c : ℕ} (h : 0 < a.tdiv c) : a.tdiv c * c ≤ a := by
  have ha : 0 ≤ a := by
    by_contra hneg
    have hdiv : 0 ≤ (-a).tdiv c := Int.tdiv_nonneg (by omega) (Int.natCast_nonneg c)
    rw [Int.neg_tdiv] at hdiv
    omega
  rw [mul_comm]
  exact Int.mul_tdiv_self_le ha

/-- Every window has a row. -/
theorem row_lt {cols n i : ℕ} (hcols : 0 < cols) (hi : i < n) :
    i / cols < max ((n + cols - 1) / cols) 1 := by
  refine lt_of_lt_of_le ?_ (Nat.le_max_left _ _)
  rw [Nat.div_lt_iff_lt_mul hcols]
  have hdiv := Nat.div_add_mod (n + cols - 1) cols
  have hmod := Nat.mod_lt (n + cols - 1) hcols
  rw [mul_comm]
  omega

/-- The targets of the cells are the cells of a grid. -/
theorem targets_build_cells (d : Desk) (all_tags : Bool) (active_tags : ℕ) (work : Rect) :
    (build_cells d all_tags active_tags work).map (fun c => c.target.toBox) =
      (List.range (candidates d all_tags active_tags).length).map
        (Grid.cell work.toBox d.cfg.overview_padding
          (grid_dims d.cfg (candidates d all_tags active_tags).length work).2.1
          (grid_dims d.cfg (candidates d all_tags active_tags).length work).2.2.1
          (grid_dims d.cfg (candidates d all_tags active_tags).length work).1) := by
  refine List.ext_getElem (by simp [build_cells]) fun i hi hi' => ?_
  simp only [build_cells, List.getElem_map, List.getElem_zipIdx, List.getElem_range, Nat.zero_add]
  rfl

/-- **The target cells keep the padding of the configuration.** -/
theorem gridded_build_cells {d : Desk} {all_tags : Bool} {active_tags : ℕ} {work : Rect}
    (hpad : 0 ≤ d.cfg.overview_padding)
    (hfit : Unclamped d.cfg (candidates d all_tags active_tags).length work) :
    Gridded d.cfg.overview_padding work.toBox
      ((build_cells d all_tags active_tags work).map fun c => c.target.toBox) := by
  rw [targets_build_cells]
  generalize (candidates d all_tags active_tags).length = n at hfit
  obtain ⟨hw, hh⟩ := hfit
  have hcols := cols_pos d.cfg n work
  have hwidth : (grid_dims d.cfg n work).2.1 =
      (work.size.w - d.cfg.overview_padding).tdiv (grid_dims d.cfg n work).1 -
        d.cfg.overview_padding := max_eq_left hw
  have hheight : (grid_dims d.cfg n work).2.2.1 =
      (work.size.h - d.cfg.overview_padding).tdiv (max (gridRows d.cfg n work) 1 : ℕ) -
        d.cfg.overview_padding := max_eq_left hh
  refine Grid.gridded_cells (r := max (gridRows d.cfg n work) 1) hcols hpad ?_ ?_ ?_ ?_
    fun i hi => row_lt hcols hi
  · rw [hwidth]
    omega
  · rw [hheight]
    omega
  · rw [hwidth, sub_add_cancel]
    exact tdiv_mul_le (by omega)
  · rw [hheight, sub_add_cancel]
    exact tdiv_mul_le (by omega)

end overview

namespace Rwl

open Transition
open overview (Unclamped candidates build_cells)

theorem inRange_init (env : Setup) : (init env).OverviewInRange := nofun

/-- **The cells of an overview keep the padding, and in every run its highlights are cells.** -/
theorem overview_grid :
    (∀ (d : Desk) (all_tags : Bool) (active_tags : ℕ) (work : Rect),
      0 ≤ d.cfg.overview_padding →
      Unclamped d.cfg (candidates d all_tags active_tags).length work →
      Gridded d.cfg.overview_padding work.toBox
        ((build_cells d all_tags active_tags work).map fun c => c.target.toBox)) ∧
      ∀ (env : Setup) (es : List Event), Always step OverviewInRange (init env) es :=
  ⟨fun _ _ _ _ hpad hfit => overview.gridded_build_cells hpad hfit, fun env es =>
    always_of_step (I := OverviewInRange) (fun s e => inRange_step s e) (inRange_init env) es⟩

/-- Three windows on an output. -/
def threeThumbnails : Rwl :=
  run step (init (plainSetup [] [])) [.output_added 0 (plainOutput "a"),
    .new_toplevel 0 (plainClient 0), .commit 0 false, .commit 0 true,
    .new_toplevel 1 (plainClient 1), .commit 1 false, .commit 1 true,
    .new_toplevel 2 (plainClient 2), .commit 2 false, .commit 2 true]

theorem overview_grid_three : (candidates threeThumbnails.desk true 0).length = 3 ∧
    Gridded 10 (Rect.of 0 0 800 600).toBox
      ((build_cells threeThumbnails.desk true 0 (Rect.of 0 0 800 600)).map
        fun c => c.target.toBox) :=
  ⟨by decide +kernel, overview_grid.1 threeThumbnails.desk true 0 (Rect.of 0 0 800 600)
    (by decide +kernel) (by decide +kernel)⟩

end Rwl

end Compositor
