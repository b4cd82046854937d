import Mathlib.Algebra.Order.BigOperators.Group.List
import Rwl.Theory.LayoutSplits

/-!
# The dwindling, the column and the scrolled layout

* `dwindleFits`, `splits_dwindleFrom`: each window splits off the region that is left;
  `dwindle_partitions`;
* `widthOf`, `columnCells`: the cells of `col`; `columnsFill`: exactly when they fill the area;
  `col_spans_area_iff`;
* `scrollX`: where `scroll` puts a column on the screen; `scroll_shows_focused`.
-/

namespace Compositor

open Guillotine

namespace layout

/-! ### The dwindling spiral -/

/-- The box of a region. -/
def Region.box (r : Region) : Box := ⟨r.1, r.2.1, r.2.2.1, r.2.2.2⟩

/-- A region is not clamped to one pixel inside the border. -/
def Region.Fits (bw : ℤ) (r : Region) : Prop := 1 ≤ r.2.2.1 - 2 * bw ∧ 1 ≤ r.2.2.2 - 2 * bw

/-- No clamp to one pixel acts when `left` windows, window `i` first, divide the region. -/
def dwindleFits (a : Inset) (mfact : ℚ) : ℕ → ℕ → Region → Prop
  | _, 0, _ => True
  | _, 1, r => r.Fits a.bw
  | i, left + 2, r =>
      let part := dwindlePart a mfact i r
      (if i % 2 = 0 then
        let ratio := if i = 0 then mfact else 1 / 2
        1 ≤ r.2.2.1 - a.gp ∧ 1 ≤ roundAway ((r.2.2.1 - a.gp : ℤ) * ratio) ∧
          1 ≤ r.2.2.1 - part.2.2.1 - a.gp
      else
        1 ≤ r.2.2.2 - a.gp ∧ 1 ≤ roundAway ((r.2.2.2 - a.gp : ℤ) * (1 / 2)) ∧
          1 ≤ r.2.2.2 - part.2.2.2 - a.gp) ∧
        Region.Fits a.bw part ∧ dwindleFits a mfact (i + 1) (left + 1) (dwindleRest a mfact i r)

instance (bw : ℤ) (r : Region) : Decidable (r.Fits bw) := inferInstanceAs (Decidable (_ ∧ _))

instance decidableDwindleFits (a : Inset) (mfact : ℚ) :
    ∀ (i left : ℕ) (r : Region), Decidable (dwindleFits a mfact i left r)
  | _, 0, _ => inferInstanceAs (Decidable True)
  | _, 1, r => inferInstanceAs (Decidable (r.Fits a.bw))
  | i, left + 2, r =>
      let _ := decidableDwindleFits a mfact (i + 1) (left + 1) (dwindleRest a mfact i r)
      inferInstanceAs (Decidable ((if i % 2 = 0 then _ ∧ _ ∧ _ else _ ∧ _ ∧ _) ∧ _ ∧
        dwindleFits a mfact (i + 1) (left + 1) (dwindleRest a mfact i r)))

theorem cell_region {bw : ℤ} {r : Region} (h : r.Fits bw) :
    cell bw (Region.bordered bw r) = r.box :=
  cell_bordered h.1 h.2

/-- The windows that are left cut the region that is left. -/
theorem splits_dwindleFrom {a : Inset} {mfact : ℚ} (hbw : 0 ≤ a.bw) (i left : ℕ) (r : Region)
    (hfits : dwindleFits a mfact i (left + 1) r) :
    ∃ strips, Splits a.gp r.box
      (cells a.bw (dwindleFrom a mfact i (left + 1) r.1 r.2.1 r.2.2.1 r.2.2.2)) strips := by
  induction left generalizing i r with
  | zero =>
    have hr : r.Fits a.bw := hfits
    refine ⟨[], ?_⟩
    show Splits a.gp r.box [cell a.bw (Region.bordered a.bw r)] []
    rw [cell_region hr]
    obtain ⟨hw, hh⟩ := hr
    exact .whole (by show 0 < r.2.2.1; omega) (by show 0 < r.2.2.2; omega)
  | succ left ih =>
    obtain ⟨hsplit, hpart, hrest⟩ := hfits
    obtain ⟨strips, hcut⟩ := ih (i + 1) (dwindleRest a mfact i r) hrest
    have hcells : cells a.bw (dwindleFrom a mfact i (left + 2) r.1 r.2.1 r.2.2.1 r.2.2.2) =
        [(dwindlePart a mfact i r).box] ++
          cells a.bw (dwindleFrom a mfact (i + 1) (left + 1) (dwindleRest a mfact i r).1
            (dwindleRest a mfact i r).2.1 (dwindleRest a mfact i r).2.2.1
            (dwindleRest a mfact i r).2.2.2) := by
      rw [dwindleFrom_succ, ← cell_region hpart]
      rfl
    have hpos : 0 < (dwindlePart a mfact i r).2.2.1 ∧ 0 < (dwindlePart a mfact i r).2.2.2 := by
      obtain ⟨hw, hh⟩ := hpart
      omega
    have hwhole : Splits a.gp (dwindlePart a mfact i r).box [(dwindlePart a mfact i r).box] [] :=
      .whole hpos.1 hpos.2
    rw [hcells]
    by_cases hi : i % 2 = 0
    · -- the window takes the left part of the region
      rw [if_pos hi] at hsplit
      have hleft : (dwindlePart a mfact i r).box = r.box.left (dwindlePart a mfact i r).2.2.1 := by
        simp only [dwindlePart, if_pos hi, Region.box, Box.left]
      have hright : (dwindleRest a mfact i r).box =
          r.box.right a.gp (dwindlePart a mfact i r).2.2.1 := by
        simp only [dwindleRest, if_pos hi, Region.box, Box.right, max_eq_left hsplit.2.2]
      rw [hleft] at hwhole ⊢
      rw [hright] at hcut
      exact ⟨_, .beside _ hwhole hcut⟩
    · rw [if_neg hi] at hsplit
      have htop : (dwindlePart a mfact i r).box = r.box.top (dwindlePart a mfact i r).2.2.2 := by
        simp only [dwindlePart, if_neg hi, Region.box, Box.top]
      have hbottom : (dwindleRest a mfact i r).box =
          r.box.bottom a.gp (dwindlePart a mfact i r).2.2.2 := by
        simp only [dwindleRest, if_neg hi, Region.box, Box.bottom, max_eq_left hsplit.2.2]
      rw [htop] at hwhole ⊢
      rw [hbottom] at hcut
      exact ⟨_, .above _ hwhole hcut⟩

/-- No clamp of `dwindle::arrange` to one pixel acts. -/
def dwindleUnclamped (a : Inset) (mon : Monitor) (n : ℕ) : Prop :=
  n ≠ 1 → dwindleFits a (clampQ mon.mfact (5 / 100) (95 / 100)) 0 n (a.x, a.y, a.w, a.h)

instance (a : Inset) (mon : Monitor) (n : ℕ) : Decidable (dwindleUnclamped a mon n) :=
  inferInstanceAs (Decidable (_ → _))

/-- **The dwindling layout partitions the work area**: `n - 1` cuts, each with a strip one gap
thick and as long as the region it cuts, leave `n` cells; they do not overlap, and the areas of
the cells and the strips add up to the inset area. -/
theorem dwindle_partitions (cfg : Config) (gaps_enabled : Bool) (mon : Monitor) {n : ℕ}
    (hn : 1 ≤ n) (hborder : cfg.border_px < 2 ^ 31)
    (hinset : insetFits mon (inset cfg gaps_enabled mon n).gp)
    (hfits : dwindleUnclamped (inset cfg gaps_enabled mon n) mon n) :
    let a := inset cfg gaps_enabled mon n
    let area := insetBox mon a.gp
    let cs := cells a.bw (dwindle a mon n)
    Tidy area cs ∧ ∃ strips, Splits a.gp area cs strips ∧ cs.length = n ∧
      strips.length + 1 = n ∧ (cs.map Box.area).sum + (strips.map Box.area).sum = area.area := by
  dsimp only
  have hgp := gap_nonneg cfg gaps_enabled mon n
  have hbw := border_nonneg gaps_enabled mon n hborder
  set a := inset cfg gaps_enabled mon n with ha
  have hcut : ∃ strips, Splits a.gp a.box (cells a.bw (dwindle a mon n)) strips := by
    by_cases hone : n = 1
    · -- a lone window has no border and fills the area
      have hbw0 : a.bw = 0 := by
        rw [ha, hone]
        rfl
      have hlone : cells a.bw (dwindle a mon n) = [a.box] := by
        rw [dwindle, if_pos hone, hbw0]
        simp [cells, cell, Rect.of, Inset.box]
      rw [hlone]
      exact ⟨[], .whole (lt_of_lt_of_le Int.zero_lt_one (le_max_right _ _))
        (lt_of_lt_of_le Int.zero_lt_one (le_max_right _ _))⟩
    · obtain ⟨k, rfl⟩ : ∃ k, n = k + 1 := ⟨n - 1, by omega⟩
      rw [dwindle, if_neg hone]
      exact splits_dwindleFrom hbw 0 k (a.x, a.y, a.w, a.h) (hfits hone)
  rw [box_inset hinset] at hcut
  obtain ⟨strips, h⟩ := hcut
  have hlen : (cells a.bw (dwindle a mon n)).length = n := by
    rw [cells, List.length_map]
    unfold dwindle
    split_ifs with hone
    · exact hone.symm
    · exact length_dwindleFrom ..
  exact ⟨tidy_of_splits hgp h (.refl _), strips, h, hlen, h.length_strips.trans hlen, h.area_add⟩

/-- Four windows with a gap of 4 and a border of 1 pixel. -/
theorem dwindle_partitions_four :
    let cfg := { Rwl.plainConfig [] [] with gaps_px := 4, border_px := 1 }
    let mon := smallMonitor cfg 1
    let a := inset cfg true mon 4
    Tidy (insetBox mon 4) (cells a.bw (dwindle a mon 4)) := by
  intro cfg mon a
  exact (dwindle_partitions cfg true mon (n := 4) (by decide) (by decide) (by decide +kernel)
    (by decide +kernel)).1

/-! ### Columns -/

/-- The width of the cell of a column `win_w` wide. -/
def widthOf (bw win_w : ℤ) : ℤ := max (win_w - 2 * bw) 1 + 2 * bw

theorem widthOf_eq_iff {bw win_w : ℤ} : widthOf bw win_w = win_w ↔ 1 ≤ win_w - 2 * bw := by
  unfold widthOf
  omega

theorem widthOf_pos {bw : ℤ} (hbw : 0 ≤ bw) (win_w : ℤ) : 0 < widthOf bw win_w := by
  unfold widthOf
  omega

/-- The width `col` divides by its fractions. -/
def usableWidth (a : Inset) (n : ℕ) : ℤ := max (a.w - (n - 1) * a.gp) 1

/-- The widths of all columns but the last. -/
def leadWidths (u : ℤ) (fs : List ℚ) : List ℤ := fs.dropLast.map fun f => roundAway (u * f)

/-- The cell of a column, from its offset and its width. -/
def columnBox (a : Inset) (s : ℤ × ℤ) : Box :=
  ⟨a.x + s.1, a.y, widthOf a.bw s.2, max (a.h - 2 * a.bw) 1 + 2 * a.bw⟩

theorem cells_col (a : Inset) (mon : Monitor) (n : ℕ) :
    cells a.bw (col a mon n) =
      (colSpans (usableWidth a n) a.gp 0 (colFacts mon n)).map (columnBox a) := by
  show List.map _ (List.map _ _) = _
  rw [List.map_map]
  refine List.map_congr_left fun s _ => ?_
  simp only [Function.comp_apply, cell, Rect.of, columnBox, widthOf, Box.mk.injEq, and_true]
  omega

/-- The next column begins one gap right of where this one ends. -/
def NextColumn (gp : ℤ) (c d : Box) : Prop := d.x = c.x + c.w + gp

theorem head_colSpans (u gp x : ℤ) (f : ℚ) (fs : List ℚ) :
    ∃ w rest, colSpans u gp x (f :: fs) = (x, w) :: rest := by
  cases fs with
  | nil => exact ⟨_, _, rfl⟩
  | cons g fs => exact ⟨_, _, rfl⟩

theorem colSpans_cons_cons (u gp x : ℤ) (f g : ℚ) (fs : List ℚ) :
    colSpans u gp x (f :: g :: fs) = (x, roundAway (u * f)) ::
      colSpans u gp (x + roundAway (u * f) + gp) (g :: fs) :=
  rfl

/-- The columns are one gap apart exactly when no column but the last is clamped. -/
theorem isChain_columns_iff (a : Inset) (u x : ℤ) (fs : List ℚ) :
    ((colSpans u a.gp x fs).map (columnBox a)).IsChain (NextColumn a.gp) ↔
      ∀ w ∈ leadWidths u fs, 1 ≤ w - 2 * a.bw := by
  induction fs generalizing x with
  | nil => simp [colSpans, leadWidths]
  | cons f fs ih =>
    cases fs with
    | nil => simp [colSpans, leadWidths]
    | cons g fs =>
      obtain ⟨w, rest, hrest⟩ := head_colSpans u a.gp (x + roundAway (u * f) + a.gp) g fs
      have htail := ih (x + roundAway (u * f) + a.gp)
      have hlead : leadWidths u (f :: g :: fs) = roundAway (u * f) :: leadWidths u (g :: fs) :=
        rfl
      have hnext : NextColumn a.gp (columnBox a (x, roundAway (u * f)))
          (columnBox a (x + roundAway (u * f) + a.gp, w)) ↔ 1 ≤ roundAway (u * f) - 2 * a.bw := by
        rw [← widthOf_eq_iff]
        simp only [NextColumn, columnBox]
        omega
      rw [colSpans_cons_cons, List.map_cons, hlead, List.forall_mem_cons, ← htail, hrest,
        List.map_cons, List.isChain_cons_cons, hnext]

/-- The width of the last column: what the running offset leaves of the usable width. -/
def lastWidth (u gp x : ℤ) (fs : List ℚ) : ℤ :=
  u - (x + (leadWidths u fs).sum + (fs.length - 1) * gp)

theorem lastWidth_cons (u gp x : ℤ) (f g : ℚ) (fs : List ℚ) :
    lastWidth u gp (x + roundAway (u * f) + gp) (g :: fs) = lastWidth u gp x (f :: g :: fs) := by
  have hfirst : leadWidths u (f :: g :: fs) = roundAway (u * f) :: leadWidths u (g :: fs) := rfl
  simp only [lastWidth, hfirst, List.sum_cons, List.length_cons]
  push_cast
  ring

/-- The widths of all columns. -/
theorem map_snd_colSpans (u gp x : ℤ) {fs : List ℚ} (hne : fs ≠ []) :
    (colSpans u gp x fs).map Prod.snd = leadWidths u fs ++ [lastWidth u gp x fs] := by
  induction fs generalizing x with
  | nil => exact absurd rfl hne
  | cons f fs ih =>
    cases fs with
    | nil => simp [colSpans, leadWidths, lastWidth]
    | cons g fs =>
      rw [colSpans_cons_cons, List.map_cons, ih _ (List.cons_ne_nil _ _), lastWidth_cons]
      rfl

/-- Where no column but the last is clamped, the cells are the columns of a box. -/
theorem columns_eq (a : Inset) (u x : ℤ) (w : ℤ) {fs : List ℚ} (hne : fs ≠ [])
    (hlead : ∀ w ∈ leadWidths u fs, 1 ≤ w - 2 * a.bw) :
    (colSpans u a.gp x fs).map (columnBox a) =
      columns a.gp ⟨a.x + x, a.y, w, max (a.h - 2 * a.bw) 1 + 2 * a.bw⟩
        (leadWidths u fs ++ [widthOf a.bw (lastWidth u a.gp x fs)]) := by
  induction fs generalizing x w with
  | nil => exact absurd rfl hne
  | cons f fs ih =>
    cases fs with
    | nil => simp [colSpans, leadWidths, lastWidth, columns, columnBox, Box.left]
    | cons g fs =>
      have hfirst : leadWidths u (f :: g :: fs) = roundAway (u * f) :: leadWidths u (g :: fs) :=
        rfl
      rw [hfirst] at hlead ⊢
      have hw := widthOf_eq_iff.2 (hlead _ List.mem_cons_self)
      have hrest := ih (x + roundAway (u * f) + a.gp) (w - roundAway (u * f) - a.gp)
        (List.cons_ne_nil _ _) fun v hv => hlead v (List.mem_cons_of_mem _ hv)
      have hlast := lastWidth_cons u a.gp x f g fs
      have hx : a.x + (x + roundAway (u * f) + a.gp) = a.x + x + roundAway (u * f) + a.gp := by
        ring
      rw [hlast, hx] at hrest
      rw [colSpans_cons_cons, List.map_cons, hrest, List.cons_append, columns, columnBox, hw]
      rfl

theorem map_w_columns (gp : ℤ) (b : Box) (ss : List ℤ) : (columns gp b ss).map Box.w = ss := by
  induction ss generalizing b with
  | nil => rfl
  | cons s ss ih => exact congrArg _ (ih (b.right gp s))

/-- There are `n` columns that do not overlap, one gap apart from the left edge on, and with
`n - 1` gaps they are as wide as the area. -/
structure ColumnsSpan (a : Inset) (n : ℕ) (cs : List Box) : Prop where
  length : cs.length = n
  clear : cs.Pairwise Box.Clear
  gapped : cs.IsChain (NextColumn a.gp)
  first : ∀ c ∈ cs.head?, c.x = a.x
  spans : (cs.map Box.w).sum + (n - 1) * a.gp = a.w

/-- Every column but the last has its share of the usable width rounded, and the last one is
at most half a pixel for each column away from its own share. -/
structure ColumnsShare (u : ℤ) (fs : List ℚ) (cs : List Box) : Prop where
  each : (cs.map Box.w).dropLast = leadWidths u fs
  last : ∀ f ∈ fs.getLast?, ∀ c ∈ cs.getLast?, |(c.w : ℚ) - u * f| ≤ fs.length / 2

/-- No clamp of `col::arrange` on a width acts. -/
def colFits (a : Inset) (mon : Monitor) (n : ℕ) : Prop :=
  1 ≤ a.w - (n - 1) * a.gp ∧
    ∀ s ∈ colSpans (usableWidth a n) a.gp 0 (colFacts mon n), 1 ≤ s.2 - 2 * a.bw

/-- There is one column; or every column but the last is wider than the border on both sides, and
there is room for as wide a last one, exactly as wide if there is a gap. -/
def columnsFill (a : Inset) (mon : Monitor) (n : ℕ) : Prop :=
  n = 1 ∨
    (∀ w ∈ leadWidths (usableWidth a n) (colFacts mon n), 2 * a.bw + 1 ≤ w) ∧
      (let used := (leadWidths (usableWidth a n) (colFacts mon n)).sum + (n - 1) * a.gp
      used + (2 * a.bw + 1) ≤ a.w ∧ (0 < a.gp → used + (2 * a.bw + 1) = a.w))

theorem sum_colFacts {mon : Monitor} {n : ℕ} (hn : 1 ≤ n)
    (hfacts : mon.col_facts.length = n → mon.col_facts.sum = 1) : (colFacts mon n).sum = 1 := by
  unfold colFacts
  split_ifs with h
  · exact hfacts h
  · have hpos : (n : ℚ) ≠ 0 := by positivity
    rw [List.sum_replicate, nsmul_eq_mul]
    field_simp

theorem length_leadWidths (u : ℤ) (fs : List ℚ) : (leadWidths u fs).length = fs.length - 1 := by
  rw [leadWidths, List.length_map, List.length_dropLast]

/-- The rounding errors of the columns before the last add up to half a pixel each. -/
theorem abs_sum_leadWidths_sub (u : ℤ) (fs : List ℚ) :
    |((leadWidths u fs).sum : ℚ) - u * fs.dropLast.sum| ≤ (leadWidths u fs).length / 2 := by
  unfold leadWidths
  induction fs.dropLast with
  | nil => simp
  | cons f gs ih =>
    obtain ⟨hlow, hhigh⟩ := roundAway_bounds (u * f)
    rw [abs_le] at ih ⊢
    simp only [List.map_cons, List.sum_cons, List.length_cons, Int.cast_add, Nat.cast_add,
      Nat.cast_one]
    constructor <;> linarith [ih.1, ih.2]

theorem sum_dropLast_add {fs : List ℚ} {f : ℚ} (h : fs.getLast? = some f) :
    fs.dropLast.sum + f = fs.sum := by
  obtain ⟨gs, rfl⟩ := List.getLast?_eq_some_iff.1 h
  simp

section col

variable {a : Inset} {mon : Monitor} {n : ℕ}

theorem colFacts_ne_nil (mon : Monitor) (hn : 1 ≤ n) : colFacts mon n ≠ [] := by
  intro h
  have hlen := length_colFacts mon n
  rw [h, List.length_nil] at hlen
  omega

/-- The columns where none but the last is clamped: their widths, and the sum of these. -/
theorem cells_col_eq (hn : 1 ≤ n)
    (hlead : ∀ w ∈ leadWidths (usableWidth a n) (colFacts mon n), 1 ≤ w - 2 * a.bw) :
    cells a.bw (col a mon n) =
      columns a.gp ⟨a.x, a.y, a.w, max (a.h - 2 * a.bw) 1 + 2 * a.bw⟩
        (leadWidths (usableWidth a n) (colFacts mon n) ++
          [widthOf a.bw (lastWidth (usableWidth a n) a.gp 0 (colFacts mon n))]) := by
  have h := columns_eq a (usableWidth a n) 0 a.w (colFacts_ne_nil mon hn) hlead
  rw [add_zero] at h
  rw [cells_col, h]

theorem lastWidth_eq (a : Inset) (mon : Monitor) (n : ℕ) :
    lastWidth (usableWidth a n) a.gp 0 (colFacts mon n) =
      usableWidth a n - (leadWidths (usableWidth a n) (colFacts mon n)).sum - (n - 1) * a.gp := by
  rw [lastWidth, length_colFacts]
  ring

/-- The columns fill the area when the condition holds and there are at least two. -/
theorem columnsSpan_of_fill (hn : 2 ≤ n) (hgp : 0 ≤ a.gp) (hbw : 0 ≤ a.bw)
    (hlead : ∀ w ∈ leadWidths (usableWidth a n) (colFacts mon n), 1 ≤ w - 2 * a.bw)
    (hsum : (leadWidths (usableWidth a n) (colFacts mon n)).sum +
      widthOf a.bw (lastWidth (usableWidth a n) a.gp 0 (colFacts mon n)) + (n - 1) * a.gp = a.w) :
    ColumnsSpan a n (cells a.bw (col a mon n)) := by
  have hcells := cells_col_eq (by omega) hlead
  set ws := leadWidths (usableWidth a n) (colFacts mon n) ++
    [widthOf a.bw (lastWidth (usableWidth a n) a.gp 0 (colFacts mon n))] with hws
  have hlen : ws.length = n := by
    rw [hws, List.length_append, length_leadWidths, length_colFacts, List.length_singleton]
    omega
  have hws_sum : ws.sum + (n - 1) * a.gp = a.w := by
    rw [hws, List.sum_append, List.sum_singleton]
    exact hsum
  have hpos : ∀ w ∈ ws, 0 < w := by
    intro w hw
    rcases List.mem_append.1 hw with hw | hw
    · have := hlead w hw
      omega
    · rw [List.mem_singleton.1 hw]
      exact widthOf_pos hbw _
  have hne : ws ≠ [] := by
    intro h
    rw [h] at hlen
    exact absurd hlen (by simp; omega)
  have hh : 0 < max (a.h - 2 * a.bw) 1 + 2 * a.bw := widthOf_pos hbw a.h
  rw [hcells]
  have hcount : ws.sum + (ws.length - 1) * a.gp = a.w := by
    rw [hlen]
    exact hws_sum
  obtain ⟨strips, hcut⟩ : ∃ strips, Splits a.gp
      ⟨a.x, a.y, a.w, max (a.h - 2 * a.bw) 1 + 2 * a.bw⟩
      (columns a.gp ⟨a.x, a.y, a.w, max (a.h - 2 * a.bw) 1 + 2 * a.bw⟩ ws) strips :=
    splits_columns hne hpos hh hcount
  refine ⟨?_, hcut.clear hgp, ?_, ?_, ?_⟩
  · rw [← hlen, ← map_w_columns a.gp ⟨a.x, a.y, a.w, max (a.h - 2 * a.bw) 1 + 2 * a.bw⟩ ws,
      List.length_map, map_w_columns]
  · exact (isChain_columns a.gp _ ws).imp fun _ _ h => h.2.2
  · intro c hc
    cases hws' : ws with
    | nil => exact absurd hws' hne
    | cons w rest =>
      rw [hws'] at hc
      obtain rfl : Box.left _ w = c := Option.some_inj.1 hc
      rfl
  · rw [map_w_columns]
    exact hws_sum

/-- No clamp acts on the columns before the last, nor on the last. -/
theorem widths_of_fits (hn : 1 ≤ n) (hfits : colFits a mon n) :
    (∀ w ∈ leadWidths (usableWidth a n) (colFacts mon n), 1 ≤ w - 2 * a.bw) ∧
      1 ≤ lastWidth (usableWidth a n) a.gp 0 (colFacts mon n) - 2 * a.bw := by
  have hwidths := map_snd_colSpans (usableWidth a n) a.gp 0 (colFacts_ne_nil mon hn)
  have hall : ∀ w ∈ (colSpans (usableWidth a n) a.gp 0 (colFacts mon n)).map Prod.snd,
      1 ≤ w - 2 * a.bw := by
    intro w hw
    obtain ⟨s, hs, rfl⟩ := List.mem_map.1 hw
    exact hfits.2 s hs
  rw [hwidths] at hall
  exact ⟨fun w hw => hall w (List.mem_append_left _ hw),
    hall _ (List.mem_append_right _ (List.mem_singleton_self _))⟩

/-- The columns share the usable width when no clamp acts and there is no gap to lose. -/
theorem columnsShare_of_fits (hn : 1 ≤ n)
    (hfacts : mon.col_facts.length = n → mon.col_facts.sum = 1)
    (hfits : colFits a mon n) (hgap : (n - 1) * a.gp = 0) :
    ColumnsShare (usableWidth a n) (colFacts mon n) (cells a.bw (col a mon n)) := by
  obtain ⟨hlead, hlast⟩ := widths_of_fits hn hfits
  have hwidths := congrArg (List.map Box.w) (cells_col_eq hn hlead)
  rw [map_w_columns, widthOf_eq_iff.2 hlast] at hwidths
  refine ⟨?_, ?_⟩
  · rw [hwidths, List.dropLast_concat]
  intro f hf c hc
  have hw : c.w = lastWidth (usableWidth a n) a.gp 0 (colFacts mon n) := by
    have h := congrArg List.getLast? hwidths
    rw [List.getLast?_map, Option.mem_def.1 hc, List.getLast?_concat] at h
    exact Option.some_inj.1 h
  -- the last column makes up for the rounding of the others
  have hround := abs_sum_leadWidths_sub (usableWidth a n) (colFacts mon n)
  have hshare := sum_dropLast_add hf
  rw [sum_colFacts hn hfacts] at hshare
  rw [length_leadWidths, length_colFacts] at hround
  rw [hw, lastWidth_eq, hgap, sub_zero, length_colFacts]
  have hdrop : (colFacts mon n).dropLast.sum = 1 - f := by linarith
  rw [hdrop] at hround
  rw [abs_le] at hround ⊢
  have hcast : ((n - 1 : ℕ) : ℚ) ≤ n := by exact_mod_cast Nat.sub_le n 1
  rw [Int.cast_sub]
  constructor <;> nlinarith [hround.1, hround.2]

/-- One column has no border and takes the whole width. -/
theorem columnsSpan_one (hbw : a.bw = 0) (hw : 1 ≤ a.w) :
    ColumnsSpan a 1 (cells a.bw (col a mon 1)) := by
  obtain ⟨f, hf⟩ := List.length_eq_one_iff.1 (length_colFacts mon 1)
  have hcells : cells a.bw (col a mon 1) =
      [⟨a.x, a.y, a.w, max (a.h - 2 * a.bw) 1 + 2 * a.bw⟩] := by
    rw [cells_col, hf]
    simp [colSpans, columnBox, widthOf, usableWidth, hbw, hw]
  rw [hcells]
  refine ⟨rfl, List.pairwise_singleton _ _, .singleton _, ?_, by simp⟩
  intro c hc
  obtain rfl := Option.some_inj.1 hc
  rfl

/-- With a gap the last column never reaches the edge unclamped. -/
theorem fill_of_columnsSpan (hn : 2 ≤ n) (hbw : 0 ≤ a.bw)
    (hgaps : (n - 1) * a.gp ≤ a.w) (h : ColumnsSpan a n (cells a.bw (col a mon n))) :
    columnsFill a mon n := by
  have hlead : ∀ w ∈ leadWidths (usableWidth a n) (colFacts mon n), 1 ≤ w - 2 * a.bw := by
    rw [← isChain_columns_iff, ← cells_col]
    exact h.gapped
  have hsum := h.spans
  rw [cells_col_eq (by omega) hlead, map_w_columns, List.sum_append, List.sum_singleton,
    lastWidth_eq] at hsum
  have hpos : 0 ≤ (leadWidths (usableWidth a n) (colFacts mon n)).sum :=
    List.sum_nonneg fun w hw => by
      have := hlead w hw
      omega
  have hgap : 0 < a.gp → 0 < ((n : ℤ) - 1) * a.gp := fun hgap => mul_pos (by omega) hgap
  right
  refine ⟨fun w hw => ?_, ?_⟩
  · have := hlead w hw
    omega
  · unfold usableWidth widthOf at *
    generalize ((n : ℤ) - 1) * a.gp = gaps at *
    generalize (leadWidths (max (a.w - gaps) 1) (colFacts mon n)).sum = used at *
    dsimp only
    omega

theorem sum_widths_of_fill (hn : 2 ≤ n) (hgp : 0 ≤ a.gp) (hbw : 0 ≤ a.bw) (hw : 1 ≤ a.w)
    (hlead : ∀ w ∈ leadWidths (usableWidth a n) (colFacts mon n), 2 * a.bw + 1 ≤ w)
    (hroom : (leadWidths (usableWidth a n) (colFacts mon n)).sum + (n - 1) * a.gp +
      (2 * a.bw + 1) ≤ a.w)
    (hexact : 0 < a.gp → (leadWidths (usableWidth a n) (colFacts mon n)).sum +
      (n - 1) * a.gp + (2 * a.bw + 1) = a.w) :
    (leadWidths (usableWidth a n) (colFacts mon n)).sum +
      widthOf a.bw (lastWidth (usableWidth a n) a.gp 0 (colFacts mon n)) + (n - 1) * a.gp =
        a.w := by
  have hpos : 0 ≤ (leadWidths (usableWidth a n) (colFacts mon n)).sum :=
    List.sum_nonneg fun w hw => by
      have := hlead w hw
      omega
  rw [lastWidth_eq]
  rcases hgp.eq_or_lt with hzero | hgap
  · have hgaps : ((n : ℤ) - 1) * a.gp = 0 := by rw [← hzero, mul_zero]
    unfold usableWidth widthOf at *
    generalize ((n : ℤ) - 1) * a.gp = gaps at *
    generalize (leadWidths (max (a.w - gaps) 1) (colFacts mon n)).sum = used at *
    omega
  · have hgaps : 0 < ((n : ℤ) - 1) * a.gp := mul_pos (by omega) hgap
    have heq := hexact hgap
    unfold usableWidth widthOf at *
    generalize ((n : ℤ) - 1) * a.gp = gaps at *
    generalize (leadWidths (max (a.w - gaps) 1) (colFacts mon n)).sum = used at *
    omega

end col

/-- **Exactly when the column layout spans the inset width**: the last column takes what a running
offset with the gaps in it leaves of a width without them. -/
theorem col_spans_area_iff (cfg : Config) (gaps_enabled : Bool) (mon : Monitor) {n : ℕ}
    (hn : 1 ≤ n) (hborder : cfg.border_px < 2 ^ 31)
    (hgaps : (n - 1) * (inset cfg gaps_enabled mon n).gp ≤ (inset cfg gaps_enabled mon n).w)
    (hfacts : mon.col_facts.length = n →
      (∀ f ∈ mon.col_facts, 0 < f) ∧ mon.col_facts.sum = 1) :
    let a := inset cfg gaps_enabled mon n
    let cs := cells a.bw (col a mon n)
    (ColumnsSpan a n cs ∧
        (colFits a mon n → ColumnsShare (usableWidth a n) (colFacts mon n) cs)) ↔
      columnsFill a mon n := by
  dsimp only
  have hgp := gap_nonneg cfg gaps_enabled mon n
  have hbw := border_nonneg gaps_enabled mon n hborder
  have hw : 1 ≤ (inset cfg gaps_enabled mon n).w := le_max_right _ _
  have hone : n = 1 → (inset cfg gaps_enabled mon n).bw = 0 := by
    rintro rfl
    rfl
  generalize inset cfg gaps_enabled mon n = a at *
  have hsum := fun hlen => (hfacts hlen).2
  rcases hn.eq_or_lt with rfl | htwo
  · refine iff_of_true ⟨columnsSpan_one (hone rfl) hw, fun hfits => ?_⟩ (.inl rfl)
    exact columnsShare_of_fits le_rfl hsum hfits (by simp)
  constructor
  · intro h
    exact fill_of_columnsSpan htwo hbw hgaps h.1
  · rintro (h | ⟨hlead, hroom, hexact⟩)
    · omega
    have hspan := columnsSpan_of_fill htwo hgp hbw (fun w hw => by
      have := hlead w hw
      omega) (sum_widths_of_fill htwo hgp hbw hw hlead hroom hexact)
    refine ⟨hspan, fun hfits => columnsShare_of_fits hn hsum hfits ?_⟩
    -- with a gap the last column is clamped, so here there is none
    rcases hgp.eq_or_lt with hzero | hgap
    · rw [← hzero, mul_zero]
    · have hpos : 0 < ((n : ℤ) - 1) * a.gp := mul_pos (by omega) hgap
      have hlast := (widths_of_fits hn hfits).2
      have hfit := hfits.1
      have heq := hexact hgap
      rw [lastWidth_eq] at hlast
      unfold usableWidth at *
      generalize ((n : ℤ) - 1) * a.gp = gaps at *
      generalize (leadWidths (max (a.w - gaps) 1) (colFacts mon n)).sum = used at *
      omega

/-- Two equal columns and no gap. -/
theorem col_spans_area_iff_two :
    let cfg := Rwl.plainConfig [] []
    let mon := smallMonitor cfg 1
    let a := inset cfg true mon 2
    ColumnsSpan a 2 (cells a.bw (col a mon 2)) := by
  intro cfg mon a
  have h := col_spans_area_iff cfg true mon (n := 2) (by decide) (by decide) (by decide +kernel)
    (by decide +kernel)
  refine (h.2 (.inr ⟨by decide +kernel, by decide +kernel, by decide +kernel⟩)).1

/-- Two equal columns with a gap of 10 pixels end 10 pixels before the edge. -/
theorem not_col_spans_area :
    let cfg := { Rwl.plainConfig [] [] with gaps_px := 10 }
    let mon := smallMonitor cfg 1
    let a := inset cfg true mon 2
    a.gp ≤ a.w ∧ ¬ColumnsSpan a 2 (cells a.bw (col a mon 2)) := by
  intro cfg mon a
  refine ⟨by decide +kernel, fun h => ?_⟩
  have hspans : ¬((cells a.bw (col a mon 2)).map Box.w).sum + ((2 : ℕ) - 1) * a.gp = a.w := by
    decide +kernel
  exact hspans h.spans

/-! ### Scrolled columns -/

section scroll

variable (a : Inset) (mon : Monitor) (n : ℕ)

/-- Where `scroll` puts the column `i` on the screen. -/
def scrollX (i : ℕ) : ℤ := a.x + i * (scrollWidth a mon + a.gp) - scrollOffset a mon n

/-- The width of all columns with their gaps. -/
def canvasWidth : ℤ := scrollWidth a mon * n + a.gp * (n - 1)

/-- The largest offset `scroll` clamps to. -/
def maxOffset : ℤ := max (canvasWidth a mon n - a.w) 0

theorem scroll_eq {n : ℕ} (hn : n ≠ 1) :
    scroll a mon n = (List.range n).map fun i =>
      bordered a.bw (scrollX a mon n i) a.y (scrollWidth a mon) a.h := by
  apply List.ext_getElem?
  intro i
  by_cases hi : i < n
  · rw [getElem?_scroll a mon hi, List.getElem?_map, List.getElem?_range hi, scrollCell, if_neg hn]
    rfl
  · have hlen : (scroll a mon n).length = n := by
      unfold scroll
      rw [if_neg hn]
      simp
    rw [List.getElem?_eq_none (by omega), List.getElem?_eq_none (by simp; omega)]

/-- A column is at least one pixel wide and fits the area. -/
theorem scrollWidth_bounds {a : Inset} (hw : 1 ≤ a.w) :
    1 ≤ scrollWidth a mon ∧ scrollWidth a mon ≤ a.w := by
  obtain ⟨hlow, hhigh⟩ := mfact_bounds mon
  have hpos : (0 : ℚ) ≤ a.w := by exact_mod_cast (by omega : 0 ≤ a.w)
  have hround : roundAway (a.w * clampQ mon.mfact (5 / 100) (95 / 100)) ≤ a.w :=
    roundAway_le (by nlinarith)
  exact ⟨le_max_right _ _, max_le hround hw⟩

variable {a mon n}

/-- A column that the screen is centred on, within the bounds, is entirely on the screen. -/
theorem centred_on_screen {w width left total : ℤ} (hwidth : 1 ≤ width) (hfit : width ≤ w)
    (hleft : 0 ≤ left) (hcanvas : left + width ≤ total) :
    let offset := clampZ (left + width.tdiv 2 - w.tdiv 2) 0 (max (total - w) 0)
    offset ≤ left ∧ left + width ≤ offset + w := by
  dsimp only
  rw [Int.tdiv_eq_ediv_of_nonneg (by omega), Int.tdiv_eq_ediv_of_nonneg (by omega)]
  unfold clampZ
  -- centred, or cut off at the left or at the right end of the canvas
  split_ifs with h₁ h₂ <;> constructor <;> omega

/-- The columns up to `k` and their gaps are no wider than the canvas. -/
theorem column_le_canvas {width gp : ℤ} {k n : ℕ} (hwidth : 0 ≤ width) (hgp : 0 ≤ gp)
    (hk : k < n) : k * (width + gp) + width ≤ width * n + gp * (n - 1) := by
  have hrest : 0 ≤ ((n : ℤ) - 1 - k) * (width + gp) :=
    mul_nonneg (by omega) (add_nonneg hwidth hgp)
  nlinarith

variable (mon) in
theorem focused_on_screen (hgp : 0 ≤ a.gp) (hw : 1 ≤ a.w) (hn : 1 ≤ n) :
    a.x ≤ scrollX a mon n (min mon.scroll_col (n - 1)) ∧
      scrollX a mon n (min mon.scroll_col (n - 1)) + scrollWidth a mon ≤ a.x + a.w := by
  obtain ⟨hlow, hhigh⟩ := scrollWidth_bounds mon hw
  have hk : min mon.scroll_col (n - 1) < n := by omega
  have hcanvas := column_le_canvas (k := min mon.scroll_col (n - 1))
    (by omega : 0 ≤ scrollWidth a mon) hgp hk
  have hleft : 0 ≤ ((min mon.scroll_col (n - 1) : ℕ) : ℤ) * (scrollWidth a mon + a.gp) :=
    mul_nonneg (Int.natCast_nonneg _) (by omega)
  have h := centred_on_screen hlow hhigh hleft hcanvas
  unfold scrollX scrollOffset
  dsimp only at h ⊢
  omega

variable (a mon n) in
/-- The offset is between the two ends of the canvas. -/
theorem scrollOffset_bounds :
    0 ≤ scrollOffset a mon n ∧ scrollOffset a mon n ≤ maxOffset a mon n := by
  have hle : 0 ≤ maxOffset a mon n := le_max_right _ _
  show 0 ≤ clampZ _ 0 (maxOffset a mon n) ∧ clampZ _ 0 (maxOffset a mon n) ≤ maxOffset a mon n
  unfold clampZ
  split_ifs <;> constructor <;> omega

/-- A canvas that is as wide as the area or wider leaves no blank space at its ends. -/
theorem canvas_fills (hn : 1 ≤ n) (hwide : a.w ≤ canvasWidth a mon n) :
    scrollX a mon n 0 ≤ a.x ∧ a.x + a.w ≤ scrollX a mon n (n - 1) + scrollWidth a mon := by
  obtain ⟨hlow, hhigh⟩ := scrollOffset_bounds a mon n
  have hmax : maxOffset a mon n = canvasWidth a mon n - a.w := max_eq_left (by omega)
  have hend : ((n - 1 : ℕ) : ℤ) * (scrollWidth a mon + a.gp) + scrollWidth a mon =
      canvasWidth a mon n := by
    unfold canvasWidth
    push_cast [hn]
    ring
  unfold scrollX
  rw [hmax] at hhigh
  constructor
  · simp
    omega
  · omega

end scroll

end layout

namespace Desk

open layout

/-- The desk for which `arrange` asks the layout of a monitor. -/
def layoutDesk (d : Desk) (mon_idx : ℕ) (mon : Monitor) : Desk :=
  ((d.shown mon.tags .hidden).foldl hide (d.applyDynamic mon_idx mon.tags)).syncScrollCol mon_idx
    (d.topOn mon.tags mon_idx) (d.shown mon.tags .tiled)

/-- `arrange` places the tiled windows where the layout of that desk puts them. -/
theorem arrange_eq_layoutDesk {d : Desk} {mon_idx : ℕ} {mon : Monitor}
    (hmon : d.monitors[mon_idx]? = some mon) :
    d.arrange mon_idx =
      ((d.shown mon.tags .floating).filter fun w => decide ((d.st w).scratch_key ≠ noScratch)).foldl
        (placeScratch mon.w.loc)
        ((d.shown mon.tags .fullscreen).foldl (placeFullscreen mon.m)
          ((d.shown mon.tags .floating).foldl (placeFloating mon.w.loc)
            ((d.layoutDesk mon_idx mon).placeTiles mon_idx (d.topOn mon.tags mon_idx)
              (d.shown mon.tags .tiled)))) := by
  unfold arrange
  rw [hmon]
  rfl

/-- The column of the focused window is the one the layout is to show. -/
theorem scroll_col_layoutDesk {d : Desk} {mon_idx : ℕ} {mon m : Monitor} {w : WinId}
    (hm : (d.layoutDesk mon_idx mon).monitors[mon_idx]? = some m)
    (hscroll : m.layout_kind (d.layoutDesk mon_idx mon).cfg = .Scroll)
    (hfocused : d.topOn mon.tags mon_idx = some w) (htiled : w ∈ d.shown mon.tags .tiled) :
    ∃ i, (d.shown mon.tags .tiled)[i]? = some w ∧
      min m.scroll_col ((d.shown mon.tags .tiled).length - 1) = i := by
  set tiled := d.shown mon.tags .tiled with htiled_eq
  unfold layoutDesk at hm hscroll
  rw [hfocused, ← htiled_eq] at hm hscroll
  set d₁ := (d.shown mon.tags .hidden).foldl hide (d.applyDynamic mon_idx mon.tags)
  -- the focused window is found in the list the layout is asked for
  obtain ⟨i, hi⟩ : ∃ i, tiled.findIdx? (fun v => decide (some w = some v)) = some i := by
    apply Option.isSome_iff_exists.1
    rw [List.findIdx?_isSome, List.any_eq_true]
    exact ⟨w, htiled, by simp⟩
  obtain ⟨hlt, hfound, -⟩ := List.findIdx?_eq_some_iff_getElem.1 hi
  have hw : tiled[i]? = some w := by
    rw [List.getElem?_eq_getElem hlt]
    exact (of_decide_eq_true hfound).symm
  refine ⟨i, hw, ?_⟩
  rw [syncScrollCol, modifyMonitor, List.getElem?_modify_eq] at hm
  obtain ⟨m₀, -, rfl⟩ := Option.map_eq_some_iff.1 hm
  by_cases hkind : m₀.layout_kind d₁.cfg = .Monocle ∨ m₀.layout_kind d₁.cfg = .Scroll
  · rw [if_pos hkind]
    show min ((tiled.findIdx? _).getD _) _ = i
    rw [hi, Option.getD_some]
    omega
  · rw [if_neg hkind] at hscroll
    exact absurd (.inr hscroll) hkind

/-- The rectangle of the window at place `i` of a scrolled monitor. -/
theorem getElem?_tiledGeoms_scroll {d : Desk} {m : Monitor} {tiled : List WinId} {i : ℕ}
    (hscroll : m.layout_kind d.cfg = .Scroll) (htwo : 2 ≤ tiled.length) (hi : i < tiled.length) :
    let a := inset d.cfg d.gaps_enabled m tiled.length
    (d.tiledGeoms m tiled)[i]? =
      some (bordered a.bw (scrollX a m tiled.length i) a.y (scrollWidth a m) a.h) := by
  dsimp only
  unfold tiledGeoms layout.arrange
  dsimp only
  rw [List.length_map, if_neg (by omega), hscroll]
  show (scroll _ m tiled.length)[i]? = _
  rw [scroll_eq _ m (by omega), List.getElem?_map, List.getElem?_range hi]
  rfl

end Desk

namespace layout

/-- **The scrolled layout keeps the focused column on the screen**: the columns have one width and
one distance, the column of `scroll_col` is entirely inside the inset width, the bounds of the
offset are ordered, and a wide canvas leaves no blank space; when `arrange` asks the layout while
the monitor's focused window is tiled, the column it keeps on the screen is that window's. -/
theorem scroll_shows_focused (cfg : Config) (gaps_enabled : Bool) (mon : Monitor) {n : ℕ}
    (hn : 2 ≤ n) :
    let a := inset cfg gaps_enabled mon n
    let col_w := scrollWidth a mon
    let focused_col := min mon.scroll_col (n - 1)
    (scroll a mon n =
        (List.range n).map fun i => bordered a.bw (scrollX a mon n i) a.y col_w a.h) ∧
      (∀ i, scrollX a mon n (i + 1) = scrollX a mon n i + col_w + a.gp) ∧
      (a.x ≤ scrollX a mon n focused_col ∧ scrollX a mon n focused_col + col_w ≤ a.x + a.w) ∧
      0 ≤ maxOffset a mon n ∧
      (a.w ≤ canvasWidth a mon n →
        scrollX a mon n 0 ≤ a.x ∧ a.x + a.w ≤ scrollX a mon n (n - 1) + col_w) ∧
      ∀ (d : Desk) (mon_idx : ℕ) (shown m : Monitor) (w : WinId),
        d.monitors[mon_idx]? = some shown →
        let tiled := d.shown shown.tags .tiled
        let d' := d.layoutDesk mon_idx shown
        d'.monitors[mon_idx]? = some m → m.layout_kind d'.cfg = .Scroll → tiled.length = n →
        d.topOn shown.tags mon_idx = some w → w ∈ tiled →
        let b := inset d'.cfg d'.gaps_enabled m n
        ∃ i, tiled[i]? = some w ∧
          (d'.tiledGeoms m tiled)[i]? =
            some (bordered b.bw (scrollX b m n i) b.y (scrollWidth b m) b.h) ∧
          b.x ≤ scrollX b m n i ∧ scrollX b m n i + scrollWidth b m ≤ b.x + b.w := by
  dsimp only
  have hgp := gap_nonneg cfg gaps_enabled mon n
  have hw : 1 ≤ (inset cfg gaps_enabled mon n).w := le_max_right _ _
  refine ⟨scroll_eq _ mon (by omega), fun i => ?_, focused_on_screen mon hgp hw (by omega),
    le_max_right _ _, canvas_fills (by omega), ?_⟩
  · unfold scrollX
    push_cast
    ring
  · intro d mon_idx shown m w _ hm hscroll hlen hfocused htiled
    obtain ⟨i, hi, hcol⟩ := Desk.scroll_col_layoutDesk hm hscroll hfocused htiled
    have hlt : i < (d.shown shown.tags .tiled).length := (List.getElem?_eq_some_iff.1 hi).1
    have hgeom := Desk.getElem?_tiledGeoms_scroll hscroll (by omega) hlt
    rw [hlen] at hgeom hcol
    have hgp' := gap_nonneg (d.layoutDesk mon_idx shown).cfg
      (d.layoutDesk mon_idx shown).gaps_enabled m n
    have hin := focused_on_screen m hgp' (le_max_right _ _) (show 1 ≤ n by omega)
    rw [hcol] at hin
    exact ⟨i, hi, hgeom, hin⟩

/-- Three columns of 55 pixels on a screen of 100. -/
theorem scroll_shows_focused_three :
    let cfg := Rwl.plainConfig [] []
    let mon := { smallMonitor cfg 1 with scroll_col := 2 }
    let a := inset cfg true mon 3
    a.x ≤ scrollX a mon 3 2 ∧ scrollX a mon 3 2 + scrollWidth a mon ≤ a.x + a.w := by
  intro cfg mon a
  exact (scroll_shows_focused cfg true mon (n := 3) (by decide)).2.2.1

end layout

end Compositor
