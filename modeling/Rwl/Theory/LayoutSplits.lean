import Rwl.Lib.Guillotine
import Rwl.Theory.LayoutCells

/-!
# The stacking layouts cut the work area

* `cells`: the returned rectangles grown by the border; `insetBox`: the work area inset by the gap;
* `columnFits`, `tileFits`, `bstackFits`, `centeredFits`: no clamp to one or two pixels acts;
* `splits_column`, `splits_row`: a weighted column or row cuts its box;
* `splits_tile`, `splits_bstack`, `splits_centeredmaster`: so do the layouts, by their columns;
* `stacking_cells_tidy`: the cells lie apart and inside, and neighbours are one gap apart;
* `stacking_covers_iff`: exactly when they leave no dead area.
-/

namespace Compositor

open Guillotine

namespace layout

/-! ### Cells -/

/-- A returned rectangle grown by the border. -/
def cell (bw : ℤ) (r : Rect) : Box :=
  ⟨r.loc.x - bw, r.loc.y - bw, r.size.w + 2 * bw, r.size.h + 2 * bw⟩

/-- The returned rectangles grown by the border, in tiling order. -/
def cells (bw : ℤ) (rs : List Rect) : List Box := rs.map (cell bw)

@[simp] theorem cells_append (bw : ℤ) (rs ts : List Rect) :
    cells bw (rs ++ ts) = cells bw rs ++ cells bw ts :=
  List.map_append

/-- The work area of a monitor, inset by the gap. -/
def insetBox (mon : Monitor) (gp : ℤ) : Box :=
  ⟨mon.w.loc.x + gp, mon.w.loc.y + gp, mon.w.size.w - 2 * gp, mon.w.size.h - 2 * gp⟩

/-- The gap leaves at least one pixel of the work area in both directions. -/
def insetFits (mon : Monitor) (gp : ℤ) : Prop :=
  1 ≤ mon.w.size.w - 2 * gp ∧ 1 ≤ mon.w.size.h - 2 * gp

instance (mon : Monitor) (gp : ℤ) : Decidable (insetFits mon gp) :=
  inferInstanceAs (Decidable (_ ∧ _))

/-- The area the layouts divide. -/
def Inset.box (a : Inset) : Box := ⟨a.x, a.y, a.w, a.h⟩

theorem gap_nonneg (cfg : Config) (gaps_enabled : Bool) (mon : Monitor) (n : ℕ) :
    0 ≤ (inset cfg gaps_enabled mon n).gp := by
  show 0 ≤ gaps.effective gaps_enabled n cfg.smart_gaps cfg.gaps_px
  unfold gaps.effective
  split_ifs
  · exact le_min (Int.natCast_nonneg _) (by norm_num)
  · exact le_rfl

theorem border_nonneg {cfg : Config} (gaps_enabled : Bool) (mon : Monitor) (n : ℕ)
    (hborder : cfg.border_px < 2 ^ 31) : 0 ≤ (inset cfg gaps_enabled mon n).bw := by
  show 0 ≤ if 1 < n then Int.bmod cfg.border_px (2 ^ 32) else 0
  split_ifs
  · rw [Int.bmod_eq_of_le] <;> omega
  · exact le_rfl

theorem box_inset {cfg : Config} {gaps_enabled : Bool} {mon : Monitor} {n : ℕ}
    (h : insetFits mon (inset cfg gaps_enabled mon n).gp) :
    (inset cfg gaps_enabled mon n).box = insetBox mon (inset cfg gaps_enabled mon n).gp := by
  have hw : (inset cfg gaps_enabled mon n).w =
      mon.w.size.w - 2 * (inset cfg gaps_enabled mon n).gp := max_eq_left h.1
  have hh : (inset cfg gaps_enabled mon n).h =
      mon.w.size.h - 2 * (inset cfg gaps_enabled mon n).gp := max_eq_left h.2
  rw [Inset.box, hw, hh]
  rfl

/-- Where the border's clamps do not act, the cell of a bordered rectangle is the whole of it. -/
theorem cell_bordered {bw x y w h : ℤ} (hw : 1 ≤ w - 2 * bw) (hh : 1 ≤ h - 2 * bw) :
    cell bw (bordered bw x y w h) = ⟨x, y, w, h⟩ := by
  simp only [cell, bordered, Rect.of, max_eq_left hw, max_eq_left hh, Box.mk.injEq]
  omega

/-! ### Weighted columns and rows -/

/-- The spans add up to the total. -/
theorem sum_weighted_spans (total : ℤ) {cf : List ℚ} (hne : cf ≠ []) :
    (weighted_spans total cf).sum = total := by
  induction cf generalizing total with
  | nil => exact absurd rfl hne
  | cons f cf ih =>
    rw [weighted_spans_cons, List.sum_cons]
    by_cases hcf : cf = []
    · -- the last span takes all that is left, whether its factor is positive or not
      subst hcf
      have hall : share total f [] = total := by
        unfold share
        by_cases hf : 0 < max f 0
        · have hone : (total : ℚ) * (max f 0 / ([f].map (max · 0)).sum) = (total : ℚ) := by
            simp [div_self hf.ne']
          simp only [hone, roundAway_intCast]
          simp [hf]
        · simp [hf]
      simp [hall, weighted_spans]
    · rw [ih _ hcf]
      omega

/-- The heights of the windows in a column with the factors `cf`. -/
def columnSpans (a : Inset) (cf : List ℚ) : List ℤ :=
  weighted_spans (a.h - (cf.length - 1) * a.gp) cf

/-- The widths of the windows in a row with the factors `cf`. -/
def rowSpans (a : Inset) (cf : List ℚ) : List ℤ :=
  weighted_spans (a.w - (cf.length - 1) * a.gp) cf

/-- In a column `col_w` wide no window is clamped to one pixel inside its border. -/
def columnFits (a : Inset) (cf : List ℚ) (col_w : ℤ) : Prop :=
  ∀ win_h ∈ columnSpans a cf, 1 ≤ col_w - 2 * a.bw ∧ 1 ≤ win_h - 2 * a.bw

/-- In a row `row_h` high no window is clamped to one pixel inside its border. -/
def rowFits (a : Inset) (cf : List ℚ) (row_h : ℤ) : Prop :=
  ∀ win_w ∈ rowSpans a cf, 1 ≤ win_w - 2 * a.bw ∧ 1 ≤ row_h - 2 * a.bw

instance (a : Inset) (cf : List ℚ) (col_w : ℤ) : Decidable (columnFits a cf col_w) :=
  inferInstanceAs (Decidable (∀ _ ∈ _, _))

instance (a : Inset) (cf : List ℚ) (row_h : ℤ) : Decidable (rowFits a cf row_h) :=
  inferInstanceAs (Decidable (∀ _ ∈ _, _))

theorem cells_offsets_rows (bw gp x y w start h : ℤ) {ss : List ℤ}
    (hfits : ∀ s ∈ ss, 1 ≤ w - 2 * bw ∧ 1 ≤ s - 2 * bw) :
    cells bw ((offsets gp start ss).map fun (o, s) => bordered bw x (y + o) w s) =
      rows gp ⟨x, y + start, w, h⟩ ss := by
  induction ss generalizing start h with
  | nil => rfl
  | cons s ss ih =>
    have hs := hfits s List.mem_cons_self
    have hrest := ih (start + s + gp) (h - s - gp) fun t ht => hfits t (List.mem_cons_of_mem _ ht)
    have hcell : cell bw (bordered bw x (y + start) w s) = ⟨x, y + start, w, s⟩ :=
      cell_bordered hs.1 hs.2
    have hy : y + (start + s + gp) = y + start + s + gp := by ring
    rw [hy] at hrest
    show cell bw (bordered bw x (y + start) w s) :: _ = _ :: _
    rw [hcell]
    exact congrArg _ hrest

theorem cells_offsets_columns (bw gp x y start w h : ℤ) {ss : List ℤ}
    (hfits : ∀ s ∈ ss, 1 ≤ s - 2 * bw ∧ 1 ≤ h - 2 * bw) :
    cells bw ((offsets gp start ss).map fun (o, s) => bordered bw (x + o) y s h) =
      columns gp ⟨x + start, y, w, h⟩ ss := by
  induction ss generalizing start w with
  | nil => rfl
  | cons s ss ih =>
    have hs := hfits s List.mem_cons_self
    have hrest := ih (start + s + gp) (w - s - gp) fun t ht => hfits t (List.mem_cons_of_mem _ ht)
    have hcell : cell bw (bordered bw (x + start) y s h) = ⟨x + start, y, s, h⟩ :=
      cell_bordered hs.1 hs.2
    have hx : x + (start + s + gp) = x + start + s + gp := by ring
    rw [hx] at hrest
    show cell bw (bordered bw (x + start) y s h) :: _ = _ :: _
    rw [hcell]
    exact congrArg _ hrest

/-- The cells of a column are its rows. -/
theorem cells_column {a : Inset} {cf : List ℚ} {col_w : ℤ} (col_x : ℤ)
    (hfits : columnFits a cf col_w) :
    cells a.bw (column a cf col_x col_w) =
      rows a.gp ⟨col_x, a.y, col_w, a.h⟩ (columnSpans a cf) := by
  have h := cells_offsets_rows a.bw a.gp col_x a.y col_w 0 a.h hfits
  rwa [add_zero] at h

/-- The cells of a row are its columns. -/
theorem cells_row {a : Inset} {cf : List ℚ} {row_h : ℤ} (row_y : ℤ) (hfits : rowFits a cf row_h) :
    cells a.bw (row a cf row_y row_h) =
      columns a.gp ⟨a.x, row_y, a.w, row_h⟩ (rowSpans a cf) := by
  have h := cells_offsets_columns a.bw a.gp a.x row_y 0 a.w row_h hfits
  rwa [add_zero] at h

theorem columnSpans_ne_nil (a : Inset) {cf : List ℚ} (hne : cf ≠ []) : columnSpans a cf ≠ [] := by
  intro h
  exact hne (List.length_eq_zero_iff.1 (by rw [← length_weighted_spans, ← columnSpans, h]; rfl))

theorem rowSpans_ne_nil (a : Inset) {cf : List ℚ} (hne : cf ≠ []) : rowSpans a cf ≠ [] := by
  intro h
  exact hne (List.length_eq_zero_iff.1 (by rw [← length_weighted_spans, ← rowSpans, h]; rfl))

/-- A column of at least one window cuts its box. -/
theorem splits_column {a : Inset} {cf : List ℚ} {col_w : ℤ} (col_x : ℤ) (hbw : 0 ≤ a.bw)
    (hne : cf ≠ []) (hfits : columnFits a cf col_w) :
    ∃ strips, Splits a.gp ⟨col_x, a.y, col_w, a.h⟩ (cells a.bw (column a cf col_x col_w))
      strips := by
  have hspans := columnSpans_ne_nil a hne
  obtain ⟨s, hs⟩ := List.exists_mem_of_ne_nil _ hspans
  rw [cells_column col_x hfits]
  refine splits_rows hspans (fun t ht => ?_) ?_ ?_
  · have := (hfits t ht).2
    omega
  · have := (hfits s hs).1
    show 0 < col_w
    omega
  · rw [columnSpans, sum_weighted_spans _ hne, length_weighted_spans]
    ring

/-- A row of at least one window cuts its box. -/
theorem splits_row {a : Inset} {cf : List ℚ} {row_h : ℤ} (row_y : ℤ) (hbw : 0 ≤ a.bw)
    (hne : cf ≠ []) (hfits : rowFits a cf row_h) :
    ∃ strips, Splits a.gp ⟨a.x, row_y, a.w, row_h⟩ (cells a.bw (row a cf row_y row_h))
      strips := by
  have hspans := rowSpans_ne_nil a hne
  obtain ⟨s, hs⟩ := List.exists_mem_of_ne_nil _ hspans
  rw [cells_row row_y hfits]
  refine splits_columns hspans (fun t ht => ?_) ?_ ?_
  · have := (hfits t ht).1
    omega
  · have := (hfits s hs).2
    show 0 < row_h
    omega
  · rw [rowSpans, sum_weighted_spans _ hne, length_weighted_spans]
    ring

/-! ### The split between master and stack -/

/-- The master's share of `len` pixels less a gap. -/
def masterSpan (mon : Monitor) (len gp : ℤ) : ℤ :=
  roundAway ((len - gp : ℤ) * clampQ mon.mfact (5 / 100) (95 / 100))

theorem mfact_bounds (mon : Monitor) : 5 / 100 ≤ clampQ mon.mfact (5 / 100) (95 / 100) ∧
    clampQ mon.mfact (5 / 100) (95 / 100) ≤ 95 / 100 :=
  clampQ_bounds (by norm_num) mon.mfact

/-- The master's share and the gap after it take no pixel before the area, and at least one if
there is a gap. -/
theorem masterSpan_add_gap (mon : Monitor) {len gp : ℤ} (hlen : 1 ≤ len) (hgp : 0 ≤ gp) :
    0 ≤ masterSpan mon len gp + gp ∧ (0 < gp → 0 < masterSpan mon len gp + gp) := by
  obtain ⟨hlow, hhigh⟩ := mfact_bounds mon
  rcases le_or_gt gp len with hle | hlt
  · have hpos : (0 : ℚ) ≤ (len - gp : ℤ) := by exact_mod_cast sub_nonneg.2 hle
    have hmaster : 0 ≤ masterSpan mon len gp :=
      le_roundAway (by
        push_cast
        exact mul_nonneg (by exact_mod_cast hpos) (by linarith))
    omega
  · -- a gap wider than the area: the share is negative, but no more than the gap is wider
    have hneg : ((len - gp : ℤ) : ℚ) ≤ 0 := by exact_mod_cast (sub_neg.2 hlt).le
    have hmaster : len - gp ≤ masterSpan mon len gp := le_roundAway (by nlinarith)
    omega

/-- The master takes no pixel exactly when there is no gap and its share is under one half. -/
theorem masterSpan_eq_neg_iff (mon : Monitor) {len gp : ℤ} (hlen : 1 ≤ len) (hgp : 0 ≤ gp) :
    masterSpan mon len gp + gp = 0 ↔
      gp = 0 ∧ len * clampQ mon.mfact (5 / 100) (95 / 100) < 1 / 2 := by
  obtain ⟨-, hgap⟩ := masterSpan_add_gap mon hlen hgp
  have hshare : (0 : ℚ) ≤ len * clampQ mon.mfact (5 / 100) (95 / 100) :=
    mul_nonneg (by exact_mod_cast (by omega : 0 ≤ len)) (by linarith [(mfact_bounds mon).1])
  have hround : ∀ q : ℚ, 0 ≤ q → (roundAway q = 0 ↔ q < 1 / 2) := by
    intro q hq
    rw [roundAway, if_pos hq, Int.floor_eq_zero_iff]
    constructor
    · intro h
      linarith [h.2]
    · intro h
      constructor <;> linarith
  constructor
  · intro h
    obtain rfl : gp = 0 := by omega
    refine ⟨rfl, (hround _ hshare).1 ?_⟩
    simpa [masterSpan] using h
  · rintro ⟨rfl, h⟩
    simpa [masterSpan] using (hround _ hshare).2 h

theorem tileSplit_of_lt {a : Inset} {mon : Monitor} {n : ℕ} (h : masters mon n < n) :
    tileSplit a mon n = (masterSpan mon a.w a.gp, a.x + masterSpan mon a.w a.gp + a.gp,
      max (a.w - masterSpan mon a.w a.gp - a.gp) 1) := by
  unfold masters at h
  rw [tileSplit, if_pos (by omega)]
  rfl

theorem tileSplit_of_eq {a : Inset} {mon : Monitor} {n : ℕ} (h : masters mon n = n) :
    tileSplit a mon n = (a.w, a.x, 0) := by
  unfold masters at h
  rw [tileSplit, if_neg (by omega)]

theorem bstackSplit_of_lt {a : Inset} {mon : Monitor} {n : ℕ} (h : masters mon n < n) :
    bstackSplit a mon n = (masterSpan mon a.h a.gp, a.y + masterSpan mon a.h a.gp + a.gp,
      max (a.h - masterSpan mon a.h a.gp - a.gp) 1) := by
  unfold masters at h
  rw [bstackSplit, if_pos (by omega)]
  rfl

theorem bstackSplit_of_eq {a : Inset} {mon : Monitor} {n : ℕ} (h : masters mon n = n) :
    bstackSplit a mon n = (a.h, a.y, 0) := by
  unfold masters at h
  rw [bstackSplit, if_neg (by omega)]

theorem take_ne_nil {cf : List ℚ} {m : ℕ} (hm : 0 < m) (hle : m ≤ cf.length) :
    cf.take m ≠ [] := by
  intro h
  have hlen := congrArg List.length h
  rw [List.length_take, Nat.min_eq_left hle] at hlen
  exact hm.ne' hlen

theorem drop_ne_nil {cf : List ℚ} {m : ℕ} (hm : m < cf.length) : cf.drop m ≠ [] := by
  intro h
  have hlen := congrArg List.length h
  rw [List.length_drop] at hlen
  exact (Nat.sub_pos_of_lt hm).ne' hlen

/-! ### Tile -/

/-- No clamp of `tile::arrange` to one pixel acts. -/
def tileFits (a : Inset) (mon : Monitor) (cf : List ℚ) : Prop :=
  let m := masters mon cf.length
  let cols := tileSplit a mon cf.length
  (m < cf.length → 1 ≤ a.w - cols.1 - a.gp) ∧ columnFits a (cf.take m) cols.1 ∧
    columnFits a (cf.drop m) cols.2.2

instance (a : Inset) (mon : Monitor) (cf : List ℚ) : Decidable (tileFits a mon cf) :=
  inferInstanceAs (Decidable (_ ∧ _))

theorem tile_eq (a : Inset) (mon : Monitor) (cf : List ℚ) :
    tile a mon cf =
      column a (cf.take (masters mon cf.length)) a.x (tileSplit a mon cf.length).1 ++
        column a (cf.drop (masters mon cf.length)) (tileSplit a mon cf.length).2.1
          (tileSplit a mon cf.length).2.2 :=
  rfl

section tile

variable {a : Inset} {mon : Monitor} {cf : List ℚ} (hbw : 0 ≤ a.bw) (hfits : tileFits a mon cf)

include hbw hfits

/-- Without masters the stack cuts what is right of the master's share. -/
theorem splits_tile_stack (hne : cf ≠ []) (hm : masters mon cf.length = 0) :
    ∃ strips, Splits a.gp (a.box.right a.gp (masterSpan mon a.w a.gp))
      (cells a.bw (tile a mon cf)) strips := by
  obtain ⟨hstack, -, hcol⟩ := hfits
  have hlt : masters mon cf.length < cf.length := by
    rw [hm]
    exact List.length_pos_iff.2 hne
  rw [tile_eq]
  rw [tileSplit_of_lt hlt] at hstack hcol ⊢
  rw [hm] at hcol ⊢
  have hw := hstack hlt
  rw [max_eq_left hw] at hcol ⊢
  obtain ⟨strips, h⟩ := splits_column (a.x + masterSpan mon a.w a.gp + a.gp) hbw
    (by simpa using hne) hcol
  exact ⟨strips, h⟩

/-- With at least one master the layout cuts the whole area. -/
theorem splits_tile (hm : 0 < masters mon cf.length) :
    ∃ strips, Splits a.gp a.box (cells a.bw (tile a mon cf)) strips := by
  obtain ⟨hstack, hmaster, hcol⟩ := hfits
  have hle := masters_le mon cf.length
  rw [tile_eq]
  rcases hle.lt_or_eq with hlt | heq
  · rw [tileSplit_of_lt hlt] at hstack hmaster hcol ⊢
    have hw := hstack hlt
    rw [max_eq_left hw] at hcol ⊢
    obtain ⟨ss, hl⟩ := splits_column a.x hbw (take_ne_nil hm hle) hmaster
    obtain ⟨ts, hr⟩ := splits_column (a.x + masterSpan mon a.w a.gp + a.gp) hbw
      (drop_ne_nil hlt) hcol
    rw [cells_append]
    exact ⟨_, .beside (masterSpan mon a.w a.gp) hl hr⟩
  · rw [tileSplit_of_eq heq] at hmaster ⊢
    rw [heq, List.take_length] at hmaster ⊢
    rw [List.drop_length]
    obtain ⟨ss, hl⟩ := splits_column a.x hbw (List.length_pos_iff.1 (heq ▸ hm)) hmaster
    show ∃ strips, Splits a.gp a.box (cells a.bw (column a cf a.x a.w ++ [])) strips
    rw [List.append_nil]
    exact ⟨ss, hl⟩

end tile

/-! ### Bottom stack -/

/-- The two windows of `bstack::arrange` stand side by side. -/
def sideBySide (mon : Monitor) (cf : List ℚ) : Prop :=
  cf.length = 2 ∧ masters mon cf.length < cf.length

instance (mon : Monitor) (cf : List ℚ) : Decidable (sideBySide mon cf) :=
  inferInstanceAs (Decidable (_ ∧ _))

/-- No clamp of `bstack::arrange` to one pixel acts. -/
def bstackFits (a : Inset) (mon : Monitor) (cf : List ℚ) : Prop :=
  if sideBySide mon cf then
    let cols := tileSplit a mon cf.length
    1 ≤ a.w - cols.1 - a.gp ∧ 1 ≤ cols.1 - 2 * a.bw ∧ 1 ≤ cols.2.2 - 2 * a.bw ∧
      1 ≤ a.h - 2 * a.bw
  else
    let m := masters mon cf.length
    let bands := bstackSplit a mon cf.length
    (m < cf.length → 1 ≤ a.h - bands.1 - a.gp) ∧ rowFits a (cf.take m) bands.1 ∧
      rowFits a (cf.drop m) bands.2.2

instance (a : Inset) (mon : Monitor) (cf : List ℚ) : Decidable (bstackFits a mon cf) := by
  unfold bstackFits
  split_ifs <;> exact inferInstanceAs (Decidable (_ ∧ _))

theorem bstack_of_two {a : Inset} {mon : Monitor} {cf : List ℚ} (h : sideBySide mon cf) :
    bstack a mon cf =
      [bordered a.bw a.x a.y (tileSplit a mon cf.length).1 a.h,
        bordered a.bw (tileSplit a mon cf.length).2.1 a.y (tileSplit a mon cf.length).2.2 a.h] := by
  have hstack : 0 < cf.length - (max mon.nmaster 0).toNat := by
    have hlt := h.2
    unfold masters at hlt
    omega
  unfold bstack
  rw [tileSplit_of_lt h.2]
  exact if_pos ⟨h.1, hstack⟩

theorem bstack_eq {a : Inset} {mon : Monitor} {cf : List ℚ} (h : ¬sideBySide mon cf) :
    bstack a mon cf =
      row a (cf.take (masters mon cf.length)) a.y (bstackSplit a mon cf.length).1 ++
        row a (cf.drop (masters mon cf.length)) (bstackSplit a mon cf.length).2.1
          (bstackSplit a mon cf.length).2.2 := by
  have hnot : ¬(cf.length = 2 ∧ 0 < cf.length - (max mon.nmaster 0).toNat) := by
    rintro ⟨htwo, hstack⟩
    refine h ⟨htwo, ?_⟩
    unfold masters
    omega
  exact if_neg hnot

section bstack

variable {a : Inset} {mon : Monitor} {cf : List ℚ} (hbw : 0 ≤ a.bw) (hfits : bstackFits a mon cf)

include hbw hfits

omit hbw in
/-- Two windows side by side are the two columns of the area. -/
theorem cells_bstack_two (h : sideBySide mon cf) :
    cells a.bw (bstack a mon cf) = [a.box.left (masterSpan mon a.w a.gp),
      a.box.right a.gp (masterSpan mon a.w a.gp)] := by
  rw [bstackFits, if_pos h] at hfits
  rw [bstack_of_two h, tileSplit_of_lt h.2]
  rw [tileSplit_of_lt h.2] at hfits
  obtain ⟨hstack, hl, hr, hh⟩ := hfits
  rw [max_eq_left hstack] at hr ⊢
  simp only [cells, List.map_cons, List.map_nil, cell_bordered hl hh, cell_bordered hr hh]
  rfl

/-- Two windows side by side cut the whole area, whatever the number of masters is. -/
theorem splits_bstack_two (h : sideBySide mon cf) :
    ∃ strips, Splits a.gp a.box (cells a.bw (bstack a mon cf)) strips := by
  rw [cells_bstack_two hfits h]
  rw [bstackFits, if_pos h, tileSplit_of_lt h.2] at hfits
  obtain ⟨hstack, hl, hr, hh⟩ := hfits
  have hleft : Splits a.gp (a.box.left (masterSpan mon a.w a.gp))
      [a.box.left (masterSpan mon a.w a.gp)] [] := by
    refine .whole ?_ ?_
    · show 0 < masterSpan mon a.w a.gp
      omega
    · show 0 < a.h
      omega
  have hright : Splits a.gp (a.box.right a.gp (masterSpan mon a.w a.gp))
      [a.box.right a.gp (masterSpan mon a.w a.gp)] [] := by
    refine .whole ?_ ?_
    · show 0 < a.w - masterSpan mon a.w a.gp - a.gp
      omega
    · show 0 < a.h
      omega
  exact ⟨_, .beside (masterSpan mon a.w a.gp) hleft hright⟩

/-- Without masters the stack cuts what is below the master's share. -/
theorem splits_bstack_stack (htwo : ¬sideBySide mon cf) (hne : cf ≠ [])
    (hm : masters mon cf.length = 0) :
    ∃ strips, Splits a.gp (a.box.bottom a.gp (masterSpan mon a.h a.gp))
      (cells a.bw (bstack a mon cf)) strips := by
  rw [bstackFits, if_neg htwo] at hfits
  obtain ⟨hstack, -, hrow⟩ := hfits
  have hlt : masters mon cf.length < cf.length := by
    rw [hm]
    exact List.length_pos_iff.2 hne
  rw [bstack_eq htwo]
  rw [bstackSplit_of_lt hlt] at hstack hrow ⊢
  rw [hm] at hrow ⊢
  have hh := hstack hlt
  rw [max_eq_left hh] at hrow ⊢
  obtain ⟨strips, h⟩ := splits_row (a.y + masterSpan mon a.h a.gp + a.gp) hbw
    (by simpa using hne) hrow
  exact ⟨strips, h⟩

/-- With at least one master the layout cuts the whole area. -/
theorem splits_bstack (htwo : ¬sideBySide mon cf) (hm : 0 < masters mon cf.length) :
    ∃ strips, Splits a.gp a.box (cells a.bw (bstack a mon cf)) strips := by
  rw [bstackFits, if_neg htwo] at hfits
  obtain ⟨hstack, hmaster, hrow⟩ := hfits
  have hle := masters_le mon cf.length
  rw [bstack_eq htwo]
  rcases hle.lt_or_eq with hlt | heq
  · rw [bstackSplit_of_lt hlt] at hstack hmaster hrow ⊢
    have hh := hstack hlt
    rw [max_eq_left hh] at hrow ⊢
    obtain ⟨ss, ht⟩ := splits_row a.y hbw (take_ne_nil hm hle) hmaster
    obtain ⟨ts, hb⟩ := splits_row (a.y + masterSpan mon a.h a.gp + a.gp) hbw
      (drop_ne_nil hlt) hrow
    rw [cells_append]
    exact ⟨_, .above (masterSpan mon a.h a.gp) ht hb⟩
  · rw [bstackSplit_of_eq heq] at hmaster ⊢
    rw [heq, List.take_length] at hmaster ⊢
    rw [List.drop_length]
    obtain ⟨ss, ht⟩ := splits_row a.y hbw (List.length_pos_iff.1 (heq ▸ hm)) hmaster
    show ∃ strips, Splits a.gp a.box (cells a.bw (row a cf a.y a.h ++ [])) strips
    rw [List.append_nil]
    exact ⟨ss, ht⟩

end bstack

/-! ### The centred master -/

/-- No clamp of `centeredmaster::arrange` to one or two pixels acts. -/
def centeredFits (a : Inset) (mon : Monitor) (cf : List ℚ) : Prop :=
  let m := masters mon cf.length
  let cols := centeredSplit a mon cf.length
  (m + 1 = cf.length → 1 ≤ a.w - (if 0 < m then cols.1.2 + a.gp else 0)) ∧
    (m + 2 ≤ cf.length → if 0 < m then 2 ≤ a.w - 2 * a.gp - cols.1.2
      else 1 ≤ a.w - a.gp - cols.2.1.2) ∧
    columnFits a (cf.take m) cols.1.2 ∧ columnFits a (leftFactors m cf) cols.2.1.2 ∧
    columnFits a (rightFactors m cf) cols.2.2.2

instance (a : Inset) (mon : Monitor) (cf : List ℚ) : Decidable (centeredFits a mon cf) := by
  unfold centeredFits
  infer_instance

/-- The windows of the master column, the left and the right one. -/
theorem centeredmaster_eq (a : Inset) (mon : Monitor) (cf : List ℚ) :
    centeredmaster a mon cf =
      column a (cf.take (masters mon cf.length)) (centeredSplit a mon cf.length).1.1
          (centeredSplit a mon cf.length).1.2 ++
        interleave
          (column a (rightFactors (masters mon cf.length) cf)
            (centeredSplit a mon cf.length).2.2.1 (centeredSplit a mon cf.length).2.2.2)
          (column a (leftFactors (masters mon cf.length) cf)
            (centeredSplit a mon cf.length).2.1.1 (centeredSplit a mon cf.length).2.1.2) :=
  rfl

theorem perm_interleave {α : Type*} (xs ys : List α) : (interleave xs ys).Perm (ys ++ xs) := by
  induction xs, ys using interleave.induct with
  | case1 ys => simp [interleave]
  | case2 xs hne => simp [interleave]
  | case3 x xs y ys ih =>
    exact (List.Perm.swap y x _).trans (((ih.cons x).trans List.perm_middle.symm).cons y)

section centred

variable {a : Inset} {mon : Monitor} {cf : List ℚ}

/-- The cells of the master column, of the left one and of the right one. -/
def masterCells (a : Inset) (mon : Monitor) (cf : List ℚ) : List Box :=
  cells a.bw (column a (cf.take (masters mon cf.length)) (centeredSplit a mon cf.length).1.1
    (centeredSplit a mon cf.length).1.2)

@[inherit_doc masterCells]
def leftCells (a : Inset) (mon : Monitor) (cf : List ℚ) : List Box :=
  cells a.bw (column a (leftFactors (masters mon cf.length) cf)
    (centeredSplit a mon cf.length).2.1.1 (centeredSplit a mon cf.length).2.1.2)

@[inherit_doc masterCells]
def rightCells (a : Inset) (mon : Monitor) (cf : List ℚ) : List Box :=
  cells a.bw (column a (rightFactors (masters mon cf.length) cf)
    (centeredSplit a mon cf.length).2.2.1 (centeredSplit a mon cf.length).2.2.2)

/-- The tiling order is the order from left to right, permuted. -/
theorem perm_centeredmaster (a : Inset) (mon : Monitor) (cf : List ℚ) :
    (cells a.bw (centeredmaster a mon cf)).Perm
      (leftCells a mon cf ++ (masterCells a mon cf ++ rightCells a mon cf)) := by
  rw [centeredmaster_eq, cells_append]
  have hsides := (perm_interleave
    (column a (rightFactors (masters mon cf.length) cf) (centeredSplit a mon cf.length).2.2.1
      (centeredSplit a mon cf.length).2.2.2)
    (column a (leftFactors (masters mon cf.length) cf) (centeredSplit a mon cf.length).2.1.1
      (centeredSplit a mon cf.length).2.1.2)).map (cell a.bw)
  rw [List.map_append] at hsides
  refine (hsides.append_left _).trans ?_
  rw [← List.append_assoc, ← List.append_assoc]
  exact List.perm_append_comm.append_right _

theorem rightFactors_ne_nil {m : ℕ} (hm : m < cf.length) : rightFactors m cf ≠ [] := by
  intro h
  have hlen := congrArg List.length h
  rw [length_rightFactors, List.length_nil] at hlen
  omega

theorem leftFactors_ne_nil {m : ℕ} (hm : m + 2 ≤ cf.length) : leftFactors m cf ≠ [] := by
  intro h
  have hlen := congrArg List.length h
  rw [length_leftFactors, List.length_nil] at hlen
  omega

theorem leftFactors_eq_nil {m : ℕ} (hm : cf.length ≤ m + 1) : leftFactors m cf = [] := by
  apply List.length_eq_zero_iff.1
  rw [length_leftFactors]
  omega

theorem rightFactors_eq_nil {m : ℕ} (hm : cf.length ≤ m) : rightFactors m cf = [] := by
  apply List.length_eq_zero_iff.1
  rw [length_rightFactors]
  omega

theorem centeredSplit_all (h : masters mon cf.length = cf.length) :
    centeredSplit a mon cf.length = ((a.x, a.w), (0, 0), (0, 0)) := by
  rw [centeredSplit, centeredColumns, if_pos (by omega)]

theorem centeredSplit_one (h : masters mon cf.length + 1 = cf.length)
    (hm : 0 < masters mon cf.length) :
    centeredSplit a mon cf.length = ((a.x, masterSpan mon a.w a.gp), (0, 0),
      (a.x + masterSpan mon a.w a.gp + a.gp, max (a.w - masterSpan mon a.w a.gp - a.gp) 1)) := by
  rw [centeredSplit, centeredColumns, if_neg (by omega), if_pos (by omega)]
  simp only [if_pos hm]
  rfl

theorem centeredSplit_lone (h : masters mon cf.length + 1 = cf.length)
    (hm : masters mon cf.length = 0) :
    centeredSplit a mon cf.length = ((a.x, 0), (0, 0), (a.x, max a.w 1)) := by
  rw [centeredSplit, centeredColumns, if_neg (by omega), if_pos (by omega)]
  simp [hm]

/-- The width of both side columns together, less the gaps. -/
def sideSpan (a : Inset) (mon : Monitor) : ℤ :=
  a.w - 2 * a.gp - masterSpan mon a.w (2 * a.gp)

theorem centeredSplit_both (h : masters mon cf.length + 2 ≤ cf.length)
    (hm : 0 < masters mon cf.length) :
    let lw := (max (sideSpan a mon) 2).tdiv 2
    let mw := masterSpan mon a.w (2 * a.gp)
    centeredSplit a mon cf.length = ((a.x + lw + a.gp, mw), (a.x, lw),
      (a.x + lw + a.gp + mw + a.gp, max (sideSpan a mon) 2 - lw)) := by
  dsimp only
  rw [centeredSplit, centeredColumns, if_neg (by omega), if_neg (by omega), if_pos hm]
  rfl

theorem centeredSplit_sides (h : masters mon cf.length + 2 ≤ cf.length)
    (hm : masters mon cf.length = 0) :
    let lw := (a.w - a.gp).tdiv 2
    centeredSplit a mon cf.length = ((0, 0), (a.x, lw),
      (a.x + lw + a.gp, max (a.w - a.gp - lw) 1)) := by
  dsimp only
  rw [centeredSplit, centeredColumns, if_neg (by omega), if_neg (by omega), if_neg (by omega)]

variable (hbw : 0 ≤ a.bw) (hfits : centeredFits a mon cf)

include hbw hfits

theorem splits_masterCells (hm : 0 < masters mon cf.length) :
    ∃ strips, Splits a.gp ⟨(centeredSplit a mon cf.length).1.1, a.y,
      (centeredSplit a mon cf.length).1.2, a.h⟩ (masterCells a mon cf) strips :=
  splits_column _ hbw (take_ne_nil hm (masters_le mon cf.length)) hfits.2.2.1

theorem splits_leftCells (h : masters mon cf.length + 2 ≤ cf.length) :
    ∃ strips, Splits a.gp ⟨(centeredSplit a mon cf.length).2.1.1, a.y,
      (centeredSplit a mon cf.length).2.1.2, a.h⟩ (leftCells a mon cf) strips :=
  splits_column _ hbw (leftFactors_ne_nil h) hfits.2.2.2.1

theorem splits_rightCells (h : masters mon cf.length < cf.length) :
    ∃ strips, Splits a.gp ⟨(centeredSplit a mon cf.length).2.2.1, a.y,
      (centeredSplit a mon cf.length).2.2.2, a.h⟩ (rightCells a mon cf) strips :=
  splits_column _ hbw (rightFactors_ne_nil h) hfits.2.2.2.2

omit hbw hfits in
theorem leftCells_eq_nil (h : cf.length ≤ masters mon cf.length + 1) : leftCells a mon cf = [] := by
  rw [leftCells, leftFactors_eq_nil h]
  rfl

omit hbw hfits in
theorem rightCells_eq_nil (h : cf.length ≤ masters mon cf.length) : rightCells a mon cf = [] := by
  rw [rightCells, rightFactors_eq_nil h]
  rfl

omit hbw hfits in
theorem masterCells_eq_nil (h : masters mon cf.length = 0) : masterCells a mon cf = [] := by
  rw [masterCells, h]
  rfl

/-- The three columns, whichever of them there are, cut the whole area. -/
theorem splits_centeredmaster (hne : cf ≠ []) :
    ∃ strips, Splits a.gp a.box (leftCells a mon cf ++ (masterCells a mon cf ++
      rightCells a mon cf)) strips := by
  have hle := masters_le mon cf.length
  have hpos : 0 < cf.length := List.length_pos_iff.2 hne
  have hmaster := splits_masterCells hbw hfits
  have hleft := splits_leftCells hbw hfits
  have hright := splits_rightCells hbw hfits
  obtain ⟨hone, htwo, -⟩ := hfits
  rcases Nat.eq_zero_or_pos (masters mon cf.length) with hm | hm
  · rw [masterCells_eq_nil hm, List.nil_append]
    rcases Nat.lt_or_ge cf.length 2 with hn | hn
    · -- one window and no master: it fills the area as the right column
      have hlast : masters mon cf.length + 1 = cf.length := by omega
      obtain ⟨ts, hr⟩ := hright (by omega)
      have hw := hone hlast
      rw [hm, if_neg (lt_irrefl 0), sub_zero] at hw
      rw [centeredSplit_lone hlast hm, max_eq_left hw] at hr
      rw [leftCells_eq_nil (by omega), List.nil_append]
      exact ⟨ts, hr⟩
    · -- two side columns
      have hboth : masters mon cf.length + 2 ≤ cf.length := by omega
      obtain ⟨ss, hl⟩ := hleft hboth
      obtain ⟨ts, hr⟩ := hright (by omega)
      have hw := htwo hboth
      rw [if_neg (by omega), centeredSplit_sides hboth hm] at hw
      rw [centeredSplit_sides hboth hm] at hl hr
      rw [max_eq_left hw] at hr
      have hrest : a.w - a.gp - (a.w - a.gp).tdiv 2 = a.w - (a.w - a.gp).tdiv 2 - a.gp := by ring
      rw [hrest] at hr
      exact ⟨_, .beside ((a.w - a.gp).tdiv 2) hl hr⟩
  · obtain ⟨rs, hmid⟩ := hmaster hm
    rcases Nat.lt_trichotomy cf.length (masters mon cf.length + 1) with hn | hn | hn
    · have hall : masters mon cf.length = cf.length := by omega
      rw [centeredSplit_all hall] at hmid
      rw [leftCells_eq_nil (by omega), rightCells_eq_nil (by omega), List.nil_append,
        List.append_nil]
      exact ⟨rs, hmid⟩
    · obtain ⟨ts, hr⟩ := hright (by omega)
      have hw := hone hn.symm
      rw [if_pos hm, centeredSplit_one hn.symm hm] at hw
      dsimp only at hw
      rw [centeredSplit_one hn.symm hm] at hmid hr
      rw [max_eq_left (by omega)] at hr
      rw [leftCells_eq_nil (by omega), List.nil_append]
      exact ⟨_, .beside (masterSpan mon a.w a.gp) hmid hr⟩
    · have hboth : masters mon cf.length + 2 ≤ cf.length := by omega
      obtain ⟨ss, hl⟩ := hleft hboth
      obtain ⟨ts, hr⟩ := hright (by omega)
      have hw := htwo hboth
      rw [if_pos hm, centeredSplit_both hboth hm] at hw
      rw [centeredSplit_both hboth hm] at hl hmid hr
      have hside : max (sideSpan a mon) 2 = sideSpan a mon := max_eq_left hw
      rw [hside] at hl hmid hr
      set lw := (sideSpan a mon).tdiv 2 with hlw
      have hrest : sideSpan a mon - lw =
          a.w - lw - a.gp - masterSpan mon a.w (2 * a.gp) - a.gp := by
        unfold sideSpan
        ring
      rw [hrest] at hr
      exact ⟨_, .beside lw hl (.beside (masterSpan mon a.w (2 * a.gp)) hmid hr)⟩

end centred

/-! ### No overlap -/

/-- No pixel is in two cells, and every cell lies in the area. -/
structure Tidy (area : Box) (cs : List Box) : Prop where
  clear : cs.Pairwise Box.Clear
  within : ∀ c ∈ cs, c.Within area

theorem Tidy.nil (area : Box) : Tidy area [] := ⟨.nil, fun _ hc => by cases hc⟩

theorem tidy_of_splits {gp : ℤ} {area b : Box} {cs strips : List Box} (hgp : 0 ≤ gp)
    (h : Splits gp b cs strips) (hb : b.Within area) : Tidy area cs :=
  ⟨h.clear hgp, fun c hc => (h.within hgp c hc).trans hb⟩

theorem Tidy.perm {area : Box} {cs ds : List Box} (h : Tidy area cs) (hp : cs.Perm ds) :
    Tidy area ds :=
  ⟨h.clear.perm hp fun hcd px py hd hc => hcd px py hc hd, fun c hc =>
    h.within c (hp.symm.subset hc)⟩

/-- The cells `ds` begin one gap right of where the cells `cs` end. -/
def Beside (gp : ℤ) (cs ds : List Box) : Prop := ∀ c ∈ cs, ∀ d ∈ ds, d.x = c.x + c.w + gp

/-- The cells `ds` begin one gap below where the cells `cs` end. -/
def Under (gp : ℤ) (cs ds : List Box) : Prop := ∀ c ∈ cs, ∀ d ∈ ds, d.y = c.y + c.h + gp

/-- The first `m` cells are one column and the others the next. -/
def tileNeighbours (gp : ℤ) (m : ℕ) (cs : List Box) : Prop :=
  (cs.take m).IsChain (Below gp) ∧ (cs.drop m).IsChain (Below gp) ∧
    Beside gp (cs.take m) (cs.drop m)

/-- The first `m` cells are one row and the others the next, or there is one row of two. -/
def bstackNeighbours (gp : ℤ) (two : Bool) (m : ℕ) (cs : List Box) : Prop :=
  if two then cs.IsChain (RightOf gp)
  else (cs.take m).IsChain (RightOf gp) ∧ (cs.drop m).IsChain (RightOf gp) ∧
    Under gp (cs.take m) (cs.drop m)

/-- The first `m` cells are the middle column, the others in turn the right and the left one. -/
def centeredNeighbours (gp : ℤ) (m : ℕ) (cs : List Box) : Prop :=
  let master := cs.take m
  let right := evens (cs.drop m)
  let left := odds (cs.drop m)
  (master.IsChain (Below gp) ∧ right.IsChain (Below gp) ∧ left.IsChain (Below gp)) ∧
    Beside gp left master ∧ Beside gp master right ∧ (m = 0 → Beside gp left right)

section neighbours

variable {a : Inset} {mon : Monitor} {cf : List ℚ}

theorem isChain_cells_column {col_w : ℤ} (col_x : ℤ) (hfits : columnFits a cf col_w) :
    (cells a.bw (column a cf col_x col_w)).IsChain (Below a.gp) := by
  rw [cells_column col_x hfits]
  exact isChain_rows ..

theorem isChain_cells_row {row_h : ℤ} (row_y : ℤ) (hfits : rowFits a cf row_h) :
    (cells a.bw (row a cf row_y row_h)).IsChain (RightOf a.gp) := by
  rw [cells_row row_y hfits]
  exact isChain_columns ..

theorem mem_cells_column {c : Box} {col_x col_w : ℤ} (hfits : columnFits a cf col_w)
    (hc : c ∈ cells a.bw (column a cf col_x col_w)) : c.x = col_x ∧ c.w = col_w := by
  rw [cells_column col_x hfits] at hc
  exact box_of_mem_rows hc

theorem mem_cells_row {c : Box} {row_y row_h : ℤ} (hfits : rowFits a cf row_h)
    (hc : c ∈ cells a.bw (row a cf row_y row_h)) : c.y = row_y ∧ c.h = row_h := by
  rw [cells_row row_y hfits] at hc
  exact box_of_mem_columns hc

/-- Two columns whose boxes are one gap apart. -/
theorem beside_columns {cf₁ cf₂ : List ℚ} {x₁ w₁ x₂ w₂ : ℤ} (h₁ : columnFits a cf₁ w₁)
    (h₂ : columnFits a cf₂ w₂) (hx : x₂ = x₁ + w₁ + a.gp) :
    Beside a.gp (cells a.bw (column a cf₁ x₁ w₁)) (cells a.bw (column a cf₂ x₂ w₂)) := by
  intro c hc d hd
  rw [(mem_cells_column h₁ hc).1, (mem_cells_column h₁ hc).2, (mem_cells_column h₂ hd).1, hx]

theorem take_cells {xs ys : List Rect} {bw : ℤ} {m : ℕ} (h : xs.length = m) :
    (cells bw (xs ++ ys)).take m = cells bw xs := by
  rw [cells_append]
  exact List.take_left' (by rw [cells, List.length_map, h])

theorem drop_cells {xs ys : List Rect} {bw : ℤ} {m : ℕ} (h : xs.length = m) :
    (cells bw (xs ++ ys)).drop m = cells bw ys := by
  rw [cells_append]
  exact List.drop_left' (by rw [cells, List.length_map, h])

theorem tile_tidy (hbw : 0 ≤ a.bw) (hgp : 0 ≤ a.gp) (hw : 1 ≤ a.w) (hfits : tileFits a mon cf) :
    Tidy a.box (cells a.bw (tile a mon cf)) ∧
      tileNeighbours a.gp (masters mon cf.length) (cells a.bw (tile a mon cf)) := by
  have hle := masters_le mon cf.length
  have hlen : ∀ x w, (column a (cf.take (masters mon cf.length)) x w).length =
      masters mon cf.length := fun x w => by rw [length_column, List.length_take, min_eq_left hle]
  refine ⟨?_, ?_⟩
  · rcases Nat.eq_zero_or_pos (masters mon cf.length) with hm | hm
    · by_cases hne : cf = []
      · subst hne
        exact Tidy.nil _
      · obtain ⟨strips, h⟩ := splits_tile_stack hbw hfits hne hm
        exact tidy_of_splits hgp h (Splits.right_within (masterSpan_add_gap mon hw hgp).1)
    · obtain ⟨strips, h⟩ := splits_tile hbw hfits hm
      exact tidy_of_splits hgp h (.refl _)
  · obtain ⟨-, hmaster, hcol⟩ := hfits
    rw [tile_eq, tileNeighbours, take_cells (hlen _ _), drop_cells (hlen _ _)]
    refine ⟨isChain_cells_column _ hmaster, isChain_cells_column _ hcol, ?_⟩
    rcases hle.lt_or_eq with hlt | heq
    · apply beside_columns hmaster hcol
      rw [tileSplit_of_lt hlt]
    · rw [heq, List.drop_length]
      intro c _ d hd
      cases hd

theorem bstack_tidy (hbw : 0 ≤ a.bw) (hgp : 0 ≤ a.gp) (hh : 1 ≤ a.h)
    (hfits : bstackFits a mon cf) :
    Tidy a.box (cells a.bw (bstack a mon cf)) ∧
      bstackNeighbours a.gp (decide (sideBySide mon cf)) (masters mon cf.length)
        (cells a.bw (bstack a mon cf)) := by
  have hle := masters_le mon cf.length
  by_cases htwo : sideBySide mon cf
  · obtain ⟨strips, h⟩ := splits_bstack_two hbw hfits htwo
    refine ⟨tidy_of_splits hgp h (.refl _), ?_⟩
    rw [bstackNeighbours, if_pos (decide_eq_true htwo), cells_bstack_two hfits htwo]
    exact .cons_cons ⟨rfl, rfl, rfl⟩ (.singleton _)
  have hlen : ∀ y h, (row a (cf.take (masters mon cf.length)) y h).length =
      masters mon cf.length := fun y h => by rw [length_row, List.length_take, min_eq_left hle]
  refine ⟨?_, ?_⟩
  · rcases Nat.eq_zero_or_pos (masters mon cf.length) with hm | hm
    · by_cases hne : cf = []
      · subst hne
        exact Tidy.nil _
      · obtain ⟨strips, h⟩ := splits_bstack_stack hbw hfits htwo hne hm
        exact tidy_of_splits hgp h (Splits.bottom_within (masterSpan_add_gap mon hh hgp).1)
    · obtain ⟨strips, h⟩ := splits_bstack hbw hfits htwo hm
      exact tidy_of_splits hgp h (.refl _)
  · rw [bstackFits, if_neg htwo] at hfits
    obtain ⟨-, hmaster, hrow⟩ := hfits
    rw [bstackNeighbours, decide_eq_false htwo, if_neg Bool.false_ne_true, bstack_eq htwo,
      take_cells (hlen _ _), drop_cells (hlen _ _)]
    refine ⟨isChain_cells_row _ hmaster, isChain_cells_row _ hrow, ?_⟩
    intro c hc d hd
    rcases hle.lt_or_eq with hlt | heq
    · rw [(mem_cells_row hmaster hc).1, (mem_cells_row hmaster hc).2, (mem_cells_row hrow hd).1,
        bstackSplit_of_lt hlt]
    · rw [heq, List.drop_length] at hd
      cases hd

/-- Every second element of two lists taken in turn. -/
theorem evens_interleave {α : Type*} {xs ys : List α} (hlen : ys.length ≤ xs.length)
    (hone : xs.length ≤ ys.length + 1) : evens (interleave xs ys) = xs := by
  apply List.ext_getElem?
  intro k
  rw [getElem?_evens, (getElem?_interleave xs ys k hlen hone).1]

theorem odds_interleave {α : Type*} {xs ys : List α} (hlen : ys.length ≤ xs.length)
    (hone : xs.length ≤ ys.length + 1) : odds (interleave xs ys) = ys := by
  apply List.ext_getElem?
  intro k
  rw [getElem?_odds, (getElem?_interleave xs ys k hlen hone).2]

theorem evens_map {α β : Type*} (f : α → β) (l : List α) : evens (l.map f) = (evens l).map f := by
  apply List.ext_getElem?
  intro k
  rw [getElem?_evens, List.getElem?_map, List.getElem?_map, getElem?_evens]

theorem odds_map {α β : Type*} (f : α → β) (l : List α) : odds (l.map f) = (odds l).map f := by
  apply List.ext_getElem?
  intro k
  rw [getElem?_odds, List.getElem?_map, List.getElem?_map, getElem?_odds]

/-- The three columns of the centred master in the tiling order. -/
theorem centered_columns (a : Inset) (mon : Monitor) (cf : List ℚ) :
    let cs := cells a.bw (centeredmaster a mon cf)
    let m := masters mon cf.length
    cs.take m = masterCells a mon cf ∧ evens (cs.drop m) = rightCells a mon cf ∧
      odds (cs.drop m) = leftCells a mon cf := by
  dsimp only
  have hle := masters_le mon cf.length
  have hlen : ∀ x w, (column a (cf.take (masters mon cf.length)) x w).length =
      masters mon cf.length := fun x w => by rw [length_column, List.length_take, min_eq_left hle]
  have hturn : ∀ x w x' w',
      (column a (leftFactors (masters mon cf.length) cf) x w).length ≤
          (column a (rightFactors (masters mon cf.length) cf) x' w').length ∧
        (column a (rightFactors (masters mon cf.length) cf) x' w').length ≤
          (column a (leftFactors (masters mon cf.length) cf) x w).length + 1 := by
    intro x w x' w'
    simp only [length_column, length_rightFactors, length_leftFactors]
    omega
  rw [centeredmaster_eq, take_cells (hlen _ _), drop_cells (hlen _ _)]
  refine ⟨rfl, ?_, ?_⟩
  · rw [cells, evens_map, evens_interleave (hturn _ _ _ _).1 (hturn _ _ _ _).2]
    rfl
  · rw [cells, odds_map, odds_interleave (hturn _ _ _ _).1 (hturn _ _ _ _).2]
    rfl

theorem beside_nil_left (gp : ℤ) (ds : List Box) : Beside gp [] ds := fun _ hc => by cases hc

theorem beside_nil_right (gp : ℤ) (cs : List Box) : Beside gp cs [] := fun _ _ _ hd => by cases hd

theorem beside_left_master (hfits : centeredFits a mon cf) :
    Beside a.gp (leftCells a mon cf) (masterCells a mon cf) := by
  obtain ⟨-, -, hmid, hl, -⟩ := hfits
  rcases Nat.eq_zero_or_pos (masters mon cf.length) with hm | hm
  · rw [masterCells_eq_nil hm]
    exact beside_nil_right _ _
  rcases Nat.lt_or_ge (masters mon cf.length + 1) cf.length with hn | hn
  · apply beside_columns hl hmid
    rw [centeredSplit_both hn hm]
  · rw [leftCells_eq_nil hn]
    exact beside_nil_left _ _

theorem beside_master_right (hfits : centeredFits a mon cf) :
    Beside a.gp (masterCells a mon cf) (rightCells a mon cf) := by
  obtain ⟨-, -, hmid, -, hr⟩ := hfits
  rcases Nat.eq_zero_or_pos (masters mon cf.length) with hm | hm
  · rw [masterCells_eq_nil hm]
    exact beside_nil_left _ _
  rcases Nat.lt_trichotomy cf.length (masters mon cf.length + 1) with hn | hn | hn
  · rw [rightCells_eq_nil (Nat.lt_succ_iff.1 hn)]
    exact beside_nil_right _ _
  · apply beside_columns hmid hr
    rw [centeredSplit_one hn.symm hm]
  · apply beside_columns hmid hr
    rw [centeredSplit_both hn hm]

theorem beside_left_right (hfits : centeredFits a mon cf) (hm : masters mon cf.length = 0) :
    Beside a.gp (leftCells a mon cf) (rightCells a mon cf) := by
  obtain ⟨-, -, -, hl, hr⟩ := hfits
  rcases Nat.lt_or_ge (masters mon cf.length + 1) cf.length with hn | hn
  · apply beside_columns hl hr
    rw [centeredSplit_sides hn hm]
  · rw [leftCells_eq_nil hn]
    exact beside_nil_left _ _

theorem centered_tidy (hbw : 0 ≤ a.bw) (hgp : 0 ≤ a.gp) (hfits : centeredFits a mon cf) :
    Tidy a.box (cells a.bw (centeredmaster a mon cf)) ∧
      centeredNeighbours a.gp (masters mon cf.length) (cells a.bw (centeredmaster a mon cf)) := by
  refine ⟨?_, ?_⟩
  · by_cases hne : cf = []
    · subst hne
      exact Tidy.nil _
    · obtain ⟨strips, h⟩ := splits_centeredmaster hbw hfits hne
      exact (tidy_of_splits hgp h (.refl _)).perm (perm_centeredmaster a mon cf).symm
  · obtain ⟨hmaster, hright, hleft⟩ := centered_columns a mon cf
    rw [centeredNeighbours]
    rw [hmaster, hright, hleft]
    have ⟨_, _, hmid, hl, hr⟩ := hfits
    exact ⟨⟨isChain_cells_column _ hmid, isChain_cells_column _ hr, isChain_cells_column _ hl⟩,
      beside_left_master hfits, beside_master_right hfits, beside_left_right hfits⟩

end neighbours

/-- **The cells of the stacking layouts do not overlap**: where no clamp to one or two pixels
acts, no pixel is in two cells, every cell is in the inset work area, and neighbours in a column,
in a row and from one column or row to the next are one gap apart. -/
theorem stacking_cells_tidy (cfg : Config) (gaps_enabled : Bool) (mon : Monitor) (cf : List ℚ)
    (hborder : cfg.border_px < 2 ^ 31)
    (hinset : insetFits mon (inset cfg gaps_enabled mon cf.length).gp) :
    let a := inset cfg gaps_enabled mon cf.length
    let m := masters mon cf.length
    (tileFits a mon cf → Tidy (insetBox mon a.gp) (cells a.bw (tile a mon cf)) ∧
        tileNeighbours a.gp m (cells a.bw (tile a mon cf))) ∧
      (bstackFits a mon cf → Tidy (insetBox mon a.gp) (cells a.bw (bstack a mon cf)) ∧
        bstackNeighbours a.gp (decide (sideBySide mon cf)) m (cells a.bw (bstack a mon cf))) ∧
      (centeredFits a mon cf →
        Tidy (insetBox mon a.gp) (cells a.bw (centeredmaster a mon cf)) ∧
          centeredNeighbours a.gp m (cells a.bw (centeredmaster a mon cf))) := by
  dsimp only
  have hgp := gap_nonneg cfg gaps_enabled mon cf.length
  have hbw := border_nonneg gaps_enabled mon cf.length hborder
  have hbox := box_inset hinset
  have hw : 1 ≤ (inset cfg gaps_enabled mon cf.length).w := le_max_right _ _
  have hh : 1 ≤ (inset cfg gaps_enabled mon cf.length).h := le_max_right _ _
  rw [← hbox]
  exact ⟨tile_tidy hbw hgp hw, bstack_tidy hbw hgp hh, centered_tidy hbw hgp⟩

/-- A monitor of 100 by 100 pixels with `nmaster` masters. -/
def smallMonitor (cfg : Config) (nmaster : ℤ) : Monitor :=
  { Monitor.new cfg 0 "" with w := Rect.of 0 0 100 100, nmaster := nmaster }

/-- Two masters and three stack windows with a gap of 4 and a border of 1 pixel. -/
theorem stacking_cells_tidy_five :
    let cfg := { Rwl.plainConfig [] [] with gaps_px := 4, border_px := 1 }
    let mon := smallMonitor cfg 2
    let cf : List ℚ := [1, 2, 1, 1, 1]
    let a := inset cfg true mon 5
    Tidy (insetBox mon 4) (cells a.bw (tile a mon cf)) ∧
      Tidy (insetBox mon 4) (cells a.bw (bstack a mon cf)) ∧
        Tidy (insetBox mon 4) (cells a.bw (centeredmaster a mon cf)) := by
  intro cfg mon cf a
  have h := stacking_cells_tidy cfg true mon cf (by decide) (by decide +kernel)
  exact ⟨(h.1 (by decide +kernel)).1, (h.2.1 (by decide +kernel)).1,
    (h.2.2 (by decide +kernel)).1⟩

/-! ### No dead area -/

section covers

variable {a : Inset} {mon : Monitor} {cf : List ℚ}

theorem right_eq_self {b : Box} {gp k : ℤ} (h : k + gp = 0) : b.right gp k = b := by
  cases b
  simp only [Box.right, Box.mk.injEq, true_and, and_true]
  omega

theorem bottom_eq_self {b : Box} {gp k : ℤ} (h : k + gp = 0) : b.bottom gp k = b := by
  cases b
  simp only [Box.bottom, Box.mk.injEq, true_and]
  omega

theorem tile_covers_iff (hbw : 0 ≤ a.bw) (hgp : 0 ≤ a.gp) (hw : 1 ≤ a.w) (hne : cf ≠ [])
    (hfits : tileFits a mon cf) :
    Covers a.gp a.box (cells a.bw (tile a mon cf)) ↔
      0 < masters mon cf.length ∨ masterSpan mon a.w a.gp + a.gp = 0 := by
  rcases Nat.eq_zero_or_pos (masters mon cf.length) with hm | hm
  · obtain ⟨strips, h⟩ := splits_tile_stack hbw hfits hne hm
    constructor
    · intro hcov
      obtain ⟨c, hc, hx⟩ := hcov.left
      have hin := (h.within hgp c hc).1
      have hlow := (masterSpan_add_gap mon hw hgp).1
      right
      simp only [Box.right] at hin
      omega
    · rintro (hpos | hzero)
      · omega
      · rw [right_eq_self hzero] at h
        exact h.covers hgp
  · obtain ⟨strips, h⟩ := splits_tile hbw hfits hm
    exact ⟨fun _ => .inl hm, fun _ => h.covers hgp⟩

theorem bstack_covers_iff (hbw : 0 ≤ a.bw) (hgp : 0 ≤ a.gp) (hh : 1 ≤ a.h) (hne : cf ≠ [])
    (hfits : bstackFits a mon cf) :
    Covers a.gp a.box (cells a.bw (bstack a mon cf)) ↔
      0 < masters mon cf.length ∨ cf.length = 2 ∨ masterSpan mon a.h a.gp + a.gp = 0 := by
  by_cases htwo : sideBySide mon cf
  · obtain ⟨strips, h⟩ := splits_bstack_two hbw hfits htwo
    exact ⟨fun _ => .inr (.inl htwo.1), fun _ => h.covers hgp⟩
  rcases Nat.eq_zero_or_pos (masters mon cf.length) with hm | hm
  · have hnot : cf.length ≠ 2 := fun hlen => htwo ⟨hlen, by omega⟩
    obtain ⟨strips, h⟩ := splits_bstack_stack hbw hfits htwo hne hm
    constructor
    · intro hcov
      obtain ⟨c, hc, hy⟩ := hcov.top
      have hin := (h.within hgp c hc).2.2.1
      have hlow := (masterSpan_add_gap mon hh hgp).1
      right; right
      simp only [Box.bottom] at hin
      omega
    · rintro (hpos | hlen | hzero)
      · omega
      · exact absurd hlen hnot
      · rw [bottom_eq_self hzero] at h
        exact h.covers hgp
  · obtain ⟨strips, h⟩ := splits_bstack hbw hfits htwo hm
    exact ⟨fun _ => .inl hm, fun _ => h.covers hgp⟩

theorem centered_covers (hbw : 0 ≤ a.bw) (hgp : 0 ≤ a.gp) (hne : cf ≠ [])
    (hfits : centeredFits a mon cf) :
    Covers a.gp a.box (cells a.bw (centeredmaster a mon cf)) := by
  obtain ⟨strips, h⟩ := splits_centeredmaster hbw hfits hne
  exact (h.covers hgp).perm (perm_centeredmaster a mon cf).symm

theorem masters_pos_iff (mon : Monitor) {n : ℕ} (hn : 0 < n) :
    0 < masters mon n ↔ 0 < mon.nmaster := by
  unfold masters
  omega

end covers

/-- **When the stacking layouts leave no dead area**: the centred master never does; the others
need a master window, or two windows side by side, or a master's share of no pixel. -/
theorem stacking_covers_iff (cfg : Config) (gaps_enabled : Bool) (mon : Monitor) (cf : List ℚ)
    (hborder : cfg.border_px < 2 ^ 31)
    (hinset : insetFits mon (inset cfg gaps_enabled mon cf.length).gp) (hne : cf ≠ [])
    (hlow : 5 / 100 ≤ mon.mfact) (hhigh : mon.mfact ≤ 95 / 100) :
    let a := inset cfg gaps_enabled mon cf.length
    let area := insetBox mon a.gp
    (tileFits a mon cf → (Covers a.gp area (cells a.bw (tile a mon cf)) ↔
        0 < mon.nmaster ∨ a.gp = 0 ∧ area.w * mon.mfact < 1 / 2)) ∧
      (bstackFits a mon cf → (Covers a.gp area (cells a.bw (bstack a mon cf)) ↔
        0 < mon.nmaster ∨ cf.length = 2 ∨ a.gp = 0 ∧ area.h * mon.mfact < 1 / 2)) ∧
      (centeredFits a mon cf → Covers a.gp area (cells a.bw (centeredmaster a mon cf))) := by
  dsimp only
  have hgp := gap_nonneg cfg gaps_enabled mon cf.length
  have hbw := border_nonneg gaps_enabled mon cf.length hborder
  have hw : 1 ≤ (inset cfg gaps_enabled mon cf.length).w := le_max_right _ _
  have hh : 1 ≤ (inset cfg gaps_enabled mon cf.length).h := le_max_right _ _
  have hmfact : clampQ mon.mfact (5 / 100) (95 / 100) = mon.mfact := clampQ_of_mem hlow hhigh
  have hmasters := masters_pos_iff mon (List.length_pos_iff.2 hne)
  rw [← box_inset hinset]
  refine ⟨fun hfits => ?_, fun hfits => ?_, centered_covers hbw hgp hne⟩
  · rw [tile_covers_iff hbw hgp hw hne hfits, hmasters, masterSpan_eq_neg_iff mon hw hgp, hmfact]
    rfl
  · rw [bstack_covers_iff hbw hgp hh hne hfits, hmasters, masterSpan_eq_neg_iff mon hh hgp, hmfact]
    rfl

/-- One window and one master, with a gap of 4 pixels. -/
theorem stacking_covers_iff_one :
    let cfg := { Rwl.plainConfig [] [] with gaps_px := 4 }
    let mon := smallMonitor cfg 1
    let a := inset cfg true mon 1
    Covers a.gp (insetBox mon a.gp) (cells a.bw (tile a mon [1])) := by
  intro cfg mon a
  have h := stacking_covers_iff cfg true mon [1] (by decide) (by decide +kernel) (by decide)
    (by decide +kernel) (by decide +kernel)
  exact (h.1 (by decide +kernel)).2 (.inl (by decide))

/-- Without a master the only window of the tile layout stands right of a dead area. -/
theorem not_stacking_covers :
    let cfg := Rwl.plainConfig [] []
    let mon := smallMonitor cfg 0
    let a := inset cfg true mon 1
    tileFits a mon [1] ∧ ¬Covers a.gp (insetBox mon a.gp) (cells a.bw (tile a mon [1])) := by
  intro cfg mon a
  refine ⟨by decide +kernel, fun h => ?_⟩
  have hleft : ¬∃ c ∈ cells a.bw (tile a mon [1]), c.x = (insetBox mon a.gp).x := by
    decide +kernel
  exact hleft h.left

end layout

end Compositor
