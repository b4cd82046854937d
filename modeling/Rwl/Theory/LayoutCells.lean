import Rwl.Lib.Writes
import Rwl.Core.Step

/-!
# One cell for each window

The layouts return one rectangle for each tiled window, in tiling order.

* `share`, `columnCell`, `rowCell`: the cell of a window in a column or a row from its own size
  factor, the pixels used before it and the factors after it;
* `tileCell`, `bstackCell`, `centeredCell`, `luaCell`: the cell of the window at a tiling
  position;
* `centeredWrites`: the writes of `centeredmaster::arrange`, every position once;
* `Roomy`: both sides are at least one pixel;
* `arrange_well_formed`: the length, the order and the sizes of what `arrange` returns.
-/

namespace Compositor

open Writes

namespace layout

/-! ### Weighted columns and rows -/

/-- What `weighted_spans` gives the weight `f` of `total` pixels, before the weights `rest`. -/
def share (total : ℤ) (f : ℚ) (rest : List ℚ) : ℤ :=
  let remaining : ℚ := ((f :: rest).map (max · 0)).sum
  if 0 < remaining then roundAway (total * (max f 0 / remaining))
  else total.tdiv (rest.length + 1 : ℕ)

/-- The pixels `weighted_spans` has used before the weight at `k`. -/
def usedBefore (total : ℤ) (cf : List ℚ) (k : ℕ) : ℤ := ((weighted_spans total cf).take k).sum

@[simp] theorem usedBefore_zero (total : ℤ) (cf : List ℚ) : usedBefore total cf 0 = 0 := rfl

@[simp] theorem weighted_spans_cons (total : ℤ) (f : ℚ) (cf : List ℚ) :
    weighted_spans total (f :: cf) =
      share total f cf :: weighted_spans (total - share total f cf) cf :=
  rfl

theorem usedBefore_succ (total : ℤ) (f : ℚ) (cf : List ℚ) (k : ℕ) :
    usedBefore total (f :: cf) (k + 1) =
      share total f cf + usedBefore (total - share total f cf) cf k := by
  simp [usedBefore]

theorem getElem?_weighted_spans (total : ℤ) (cf : List ℚ) (k : ℕ) :
    (weighted_spans total cf)[k]? =
      cf[k]?.map fun f => share (total - usedBefore total cf k) f (cf.drop (k + 1)) := by
  induction cf generalizing total k with
  | nil => rfl
  | cons f cf ih =>
    cases k with
    | zero => simp
    | succ k =>
      rw [weighted_spans_cons, List.getElem?_cons_succ, ih, usedBefore_succ]
      simp [sub_sub]

theorem getElem?_offsets (gp start : ℤ) (ss : List ℤ) (k : ℕ) :
    (offsets gp start ss)[k]? = ss[k]?.map fun s => (start + ((ss.take k).sum + k * gp), s) := by
  induction ss generalizing start k with
  | nil => rfl
  | cons s ss ih =>
    cases k with
    | zero => simp [offsets]
    | succ k =>
      rw [offsets, List.getElem?_cons_succ, ih]
      simp only [List.getElem?_cons_succ, List.take_succ_cons, List.sum_cons]
      congr 1
      funext t
      congr 1
      push_cast
      ring

/-- The cell of a window with the factor `f` at place `k` of a column with the factors `cf`. -/
def columnCell (a : Inset) (cf : List ℚ) (col_x col_w : ℤ) (k : ℕ) (f : ℚ) : Rect :=
  let total := a.h - (cf.length - 1) * a.gp
  let used := usedBefore total cf k
  bordered a.bw col_x (a.y + (used + k * a.gp)) col_w (share (total - used) f (cf.drop (k + 1)))

/-- The cell of a window with the factor `f` at place `k` of a row with the factors `cf`. -/
def rowCell (a : Inset) (cf : List ℚ) (row_y row_h : ℤ) (k : ℕ) (f : ℚ) : Rect :=
  let total := a.w - (cf.length - 1) * a.gp
  let used := usedBefore total cf k
  bordered a.bw (a.x + (used + k * a.gp)) row_y (share (total - used) f (cf.drop (k + 1))) row_h

theorem getElem?_column (a : Inset) (cf : List ℚ) (col_x col_w : ℤ) (k : ℕ) :
    (column a cf col_x col_w)[k]? = cf[k]?.map (columnCell a cf col_x col_w k) := by
  rw [column, List.getElem?_map, getElem?_offsets, getElem?_weighted_spans, Option.map_map,
    Option.map_map]
  congr 1
  funext f
  simp [columnCell, usedBefore]

theorem getElem?_row (a : Inset) (cf : List ℚ) (row_y row_h : ℤ) (k : ℕ) :
    (row a cf row_y row_h)[k]? = cf[k]?.map (rowCell a cf row_y row_h k) := by
  rw [row, List.getElem?_map, getElem?_offsets, getElem?_weighted_spans, Option.map_map,
    Option.map_map]
  congr 1
  funext f
  simp [rowCell, usedBefore]

/-- Two columns one after the other hold the windows of a split list in order. -/
theorem getElem?_columns {a : Inset} {cf : List ℚ} {m i : ℕ} {f : ℚ} {x₁ w₁ x₂ w₂ : ℤ}
    (hm : m ≤ cf.length) (hf : cf[i]? = some f) :
    (column a (cf.take m) x₁ w₁ ++ column a (cf.drop m) x₂ w₂)[i]? =
      some (if i < m then columnCell a (cf.take m) x₁ w₁ i f
        else columnCell a (cf.drop m) x₂ w₂ (i - m) f) := by
  have hlen : (column a (cf.take m) x₁ w₁).length = m := by simp [hm]
  by_cases hi : i < m
  · rw [List.getElem?_append_left (by rw [hlen]; exact hi), getElem?_column,
      List.getElem?_take_of_lt hi, hf, if_pos hi]
    rfl
  · have hdrop : (cf.drop m)[i - m]? = some f := by
      rw [List.getElem?_drop, Nat.add_sub_cancel' (not_lt.mp hi), hf]
    rw [List.getElem?_append_right (by rw [hlen]; exact not_lt.mp hi), hlen, getElem?_column, hdrop,
      if_neg hi]
    rfl

theorem getElem?_rows {a : Inset} {cf : List ℚ} {m i : ℕ} {f : ℚ} {y₁ h₁ y₂ h₂ : ℤ}
    (hm : m ≤ cf.length) (hf : cf[i]? = some f) :
    (row a (cf.take m) y₁ h₁ ++ row a (cf.drop m) y₂ h₂)[i]? =
      some (if i < m then rowCell a (cf.take m) y₁ h₁ i f
        else rowCell a (cf.drop m) y₂ h₂ (i - m) f) := by
  have hlen : (row a (cf.take m) y₁ h₁).length = m := by simp [hm]
  by_cases hi : i < m
  · rw [List.getElem?_append_left (by rw [hlen]; exact hi), getElem?_row,
      List.getElem?_take_of_lt hi, hf, if_pos hi]
    rfl
  · have hdrop : (cf.drop m)[i - m]? = some f := by
      rw [List.getElem?_drop, Nat.add_sub_cancel' (not_lt.mp hi), hf]
    rw [List.getElem?_append_right (by rw [hlen]; exact not_lt.mp hi), hlen, getElem?_row, hdrop,
      if_neg hi]
    rfl

/-! ### Tile and bottom stack -/

/-- How many of `n` windows go to the master area. -/
def masters (mon : Monitor) (n : ℕ) : ℕ := min n (max mon.nmaster 0).toNat

theorem masters_le (mon : Monitor) (n : ℕ) : masters mon n ≤ n := Nat.min_le_left _ _

/-- The master width, the stack's `x` and the stack width of `tile`. -/
def tileSplit (a : Inset) (mon : Monitor) (n : ℕ) : ℤ × ℤ × ℤ :=
  if 0 < n - (max mon.nmaster 0).toNat then
    let mw := roundAway ((a.w - a.gp : ℤ) * clampQ mon.mfact (5 / 100) (95 / 100))
    (mw, a.x + mw + a.gp, max (a.w - mw - a.gp) 1)
  else (a.w, a.x, 0)

/-- The cell of the window at `i` in the tile layout. -/
def tileCell (a : Inset) (mon : Monitor) (cf : List ℚ) (i : ℕ) (f : ℚ) : Rect :=
  let m := masters mon cf.length
  let cols := tileSplit a mon cf.length
  if i < m then columnCell a (cf.take m) a.x cols.1 i f
  else columnCell a (cf.drop m) cols.2.1 cols.2.2 (i - m) f

theorem getElem?_tile (a : Inset) (mon : Monitor) (cf : List ℚ) {i : ℕ} {f : ℚ}
    (hf : cf[i]? = some f) : (tile a mon cf)[i]? = some (tileCell a mon cf i f) :=
  getElem?_columns (masters_le mon cf.length) hf

/-- The master height, the stack's `y` and the stack height of `bstack`. -/
def bstackSplit (a : Inset) (mon : Monitor) (n : ℕ) : ℤ × ℤ × ℤ :=
  if 0 < n - (max mon.nmaster 0).toNat then
    let mh := roundAway ((a.h - a.gp : ℤ) * clampQ mon.mfact (5 / 100) (95 / 100))
    (mh, a.y + mh + a.gp, max (a.h - mh - a.gp) 1)
  else (a.h, a.y, 0)

/-- The cell of the window at `i` in the bottom stack layout; two windows stand side by side. -/
def bstackCell (a : Inset) (mon : Monitor) (cf : List ℚ) (i : ℕ) (f : ℚ) : Rect :=
  if cf.length = 2 ∧ 0 < cf.length - (max mon.nmaster 0).toNat then
    let cols := tileSplit a mon cf.length
    if i = 0 then bordered a.bw a.x a.y cols.1 a.h else bordered a.bw cols.2.1 a.y cols.2.2 a.h
  else
    let m := masters mon cf.length
    let bands := bstackSplit a mon cf.length
    if i < m then rowCell a (cf.take m) a.y bands.1 i f
    else rowCell a (cf.drop m) bands.2.1 bands.2.2 (i - m) f

theorem getElem?_bstack (a : Inset) (mon : Monitor) (cf : List ℚ) {i : ℕ} {f : ℚ}
    (hf : cf[i]? = some f) : (bstack a mon cf)[i]? = some (bstackCell a mon cf i f) := by
  unfold bstack bstackCell
  dsimp only
  by_cases htwo : cf.length = 2 ∧ 0 < cf.length - (max mon.nmaster 0).toNat
  · have hi : i < 2 := htwo.1 ▸ (List.getElem?_eq_some_iff.mp hf).1
    rw [if_pos htwo, if_pos htwo, tileSplit, if_pos htwo.2]
    rcases Nat.lt_succ_iff_lt_or_eq.mp hi with hi | rfl
    · obtain rfl : i = 0 := Nat.lt_one_iff.mp hi
      rfl
    · rfl
  · rw [if_neg htwo, if_neg htwo]
    exact getElem?_rows (masters_le mon cf.length) hf

/-! ### Columns, scrolled columns and the dwindling spiral -/

/-- The offset and the width of the column at `k`, before the border. -/
def colSpan (usable_w gp x_offset : ℤ) (fs : List ℚ) (k : ℕ) (f : ℚ) : ℤ × ℤ :=
  let x := x_offset + ((fs.take k).map fun g => roundAway (usable_w * g) + gp).sum
  (x, if k + 1 = fs.length then usable_w - x else roundAway (usable_w * f))

theorem getElem?_colSpans (usable_w gp x_offset : ℤ) (fs : List ℚ) (k : ℕ) :
    (colSpans usable_w gp x_offset fs)[k]? =
      fs[k]?.map (colSpan usable_w gp x_offset fs k) := by
  induction fs generalizing x_offset k with
  | nil => rfl
  | cons f fs ih =>
    cases fs with
    | nil =>
      cases k with
      | zero => simp [colSpans, colSpan]
      | succ k => rfl
    | cons g fs =>
      cases k with
      | zero => simp [colSpans, colSpan]
      | succ k =>
        have hcons : colSpans usable_w gp x_offset (f :: g :: fs) =
            (x_offset, roundAway (usable_w * f)) ::
              colSpans usable_w gp (x_offset + roundAway (usable_w * f) + gp) (g :: fs) := rfl
        rw [hcons, List.getElem?_cons_succ, ih, List.getElem?_cons_succ]
        congr 1
        funext t
        simp [colSpan, add_assoc]

/-- The fractions `col` divides the width by. -/
def colFacts (mon : Monitor) (n : ℕ) : List ℚ :=
  if mon.col_facts.length = n then mon.col_facts else List.replicate n (1 / n : ℚ)

theorem length_colFacts (mon : Monitor) (n : ℕ) : (colFacts mon n).length = n := by
  unfold colFacts
  split_ifs with h
  · exact h
  · simp

/-- The cell of the window at `i` of `n` in the column layout. -/
def colCell (a : Inset) (mon : Monitor) (n i : ℕ) : Rect :=
  let usable_w := max (a.w - (n - 1) * a.gp) 1
  let facts := colFacts mon n
  let span := colSpan usable_w a.gp 0 facts i (facts.getD i 0)
  Rect.of (a.x + span.1 + a.bw) (a.y + a.bw) (max (span.2 - 2 * a.bw) 1) (max (a.h - 2 * a.bw) 1)

theorem getElem?_col (a : Inset) (mon : Monitor) {n i : ℕ} (hi : i < n) :
    (col a mon n)[i]? = some (colCell a mon n i) := by
  have hlen := length_colFacts mon n
  have hfact : (colFacts mon n)[i]? = some ((colFacts mon n).getD i 0) := by
    rw [List.getD_eq_getElem _ _ (hlen.symm ▸ hi), List.getElem?_eq_getElem (hlen.symm ▸ hi)]
  have hspan := getElem?_colSpans (max (a.w - (n - 1) * a.gp) 1) a.gp 0 (colFacts mon n) i
  rw [hfact] at hspan
  unfold col
  simp only [List.getElem?_map, ← colFacts.eq_def, hspan]
  rfl

/-- The width of the columns of `scroll`. -/
def scrollWidth (a : Inset) (mon : Monitor) : ℤ :=
  max (roundAway (a.w * clampQ mon.mfact (5 / 100) (95 / 100))) 1

/-- How far `scroll` shifts `n` columns to the left. -/
def scrollOffset (a : Inset) (mon : Monitor) (n : ℕ) : ℤ :=
  let col_w := scrollWidth a mon
  clampZ ((min mon.scroll_col (n - 1) : ℕ) * (col_w + a.gp) + col_w.tdiv 2 - a.w.tdiv 2) 0
    (max (col_w * n + a.gp * (n - 1) - a.w) 0)

/-- The cell of the window at `i` of `n` in the scroll layout. -/
def scrollCell (a : Inset) (mon : Monitor) (n i : ℕ) : Rect :=
  if n = 1 then Rect.of a.x a.y a.w a.h
  else
    bordered a.bw (a.x + i * (scrollWidth a mon + a.gp) - scrollOffset a mon n) a.y
      (scrollWidth a mon) a.h

theorem getElem?_scroll (a : Inset) (mon : Monitor) {n i : ℕ} (hi : i < n) :
    (scroll a mon n)[i]? = some (scrollCell a mon n i) := by
  unfold scroll scrollCell
  by_cases hn : n = 1
  · subst hn
    obtain rfl : i = 0 := by omega
    simp
  · have hcast : (do let k ← List.range n; pure (k : ℤ)) = (List.range n).map Nat.cast :=
      List.map_eq_flatMap.symm
    simp only [if_neg hn, hcast, List.getElem?_map, List.getElem?_range hi]
    rfl

/-- What `dwindle` still has to divide: `x`, `y`, width and height. -/
abbrev Region := ℤ × ℤ × ℤ × ℤ

/-- The part of the region that window `i` takes when it is not the last. -/
def dwindlePart (a : Inset) (mfact : ℚ) (i : ℕ) (r : Region) : Region :=
  if i % 2 = 0 then
    let ratio := if i = 0 then mfact else 1 / 2
    (r.1, r.2.1, max (roundAway ((max (r.2.2.1 - a.gp) 1 : ℤ) * ratio)) 1, r.2.2.2)
  else (r.1, r.2.1, r.2.2.1, max (roundAway ((max (r.2.2.2 - a.gp) 1 : ℤ) * (1 / 2))) 1)

/-- What window `i` leaves: even windows split to the right, odd ones downwards. -/
def dwindleRest (a : Inset) (mfact : ℚ) (i : ℕ) (r : Region) : Region :=
  let part := dwindlePart a mfact i r
  if i % 2 = 0 then
    (r.1 + part.2.2.1 + a.gp, r.2.1, max (r.2.2.1 - part.2.2.1 - a.gp) 1, r.2.2.2)
  else (r.1, r.2.1 + part.2.2.2 + a.gp, r.2.2.1, max (r.2.2.2 - part.2.2.2 - a.gp) 1)

/-- The region after `k` splits from window `i` on. -/
def dwindleRegion (a : Inset) (mfact : ℚ) : ℕ → ℕ → Region → Region
  | _, 0, r => r
  | i, k + 1, r => dwindleRegion a mfact (i + 1) k (dwindleRest a mfact i r)

/-- A region with the border taken off. -/
def Region.bordered (bw : ℤ) (r : Region) : Rect := layout.bordered bw r.1 r.2.1 r.2.2.1 r.2.2.2

/-- The cell `k` windows after window `i`, of `left` windows in the region `r`. -/
def dwindleCellFrom (a : Inset) (mfact : ℚ) (i left k : ℕ) (r : Region) : Rect :=
  let here := dwindleRegion a mfact i k r
  if k + 1 = left then Region.bordered a.bw here
  else Region.bordered a.bw (dwindlePart a mfact (i + k) here)

theorem dwindleFrom_succ (a : Inset) (mfact : ℚ) (i left : ℕ) (r : Region) :
    dwindleFrom a mfact i (left + 2) r.1 r.2.1 r.2.2.1 r.2.2.2 =
      Region.bordered a.bw (dwindlePart a mfact i r) ::
        let rest := dwindleRest a mfact i r
        dwindleFrom a mfact (i + 1) (left + 1) rest.1 rest.2.1 rest.2.2.1 rest.2.2.2 := by
  by_cases hi : i % 2 = 0
  · simp only [dwindleFrom, if_pos hi, dwindleRest, dwindlePart, Region.bordered]
  · simp only [dwindleFrom, if_neg hi, dwindleRest, dwindlePart, Region.bordered]

theorem getElem?_dwindleFrom (a : Inset) (mfact : ℚ) {i left k : ℕ} (r : Region)
    (hk : k < left) :
    (dwindleFrom a mfact i left r.1 r.2.1 r.2.2.1 r.2.2.2)[k]? =
      some (dwindleCellFrom a mfact i left k r) := by
  induction k generalizing i left r with
  | zero =>
    cases left with
    | zero => omega
    | succ left =>
      cases left with
      | zero => rfl
      | succ left =>
        rw [dwindleFrom_succ]
        simp [dwindleCellFrom, dwindleRegion]
  | succ k ih =>
    cases left with
    | zero => omega
    | succ left =>
      cases left with
      | zero => omega
      | succ left =>
        rw [dwindleFrom_succ, List.getElem?_cons_succ, ih _ (Nat.lt_of_succ_lt_succ hk)]
        simp [dwindleCellFrom, dwindleRegion, Nat.add_right_comm i 1 k, Nat.add_assoc]

/-- The cell of the window at `i` of `n` in the dwindle layout. -/
def dwindleCell (a : Inset) (mon : Monitor) (n i : ℕ) : Rect :=
  if n = 1 then Rect.of a.x a.y a.w a.h
  else
    dwindleCellFrom a (clampQ mon.mfact (5 / 100) (95 / 100)) 0 n i (a.x, a.y, a.w, a.h)

theorem getElem?_dwindle (a : Inset) (mon : Monitor) {n i : ℕ} (hi : i < n) :
    (dwindle a mon n)[i]? = some (dwindleCell a mon n i) := by
  unfold dwindle dwindleCell
  by_cases hn : n = 1
  · subst hn
    obtain rfl : i = 0 := by omega
    simp
  · simp only [if_neg hn]
    exact getElem?_dwindleFrom a _ (a.x, a.y, a.w, a.h) hi

/-! ### The centred master -/

theorem getElem?_evens {α : Type*} (l : List α) (k : ℕ) : (evens l)[k]? = l[2 * k]? := by
  induction l using evens.induct generalizing k with
  | case1 => simp [evens]
  | case2 x => cases k <;> simp [evens, Nat.mul_add]
  | case3 x y l ih => cases k <;> simp [evens, Nat.mul_add, ih]

theorem getElem?_odds {α : Type*} (l : List α) (k : ℕ) : (odds l)[k]? = l[2 * k + 1]? := by
  induction l using odds.induct generalizing k with
  | case1 => simp [odds]
  | case2 x => simp [odds]
  | case3 x y l ih => cases k <;> simp [odds, Nat.mul_add, ih]

theorem length_evens {α : Type*} (l : List α) : (evens l).length = (l.length + 1) / 2 := by
  induction l using evens.induct with
  | case1 => simp [evens]
  | case2 x => simp [evens]
  | case3 x y l ih =>
    simp only [evens, List.length_cons, ih]
    omega

theorem length_odds {α : Type*} (l : List α) : (odds l).length = l.length / 2 := by
  have hsum := length_evens_add_odds l
  have heven := length_evens l
  omega

/-- In turn from two lists, the first as long as the second or one longer. -/
theorem getElem?_interleave {α : Type*} (xs ys : List α) (k : ℕ)
    (hlen : ys.length ≤ xs.length) (hone : xs.length ≤ ys.length + 1) :
    (interleave xs ys)[2 * k]? = xs[k]? ∧ (interleave xs ys)[2 * k + 1]? = ys[k]? := by
  induction xs, ys using interleave.induct generalizing k with
  | case1 ys =>
    obtain rfl : ys = [] := List.length_eq_zero_iff.mp (Nat.le_zero.mp hlen)
    simp [interleave]
  | case2 xs hne =>
    -- `xs` has one element
    rcases xs with _ | ⟨x, _ | ⟨y, xs⟩⟩
    · exact absurd rfl hne
    · cases k <;> simp [interleave, Nat.mul_add]
    · simp at hone
  | case3 x xs y ys ih =>
    have hrest := fun k => ih k (by simpa using hlen) (by simpa using hone)
    cases k with
    | zero => simp [interleave]
    | succ k => simpa [interleave, Nat.mul_add] using hrest k

/-- The factors of the right column, every second one from the first stack window. -/
def rightFactors (mcount : ℕ) (cf : List ℚ) : List ℚ := evens (cf.drop mcount)

/-- The factors of the left column, every second one from the second stack window. -/
def leftFactors (mcount : ℕ) (cf : List ℚ) : List ℚ := odds (cf.drop mcount)

theorem getElem?_rightFactors (mcount : ℕ) (cf : List ℚ) (k : ℕ) :
    (rightFactors mcount cf)[k]? = cf[mcount + 2 * k]? := by
  rw [rightFactors, getElem?_evens, List.getElem?_drop]

theorem getElem?_leftFactors (mcount : ℕ) (cf : List ℚ) (k : ℕ) :
    (leftFactors mcount cf)[k]? = cf[mcount + 2 * k + 1]? := by
  rw [leftFactors, getElem?_odds, List.getElem?_drop, Nat.add_assoc]

/-- The three columns of `centeredmaster` for `n` windows. -/
def centeredSplit (a : Inset) (mon : Monitor) (n : ℕ) : (ℤ × ℤ) × (ℤ × ℤ) × (ℤ × ℤ) :=
  centeredColumns a (clampQ mon.mfact (5 / 100) (95 / 100)) (masters mon n) (n - masters mon n)

/-- The writes of `centeredmaster::arrange`: the master column, then the right one, then the
left one. -/
def centeredWrites (a : Inset) (mon : Monitor) (cf : List ℚ) : List (ℕ × Rect) :=
  let mcount := masters mon cf.length
  let cols := centeredSplit a mon cf.length
  strided 0 1 (column a (cf.take mcount) cols.1.1 cols.1.2) ++
    strided mcount 2 (column a (rightFactors mcount cf) cols.2.2.1 cols.2.2.2) ++
    strided (mcount + 1) 2 (column a (leftFactors mcount cf) cols.2.1.1 cols.2.1.2)

/-- The cell of the window at `i`: in the master column, or in turn right and left. -/
def centeredCell (a : Inset) (mon : Monitor) (cf : List ℚ) (i : ℕ) (f : ℚ) : Rect :=
  let mcount := masters mon cf.length
  let cols := centeredSplit a mon cf.length
  if i < mcount then columnCell a (cf.take mcount) cols.1.1 cols.1.2 i f
  else if (i - mcount) % 2 = 0 then
    columnCell a (rightFactors mcount cf) cols.2.2.1 cols.2.2.2 ((i - mcount) / 2) f
  else columnCell a (leftFactors mcount cf) cols.2.1.1 cols.2.1.2 ((i - mcount) / 2) f

theorem length_rightFactors (mcount : ℕ) (cf : List ℚ) :
    (rightFactors mcount cf).length = (cf.length - mcount + 1) / 2 := by
  rw [rightFactors, length_evens, List.length_drop]

theorem length_leftFactors (mcount : ℕ) (cf : List ℚ) :
    (leftFactors mcount cf).length = (cf.length - mcount) / 2 := by
  rw [leftFactors, length_odds, List.length_drop]

/-- The windows of a position at or after the masters, by its side and its place there. -/
theorem side_position {mcount i : ℕ} (hi : mcount ≤ i) :
    (i - mcount) % 2 = 0 ∧ i = mcount + 2 * ((i - mcount) / 2) ∨
      (i - mcount) % 2 ≠ 0 ∧ i = mcount + 2 * ((i - mcount) / 2) + 1 := by
  omega

theorem getElem?_centeredmaster (a : Inset) (mon : Monitor) (cf : List ℚ) {i : ℕ} {f : ℚ}
    (hf : cf[i]? = some f) :
    (centeredmaster a mon cf)[i]? = some (centeredCell a mon cf i f) := by
  set mcount := masters mon cf.length with hmcount
  set cols := centeredSplit a mon cf.length with hcols
  set right := column a (rightFactors mcount cf) cols.2.2.1 cols.2.2.2 with hright
  set left := column a (leftFactors mcount cf) cols.2.1.1 cols.2.1.2 with hleft
  have hle : mcount ≤ cf.length := masters_le mon cf.length
  have heq : centeredmaster a mon cf =
      column a (cf.take mcount) cols.1.1 cols.1.2 ++ interleave right left := rfl
  have hlen : (column a (cf.take mcount) cols.1.1 cols.1.2).length = mcount := by simp [hle]
  have hturn := fun k => getElem?_interleave right left k
    (by simp only [hright, hleft, length_column, length_rightFactors, length_leftFactors]; omega)
    (by simp only [hright, hleft, length_column, length_rightFactors, length_leftFactors]; omega)
  have hcell : centeredCell a mon cf i f =
      if i < mcount then columnCell a (cf.take mcount) cols.1.1 cols.1.2 i f
      else if (i - mcount) % 2 = 0 then
        columnCell a (rightFactors mcount cf) cols.2.2.1 cols.2.2.2 ((i - mcount) / 2) f
      else columnCell a (leftFactors mcount cf) cols.2.1.1 cols.2.1.2 ((i - mcount) / 2) f := rfl
  rw [heq, hcell]
  by_cases hi : i < mcount
  · rw [List.getElem?_append_left (by rw [hlen]; exact hi), getElem?_column,
      List.getElem?_take_of_lt hi, hf, if_pos hi]
    rfl
  · rw [List.getElem?_append_right (by rw [hlen]; exact not_lt.mp hi), hlen, if_neg hi]
    rcases side_position (not_lt.mp hi) with ⟨heven, hpos⟩ | ⟨hodd, hpos⟩
    · have hk : i - mcount = 2 * ((i - mcount) / 2) := by omega
      have hown : (rightFactors mcount cf)[(i - mcount) / 2]? = some f := by
        rw [getElem?_rightFactors, ← hpos, hf]
      rw [if_pos heven, hk, (hturn _).1, ← hk, hright, getElem?_column, hown]
      rfl
    · have hk : i - mcount = 2 * ((i - mcount) / 2) + 1 := by omega
      have hown : (leftFactors mcount cf)[(i - mcount) / 2]? = some f := by
        rw [getElem?_leftFactors, ← hpos, hf]
      rw [if_neg hodd]
      nth_rewrite 1 [hk]
      rw [(hturn _).2, hleft, getElem?_column, hown]
      rfl

theorem keys_centeredWrites (a : Inset) (mon : Monitor) (cf : List ℚ) :
    (centeredWrites a mon cf).map Prod.fst =
      (List.range (masters mon cf.length)).map (0 + 1 * ·) ++
        (List.range ((cf.length - masters mon cf.length + 1) / 2)).map
          (masters mon cf.length + 2 * ·) ++
        (List.range ((cf.length - masters mon cf.length) / 2)).map
          (masters mon cf.length + 1 + 2 * ·) := by
  have hle := masters_le mon cf.length
  simp only [centeredWrites, List.map_append, keys_strided, length_column, length_rightFactors,
    length_leftFactors, List.length_take, Nat.min_eq_left hle]

/-- Every position is written, and once. -/
theorem perm_centeredWrites (a : Inset) (mon : Monitor) (cf : List ℚ) :
    ((centeredWrites a mon cf).map Prod.fst).Perm (List.range cf.length) := by
  have hle := masters_le mon cf.length
  rw [keys_centeredWrites]
  apply perm_range_of_nodup
  · have hinj : ∀ b c : ℕ, 0 < c → Function.Injective (b + c * ·) := by
      intro b c hc x y hxy
      exact Nat.eq_of_mul_eq_mul_left hc (Nat.add_left_cancel hxy)
    rw [List.append_assoc, List.nodup_append, List.nodup_append]
    refine ⟨List.nodup_range.map (hinj _ _ Nat.one_pos),
      ⟨List.nodup_range.map (hinj _ _ Nat.two_pos), List.nodup_range.map (hinj _ _ Nat.two_pos),
        ?_⟩, ?_⟩
    · intro x hx y hy
      simp only [List.mem_map] at hx hy
      omega
    · intro x hx y hy
      simp only [List.mem_map, List.mem_append, List.mem_range] at hx hy
      omega
  · intro k hk
    simp only [List.mem_append, List.mem_map, List.mem_range] at hk
    omega
  · simp only [List.length_append, List.length_map, List.length_range]
    omega

/-- The write at a position is the cell of the window there. -/
theorem mem_centeredWrites (a : Inset) (mon : Monitor) (cf : List ℚ) {i : ℕ} {f : ℚ}
    (hf : cf[i]? = some f) :
    (i, centeredCell a mon cf i f) ∈ centeredWrites a mon cf := by
  simp only [centeredWrites, centeredCell, List.mem_append]
  set mcount := masters mon cf.length
  set cols := centeredSplit a mon cf.length
  by_cases hi : i < mcount
  · rw [if_pos hi]
    have hown : (column a (cf.take mcount) cols.1.1 cols.1.2)[i]? =
        some (columnCell a (cf.take mcount) cols.1.1 cols.1.2 i f) := by
      rw [getElem?_column, List.getElem?_take_of_lt hi, hf]
      rfl
    have hmem := mem_strided 0 1 hown
    rw [Nat.zero_add, Nat.one_mul] at hmem
    exact .inl (.inl hmem)
  · rw [if_neg hi]
    rcases side_position (not_lt.mp hi) with ⟨heven, hpos⟩ | ⟨hodd, hpos⟩
    · rw [if_pos heven]
      have hown : (rightFactors mcount cf)[(i - mcount) / 2]? = some f := by
        rw [getElem?_rightFactors, ← hpos, hf]
      have hmem := mem_strided mcount 2
        (getElem?_column a (rightFactors mcount cf) cols.2.2.1 cols.2.2.2 ((i - mcount) / 2) ▸
          congrArg (Option.map _) hown)
      rw [← hpos] at hmem
      exact .inl (.inr hmem)
    · rw [if_neg hodd]
      have hown : (leftFactors mcount cf)[(i - mcount) / 2]? = some f := by
        rw [getElem?_leftFactors, ← hpos, hf]
      have hmem := mem_strided (mcount + 1) 2
        (getElem?_column a (leftFactors mcount cf) cols.2.1.1 cols.2.1.2 ((i - mcount) / 2) ▸
          congrArg (Option.map _) hown)
      rw [Nat.add_right_comm, ← hpos] at hmem
      exact .inr hmem

/-- Performing the writes of the source builds the columns in tiling order. -/
theorem writeAll_centeredWrites (a : Inset) (mon : Monitor) (cf : List ℚ) :
    writeAll (List.replicate cf.length Rect.zero) (centeredWrites a mon cf) =
      centeredmaster a mon cf := by
  have hnd : ((centeredWrites a mon cf).map Prod.fst).Nodup :=
    (perm_centeredWrites a mon cf).nodup_iff.mpr List.nodup_range
  have hlen : (centeredmaster a mon cf).length = cf.length := length_centeredmaster a mon cf
  apply List.ext_getElem?
  intro i
  by_cases hi : i < cf.length
  · have hf : cf[i]? = some cf[i] := List.getElem?_eq_getElem hi
    rw [getElem?_centeredmaster a mon cf hf]
    exact getElem?_writeAll hnd (mem_centeredWrites a mon cf hf) (by simpa using hi)
  · have hout := not_lt.mp hi
    rw [List.getElem?_eq_none (by rw [length_writeAll, List.length_replicate]; exact hout),
      List.getElem?_eq_none (by rw [hlen]; exact hout)]

/-! ### The callback -/

/-- The cell of the window at `i` of `n` from what the callback returned. -/
def luaCell (cfg : Config) (mon : Monitor) (n : ℕ) (ret : Option (List LuaRect)) (i : ℕ) : Rect :=
  let area := mon.w
  let bw : ℤ := if 1 < n ∧ cfg.border_px < 2 ^ 31 then cfg.border_px else 0
  let getf (v : Option ℚ) (d : ℤ) : ℤ := (v.map roundAway).getD d
  match ret.bind fun rs => if n ≤ rs.length then rs[i]? else none with
  | some r =>
      Rect.of (getf r.x area.loc.x + bw) (getf r.y area.loc.y + bw)
        (max (getf r.w area.size.w - 2 * bw) 1) (max (getf r.h area.size.h - 2 * bw) 1)
  | none => area

theorem getElem?_lua_arrange (cfg : Config) (mon : Monitor) {n i : ℕ}
    (ret : Option (List LuaRect)) (hi : i < n) :
    (lua_arrange cfg mon n ret)[i]? = some (luaCell cfg mon n ret i) := by
  unfold lua_arrange luaCell
  cases ret with
  | none => simp [hi]
  | some rs =>
    by_cases hn : n ≤ rs.length
    · obtain ⟨r, hr⟩ : ∃ r, rs[i]? = some r :=
        ⟨_, List.getElem?_eq_getElem (lt_of_lt_of_le hi hn)⟩
      simp only [if_pos hn, Option.bind_some, List.getElem?_map, List.getElem?_take_of_lt hi, hr]
      rfl
    · simp [hn, hi]

/-! ### Every layout -/

/-- The cell of the window at the tiling position `i` with the factor `f`. -/
def cellOf (cfg : Config) (gaps_enabled : Bool) (lua : Option (List LuaRect)) (mon : Monitor)
    (cf : List ℚ) (i : ℕ) (f : ℚ) : Rect :=
  let n := cf.length
  let a := inset cfg gaps_enabled mon n
  match mon.layout_kind cfg with
  | .Tile => tileCell a mon cf i f
  | .Monocle =>
      Rect.of mon.w.loc.x mon.w.loc.y (max (mon.w.size.w - 2) 1) (max (mon.w.size.h - 2) 1)
  | .Col => colCell a mon n i
  | .Scroll => scrollCell a mon n i
  | .Dwindle => dwindleCell a mon n i
  | .Bstack => bstackCell a mon cf i f
  | .CenteredMaster => centeredCell a mon cf i f
  | .Lua => luaCell cfg mon n lua i

theorem getElem?_arrange (cfg : Config) (gaps_enabled : Bool) (lua : Option (List LuaRect))
    (mon : Monitor) (cf : List ℚ) {i : ℕ} {f : ℚ} (hf : cf[i]? = some f) :
    (arrange cfg gaps_enabled lua mon cf)[i]? =
      some (cellOf cfg gaps_enabled lua mon cf i f) := by
  have hi : i < cf.length := (List.getElem?_eq_some_iff.mp hf).1
  have hn : cf.length ≠ 0 := Nat.ne_zero_of_lt hi
  unfold arrange cellOf
  dsimp only
  rw [if_neg hn]
  cases mon.layout_kind cfg with
  | Tile => exact getElem?_tile _ mon cf hf
  | Monocle => simp [monocle, hi]
  | Col => exact getElem?_col _ mon hi
  | Scroll => exact getElem?_scroll _ mon hi
  | Dwindle => exact getElem?_dwindle _ mon hi
  | Bstack => exact getElem?_bstack _ mon cf hf
  | CenteredMaster => exact getElem?_centeredmaster _ mon cf hf
  | Lua => exact getElem?_lua_arrange cfg mon lua hi

/-- Both sides are at least one pixel. -/
def Roomy (r : Rect) : Prop := 1 ≤ r.size.w ∧ 1 ≤ r.size.h

instance (r : Rect) : Decidable (Roomy r) := inferInstanceAs (Decidable (_ ∧ _))

theorem roomy_of_max (x y w h : ℤ) : Roomy (Rect.of x y (max w 1) (max h 1)) :=
  ⟨le_max_right w 1, le_max_right h 1⟩

theorem roomy_bordered (bw x y w h : ℤ) : Roomy (bordered bw x y w h) :=
  roomy_of_max _ _ _ _

theorem roomy_inset (cfg : Config) (gaps_enabled : Bool) (mon : Monitor) (n : ℕ) :
    Roomy (Rect.of (inset cfg gaps_enabled mon n).x (inset cfg gaps_enabled mon n).y
      (inset cfg gaps_enabled mon n).w (inset cfg gaps_enabled mon n).h) :=
  roomy_of_max _ _ _ _

theorem roomy_cellOf (cfg : Config) (gaps_enabled : Bool) (lua : Option (List LuaRect))
    (mon : Monitor) (cf : List ℚ) (i : ℕ) (f : ℚ) (hwork : Roomy mon.w) :
    Roomy (cellOf cfg gaps_enabled lua mon cf i f) := by
  unfold cellOf
  dsimp only
  cases mon.layout_kind cfg with
  | Tile =>
    dsimp only [tileCell]
    split_ifs <;> exact roomy_bordered ..
  | Monocle => exact roomy_of_max ..
  | Col => exact roomy_of_max ..
  | Scroll =>
    dsimp only [scrollCell]
    split_ifs
    · exact roomy_inset ..
    · exact roomy_bordered ..
  | Dwindle =>
    dsimp only [dwindleCell, dwindleCellFrom, Region.bordered]
    split_ifs
    · exact roomy_inset ..
    all_goals exact roomy_bordered ..
  | Bstack =>
    dsimp only [bstackCell]
    split_ifs <;> exact roomy_bordered ..
  | CenteredMaster =>
    dsimp only [centeredCell]
    split_ifs <;> exact roomy_bordered ..
  | Lua =>
    dsimp only [luaCell]
    split
    · exact roomy_of_max ..
    · exact hwork

/-- `arrange` returns the cell of each window in tiling order, every cell at least one pixel wide
and high; the centred master writes every position once. -/
theorem arrange_well_formed (cfg : Config) (gaps_enabled : Bool) (lua : Option (List LuaRect))
    (mon : Monitor) (cf : List ℚ) (hw : 1 ≤ mon.w.size.w) (hh : 1 ≤ mon.w.size.h) :
    (arrange cfg gaps_enabled lua mon cf).length = cf.length ∧
      (∀ i f, cf[i]? = some f → (arrange cfg gaps_enabled lua mon cf)[i]? =
        some (cellOf cfg gaps_enabled lua mon cf i f)) ∧
      (mon.layout_kind cfg = .CenteredMaster →
        ((centeredWrites (inset cfg gaps_enabled mon cf.length) mon cf).map Prod.fst).Perm
            (List.range cf.length) ∧
          arrange cfg gaps_enabled lua mon cf = writeAll (List.replicate cf.length Rect.zero)
            (centeredWrites (inset cfg gaps_enabled mon cf.length) mon cf)) ∧
      ∀ r ∈ arrange cfg gaps_enabled lua mon cf, 1 ≤ r.size.w ∧ 1 ≤ r.size.h := by
  have hlen := length_arrange cfg gaps_enabled lua mon cf
  refine ⟨hlen, fun i f hf => getElem?_arrange cfg gaps_enabled lua mon cf hf, ?_, ?_⟩
  · intro hkind
    refine ⟨perm_centeredWrites _ mon cf, ?_⟩
    rw [writeAll_centeredWrites]
    unfold arrange
    dsimp only
    split_ifs with hn
    · rw [List.length_eq_zero_iff.mp hn]
      rfl
    · rw [hkind]
  · intro r hr
    obtain ⟨i, hi, rfl⟩ := List.mem_iff_getElem.mp hr
    obtain ⟨f, hf⟩ : ∃ f, cf[i]? = some f := ⟨_, List.getElem?_eq_getElem (hlen ▸ hi)⟩
    have hcell := getElem?_arrange cfg gaps_enabled lua mon cf hf
    rw [List.getElem?_eq_getElem hi, Option.some_inj] at hcell
    rw [hcell]
    exact roomy_cellOf cfg gaps_enabled lua mon cf i _ ⟨hw, hh⟩

/-- Four windows in the centred master layout of a small monitor. -/
theorem arrange_well_formed_small :
    let cfg := { Rwl.plainConfig [] [] with layouts := [⟨"|M|", .CenteredMaster⟩], gaps_px := 5 }
    let mon : Monitor := { Monitor.new cfg 0 "" with w := Rect.of 0 0 40 20 }
    1 ≤ mon.w.size.w ∧ 1 ≤ mon.w.size.h ∧
      (arrange cfg true none mon [1, 1, 2, 1]).length = 4 ∧
      ∀ r ∈ arrange cfg true none mon [1, 1, 2, 1], 1 ≤ r.size.w ∧ 1 ≤ r.size.h := by
  intro cfg mon
  have hw : 1 ≤ mon.w.size.w := by decide
  have hh : 1 ≤ mon.w.size.h := by decide
  have hall := arrange_well_formed cfg true none mon [1, 1, 2, 1] hw hh
  exact ⟨hw, hh, hall.1, hall.2.2.2⟩

end layout

end Compositor
