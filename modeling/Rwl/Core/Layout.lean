import Mathlib.Tactic.Common
import Mathlib.Algebra.BigOperators.Group.List.Basic
import Rwl.Core.Monitor

/-!
# Tiling layouts

One function a layout, from a monitor and the size factors of its tiled windows to a rectangle
for each window, in tiling order.

* `gaps.effective`, `Inset`: the gap, the border and the inset work area every layout starts
  from;
* `weighted_spans`, `column`: the proportional division that `tile`, `bstack` and
  `centeredmaster` share;
* `tile`, `monocle`, `col`, `scroll`, `dwindle`, `bstack`, `centeredmaster`, `lua_arrange`;
* `layout.arrange` and `layout.length_arrange`: one rectangle for each window.
-/

namespace Compositor

/-- One rectangle of an `on_arrange` result; a missing number falls back to the work area's. -/
structure LuaRect where
  x : Option ℚ
  y : Option ℚ
  w : Option ℚ
  h : Option ℚ
  deriving DecidableEq

/-- `gaps::effective`. -/
def gaps.effective (gaps_enabled : Bool) (n : ℕ) (smart_gaps : Bool) (gaps_px : ℕ) : ℤ :=
  if gaps_enabled ∧ (1 < n ∨ smart_gaps = false) then min (gaps_px : ℤ) (2 ^ 31 - 1) else 0

namespace layout

/-- The gap, the border and the work area inset by the gap. -/
structure Inset where
  gp : ℤ
  bw : ℤ
  x : ℤ
  y : ℤ
  w : ℤ
  h : ℤ

/-- The common prologue of the layouts. -/
def inset (cfg : Config) (gaps_enabled : Bool) (mon : Monitor) (n : ℕ) : Inset :=
  let gp := gaps.effective gaps_enabled n cfg.smart_gaps cfg.gaps_px
  { gp := gp
    bw := if 1 < n then Int.bmod cfg.border_px (2 ^ 32) else 0
    x := mon.w.loc.x + gp
    y := mon.w.loc.y + gp
    w := max (mon.w.size.w - 2 * gp) 1
    h := max (mon.w.size.h - 2 * gp) 1 }

/-- A cell shrunk by the border on every side. -/
def bordered (bw x y w h : ℤ) : Rect :=
  Rect.of (x + bw) (y + bw) (max (w - 2 * bw) 1) (max (h - 2 * bw) 1)

/-- `weighted_spans`: each weight takes its share of what is left. -/
def weighted_spans (total : ℤ) : List ℚ → List ℤ
  | [] => []
  | w :: ws =>
      let remaining : ℚ := ((w :: ws).map (max · 0)).sum
      let span :=
        if 0 < remaining then roundAway (total * (max w 0 / remaining))
        else total.tdiv (ws.length + 1 : ℕ)
      span :: weighted_spans (total - span) ws

/-- The offset and the length of each span, one gap apart. -/
def offsets (gp : ℤ) : ℤ → List ℤ → List (ℤ × ℤ)
  | _, [] => []
  | start, s :: ss => (start, s) :: offsets gp (start + s + gp) ss

/-- Windows stacked in one column of the inset area. -/
def column (a : Inset) (cf : List ℚ) (col_x col_w : ℤ) : List Rect :=
  (offsets a.gp 0 (weighted_spans (a.h - (cf.length - 1) * a.gp) cf)).map fun (y, win_h) =>
    bordered a.bw col_x (a.y + y) col_w win_h

/-- Windows side by side in one row of the inset area. -/
def row (a : Inset) (cf : List ℚ) (row_y row_h : ℤ) : List Rect :=
  (offsets a.gp 0 (weighted_spans (a.w - (cf.length - 1) * a.gp) cf)).map fun (x, win_w) =>
    bordered a.bw (a.x + x) row_y win_w row_h

/-- `tile::arrange`. -/
def tile (a : Inset) (mon : Monitor) (cfacts : List ℚ) : List Rect :=
  let nmaster := (max mon.nmaster 0).toNat
  let mfact := clampQ mon.mfact (5 / 100) (95 / 100)
  let in_master := min cfacts.length nmaster
  let in_stack := cfacts.length - nmaster
  let (master_w, stack_x, stack_w) :=
    if 0 < in_stack then
      let mw := roundAway ((a.w - a.gp : ℤ) * mfact)
      (mw, a.x + mw + a.gp, max (a.w - mw - a.gp) 1)
    else (a.w, a.x, 0)
  column a (cfacts.take in_master) a.x master_w ++
    column a (cfacts.drop in_master) stack_x stack_w

/-- `monocle::arrange`. -/
def monocle (mon : Monitor) (n : ℕ) : List Rect :=
  List.replicate n
    (Rect.of mon.w.loc.x mon.w.loc.y (max (mon.w.size.w - 2) 1) (max (mon.w.size.h - 2) 1))

/-- The columns of `col::arrange` from the offset `x_offset`; the last takes what is left. -/
def colSpans (usable_w gp : ℤ) : ℤ → List ℚ → List (ℤ × ℤ)
  | _, [] => []
  | x_offset, [_] => [(x_offset, usable_w - x_offset)]
  | x_offset, frac :: fs =>
      let win_w := roundAway (usable_w * frac)
      (x_offset, win_w) :: colSpans usable_w gp (x_offset + win_w + gp) fs

/-- `col::arrange`. -/
def col (a : Inset) (mon : Monitor) (n : ℕ) : List Rect :=
  let col_h := max (a.h - 2 * a.bw) 1
  let usable_w := max (a.w - (n - 1) * a.gp) 1
  let facts := if mon.col_facts.length = n then mon.col_facts else List.replicate n (1 / n : ℚ)
  (colSpans usable_w a.gp 0 facts).map fun (x, win_w) =>
    Rect.of (a.x + x + a.bw) (a.y + a.bw) (max (win_w - 2 * a.bw) 1) col_h

/-- `scroll::arrange`. -/
def scroll (a : Inset) (mon : Monitor) (n : ℕ) : List Rect :=
  if n = 1 then [Rect.of a.x a.y a.w a.h]
  else
    let mfact := clampQ mon.mfact (5 / 100) (95 / 100)
    let col_w := max (roundAway (a.w * mfact)) 1
    let total_w := col_w * n + a.gp * (n - 1)
    let focused_left := (min mon.scroll_col (n - 1) : ℕ) * (col_w + a.gp)
    let center_offset := focused_left + col_w.tdiv 2 - a.w.tdiv 2
    let scroll_offset := clampZ center_offset 0 (max (total_w - a.w) 0)
    (List.range n).map fun i =>
      bordered a.bw (a.x + i * (col_w + a.gp) - scroll_offset) a.y col_w a.h

/-- The windows of `dwindle::arrange` from window `i` on, `left` of them, in the rectangle that
remains. -/
def dwindleFrom (a : Inset) (mfact : ℚ) (i : ℕ) : ℕ → ℤ → ℤ → ℤ → ℤ → List Rect
  | 0, _, _, _, _ => []
  | 1, rx, ry, rw, rh => [bordered a.bw rx ry rw rh]
  | left + 2, rx, ry, rw, rh =>
      if i % 2 = 0 then
        let ratio := if i = 0 then mfact else 1 / 2
        let win_w := max (roundAway ((max (rw - a.gp) 1 : ℤ) * ratio)) 1
        bordered a.bw rx ry win_w rh ::
          dwindleFrom a mfact (i + 1) (left + 1) (rx + win_w + a.gp) ry
            (max (rw - win_w - a.gp) 1) rh
      else
        let win_h := max (roundAway ((max (rh - a.gp) 1 : ℤ) * (1 / 2))) 1
        bordered a.bw rx ry rw win_h ::
          dwindleFrom a mfact (i + 1) (left + 1) rx (ry + win_h + a.gp) rw
            (max (rh - win_h - a.gp) 1)

/-- `dwindle::arrange`. -/
def dwindle (a : Inset) (mon : Monitor) (n : ℕ) : List Rect :=
  if n = 1 then [Rect.of a.x a.y a.w a.h]
  else dwindleFrom a (clampQ mon.mfact (5 / 100) (95 / 100)) 0 n a.x a.y a.w a.h

/-- `bstack::arrange`. -/
def bstack (a : Inset) (mon : Monitor) (cfacts : List ℚ) : List Rect :=
  let nmaster := (max mon.nmaster 0).toNat
  let mfact := clampQ mon.mfact (5 / 100) (95 / 100)
  let in_master := min cfacts.length nmaster
  let in_stack := cfacts.length - nmaster
  if cfacts.length = 2 ∧ 0 < in_stack then
    let master_w := roundAway ((a.w - a.gp : ℤ) * mfact)
    let stack_w := max (a.w - master_w - a.gp) 1
    [bordered a.bw a.x a.y master_w a.h,
      bordered a.bw (a.x + master_w + a.gp) a.y stack_w a.h]
  else
    let (master_h, stack_y, stack_h) :=
      if 0 < in_stack then
        let mh := roundAway ((a.h - a.gp : ℤ) * mfact)
        (mh, a.y + mh + a.gp, max (a.h - mh - a.gp) 1)
      else (a.h, a.y, 0)
    row a (cfacts.take in_master) a.y master_h ++ row a (cfacts.drop in_master) stack_y stack_h

/-- The elements at even positions. -/
def evens {α : Type*} : List α → List α
  | [] => []
  | [x] => [x]
  | x :: _ :: l => x :: evens l

/-- The elements at odd positions. -/
def odds {α : Type*} : List α → List α
  | [] => []
  | [_] => []
  | _ :: y :: l => y :: odds l

/-- Take from both lists in turn. -/
def interleave {α : Type*} : List α → List α → List α
  | [], ys => ys
  | xs, [] => xs
  | x :: xs, y :: ys => x :: y :: interleave xs ys

/-- The columns of `centeredmaster::arrange`: master, left and right, each an `x` and a width. -/
def centeredColumns (a : Inset) (mfact : ℚ) (mcount scount : ℕ) :
    (ℤ × ℤ) × (ℤ × ℤ) × (ℤ × ℤ) :=
  if scount = 0 then ((a.x, a.w), (0, 0), (0, 0))
  else if scount = 1 then
    let inner_gap := if 0 < mcount then a.gp else 0
    let mw := if 0 < mcount then roundAway ((a.w - inner_gap : ℤ) * mfact) else 0
    ((a.x, mw), (0, 0), (a.x + mw + inner_gap, max (a.w - mw - inner_gap) 1))
  else if 0 < mcount then
    let mw := roundAway ((a.w - 2 * a.gp : ℤ) * mfact)
    let side := max (a.w - 2 * a.gp - mw) 2
    let lw := side.tdiv 2
    let mx := a.x + lw + a.gp
    ((mx, mw), (a.x, lw), (mx + mw + a.gp, side - lw))
  else
    let lw := (a.w - a.gp).tdiv 2
    ((0, 0), (a.x, lw), (a.x + lw + a.gp, max (a.w - a.gp - lw) 1))

/-- `centeredmaster::arrange`: the side windows alternate right, left, right. -/
def centeredmaster (a : Inset) (mon : Monitor) (cfacts : List ℚ) : List Rect :=
  let mcount := min cfacts.length (max mon.nmaster 0).toNat
  let (m, l, r) := centeredColumns a (clampQ mon.mfact (5 / 100) (95 / 100)) mcount
    (cfacts.length - mcount)
  let side := cfacts.drop mcount
  column a (cfacts.take mcount) m.1 m.2 ++
    interleave (column a (evens side) r.1 r.2) (column a (odds side) l.1 l.2)

/-- `lua_arrange`: the rectangles of the callback, each inset by the border; the work area for
every window when the callback fails or returns too few. -/
def lua_arrange (cfg : Config) (mon : Monitor) (n : ℕ) (ret : Option (List LuaRect)) :
    List Rect :=
  let area := mon.w
  let bw : ℤ := if 1 < n ∧ cfg.border_px < 2 ^ 31 then cfg.border_px else 0
  let getf (v : Option ℚ) (d : ℤ) : ℤ := (v.map roundAway).getD d
  match ret with
  | some rs =>
      if n ≤ rs.length then
        (rs.take n).map fun r =>
          Rect.of (getf r.x area.loc.x + bw) (getf r.y area.loc.y + bw)
            (max (getf r.w area.size.w - 2 * bw) 1) (max (getf r.h area.size.h - 2 * bw) 1)
      else List.replicate n area
  | none => List.replicate n area

/-- `layout::arrange`; `lua` is what `on_arrange` returns if it is called. -/
def arrange (cfg : Config) (gaps_enabled : Bool) (lua : Option (List LuaRect)) (mon : Monitor)
    (cfacts : List ℚ) : List Rect :=
  let n := cfacts.length
  let a := inset cfg gaps_enabled mon n
  if n = 0 then []
  else match mon.layout_kind cfg with
    | .Tile => tile a mon cfacts
    | .Monocle => monocle mon n
    | .Col => col a mon n
    | .Scroll => scroll a mon n
    | .Dwindle => dwindle a mon n
    | .Bstack => bstack a mon cfacts
    | .CenteredMaster => centeredmaster a mon cfacts
    | .Lua => lua_arrange cfg mon n lua

/-! ### One rectangle for each window -/

@[simp] theorem length_weighted_spans (total : ℤ) (ws : List ℚ) :
    (weighted_spans total ws).length = ws.length := by
  induction ws generalizing total with
  | nil => rfl
  | cons w ws ih => simp only [weighted_spans, List.length_cons, ih]

@[simp] theorem length_offsets (gp start : ℤ) (ss : List ℤ) :
    (offsets gp start ss).length = ss.length := by
  induction ss generalizing start with
  | nil => rfl
  | cons s ss ih => simp only [offsets, List.length_cons, ih]

@[simp] theorem length_column (a : Inset) (cf : List ℚ) (x w : ℤ) :
    (column a cf x w).length = cf.length := by
  simp [column]

@[simp] theorem length_row (a : Inset) (cf : List ℚ) (y h : ℤ) :
    (row a cf y h).length = cf.length := by
  simp [row]

@[simp] theorem length_colSpans (usable_w gp x : ℤ) (fs : List ℚ) :
    (colSpans usable_w gp x fs).length = fs.length := by
  induction fs generalizing x with
  | nil => rfl
  | cons f fs ih =>
    cases fs with
    | nil => rfl
    | cons g fs => simp only [colSpans, List.length_cons, ih]

@[simp] theorem length_dwindleFrom (a : Inset) (mfact : ℚ) (i left : ℕ) (rx ry rw rh : ℤ) :
    (dwindleFrom a mfact i left rx ry rw rh).length = left := by
  induction left generalizing i rx ry rw rh with
  | zero => rfl
  | succ left ih =>
    cases left with
    | zero => rfl
    | succ left =>
      simp only [dwindleFrom]
      split_ifs <;> simp only [List.length_cons, ih]

theorem length_evens_add_odds {α : Type*} :
    ∀ l : List α, (evens l).length + (odds l).length = l.length
  | [] => rfl
  | [_] => rfl
  | _ :: _ :: l => by
      have ih := length_evens_add_odds l
      simp only [evens, odds, List.length_cons]
      omega

theorem length_interleave {α : Type*} :
    ∀ xs ys : List α, (interleave xs ys).length = xs.length + ys.length
  | [], ys => by simp [interleave]
  | _ :: _, [] => by simp [interleave]
  | _ :: xs, _ :: ys => by
      have ih := length_interleave xs ys
      simp only [interleave, List.length_cons]
      omega

theorem length_centeredmaster (a : Inset) (mon : Monitor) (cfacts : List ℚ) :
    (centeredmaster a mon cfacts).length = cfacts.length := by
  have h := length_evens_add_odds
    (cfacts.drop (min cfacts.length (max mon.nmaster 0).toNat))
  simp only [centeredmaster, List.length_append, length_column, length_interleave, h,
    List.length_take, List.length_drop]
  omega

theorem length_lua_arrange (cfg : Config) (mon : Monitor) (n : ℕ)
    (ret : Option (List LuaRect)) : (lua_arrange cfg mon n ret).length = n := by
  unfold lua_arrange
  dsimp only
  split
  · rename_i rs
    by_cases h : n ≤ rs.length
    · rw [if_pos h]
      simp [h]
    · rw [if_neg h]
      simp
  · simp

/-- Every layout returns one rectangle for each window. -/
theorem length_arrange (cfg : Config) (gaps_enabled : Bool) (lua : Option (List LuaRect))
    (mon : Monitor) (cfacts : List ℚ) :
    (arrange cfg gaps_enabled lua mon cfacts).length = cfacts.length := by
  unfold arrange
  dsimp only
  split_ifs with hn
  · simp [hn]
  split
  · simp only [tile, List.length_append, length_column, List.length_take, List.length_drop]
    omega
  · simp [monocle]
  · simp only [col, List.length_map, length_colSpans]
    split_ifs with h
    · exact h
    · simp
  · unfold scroll
    split_ifs with h
    · simp [h]
    · simp
  · unfold dwindle
    split_ifs with h
    · simp [h]
    · simp
  · unfold bstack
    dsimp only
    split_ifs with h
    · simp [h.1]
    all_goals
      simp only [List.length_append, length_row, List.length_take, List.length_drop]
      omega
  · exact length_centeredmaster ..
  · exact length_lua_arrange ..

end layout

end Compositor
