import Mathlib.Tactic.Common
import Mathlib.Data.List.Sort
import Rwl.Core.Focus

/-!
# Overview, Picture-in-Picture and cursor warping

* `sanitize_hint_keys`: the hint keys the configuration accepts;
* `build_cells`, `grid_dims`, `assign_hints`: the grid of thumbnails;
* `toggle`, `begin_close`, `force_close`, `kill_selected`, `on_window_closed`;
* the input of an open overview: `handle_key`, `handle_pointer_motion`, `handle_pointer_click`;
* `pip`: `toggle`, `on_window_closed`;
* `warp_cursor_to_focused`.
-/

namespace Compositor

namespace overview

/-! ### The hint keys -/

/-- The compiled-in `hint_keys`. -/
def defaultHintKeys : List Char := ['1', '2', '3', '4', '5', '6', '7', '8', '9']

/-- One round of the loop of `sanitize_hint_keys`. -/
def pushHintKey (keys : List Char) (c : Char) : List Char :=
  let lc := c.toLower
  if (lc.isLower || lc.isDigit) && !keys.contains lc then keys ++ [lc] else keys

/-- `sanitize_hint_keys`: distinct lower-case letters and digits, else the default. -/
def sanitize_hint_keys (raw : Option (List Char)) (default : List Char) : List Char :=
  match raw with
  | none => default
  | some raw =>
      let keys := raw.foldl pushHintKey []
      if keys.isEmpty then default else keys

/-! ### The grid -/

/-- Columns, cell width, cell height and padding for `n` windows. -/
def grid_dims (cfg : Config) (n : ℕ) (work : Rect) : ℕ × ℤ × ℤ × ℤ :=
  let pad := cfg.overview_padding
  let cols := max (((List.range (n + 1)).find? fun c => decide (n ≤ c * c)).getD 0) 1
  let rows := max ((n + cols - 1) / cols) 1
  (cols, max ((work.size.w - pad).tdiv cols - pad) 1, max ((work.size.h - pad).tdiv rows - pad) 1,
    pad)

/-- `assign_hints`: one key a window, or two when there are more windows than keys. -/
def assign_hints (cfg : Config) (n : ℕ) : List (List Char) :=
  let chars := cfg.hint_keys
  if chars = [] then List.replicate n []
  else if n ≤ chars.length then (chars.take n).map fun c => [c]
  else ((chars.flatMap fun a => chars.map fun b => [a, b])).take n

/-- Where a window sorts: by its lowest tag, untagged windows last. -/
def sortKey (tags : ℕ) : ℕ :=
  if tags = 0 then 2 ^ 32 - 1 else pertag_layouts.trailing_zeros tags

/-- The windows of the grid. -/
def candidates (d : Desk) (all_tags : Bool) (active_tags : ℕ) : List WinId :=
  (d.windows.filter fun w =>
    (d.st w).buffer_mapped && decide ((d.st w).scratch_key = noScratch) &&
      (all_tags || (d.st w).visible_on active_tags)).insertionSort
        fun v w => sortKey (d.st v).tags ≤ sortKey (d.st w).tags

/-- `build_cells`. -/
def build_cells (d : Desk) (all_tags : Bool) (active_tags : ℕ) (work : Rect) :
    List OverviewCell :=
  let windows := candidates d all_tags active_tags
  let hints := assign_hints d.cfg windows.length
  let (cols, cell_w, cell_h, pad) := grid_dims d.cfg windows.length work
  windows.zipIdx.map fun (w, i) =>
    let target := Rect.of (work.loc.x + pad + (cell_w + pad) * (i % cols : ℕ))
      (work.loc.y + pad + (cell_h + pad) * (i / cols : ℕ)) cell_w cell_h
    { window := w
      source := (d.element_geometry w).getD target
      target := target
      hint := (hints[i]?).getD []
      tag := (d.st w).tags }

/-- The cell under a pointer position. -/
def cellAt (ov : OverviewState) (loc : PointF) : Option ℕ :=
  ov.cells.findIdx? fun c => c.target.contains ⟨roundAway loc.x, roundAway loc.y⟩

/-! ### Opening and closing -/

/-- Change the overview session, when there is one. -/
def modify (s : Rwl) (f : OverviewState → OverviewState) : Rwl :=
  { s with overview := s.overview.map f }

/-- `begin_close`. -/
def begin_close (s : Rwl) (sel : Selection) : Rwl :=
  modify s fun ov => { ov with closing := some sel, anim_start := s.desk.now }

/-- `force_close`. -/
def force_close (s : Rwl) : Rwl := { s with overview := none }

/-- Close the overview heading for cell `i`. -/
def choose (s : Rwl) (ov : OverviewState) (i : Option ℕ) : Rwl :=
  match i.bind fun i => ov.cells[i]? with
  | some c => begin_close s (.Window c.window c.tag)
  | none => s

/-- `toggle`. -/
def toggle (s : Rwl) (all_tags : Bool) : Rwl :=
  if s.overview.isSome then begin_close s .Cancel
  else match s.desk.sel_monitor with
    | none => s
    | some mon =>
        let cells := build_cells s.desk all_tags mon.tags mon.w
        let ov : OverviewState :=
          { cells := cells
            output := mon.output
            typed := []
            hovered := none
            selected := none
            all_tags := all_tags
            anim_start := s.desk.now
            closing := none }
        if cells.isEmpty then s else { s with overview := some ov }

/-- `kill_selected`: only an xdg toplevel can be asked to close here. -/
def kill_selected (s : Rwl) : Rwl :=
  match s.overview.bind fun ov => ov.selected.bind fun i => ov.cells[i]? with
  | some c => if (s.desk.client c.window).x11.isNone then s.emit (.close c.window) else s
  | none => s

/-- `on_window_closed`: the grid is rebuilt, or the overview closes. -/
def on_window_closed (s : Rwl) : Rwl :=
  match s.overview with
  | none => s
  | some ov =>
      match s.desk.monitors.find? fun m => decide (m.output = ov.output) with
      | none => force_close s
      | some mon =>
          let cells := build_cells s.desk ov.all_tags mon.tags mon.w
          let ov' : OverviewState :=
            { ov with
              cells := cells
              hovered := none
              typed := []
              selected := ov.selected.map fun i => min i (cells.length - 1) }
          if cells.isEmpty then force_close s else { s with overview := some ov' }

/-! ### Input -/

/-- `move_selected`: step through the cells, wrapping around. -/
def move_selected (s : Rwl) (forward : Bool) : Rwl :=
  modify s fun ov =>
    let n := ov.cells.length
    if n = 0 then ov
    else
      let next := match ov.selected with
        | none => if forward then 0 else n - 1
        | some cur => if forward then (cur + 1) % n else (cur + n - 1) % n
      { ov with typed := [], selected := some next, hovered := none }

/-- `type_char`. -/
def type_char (s : Rwl) (c : Char) : Rwl :=
  match s.overview with
  | none => s
  | some ov =>
      let typed := ov.typed ++ [c]
      if ov.cells.all fun cell => !decide (typed <+: cell.hint) then s
      else
        let s' := modify s fun ov => { ov with typed := typed }
        choose s' ov (ov.cells.findIdx? fun cell => decide (cell.hint = typed))

/-- The cell `select_best` picks: the only match of the typed prefix, else the highlight. -/
def best (ov : OverviewState) : Option ℕ :=
  let isMatch (c : OverviewCell) : Bool := decide (ov.typed <+: c.hint)
  if ov.typed ≠ [] ∧ ov.cells.countP isMatch = 1 then ov.cells.findIdx? isMatch
  else ov.selected.or ov.hovered

/-- `select_best`. -/
def select_best (s : Rwl) : Rwl :=
  match s.overview with
  | none => s
  | some ov => choose s ov (best ov)

/-- `char::from_u32` with `is_ascii_graphic`, then `to_ascii_lowercase`. -/
def hintChar (keysym : ℕ) : Option Char :=
  if 0x21 ≤ keysym ∧ keysym ≤ 0x7e then some (Char.ofNat keysym).toLower else none

/-- `handle_key`. -/
def handle_key (s : Rwl) (keysym : ℕ) : Rwl :=
  if s.overview.all fun ov => ov.closing.isSome then s
  else if keysym = 0xff1b then begin_close s .Cancel
  else if keysym = 0xff0d then select_best s
  else if keysym = 0xff51 ∨ keysym = 0xff52 then move_selected s false
  else if keysym = 0xff53 ∨ keysym = 0xff54 then move_selected s true
  else if keysym = 0xff08 then modify s fun ov => { ov with typed := ov.typed.dropLast }
  else match hintChar keysym with
    | some c => type_char s c
    | none => s

/-- `handle_pointer_motion`. -/
def handle_pointer_motion (s : Rwl) (loc : PointF) : Rwl :=
  modify s fun ov =>
    { ov with hovered := cellAt ov loc, selected := (cellAt ov loc).or ov.selected }

/-- `handle_pointer_click`. -/
def handle_pointer_click (s : Rwl) (loc : PointF) : Rwl :=
  match s.overview with
  | none => s
  | some ov => choose s ov (cellAt ov loc)

end overview

/-! ### Picture-in-Picture -/

namespace pip

/-- `toggle`. -/
def toggle (s : Rwl) : Rwl :=
  if s.pip.isSome then { s with pip := none }
  else match s.desk.focused_window, s.desk.sel_monitor with
    | some w, some m => { s with pip := some ⟨w, m.output⟩ }
    | _, _ => s

/-- `on_window_closed`. -/
def on_window_closed (s : Rwl) (w : WinId) : Rwl :=
  if s.pip.any fun p => decide (p.window = w) then { s with pip := none } else s

end pip

/-! ### Warping -/

/-- The middle of a rectangle. -/
def Rect.centre (r : Rect) : PointF := ⟨r.loc.x + r.size.w / 2, r.loc.y + r.size.h / 2⟩

/-- Where `warp_cursor_to_focused` sends the pointer. -/
def warpTarget (d : Desk) : Option PointF :=
  match d.focused_window with
  | some w => ((d.st w).pending_geom.or (d.element_geometry w)).map Rect.centre
  | none => d.sel_monitor.map fun m => m.m.centre

/-- `warp_cursor_to_focused`. -/
def Rwl.warp_cursor_to_focused (s : Rwl) : Rwl :=
  if s.desk.cfg.warp_cursor = false then s
  else match warpTarget s.desk with
    | some p => s.ptr_motion (s.pointer_focus_under p) p
    | none => s

end Compositor
