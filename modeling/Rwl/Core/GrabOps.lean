import Mathlib.Tactic.Common
import Rwl.Core.Focus

/-!
# Interactive moves and resizes

* `start_move`, `start_resize`, `end_grab`;
* `handle_move`, `handle_resize`: what a pointer motion does during a grab;
* `apply_cfact`, `dragSplit`, `dragColumn`: the sizes a resize writes.
-/

namespace Compositor

namespace grab

/-- The windows `arrange` tiles on a monitor, as `col_window_idx` counts them. -/
def colWindows (d : Desk) (mon_idx : ℕ) : List WinId :=
  d.windows.filter fun w => Desk.countsAsTiled (d.st w) (d.tagsOf mon_idx)

/-- `col_window_idx`. -/
def col_window_idx (d : Desk) (w : WinId) (mon_idx : ℕ) : Option ℕ :=
  (d.monitors[mon_idx]?).bind fun _ => (colWindows d mon_idx).findIdx? fun v => decide (v = w)

/-- The column fractions a resize in the column layout starts from. -/
def colSnapshot (d : Desk) (mon_idx : ℕ) : List ℚ :=
  match d.monitors[mon_idx]? with
  | some mon =>
      let n := (colWindows d mon_idx).length
      if mon.col_facts.length = n ∧ 0 < n then mon.col_facts else List.replicate n (1 / n)
  | none => []

/-- The part of a grab both kinds record, with the window focused. -/
def begin (s : Rwl) (w : WinId) (mode : CursorMode) : Rwl :=
  let g := { s.grab with
    grabbed_window := some w
    grab_start := some s.seat.location
    grab_geom := s.desk.element_geometry w
    cursor_mode := mode }
  ({ s with grab := g } : Rwl).focus_window (some w)

/-- `start_move`: the window floats while it is dragged. -/
def start_move (s : Rwl) (w : WinId) : Rwl :=
  let s₁ : Rwl :=
    { s with grab := { s.grab with grab_was_floating := (s.desk.st w).is_floating } }
  begin (s₁.modifyDesk fun d => d.modifyWindow w fun st => { st with is_floating := true }) w .Move

/-- The sizes `start_resize` remembers. -/
def resizeBase (d : Desk) (g : Grab) (w : WinId) : Grab :=
  let mon_idx := (d.st w).mon_idx
  if (d.st w).is_floating then
    { g with grab_mfact := none, grab_cfact := none, grab_col_idx := none, grab_col_facts := none }
  else if ((d.monitors[mon_idx]?).map (Monitor.layout_kind d.cfg)) = some .Col then
    { g with
      grab_mfact := none
      grab_col_idx := col_window_idx d w mon_idx
      grab_col_facts := some (colSnapshot d mon_idx)
      grab_cfact := some (d.st w).cfact }
  else
    { g with
      grab_mfact := (d.monitors[mon_idx]?).map Monitor.mfact
      grab_col_idx := none
      grab_col_facts := none
      grab_cfact := some (d.st w).cfact }

/-- `start_resize`. -/
def start_resize (s : Rwl) (w : WinId) : Rwl :=
  begin { s with grab := resizeBase s.desk s.grab w } w .Resize

/-- `handle_move`: the window follows the pointer, on top. -/
def handle_move (s : Rwl) (loc : PointF) : Rwl :=
  match s.grab.grabbed_window, s.grab.grab_start, s.grab.grab_geom with
  | some w, some start, some geom =>
      let new_loc : Point :=
        ⟨geom.loc.x + truncZero (loc.x - start.x), geom.loc.y + truncZero (loc.y - start.y)⟩
      s.modifyDesk fun d => { d with space := Space.map_element d.space w new_loc }
  | _, _, _ => s

/-- `apply_cfact`. -/
def apply_cfact (g : Grab) (w : WinId) (orig_len : ℤ) (delta : ℚ) (d : Desk) : Desk :=
  if orig_len ≤ 0 then d
  else
    let base := g.grab_cfact.getD 1
    d.modifyWindow w fun st =>
      { st with cfact := clampQ (base * (orig_len + delta) / orig_len) (25 / 100) 4 }

/-- Move the master split by `delta` pixels of `area`. -/
def dragSplit (g : Grab) (mon_idx : ℕ) (delta : ℚ) (area : Monitor → ℤ) (d : Desk) : Desk :=
  d.modifyMonitor mon_idx fun m =>
    if 0 < area m then
      { m with mfact := clampQ (g.grab_mfact.getD m.mfact + delta / area m) (5 / 100) (95 / 100) }
    else m

/-- Move the boundary right of the grabbed column; `none` when there is nothing to drag. -/
def dragColumn (g : Grab) (area_w : ℤ) (dx : ℚ) : Option (List ℚ) :=
  match g.grab_col_idx, g.grab_col_facts with
  | some i, some snap =>
      match snap[i]?, snap[i + 1]? with
      | some left, some right =>
          let total := left + right
          let min_frac := min (5 / 100) (total / 2)
          let delta := clampQ (dx / area_w) (min_frac - left) (right - min_frac)
          if 0 < area_w then
            some ((snap.set i (left + delta)).set (i + 1) (total - (left + delta)))
          else none
      | _, _ => none
  | _, _ => none

/-- `handle_resize`: a floating window is asked for a new size, a tiled one moves the split its
layout has. -/
def handle_resize (s : Rwl) (loc : PointF) : Rwl :=
  match s.grab.grabbed_window, s.grab.grab_start, s.grab.grab_geom with
  | some w, some start, some geom =>
      let g := s.grab
      let dx := loc.x - start.x
      let dy := loc.y - start.y
      let i := (s.desk.st w).mon_idx
      if (s.desk.st w).is_floating then s
      else match s.desk.monitors[i]? with
        | none => s
        | some mon =>
            let width (m : Monitor) := m.w.size.w
            match mon.layout_kind s.desk.cfg with
            | .Tile | .CenteredMaster =>
                (s.modifyDesk fun d =>
                  apply_cfact g w geom.size.h dy (dragSplit g i dx width d)).arrange i
            | .Bstack =>
                (s.modifyDesk fun d =>
                  apply_cfact g w geom.size.w dx
                    (dragSplit g i dy (fun m => m.w.size.h) d)).arrange i
            | .Col =>
                match dragColumn g (width mon) dx with
                | some facts =>
                    (s.modifyDesk fun d =>
                      d.modifyMonitor i fun m => { m with col_facts := facts }).arrange i
                | none => s
            | .Scroll | .Dwindle =>
                if 0 < width mon then (s.modifyDesk (dragSplit g i dx width)).arrange i else s
            | .Monocle | .Lua => s
  | _, _, _ => s

/-- `end_grab`: a window that was tiled before its move is tiled again. -/
def end_grab (s : Rwl) : Rwl :=
  let restore_tiled := decide (s.grab.cursor_mode = .Move) && !s.grab.grab_was_floating
  let s₁ := match s.grab.grabbed_window with
    | some w =>
        if restore_tiled then
          s.modifyDesk fun d => d.modifyWindow w fun st => { st with is_floating := false }
        else s
    | none => s
  let s₂ : Rwl := { s₁ with grab := Grab.idle .Normal }
  if restore_tiled then s₂.arrange_all else s₂

end grab

end Compositor
