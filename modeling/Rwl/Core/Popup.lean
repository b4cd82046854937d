import Mathlib.Tactic.Common
import Rwl.Core.Desk

/-!
# Popups

* `Anchor`, `ConstraintAdjustment`, `PositionerState` with `get_anchor_point` and `get_geometry`;
* `get_unconstrained_geometry`: the popup flipped, moved and cut to fit into a target;
* `Popup`, `Popups`, `find_popup_root_surface`, `get_popup_toplevel_coords`: what is known of the
  popups made so far;
* `unconstrain_popup`, `new_popup`, `reposition_request`: what the compositor configures, and
  `popup_step`, the popups after a request;
* `popup_geometry`: where a popup is drawn.

A divided size is rounded towards zero.
-/

namespace Compositor

/-! ### Positioners -/

/-- `xdg_positioner::Anchor`; a gravity has the same values. -/
inductive Anchor
  | None
  | Top
  | Bottom
  | Left
  | Right
  | TopLeft
  | BottomLeft
  | TopRight
  | BottomRight
  deriving DecidableEq

/-- `xdg_positioner::Gravity`. -/
abbrev Gravity := Anchor

/-- `xdg_positioner::ConstraintAdjustment`. -/
structure ConstraintAdjustment where
  SlideX : Bool
  SlideY : Bool
  FlipX : Bool
  FlipY : Bool
  ResizeX : Bool
  ResizeY : Bool
  deriving DecidableEq

/-- `PositionerState`, as far as the placement reads it. -/
structure PositionerState where
  rect_size : Size
  anchor_rect : Rect
  anchor_edges : Anchor
  gravity : Gravity
  constraint_adjustment : ConstraintAdjustment
  offset : Point
  deriving DecidableEq

namespace Anchor

/-- `anchor_has_edge` and `gravity_has_edge`, for one of the four edges. -/
def has_edge (a : Anchor) : Anchor → Bool
  | Top => a = Top || a = TopLeft || a = TopRight
  | Bottom => a = Bottom || a = BottomLeft || a = BottomRight
  | Left => a = Left || a = TopLeft || a = BottomLeft
  | Right => a = Right || a = TopRight || a = BottomRight
  | _ => false

/-- `invert_anchor_x` and `invert_gravity_x`. -/
def invert_x : Anchor → Anchor
  | Left => Right
  | Right => Left
  | TopLeft => TopRight
  | TopRight => TopLeft
  | BottomLeft => BottomRight
  | BottomRight => BottomLeft
  | a => a

/-- `invert_anchor_y` and `invert_gravity_y`. -/
def invert_y : Anchor → Anchor
  | Top => Bottom
  | Bottom => Top
  | TopLeft => BottomLeft
  | TopRight => BottomRight
  | BottomLeft => TopLeft
  | BottomRight => TopRight
  | a => a

end Anchor

namespace PositionerState

variable (p : PositionerState)

/-- `get_anchor_point`. -/
def get_anchor_point : Point where
  x := p.anchor_rect.loc.x +
    if p.anchor_edges.has_edge .Left then 0
    else if p.anchor_edges.has_edge .Right then p.anchor_rect.size.w
    else p.anchor_rect.size.w.tdiv 2
  y := p.anchor_rect.loc.y +
    if p.anchor_edges.has_edge .Top then 0
    else if p.anchor_edges.has_edge .Bottom then p.anchor_rect.size.h
    else p.anchor_rect.size.h.tdiv 2

/-- `get_geometry`. -/
def get_geometry : Rect where
  loc :=
    { x := p.offset.x + p.get_anchor_point.x -
        if p.gravity.has_edge .Left then p.rect_size.w
        else if p.gravity.has_edge .Right then 0
        else p.rect_size.w.tdiv 2
      y := p.offset.y + p.get_anchor_point.y -
        if p.gravity.has_edge .Top then p.rect_size.h
        else if p.gravity.has_edge .Bottom then 0
        else p.rect_size.h.tdiv 2 }
  size := p.rect_size

/-- The positioner turned around left and right. -/
def invert_x : PositionerState :=
  { p with anchor_edges := p.anchor_edges.invert_x, gravity := p.gravity.invert_x }

/-- The positioner turned around top and bottom. -/
def invert_y : PositionerState :=
  { p with anchor_edges := p.anchor_edges.invert_y, gravity := p.gravity.invert_y }

end PositionerState

/-- What `compute_offsets` returns: how far a popup sticks out of its target. -/
structure Offsets where
  off_left : ℤ
  off_right : ℤ
  off_top : ℤ
  off_bottom : ℤ

/-- `compute_offsets`. -/
def compute_offsets (target popup : Rect) : Offsets where
  off_left := target.loc.x - popup.loc.x
  off_right := popup.loc.x + popup.size.w - (target.loc.x + target.size.w)
  off_top := target.loc.y - popup.loc.y
  off_bottom := popup.loc.y + popup.size.h - (target.loc.y + target.size.h)

/-! ### Fitting into a target -/

/-- The variables of `get_unconstrained_geometry`. -/
structure Placing extends Offsets where
  positioner : PositionerState
  geo : Rect

namespace Placing

variable (target : Rect) (s : Placing)

/-- It sticks out on the left or on the right. -/
def wide : Bool := decide (0 < s.off_left ∨ 0 < s.off_right)

/-- It sticks out at the top or at the bottom. -/
def tall : Bool := decide (0 < s.off_top ∨ 0 < s.off_bottom)

/-- Try to flip horizontally; a flip is kept only if it removes the constraint. -/
def flip_x : Placing :=
  if s.wide ∧ s.positioner.constraint_adjustment.FlipX then
    let new := s.positioner.invert_x
    let new_off := compute_offsets target new.get_geometry
    if new_off.off_left ≤ 0 ∧ new_off.off_right ≤ 0 then
      { s with positioner := new, geo := new.get_geometry, off_left := 0, off_right := 0 }
    else s
  else s

/-- Try to flip vertically. -/
def flip_y : Placing :=
  if s.tall ∧ s.positioner.constraint_adjustment.FlipY then
    let new := s.positioner.invert_y
    let new_off := compute_offsets target new.get_geometry
    if new_off.off_top ≤ 0 ∧ new_off.off_bottom ≤ 0 then
      { s with positioner := new, geo := new.get_geometry, off_top := 0, off_bottom := 0 }
    else s
  else s

/-- Try to slide horizontally; the left edge is preferred. -/
def slide_x : Placing :=
  if s.wide ∧ s.positioner.constraint_adjustment.SlideX then
    let x :=
      if 0 < s.off_left then s.geo.loc.x + s.off_left
      else if 0 < s.off_right then s.geo.loc.x - min s.off_right (-s.off_left)
      else s.geo.loc.x
    let geo : Rect := ⟨⟨x, s.geo.loc.y⟩, s.geo.size⟩
    { s with
      geo := geo
      off_left := (compute_offsets target geo).off_left
      off_right := (compute_offsets target geo).off_right }
  else s

/-- Try to slide vertically; the top edge is preferred. -/
def slide_y : Placing :=
  if s.tall ∧ s.positioner.constraint_adjustment.SlideY then
    let y :=
      if 0 < s.off_top then s.geo.loc.y + s.off_top
      else if 0 < s.off_bottom then s.geo.loc.y - min s.off_bottom (-s.off_top)
      else s.geo.loc.y
    let geo : Rect := ⟨⟨s.geo.loc.x, y⟩, s.geo.size⟩
    { s with
      geo := geo
      off_top := (compute_offsets target geo).off_top
      off_bottom := (compute_offsets target geo).off_bottom }
  else s

/-- Clamp the left and the right side, unless all of the popup is outside. -/
def resize_x : Rect :=
  if s.positioner.constraint_adjustment.ResizeX then
    let geo : Rect :=
      if 0 < s.off_left ∧ s.off_left < s.geo.size.w then
        ⟨⟨s.geo.loc.x + s.off_left, s.geo.loc.y⟩, ⟨s.geo.size.w - s.off_left, s.geo.size.h⟩⟩
      else s.geo
    if 0 < s.off_right ∧ s.off_right < geo.size.w then
      ⟨geo.loc, ⟨geo.size.w - s.off_right, geo.size.h⟩⟩
    else geo
  else s.geo

/-- Clamp the top and the bottom side. -/
def resize_y : Rect :=
  if s.positioner.constraint_adjustment.ResizeY then
    let geo : Rect :=
      if 0 < s.off_top ∧ s.off_top < s.geo.size.h then
        ⟨⟨s.geo.loc.x, s.geo.loc.y + s.off_top⟩, ⟨s.geo.size.w, s.geo.size.h - s.off_top⟩⟩
      else s.geo
    if 0 < s.off_bottom ∧ s.off_bottom < geo.size.h then
      ⟨geo.loc, ⟨geo.size.w, geo.size.h - s.off_bottom⟩⟩
    else geo
  else s.geo

end Placing

/-- `get_unconstrained_geometry`: flip, then slide, then resize, each axis on its own. -/
def PositionerState.get_unconstrained_geometry (p : PositionerState) (target : Rect) : Rect :=
  let s : Placing :=
    { compute_offsets target p.get_geometry with positioner := p, geo := p.get_geometry }
  let s := ((s.flip_x target).flip_y target).slide_x target
  let s := s.slide_y target
  Placing.resize_y { s with geo := s.resize_x }

/-! ### The popups made so far -/

/-- A popup: its parent, if it has one yet, what its next configure says, and the geometry of the
configure it has acknowledged and committed. -/
structure Popup where
  surface : SurfaceId
  parent : Option SurfaceId
  positioner : PositionerState
  geometry : Rect
  committed : Option Rect
  deriving DecidableEq

/-- The popups made so far, the newest first; a popup is made after its parent. -/
abbrev Popups := List Popup

namespace Popups

/-- `find_popup_root_surface` of a surface: the first one up the line that is no popup. -/
def root : Popups → SurfaceId → Option SurfaceId
  | [], f => some f
  | p :: ps, f => if p.surface = f then p.parent.bind (root ps) else root ps f

/-- The sum of the committed positions of the popups up the line, from the surface itself on. -/
def line : Popups → SurfaceId → Point
  | [], _ => ⟨0, 0⟩
  | p :: ps, f =>
      if p.surface = f then
        let up := (p.parent.map (line ps)).getD ⟨0, 0⟩
        let loc := (p.committed.map Rect.loc).getD ⟨0, 0⟩
        ⟨up.x + loc.x, up.y + loc.y⟩
      else line ps f

/-- The popup of a surface. -/
def find (ps : Popups) (f : SurfaceId) : Option Popup := ps.find? fun p => decide (p.surface = f)

/-- `get_popup_toplevel_coords`: the same sum, from the parent on. -/
def get_popup_toplevel_coords (ps : Popups) (f : SurfaceId) : Point :=
  match (ps.find f).bind Popup.parent with
  | none => ⟨0, 0⟩
  | some parent => ps.line parent

/-- Change the popup of a surface. -/
def modify (ps : Popups) (f : SurfaceId) (g : Popup → Popup) : Popups :=
  List.map (fun p => if p.surface = f then g p else p) ps

end Popups

/-! ### What the compositor configures -/

/-- `Rectangle::merge`: the smallest rectangle around both. -/
def Rect.merge (r s : Rect) : Rect :=
  let x := min (min r.loc.x (r.loc.x + r.size.w)) (min s.loc.x (s.loc.x + s.size.w))
  let y := min (min r.loc.y (r.loc.y + r.size.h)) (min s.loc.y (s.loc.y + s.size.h))
  let x' := max (max r.loc.x (r.loc.x + r.size.w)) (max s.loc.x (s.loc.x + s.size.w))
  let y' := max (max r.loc.y (r.loc.y + r.size.h)) (max s.loc.y (s.loc.y + s.size.h))
  ⟨⟨x, y⟩, ⟨x' - x, y' - y⟩⟩

/-- `Space::output_geometry`. -/
def Desk.output_geometry (d : Desk) (o : OutputId) : Option Rect :=
  if (d.monitor_for_output o).isSome then
    ((d.output o).output_geometry_size).map fun size => ⟨(d.output o).location, size⟩
  else none

/-- The target of `unconstrain_popup` before it is made relative: the box around the outputs a
window overlaps, the last of the list first. -/
def outputs_geo (d : Desk) (outputs : List OutputId) : Option Rect :=
  match outputs.reverse with
  | [] => none
  | first :: rest =>
      (d.output_geometry first).map fun geo =>
        (rest.reverse.filterMap d.output_geometry).foldl Rect.merge geo

/-- `unconstrain_popup`; `outputs` are those that `space.refresh` last found a window on. -/
def unconstrain_popup (d : Desk) (outputs : WinId → List OutputId) (ps : Popups) (f : SurfaceId) :
    Popups :=
  match ((ps.find f).bind Popup.parent).bind ps.root with
  | none => ps
  | some root =>
    match d.window_for_surface root with
    | none => ps
    | some w =>
      match outputs_geo d (outputs w), d.element_geometry w with
      | some geo, some window_geo =>
          let c := ps.get_popup_toplevel_coords f
          let target : Rect :=
            ⟨⟨geo.loc.x - c.x - window_geo.loc.x, geo.loc.y - c.y - window_geo.loc.y⟩, geo.size⟩
          ps.modify f fun p =>
            { p with geometry := p.positioner.get_unconstrained_geometry target }
      | _, _ => ps

/-- `get_popup` with `new_popup`: the new popup is configured where its positioner says. -/
def new_popup (d : Desk) (outputs : WinId → List OutputId) (ps : Popups) (f : SurfaceId)
    (parent : Option SurfaceId) (positioner : PositionerState) : Popups :=
  unconstrain_popup d outputs (⟨f, parent, positioner, positioner.get_geometry, none⟩ :: ps) f

/-- `reposition_request`. -/
def reposition_request (d : Desk) (outputs : WinId → List OutputId) (ps : Popups) (f : SurfaceId)
    (positioner : PositionerState) : Popups :=
  unconstrain_popup d outputs (ps.modify f fun p =>
    { p with positioner := positioner, geometry := positioner.get_geometry }) f

/-- The client takes the last configure and commits. -/
def popup_commit (ps : Popups) (f : SurfaceId) : Popups :=
  ps.modify f fun p => { p with committed := some p.geometry }

/-- What clients ask of popups; the desk is the one of that moment. -/
inductive PopupRequest
  | new_popup (d : Desk) (outputs : WinId → List OutputId) (f : SurfaceId)
      (parent : Option SurfaceId) (positioner : PositionerState)
  | reposition (d : Desk) (outputs : WinId → List OutputId) (f : SurfaceId)
      (positioner : PositionerState)
  | commit (f : SurfaceId)

/-- The popups after a request. A surface becomes a popup once, and before it has popups itself. -/
def popup_step (ps : Popups) : PopupRequest → Popups
  | .new_popup d outputs f parent positioner =>
      if parent = some f ∨ ∃ p ∈ ps, p.surface = f ∨ p.parent = some f then ps
      else new_popup d outputs ps f parent positioner
  | .reposition d outputs f positioner => reposition_request d outputs ps f positioner
  | .commit f => popup_commit ps f

/-- Where a popup of a mapped window is drawn: `popups_for_surface` adds up the positions, and
the window is drawn where it is in the space. -/
def popup_geometry (d : Desk) (ps : Popups) (f : SurfaceId) : Option Rect :=
  (ps.find f).bind fun p =>
    (p.parent.bind ps.root).bind fun root =>
      (d.window_for_surface root).bind fun w =>
        (d.element_geometry w).bind fun window_geo =>
          p.committed.map fun geo =>
            let off := ps.line f
            ⟨⟨window_geo.loc.x + off.x, window_geo.loc.y + off.y⟩, geo.size⟩

end Compositor
