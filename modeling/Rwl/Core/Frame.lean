import Mathlib.Tactic.Common
import Rwl.Core.Focus

/-!
# Borders

The borders of a frame, as solid rectangles in physical pixels, the frontmost first.

* `Rgba`, `BorderColors`, `Rect.to_physical_precise_round`;
* `border_strips`: the four strips just outside a rectangle;
* `make_strips`: the border of one window; `border_elements`: the borders of a frame;
* `has_fullscreen`, `visible_count`: what `on_vblank` computes before it builds them;
* `build_border_elements_plain`.
-/

namespace Compositor

/-- `config::Color`. -/
structure Rgba where
  r : ℚ
  g : ℚ
  b : ℚ
  a : ℚ
  deriving DecidableEq

/-- The two border colours of the configuration. -/
structure BorderColors where
  focus_color : Rgba
  border_color : Rgba

/-- `to_physical_precise_round`: position and size are rounded each on their own. -/
def Rect.to_physical_precise_round (r : Rect) (scale : ℚ) : Rect :=
  Rect.of (roundAway (r.loc.x * scale)) (roundAway (r.loc.y * scale))
    (roundAway (r.size.w * scale)) (roundAway (r.size.h * scale))

/-- The strips above, below, left and right of a rectangle. -/
def border_strips (bw : ℤ) (r : Rect) : List Rect :=
  [Rect.of (r.loc.x - bw) (r.loc.y - bw) (r.size.w + bw * 2) bw,
    Rect.of (r.loc.x - bw) (r.loc.y + r.size.h) (r.size.w + bw * 2) bw,
    Rect.of (r.loc.x - bw) r.loc.y bw r.size.h,
    Rect.of (r.loc.x + r.size.w) r.loc.y bw r.size.h]

namespace Desk

/-- `border_px` as an `i32`. -/
def borderWidth (d : Desk) : ℤ := Int.bmod d.cfg.border_px (2 ^ 32)

/-- The rectangle a border goes around: where the window is, or else where it was told to be. -/
def borderGeometry (d : Desk) (w : WinId) : Option Rect :=
  (d.element_geometry w).or (d.st w).pending_geom

/-- One strip of the border of `w` in physical pixels; a sliding window takes it along. -/
def physicalStrip (d : Desk) (scale : ℚ) (w : WinId) (rect : Rect) : Option Rect :=
  if rect.size.w ≤ 0 ∨ rect.size.h ≤ 0 then none
  else
    let slide_x_px := roundAway ((d.st w).slide_offset_x * scale)
    let phys := rect.to_physical_precise_round scale
    if 0 < phys.size.w ∧ 0 < phys.size.h then
      some ⟨⟨phys.loc.x + slide_x_px, phys.loc.y⟩, phys.size⟩
    else none

/-- `make_strips` of `border_elements`. -/
def make_strips (d : Desk) (scale : ℚ) (w : WinId) : List Rect :=
  match d.borderGeometry w with
  | some geom => (border_strips d.borderWidth geom).filterMap (d.physicalStrip scale w)
  | none => []

/-- The windows with a border in `border_color`, the lowest first. -/
def plainBordered (d : Desk) (focused : Option WinId) : List WinId :=
  (d.space.map Prod.fst).filter fun w =>
    !(d.st w).is_fullscreen && !(d.st w).is_override_redirect && decide (focused ≠ some w)

/-- `border_elements`. The list is front to back, so the focused window's border comes last. -/
def border_elements (d : Desk) (colors : BorderColors) (focused : Option WinId) (scale : ℚ)
    (visible_count : ℕ) : List (Rect × Rgba) :=
  let any_floating := d.space.any fun e => (d.st e.1).is_floating
  if d.borderWidth = 0 ∨ (visible_count ≤ 1 ∧ any_floating = false) then []
  else
    (if 1 / 1000 ≤ colors.border_color.a then
      (d.plainBordered focused).flatMap fun w =>
        (d.make_strips scale w).map fun r => (r, colors.border_color)
    else []) ++
    match focused with
    | some w =>
        if (d.st w).is_fullscreen then []
        else (d.make_strips scale w).map fun r => (r, colors.focus_color)
    | none => []

/-- Whether a mapped window is fullscreen, on whatever output. -/
def has_fullscreen (d : Desk) : Bool := d.space.any fun e => (d.st e.1).is_fullscreen

/-- The windows on the tags of an output's monitor that have a buffer. -/
def visible_count (d : Desk) (o : OutputId) : ℕ :=
  match d.monitors.find? fun m => decide (m.output = o) with
  | some mon =>
      (d.windows.filter fun w => (d.st w).visible_on mon.tags && (d.st w).buffer_mapped).length
  | none => 0

/-- `build_border_elements_plain`, as `on_vblank` calls it for an output. -/
def build_border_elements_plain (d : Desk) (colors : BorderColors) (o : OutputId) (scale : ℚ) :
    List (Rect × Rgba) :=
  if d.has_fullscreen then []
  else d.border_elements colors d.focused_window scale (d.visible_count o)

end Desk

end Compositor
