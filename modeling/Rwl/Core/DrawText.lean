import Mathlib.Tactic.Common
import Rwl.Core.Markup
import Rwl.Core.Panel

/-!
# Drawing the bar

Where the bar's texts go, along the horizontal axis. Numbers are `u32`, and sums wrap as in a build
without overflow checks.

* `FcftFont`: what the bar asks the font library for;
* `Pen`, `Cell`, `draw_glyphs`, `draw_text`: the glyphs of one text, each with the stretch it
  takes and the colours it is drawn in;
* `text_width`, `measure`: the same without drawing;
* `draw_bar`: the tags, the layout symbol, the status and the title.
-/

namespace Compositor

namespace azoth_render

/-- A font: the advance of the glyph of a character, if there is one, and the kerning of a pair. -/
structure FcftFont where
  height : ℕ
  glyph : Char → Option ℤ
  kern : Char → Char → ℤ

/-- The state of the loop over the characters. -/
structure Pen where
  x : ℕ
  last_cp : Option Char
  color_ind : ℕ
  /-- The overrides from `color_ind` on. -/
  todo : List TextColor
  fg : Color
  bg : Color

/-- A drawn glyph: from `x` to `nx`, after `color_ind` overrides. -/
structure Cell where
  byte_idx : ℕ
  ch : Char
  x : ℕ
  nx : ℕ
  color_ind : ℕ
  fg : Color
  bg : Color

/-- The overrides that start at a character take effect. -/
def Pen.recolor (pen : Pen) (byte_idx : ℕ) : Pen :=
  let run := pen.todo.takeWhile fun tc => decide (tc.start_byte = byte_idx)
  { pen with
    color_ind := pen.color_ind + run.length
    todo := pen.todo.dropWhile fun tc => decide (tc.start_byte = byte_idx)
    fg := run.foldl (fun c tc => if tc.is_bg then c else tc.color) pen.fg
    bg := run.foldl (fun c tc => if tc.is_bg then tc.color else c) pen.bg }

/-- Where the pen is after a glyph. -/
def FcftFont.advance (font : FcftFont) (pen : Pen) (c : Char) (adv : ℤ) : ℕ :=
  let kern_x := (pen.last_cp.map fun last => font.kern last c).getD 0
  ((pen.x + kern_x + adv) % u32).toNat

/-- The loop of `draw_text`, from the character that starts at byte `byte_idx`. -/
def draw_glyphs (font : FcftFont) (max_x padding : ℕ) : ℕ → Pen → Text → List Cell × Pen
  | _, pen, [] => ([], pen)
  | byte_idx, pen, c :: t =>
    let pen := pen.recolor (byte_idx % u32)
    match font.glyph c with
    | none => draw_glyphs font max_x padding (byte_idx + c.utf8Size) pen t
    | some adv =>
      let nx := font.advance pen c adv
      if max_x < (nx + padding) % u32 then ([], pen)
      else
        let rest := draw_glyphs font max_x padding (byte_idx + c.utf8Size)
          { pen with x := nx, last_cp := some c } t
        (⟨byte_idx, c, pen.x, nx, pen.color_ind, pen.fg, pen.bg⟩ :: rest.1, rest.2)

/-- A stretch of the bar, and the glyphs in it. -/
structure Segment where
  start : ℕ
  stop : ℕ
  cells : List Cell

/-- `draw_text`: `none` is a null pointer, a C string has no NUL. -/
def draw_text (font : FcftFont) (text : Option Text) (x max_x padding : ℕ) (fg bg : Color)
    (colors : List TextColor) : Segment :=
  match text with
  | none => ⟨x, x, []⟩
  | some t =>
    if max_x = 0 ∨ t = [] then ⟨x, x, []⟩
    else
      let nx := (x + padding) % u32
      if max_x ≤ (nx + padding) % u32 then ⟨x, x, []⟩
      else
        let drawn := draw_glyphs font max_x padding 0 ⟨nx, none, 0, colors, fg, bg⟩ t
        if drawn.2.last_cp = none then ⟨x, x, []⟩
        else ⟨x, (drawn.2.x + padding) % u32, drawn.1⟩

/-- `text_width`. Without layers to draw on the colours are not looked at. -/
def text_width (font : FcftFont) (text : Option Text) (max_width padding : ℕ) : ℕ :=
  (draw_text font text 0 max_width padding ⟨0, 0, 0, 0⟩ ⟨0, 0, 0, 0⟩ []).stop

/-- `Font::measure`. -/
def measure (font : FcftFont) (text : Text) (padding : ℕ) : ℕ :=
  if text = [] then 0 else text_width font (some ((CString text).getD [])) u32_max padding

/-! ### The bar -/

/-- The arguments of `draw_bar`: texts are C strings. -/
structure BarParams where
  width : ℕ
  height : ℕ
  textpadding : ℕ
  tag_names : List Text
  mtags : ℕ
  ctags : ℕ
  urg : ℕ
  sel : Bool
  hide_vacant : Bool
  layout : Option Text
  window_title : Option Text
  status_text : Option Text
  status_colors : List TextColor
  title_fg_override : Option Color
  center_title : Bool
  active_color_title : Bool
  active_fg : Color
  active_bg : Color
  occupied_fg : Color
  occupied_bg : Color
  inactive_fg : Color
  inactive_bg : Color
  urgent_fg : Color
  urgent_bg : Color
  middle_bg : Color
  middle_bg_sel : Color

/-- Where `draw_bar` puts everything. -/
structure BarLayout where
  tags : List Segment
  layout : Segment
  /-- The width `text_width` reserves. -/
  status_w : ℕ
  status : Segment
  title : Segment
  /-- The fills on both sides of the title. -/
  middle : List (ℕ × ℕ × Color)
  /-- The bounds of the clamp of a centred title. -/
  clamp : Option (ℕ × ℕ)
  /-- The operands of the subtractions that do not saturate. -/
  differences : List (ℕ × ℕ)

/-- The colours of a tag: urgent before active before occupied. -/
def tag_colors (p : BarParams) (active occupied urgent : Bool) : Color × Color :=
  if urgent then (p.urgent_fg, p.urgent_bg)
  else if active then (p.active_fg, p.active_bg)
  else if occupied then (p.occupied_fg, p.occupied_bg)
  else (p.inactive_fg, p.inactive_bg)

/-- The square of an occupied tag. -/
def tag_square (font : FcftFont) (p : BarParams) (x : ℕ) (active occupied : Bool) : List (ℕ × ℕ) :=
  let boxs := font.height / 9
  let boxw := font.height / 6 + 2
  if !p.hide_vacant && occupied && (!p.sel || !active) && decide (3 ≤ boxw) then
    [((x + boxs + boxw) % u32, 1), (boxs + boxw, 1)]
  else []

/-- The loop over the tags, from tag `i` at `x`: the segments, where they end and the differences. -/
def draw_tags (font : FcftFont) (p : BarParams) :
    ℕ → ℕ → List Text → List Segment × ℕ × List (ℕ × ℕ)
  | _, x, [] => ([], x, [])
  | i, x, name :: names =>
    let (active, occupied, urgent) := tag_look p.mtags p.ctags p.urg (i % 32)
    if p.hide_vacant && !active && !occupied && !urgent then draw_tags font p (i + 1) x names
    else
      let (fg, bg) := tag_colors p active occupied urgent
      let seg := draw_text font (some name) x p.width p.textpadding fg bg []
      let rest := draw_tags font p (i + 1) seg.stop names
      (seg :: rest.1, rest.2.1, tag_square font p x active occupied ++ rest.2.2)

/-- `draw_bar`; `images` says whether the images of a size can be made. -/
def draw_bar (images : ℤ → ℤ → Bool) (font : FcftFont) (p : BarParams) : Option BarLayout :=
  if images (Panel.as_i32 p.width) (Panel.as_i32 p.height) = false then none
  else
    let (tags, x, squares) := draw_tags font p 0 0 p.tag_names
    let layout := draw_text font p.layout x p.width p.textpadding p.inactive_fg p.inactive_bg []
    let x := layout.stop
    let st := p.status_text.getD []
    let status_w := text_width font (some st) (p.width - x) p.textpadding
    let status_x := (p.width + (u32 - status_w)) % u32
    let status :=
      match p.status_text with
      | none => ⟨p.width, p.width, []⟩
      | some text =>
        draw_text font (some text) status_x p.width p.textpadding p.inactive_fg p.inactive_bg
          p.status_colors
    let title := p.window_title.getD []
    let tw := text_width font (some title) (p.width - status_w - x) 0
    let centered := (p.width - tw) / 2
    let max_nx := p.width - status_w - tw
    let nx := if p.center_title then max x (min centered max_nx)
      else min ((x + p.textpadding) % u32) (p.width - status_w)
    let mid := if p.sel then p.middle_bg_sel else p.middle_bg
    let t_fg := p.title_fg_override.getD
      (if p.sel && p.active_color_title then p.active_fg else p.inactive_fg)
    let t_bg := if p.sel && p.active_color_title then p.active_bg else p.inactive_bg
    let drawn := draw_text font (some title) nx (p.width - status_w) 0 t_fg t_bg []
    some
      { tags := tags
        layout := layout
        status_w := status_w
        status := status
        title := drawn
        middle := [(x, nx, mid), (drawn.stop, p.width - status_w, mid)]
        clamp := if p.center_title then some (x, max_nx) else none
        differences :=
          squares ++ if p.status_text.isSome then [(p.width, status_w)] else [] }

end azoth_render

end Compositor
