import Mathlib.Tactic.Common
import Rwl.Core.Text

/-!
# The embedded bar

The part of the bar that is told what to show.

* `Bar`, the state of one output, and `tag_look`, what `draw_bar` makes of its masks;
* `process_stdin_buf`, the reader of the status stream, and `Pipe`, the carry-over of the pipe it
  comes through;
* `TagEvent`, `zdwl_tag` and `zdwl_frame`, the `zdwl_ipc` events about tags;
* `handle_socket_command`, for the `title` and `status` commands.
-/

namespace Compositor

/-- `RustColor`. -/
structure Color where
  red : ℕ
  green : ℕ
  blue : ℕ
  alpha : ℕ
  deriving DecidableEq

/-- The bar of one output. `title_override` is the text, the seconds it stays and its colour;
`status` is the text handed to `parse_into_customtext`. -/
structure Bar where
  name : Option Text
  dead : Bool
  ctags : ℕ
  mtags : ℕ
  urg : ℕ
  sel : ℕ
  layout : Option Text
  window_title : Option Text
  title_is_error : Bool
  title_override : Option (Text × ℕ × Option Color)
  status : Text
  pending_ctags : ℕ
  pending_mtags : ℕ
  pending_urg : ℕ
  redraw : Bool
  shown : Bool
  was_hidden_before_title : Bool
  deriving DecidableEq

/-- `Bar::new`, once the bar knows its output and has a surface. -/
def Bar.new (name : Text) : Bar where
  name := some name
  dead := false
  ctags := 0
  mtags := 0
  urg := 0
  sel := 0
  layout := none
  window_title := none
  title_is_error := false
  title_override := none
  status := []
  pending_ctags := 0
  pending_mtags := 0
  pending_urg := 0
  redraw := false
  shown := true
  was_hidden_before_title := false

/-- `draw_bar`: whether tag `i` is active, occupied and urgent. -/
def tag_look (mtags ctags urg i : ℕ) : Bool × Bool × Bool :=
  (mtags.testBit i, ctags.testBit i, urg.testBit i)

/-! ### The status stream -/

/-- The values of `u32`. -/
def u32 : ℕ := 2 ^ 32

/-- The `tags` line. -/
def Bar.set_tags (bar : Bar) (arg : Text) : Bar :=
  match (Text.split_whitespace arg).filterMap (Text.parse_uint u32) with
  | c :: m :: _ :: u :: _ =>
      { bar with
        ctags := c
        mtags := m
        urg := u
        redraw := bar.redraw || decide (c ≠ bar.ctags) || decide (m ≠ bar.mtags) ||
          decide (u ≠ bar.urg) }
  | _ => bar

/-- The `selmon` line. -/
def Bar.set_sel (bar : Bar) (arg : Text) : Bar :=
  let v := (Text.parse_uint u32 (Text.trim arg)).getD 0
  { bar with sel := v, redraw := bar.redraw || decide (v ≠ bar.sel) }

/-- What a line makes of the bar it is for. -/
def Bar.apply (bar : Bar) (cmd arg : Text) : Bar :=
  if cmd = "tags".toList then bar.set_tags arg
  else if cmd = "layout".toList then { bar with layout := some arg, redraw := true }
  else if cmd = "title".toList then
    { bar with window_title := some arg, title_is_error := false, redraw := true }
  else if cmd = "title_error".toList then
    { bar with window_title := some arg, title_is_error := true, redraw := true }
  else if cmd = "selmon".toList then bar.set_sel arg
  else bar

/-- Whether a line or a command that names an output is for this bar. -/
def Bar.named (name : Text) (bar : Bar) : Bool := !bar.dead && decide (bar.name = some name)

/-- Change the first bar that satisfies `p`. -/
def modifyFirst {α : Type*} (p : α → Bool) (f : α → α) : List α → List α
  | [] => []
  | a :: l => if p a then f a :: l else a :: modifyFirst p f l

/-- One line of `process_stdin_buf`. -/
def process_line (bars : List Bar) (line : Text) : List Bar :=
  match Text.split_once line with
  | none => bars
  | some (output, rest) =>
      let (cmd, arg) := (Text.split_once rest).getD (rest, [])
      modifyFirst (Bar.named output) (Bar.apply · cmd arg) bars

/-- `process_stdin_buf`. -/
def process_stdin_buf (buf : Text) (bars : List Bar) : List Bar :=
  (Text.lines buf).foldl process_line bars

/-! ### The pipe -/

/-- What the reader of the pipe keeps: the bars, and the line that is not complete yet. -/
structure Pipe where
  stdin_buf : Text
  bars : List Bar
  deriving DecidableEq

/-- The text up to the last end of line, and the rest. -/
def rcut (t : Text) : Option (Text × Text) :=
  (Split.cut '\n' t.reverse).map fun c => (c.2.reverse ++ ['\n'], c.1.reverse)

/-- Hand the complete lines to `process_stdin_buf`. -/
def Pipe.deliver (s : Pipe) : Pipe :=
  match rcut s.stdin_buf with
  | some (whole, rest) => ⟨rest, process_stdin_buf whole s.bars⟩
  | none => s

/-- One read of the pipe. -/
def Pipe.read (s : Pipe) (tmp : List UInt8) : Pipe :=
  match Text.from_utf8 tmp with
  | some t => { s with stdin_buf := s.stdin_buf ++ t }
  | none => s

/-- The pipe is readable: read it until it would block. -/
def Pipe.poll (s : Pipe) (reads : List (List UInt8)) : Pipe := (reads.foldl Pipe.read s).deliver

/-! ### The `zdwl_ipc` events -/

/-- `ZdwlIpcOutputV2::Tag`. -/
structure TagEvent where
  tag : ℕ
  state : ℕ
  clients : ℕ

/-- `TagState::Active`. -/
def TagState.Active : ℕ := 1

/-- `TagState::Urgent`. -/
def TagState.Urgent : ℕ := 2

/-- The `Tag` event. -/
def zdwl_tag (bar : Bar) (e : TagEvent) : Bar :=
  let mask := 2 ^ e.tag
  let bar₁ :=
    if e.state = TagState.Active then { bar with pending_ctags := bar.pending_ctags ||| mask }
    else if e.state = TagState.Urgent then { bar with pending_urg := bar.pending_urg ||| mask }
    else bar
  if 0 < e.clients then { bar₁ with pending_mtags := bar₁.pending_mtags ||| mask } else bar₁

/-- The `Frame` event. -/
def zdwl_frame (bar : Bar) : Bar :=
  { bar with
    ctags := bar.pending_ctags
    mtags := bar.pending_mtags
    urg := bar.pending_urg
    pending_ctags := 0
    pending_mtags := 0
    pending_urg := 0
    redraw := true }

/-! ### The bar socket -/

/-- `u32::from_str_radix(_, 16)`. -/
def from_str_radix_16 (t : Text) : Option ℕ :=
  let digits := Text.strip_plus t
  let digit (c : Char) : Option ℕ :=
    if c.isDigit then some (c.toNat - '0'.toNat)
    else if 'a' ≤ c ∧ c ≤ 'f' then some (c.toNat - 'a'.toNat + 10)
    else if 'A' ≤ c ∧ c ≤ 'F' then some (c.toNat - 'A'.toNat + 10)
    else none
  if digits = [] then none
  else ((digits.mapM digit).map fun ds => ds.foldl (fun n d => n * 16 + d) 0).filter
    fun n => decide (n < u32)

/-- `parse_hex_color`. -/
def parse_hex_color : Text → Option Color
  | '#' :: hex =>
      (from_str_radix_16 hex).bind fun n =>
        let byte (shift : ℕ) : ℕ := (n >>> shift) % 256 * 0x101
        if (Text.bytes hex).length = 6 then some ⟨byte 16, byte 8, byte 0, 0xffff⟩
        else if (Text.bytes hex).length = 8 then some ⟨byte 24, byte 16, byte 8, byte 0⟩
        else none
  | _ => none

/-- The bars a command is for. -/
def Bar.addressed (target : Text) (bar : Bar) : Bool :=
  if target = "all".toList then !bar.dead
  else if target = "selected".toList then !bar.dead && decide (bar.sel ≠ 0)
  else bar.named target

/-- `str::get(n..)`, empty when `n` is past the end or inside a character. -/
def get_from : ℕ → Text → Text
  | 0, t => t
  | _ + 1, [] => []
  | n + 1, c :: t => if c.utf8Size ≤ n + 1 then get_from (n + 1 - c.utf8Size) t else []

/-- The bytes of the first two pieces that white space separates, with one byte of white space
after each. -/
def skip (buf : Text) : ℕ :=
  (((buf.splitOnP Text.is_whitespace).take 2).map fun s => (Text.bytes s).length + 1).sum

/-- `trim_end_matches('\n')`. -/
def trim_end_newlines (t : Text) : Text := (t.reverse.dropWhile fun c => decide (c = '\n')).reverse

/-- The optional duration of a `title`, and what follows it. -/
def take_secs (t : Text) : ℕ × Text :=
  match (Text.split_once t).bind fun c => (Text.parse_uint (2 ^ 64) c.1).map fun n => (n, c.2) with
  | some (n, after) => (max 1 (min n 3600), after)
  | none => (3, t)

/-- The optional colour of a `title`, and what follows it. -/
def take_color (t : Text) : Option Color × Text :=
  if t.head? = some '#' then
    match (Text.split_once t).bind fun c => (parse_hex_color c.1).map fun col => (col, c.2) with
    | some (col, after) => (some col, after)
    | none => (none, t)
  else (none, t)

/-- The `title` command on a bar. -/
def Bar.override (text : Text) (secs : ℕ) (color : Option Color) (bar : Bar) : Bar :=
  { bar with
    was_hidden_before_title := bar.was_hidden_before_title || !bar.shown
    shown := true
    title_override := some (text, secs, color)
    redraw := true }

/-- `handle_socket_command`, for `title` and `status`. -/
def handle_socket_command (buf : Text) (bars : List Bar) : List Bar :=
  match Text.split_whitespace buf with
  | target :: cmd :: _ =>
      let rest := trim_end_newlines (get_from (skip buf) buf)
      let on (f : Bar → Bar) : List Bar :=
        bars.map fun bar => if bar.addressed target then f bar else bar
      if cmd = "status".toList then
        if rest = [] then bars else on fun bar => { bar with status := rest, redraw := true }
      else if cmd = "title".toList then
        let (secs, rest₁) := take_secs rest
        let (color, text) := take_color rest₁
        if text = [] then bars else on (Bar.override text secs color)
      else bars
  | _ => bars

end Compositor
