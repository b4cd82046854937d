import Mathlib.Data.Rat.Floor
import Mathlib.Tactic.Common
import Rwl.Core.Panel

/-!
# The hover widget of the bar

The pointer over a block of the status starts a command on a thread of its own; what it prints is
posted into one slot, which the loop of the bar reads.

* `HoverState`, the part of the state of the thread about the pointer, the widget and the workers;
* `block_at`, `update_hover`, `clear_hover`, `request_widget`, `open_widget_with_text`;
* `HoverState.work`, a step of a worker, and `HoverState.read`, the loop finding the pipe readable;
* `HoverEvent`, `HoverState.step`.
-/

namespace Compositor

/-- The largest `u32`. -/
def u32_max : ℕ := u32 - 1

/-- Saturation of `u32`. -/
def sat (n : ℕ) : ℕ := min n u32_max

/-- A loaded font, as far as the widget measures with it. -/
structure Font where
  height : ℕ
  measure : Text → ℕ

/-- `strip_ansi`; `csi` says that the text begins inside an escape sequence. -/
def strip_ansi_from : Bool → Text → Text
  | _, [] => []
  | true, c :: t => strip_ansi_from (!(0x40 ≤ c.toNat && c.toNat ≤ 0x7e)) t
  | false, c :: t =>
    if c.toNat = 0x1b then
      match t with
      | [] => []
      | d :: u => if d = '[' then strip_ansi_from true u else strip_ansi_from false (d :: u)
    else c :: strip_ansi_from false t

/-- `strip_ansi`. -/
def strip_ansi (line : Text) : Text := strip_ansi_from false line

def WIDGET_MAX_LINES : ℕ := 256

def WIDGET_MAX_DIM : ℕ := 4096

/-- `HoverResult`. -/
structure HoverResult where
  generation : ℕ
  bar_idx : ℕ
  block_idx : ℕ
  lines : List Text
  deriving DecidableEq

/-- A thread started by `request_widget`. `output` holds the lines it made of what its command
printed, once the command has ended, and `woken` says that it wrote to the pipe. -/
structure Worker where
  generation : ℕ
  bar_idx : ℕ
  block_idx : ℕ
  cmd : Text
  output : Option (List Text)
  woken : Bool
  deriving DecidableEq

/-- `Widget`. -/
structure Widget where
  lines : List Text
  width : ℕ
  height : ℕ
  stride : ℕ
  bufsize : ℕ
  configured : Bool
  deriving DecidableEq

/-- The bar thread, its workers, the slot they share and the bytes in their pipe. -/
structure HoverState where
  panels : List Panel
  buffer_scale : ℕ
  font : Font
  textpadding : ℕ
  hover_commands : List Text
  pointer_focus : Option ℕ
  pointer_x : ℚ
  hover_target : Option (ℕ × ℕ)
  widget : Option Widget
  hover_generation : ℕ
  hover_shared : Option HoverResult
  wake : ℕ
  workers : List Worker

namespace HoverState

/-- `block_at`. -/
def block_at (s : HoverState) (idx : ℕ) (surface_x : ℚ) : Option ℕ :=
  match s.panels[idx]? with
  | none => none
  | some bar =>
    match bar.block_pix_ends.getLast? with
    | none => none
    | some full_w =>
      if full_w = 0 then none
      else
        let scale := max s.buffer_scale 1
        let x := sat (sat ⌊max surface_x 0⌋₊ * scale)
        let start := bar.width - bar.textpadding - full_w
        if x < start then none
        else bar.block_pix_ends.findIdx? fun stop => x - start < stop

/-- `close_widget`. -/
def close_widget (s : HoverState) : HoverState := { s with widget := none }

/-- `clear_hover`. -/
def clear_hover (s : HoverState) : HoverState := { s.close_widget with hover_target := none }

/-- `request_widget`. -/
def request_widget (s : HoverState) (bar_idx block_idx : ℕ) (cmd : Text) : HoverState :=
  { s with workers := s.workers ++ [⟨s.hover_generation, bar_idx, block_idx, cmd, none, false⟩] }

/-- `update_hover`. -/
def update_hover (s : HoverState) (idx : ℕ) : HoverState :=
  let target := (s.block_at idx s.pointer_x).map fun k => (idx, k)
  if target = s.hover_target then s
  else
    let s := { s with
      hover_target := target
      widget := none
      hover_generation := (s.hover_generation + 1) % 2 ^ 64 }
    match target with
    | some (bar_idx, block_idx) =>
      let cmd := (s.hover_commands[block_idx]?).getD []
      if cmd = [] then s else s.request_widget bar_idx block_idx cmd
    | none => s

/-- The width of the widest line, without its escape sequences. -/
def text_width (font : Font) (lines : List Text) : ℕ :=
  ((lines.map fun l => font.measure (strip_ansi l)).max?).getD 0

/-- `open_widget_with_text`. -/
def open_widget_with_text (s : HoverState) (bar_idx : ℕ) (lines : List Text) : HoverState :=
  if lines = [] then s
  else
    let lines := lines.take WIDGET_MAX_LINES
    let text_w := text_width s.font lines
    if text_w = 0 then s
    else
      let width := min (sat (text_w + sat (s.textpadding * 2))) WIDGET_MAX_DIM
      let height := min (sat (sat (max s.font.height 1 * lines.length) + sat (s.textpadding * 2)))
        WIDGET_MAX_DIM
      match (s.panels[bar_idx]?).bind fun bar => bar.block_pix_ends.getLast? with
      | none => s
      | some full_w =>
        if full_w = 0 then s
        else { s with widget := some ⟨lines, width, height, width * 4, width * 4 * height, false⟩ }

/-- The lines a worker makes of what its command printed; blank lines at the end are dropped. -/
def output_lines (text : Text) : List Text :=
  ((Text.lines (trim_end_newlines text)).reverse.dropWhile fun l => decide (Text.trim l = [])).reverse

/-- Worker `i` takes a step: its command ends, having printed `text`, and the lines are posted
unless there are none; or it writes a byte to the pipe. -/
def work (s : HoverState) (i : ℕ) (text : Text) : HoverState :=
  match s.workers[i]? with
  | none => s
  | some w =>
    match w.output with
    | none =>
      let lines := output_lines text
      let posted := if lines = [] then s.hover_shared
        else some ⟨w.generation, w.bar_idx, w.block_idx, lines⟩
      { s with
        hover_shared := posted
        workers := s.workers.set i { w with output := some lines, woken := false } }
    | some lines =>
      if lines = [] ∨ w.woken = true then s
      else { s with wake := s.wake + 1, workers := s.workers.set i { w with woken := true } }

/-- The result is the one of the block the pointer is on, and no widget is up. -/
def Current (s : HoverState) (r : HoverResult) : Prop :=
  r.generation = s.hover_generation ∧ s.hover_target = some (r.bar_idx, r.block_idx) ∧
    s.widget = none

instance decidableCurrent (s : HoverState) (r : HoverResult) : Decidable (s.Current r) := by
  unfold Current; infer_instance

/-- The loop finds the pipe readable: it drains it and takes what is in the slot. -/
def read (s : HoverState) : HoverState :=
  if s.wake = 0 then s
  else
    let t := { s with wake := 0, hover_shared := none }
    match s.hover_shared with
    | some r => if s.Current r then t.open_widget_with_text r.bar_idx r.lines else t
    | none => t

/-- `handle_socket_command`, at the instant `now`: a `status` that reaches a bar clears the
hover. -/
def handle_socket_command (s : HoverState) (now : ℕ) (buf : Text) : HoverState :=
  let asked := s.panels.any fun p =>
    match p.asked buf with
    | some (.status _) => true
    | _ => false
  let t := { s with panels := ((BarThread.mk now s.panels).handle_socket_command buf).panels }
  if asked then t.clear_hover else t

end HoverState

/-- What happens to the thread: the pointer enters, leaves or moves; the blocks thread has a new
status; a socket command; a `reload`; a bar is configured or hidden, an output appears; the widget
is configured or closed; a worker takes a step; and the loop reads the slot. -/
inductive HoverEvent
  | enter (idx : ℕ) (surface_x : ℚ)
  | leave (idx : ℕ)
  | motion (surface_x : ℚ)
  | blocks (pix_ends : List ℕ)
  | command (now : ℕ) (buf : Text)
  | reload (buffer_scale : ℕ) (font : Option (Font × ℕ × ℕ)) (hover_commands : List Text)
  | configure (i : ℕ) (current : Bool) (width height : ℕ)
  | hide_bar (i : ℕ)
  | output (name : Text) (hidden : Bool) (height : ℕ)
  | widget_configure
  | widget_closed
  | work (i : ℕ) (text : Text)
  | read

namespace HoverState

/-- A `reload` that loads a font, with the height and the padding of the bars that go with it. -/
def with_font (s : HoverState) : Option (Font × ℕ × ℕ) → HoverState
  | some (font, height, textpadding) =>
    { s with
      font := font
      textpadding := textpadding
      panels := s.panels.map fun p => { p with height := height, textpadding := textpadding } }
  | none => s

/-- One event. The surface of an `enter` or a `leave` is the one of bar `idx`, if it has one. -/
def step (s : HoverState) : HoverEvent → HoverState
  | .enter idx surface_x =>
    if (s.panels[idx]?).any (·.bar.shown) then
      update_hover { s with pointer_focus := some idx, pointer_x := surface_x } idx
    else s
  | .leave idx =>
    if (s.panels[idx]?).any (·.bar.shown) then
      let s := if s.pointer_focus = some idx then { s with pointer_focus := none } else s
      s.clear_hover
    else s
  | .motion surface_x =>
    match s.pointer_focus with
    | some idx => update_hover { s with pointer_x := surface_x } idx
    | none => s
  | .blocks pix_ends =>
    let s : HoverState :=
      { s with panels := s.panels.map fun p => { p with block_pix_ends := pix_ends } }
    match s.pointer_focus with
    | some idx => s.update_hover idx
    | none => s
  | .command now buf => s.handle_socket_command now buf
  | .reload buffer_scale font hover_commands =>
    let s : HoverState := { s with buffer_scale := buffer_scale, hover_commands := hover_commands }
    s.with_font font |>.clear_hover
  | .configure i current width height =>
    { s with panels := s.panels.modify i (Panel.configure · s.buffer_scale current width height) }
  | .hide_bar i => { s with panels := s.panels.modify i Panel.hide_bar }
  | .output name hidden height =>
    { s with panels := s.panels ++ [Panel.new name hidden height s.textpadding] }
  | .widget_configure => { s with widget := s.widget.map fun w => { w with configured := true } }
  | .widget_closed => if s.widget.isSome then s.clear_hover else s
  | .work i text => s.work i text
  | .read => s.read

/-- The thread before anything happened. -/
def init (buffer_scale : ℕ) (font : Font) (textpadding : ℕ) (hover_commands : List Text) :
    HoverState where
  panels := []
  buffer_scale := buffer_scale
  font := font
  textpadding := textpadding
  hover_commands := hover_commands
  pointer_focus := none
  pointer_x := 0
  hover_target := none
  widget := none
  hover_generation := 0
  hover_shared := none
  wake := 0
  workers := []

end HoverState

end Compositor
