import Mathlib.Tactic.Common
import Rwl.Core.Hover
import Rwl.Lib.ByteScan

/-!
# Markup of the bar's texts

The three scanners of the bar, over the bytes of a text by an index. Each loop is given as many
rounds as there are bytes, and one more; its result is `none` when they do not suffice, and where
the source would panic on an index.

* `azoth_render.parse_ansi`, `azoth_render.strip_ansi`: the escape sequences in a hover widget;
* `parse_color`, `parse_command`, `parse_into_customtext`: the commands in the status.
-/

namespace Compositor

open ByteScan

/-- `RustTextColor`. -/
structure TextColor where
  color : Color
  is_bg : Bool
  start_byte : ℕ
  deriving DecidableEq

/-- `t[i..].chars().next()`. -/
def charAt (t : Text) (i : ℕ) : Option (Option Char) := (sliceFrom? t i).map List.head?

namespace azoth_render

/-- The bytes that end an escape sequence. -/
def is_final (b : UInt8) : Bool := decide (0x40 ≤ b ∧ b ≤ 0x7e)

/-- The index of the byte that ends the sequence whose parameters begin at `j`, or the end. -/
def csi_end (bytes : List UInt8) (j : ℕ) : ℕ := j + (bytes.drop j).findIdx is_final

/-- What the parameters of `ESC [ .. m` make of reverse video, and whether they say anything. -/
def sgr (reverse : Bool) (params : Text) : Bool × Bool :=
  let start : Bool × Bool := if params = [] then (false, true) else (reverse, false)
  (params.splitOnP fun c => decide (c = ';')).foldl
    (fun s p =>
      if p = [] ∨ p = ['0'] ∨ p = ['2', '7'] then (false, true)
      else if p = ['7'] then (true, true)
      else s) start

/-- The two overrides that switch reverse video. -/
def overrides (fg bg accent : Color) (reverse : Bool) (pos : ℕ) : List TextColor :=
  let (f, b) := if reverse then (bg, accent) else (fg, bg)
  [⟨f, false, pos⟩, ⟨b, true, pos⟩]

/-- The loop of `parse_ansi`. -/
def parse_loop (line : Text) (fg bg accent : Color) :
    ℕ → ℕ → Bool → Text → List TextColor → Option (Text × List TextColor)
  | 0, _, _, _, _ => none
  | fuel + 1, i, reverse, out, colors =>
    let bytes := enc line
    if i < bytes.length then
      if bytes[i]? = some 0x1b then
        if bytes[i + 1]? = some 0x5b then
          let j := csi_end bytes (i + 2)
          let next := if j < bytes.length then j + 1 else j
          if bytes[j]? = some 0x6d then
            (slice? line (i + 2) j).bind fun params =>
              let (reverse, changed) := sgr reverse params
              let pos := len out % u32
              parse_loop line fg bg accent fuel next reverse out
                (if changed then colors ++ overrides fg bg accent reverse pos else colors)
          else parse_loop line fg bg accent fuel next reverse out colors
        else parse_loop line fg bg accent fuel (i + 1) reverse out colors
      else
        match charAt line i with
        | none => none
        | some none => some (out, colors)
        | some (some ch) =>
          parse_loop line fg bg accent fuel (i + ch.utf8Size) reverse (out ++ [ch]) colors
    else some (out, colors)

/-- `CString::new(t)`, without the byte at its end. -/
def CString (t : Text) : Option Text := if '\x00' ∈ t then none else some t

/-- `parse_ansi`: the text as a C string, and the overrides. -/
def parse_ansi (line : Text) (fg bg accent : Color) : Option (Text × List TextColor) :=
  (parse_loop line fg bg accent (len line + 1) 0 false [] []).map fun x =>
    ((CString x.1).getD [], x.2)

/-- The loop of `strip_ansi`. -/
def strip_loop (line : Text) : ℕ → ℕ → Text → Option Text
  | 0, _, _ => none
  | fuel + 1, i, out =>
    let bytes := enc line
    if i < bytes.length then
      if bytes[i]? = some 0x1b then
        if bytes[i + 1]? = some 0x5b then
          let j := csi_end bytes (i + 2)
          strip_loop line fuel (if j < bytes.length then j + 1 else j) out
        else strip_loop line fuel (i + 1) out
      else
        match charAt line i with
        | none => none
        | some none => some out
        | some (some ch) => strip_loop line fuel (i + ch.utf8Size) (out ++ [ch])
    else some out

/-- `strip_ansi`. -/
def strip_ansi (line : Text) : Option Text :=
  if 0x1b ∈ enc line then strip_loop line (len line + 1) 0 [] else some line

end azoth_render

/-! ### The status -/

def TEXT_MAX : ℕ := 2048

/-- `CustomText`. -/
structure CustomText where
  text : Text
  colors : List TextColor
  deriving DecidableEq

/-- What `parse_into_customtext` reads of the configuration of the bar. -/
structure MarkupConfig where
  status_commands : Bool
  inactive_fg_color : Color
  inactive_bg_color : Color

/-- `char::is_ascii_hexdigit`. -/
def is_ascii_hexdigit (c : Char) : Bool :=
  c.isDigit || decide ('a' ≤ c ∧ c ≤ 'f') || decide ('A' ≤ c ∧ c ≤ 'F')

/-- `parse_color`. -/
def parse_color (t : Text) : Option Color :=
  let s := if t.head? = some '#' then t.tail else t
  if (len s ≠ 6 ∧ len s ≠ 8) ∨ ¬ s.head?.any is_ascii_hexdigit then none
  else
    (from_str_radix_16 s).map fun parsed =>
      let alpha := if len s = 8 then parsed % 256 * 0x101 else 0xffff
      let rgb := if len s = 8 then parsed >>> 8 else parsed
      ⟨(rgb >>> 16) % 256 * 0x101, (rgb >>> 8) % 256 * 0x101, rgb % 256 * 0x101, alpha⟩

/-- The index of the first byte `b`. -/
def position (src : List UInt8) (b : UInt8) : Option ℕ :=
  if b ∈ src then some (src.findIdx (· == b)) else none

/-- `parse_command`: the name and the argument of a command, and how many bytes it takes. The outer
option is about the slices. -/
def parse_command (src : List UInt8) : Option (Option (Text × Text × ℕ)) :=
  match position src 0x28 with
  | none => some none
  | some paren_open =>
    (range? src (paren_open + 1) src.length).bind fun after =>
      match position after 0x29 with
      | none => some none
      | some p =>
        let paren_close := p + paren_open + 1
        (range? src 0 paren_open).bind fun cmd =>
          (range? src (paren_open + 1) paren_close).map fun arg =>
            (Text.from_utf8 cmd).bind fun cmd =>
              (Text.from_utf8 arg).map fun arg => (cmd, arg, paren_close + 1)

/-- The override of a command, if it is one of the two. -/
def command_color (cfg : MarkupConfig) (cmd arg : Text) (byte_pos : ℕ) : List TextColor :=
  let pick (default : Color) : Color :=
    if arg = [] then default else (parse_color arg).getD default
  if cmd = ['b', 'g'] then [⟨pick cfg.inactive_bg_color, true, byte_pos⟩]
  else if cmd = ['f', 'g'] then [⟨pick cfg.inactive_fg_color, false, byte_pos⟩]
  else []

/-- The character at `i`, unless there is none; the outer option is about the slice. -/
def next_char (bytes : List UInt8) (i : ℕ) : Option (Option Char) :=
  (range? bytes i bytes.length).map fun rest => (Text.from_utf8 rest).bind List.head?

/-- The loop of `parse_into_customtext`. -/
def markup_loop (cfg : MarkupConfig) (bytes : List UInt8) :
    ℕ → ℕ → Text → List TextColor → Option CustomText
  | 0, _, _, _ => none
  | fuel + 1, i, out, colors =>
    let push (i : ℕ) : Option CustomText :=
      (next_char bytes i).bind fun next =>
        match next with
        | none => some ⟨out, colors⟩
        | some ch => markup_loop cfg bytes fuel (i + ch.utf8Size) (out ++ [ch]) colors
    if i < bytes.length ∧ len out < TEXT_MAX - 1 then
      (bytes[i]?).bind fun b =>
        if b = 0x5e then
          let i := i + 1
          if bytes.length ≤ i then some ⟨out, colors⟩
          else
            (bytes[i]?).bind fun b =>
              if b ≠ 0x5e then
                (range? bytes i bytes.length).bind fun src =>
                  (parse_command src).bind fun command =>
                    match command with
                    | some (cmd, arg, consumed) =>
                      markup_loop cfg bytes fuel (i + consumed) out
                        (colors ++ command_color cfg cmd arg (len out % u32))
                    | none => markup_loop cfg bytes fuel i out colors
              else push i
        else push i
    else some ⟨out, colors⟩

/-- `parse_into_customtext`. -/
def parse_into_customtext (text : Text) (cfg : MarkupConfig) : Option CustomText :=
  if cfg.status_commands then markup_loop cfg (enc text) (len text + 1) 0 [] []
  else some ⟨text.take (TEXT_MAX - 1), []⟩

end Compositor
