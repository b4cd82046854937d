import Mathlib.Tactic.Common
import Rwl.Core.Streams
import Rwl.Core.Desk

/-!
# The event stream

What `rwl msg watch` and `rwl msg clients` are told, as JSON put together by format strings.

* `esc`: a string between quotes;
* `WindowEntry`, `window_obj`, `clients_json`: what is said of a window, and the list of all;
* `Report`: what one event says, and `Report.line`, how it says it;
* `Emission`, `Desk.report`: the eight emitters, and what they say of a desk;
* `Streams.emit`: the emitters, which do nothing while nobody watches.
-/

namespace Compositor

namespace Watch

/-- What `esc` pushes for one character. -/
def escChar (c : Char) : Text :=
  if c = '"' then ['\\', '"']
  else if c = '\\' then ['\\', '\\']
  else if c = '\n' then ['\\', 'n']
  else if c = '\r' then ['\\', 'r']
  else if c = '\t' then ['\\', 't']
  else if c.toNat < 0x20 then
    -- `char::from_digit` on the two halves of the byte
    ['\\', 'u', '0', '0', Nat.digitChar (c.toNat / 16), Nat.digitChar (c.toNat % 16)]
  else [c]

/-- Escape a string for a JSON double-quoted value. -/
def esc (s : Text) : Text := s.flatMap escChar

/-- `write!` of a truth value. -/
def flag (b : Bool) : Text := if b then "true".toList else "false".toList

/-- `write!` of a signed number. -/
def signed (z : ℤ) : Text := if z < 0 then '-' :: Text.decimal z.natAbs else Text.decimal z.natAbs

end Watch

open Watch

/-! ### Windows -/

/-- What is said of one window. -/
structure WindowEntry where
  app_id : Text
  title : Text
  tags : ℕ
  monitor : ℕ
  floating : Bool
  fullscreen : Bool
  focused : Bool
  geometry : Rect
  deriving DecidableEq

/-- The JSON object of a window. -/
def WindowEntry.print (e : WindowEntry) : Text :=
  "\x7b\"app_id\":\"".toList ++ esc e.app_id ++ "\",\"title\":\"".toList ++ esc e.title ++
    "\",\"tags\":".toList ++ Text.decimal e.tags ++ ",\"monitor\":".toList ++
    Text.decimal e.monitor ++ ",\"floating\":".toList ++ flag e.floating ++
    ",\"fullscreen\":".toList ++ flag e.fullscreen ++ ",\"focused\":".toList ++ flag e.focused ++
    ",\"x\":".toList ++ signed e.geometry.loc.x ++ ",\"y\":".toList ++ signed e.geometry.loc.y ++
    ",\"w\":".toList ++ signed e.geometry.size.w ++ ",\"h\":".toList ++
    signed e.geometry.size.h ++ "\x7d".toList

namespace Desk

variable (d : Desk)

/-- What `window_obj` reads of a window. -/
def window_entry (w : WinId) (focused : Option WinId) : WindowEntry where
  app_id := ((d.st w).last_appid.getD "").toList
  title := ((d.st w).last_title.getD "").toList
  tags := (d.st w).tags
  monitor := (d.st w).mon_idx
  floating := (d.st w).is_floating
  fullscreen := (d.st w).is_fullscreen
  focused := decide (focused = some w)
  geometry := (d.element_geometry w).getD ⟨⟨0, 0⟩, ⟨0, 0⟩⟩

/-- `window_obj`. -/
def window_obj (w : WinId) (focused : Option WinId) : Text := (d.window_entry w focused).print

/-- `clients_json`: the reply to `clients`. -/
def clients_json : Text :=
  '[' :: [','].intercalate (d.windows.map fun w => d.window_obj w d.focused_window) ++
    "]\n".toList

end Desk

/-! ### Events -/

/-- The `action` of a `window` event. -/
inductive WindowAction
  | opened
  | closed
  deriving DecidableEq

def WindowAction.name : WindowAction → Text
  | .opened => "open".toList
  | .closed => "close".toList

/-- The `action` of a `monitor` event. -/
inductive MonitorAction
  | added
  | removed
  deriving DecidableEq

def MonitorAction.name : MonitorAction → Text
  | .added => "add".toList
  | .removed => "remove".toList

/-- What one event says. -/
inductive Report
  | window (action : WindowAction) (window : WindowEntry)
  | title (window : WindowEntry)
  | focus (window : Option WindowEntry)
  | tag (monitor selected occupied : ℕ)
  | layout (monitor : ℕ) (old new : Text)
  | fullscreen (window : WindowEntry)
  | monitor (action : MonitorAction) (name : Text)
  | urgency (window : WindowEntry)
  deriving DecidableEq

/-- The line of an event. -/
def Report.line : Report → Text
  | .window action e => "\x7b\"event\":\"window\",\"action\":\"".toList ++ action.name ++
      "\",\"window\":".toList ++ e.print ++ "\x7d".toList
  | .title e => "\x7b\"event\":\"title\",\"window\":".toList ++ e.print ++ "\x7d".toList
  | .focus none => "\x7b\"event\":\"focus\",\"window\":null\x7d".toList
  | .focus (some e) => "\x7b\"event\":\"focus\",\"window\":".toList ++ e.print ++ "\x7d".toList
  | .tag mon selected occupied => "\x7b\"event\":\"tag\",\"monitor\":".toList ++
      Text.decimal mon ++ ",\"selected\":".toList ++ Text.decimal selected ++
      ",\"occupied\":".toList ++ Text.decimal occupied ++ "\x7d".toList
  | .layout mon old new => "\x7b\"event\":\"layout\",\"monitor\":".toList ++ Text.decimal mon ++
      ",\"old\":\"".toList ++ esc old ++ "\",\"new\":\"".toList ++ esc new ++ "\"\x7d".toList
  | .fullscreen e => "\x7b\"event\":\"fullscreen\",\"window\":".toList ++ e.print ++
      "\x7d".toList
  | .monitor action name => "\x7b\"event\":\"monitor\",\"action\":\"".toList ++ action.name ++
      "\",\"name\":\"".toList ++ esc name ++ "\"\x7d".toList
  | .urgency e => "\x7b\"event\":\"urgency\",\"window\":".toList ++ e.print ++ "\x7d".toList

/-- A call of one of the emitters. -/
inductive Emission
  | window (action : WindowAction) (w : WinId)
  | title (w : WinId)
  | focus (w : Option WinId)
  | tag (mon_idx : ℕ)
  | layout (mon_idx old_idx new_idx : ℕ)
  | fullscreen (w : WinId)
  | monitor (action : MonitorAction) (name : Text)
  | urgency (w : WinId)
  deriving DecidableEq

/-- The kind that `fan_out` compares with the filters. -/
def Emission.kind : Emission → Text
  | .window _ _ => "window".toList
  | .title _ => "title".toList
  | .focus _ => "focus".toList
  | .tag _ => "tag".toList
  | .layout _ _ _ => "layout".toList
  | .fullscreen _ => "fullscreen".toList
  | .monitor _ _ => "monitor".toList
  | .urgency _ => "urgency".toList

/-- The symbol name of a layout. -/
def LayoutKind.event_name : LayoutKind → Text
  | .Tile => "tile".toList
  | .Monocle => "monocle".toList
  | .Col => "col".toList
  | .Scroll => "scroll".toList
  | .Dwindle => "dwindle".toList
  | .Bstack => "bstack".toList
  | .CenteredMaster => "centeredmaster".toList
  | .Lua => "lua".toList

/-- `layout_name`. -/
def Config.layout_name (cfg : Config) (idx : ℕ) : Text :=
  ((cfg.layouts[idx]?).map fun l => l.kind.event_name).getD []

namespace Desk

variable (d : Desk)

/-- The tags of the windows of a monitor, together. -/
def occupiedOn (mon_idx : ℕ) : ℕ :=
  d.windows.foldl (fun occupied w =>
    if (d.st w).mon_idx = mon_idx then occupied ||| (d.st w).tags else occupied) 0

/-- What an emitter says; `tag` says nothing of a monitor that does not exist. -/
def report : Emission → Option Report
  | .window action w => some (.window action (d.window_entry w d.focused_window))
  | .title w => some (.title (d.window_entry w d.focused_window))
  | .focus w => some (.focus (w.map fun w => d.window_entry w (some w)))
  | .tag mon_idx => (d.monitors[mon_idx]?).map fun mon =>
      .tag mon_idx mon.tags (d.occupiedOn mon_idx &&& d.cfg.tag_mask)
  | .layout mon_idx old_idx new_idx =>
      some (.layout mon_idx (d.cfg.layout_name old_idx) (d.cfg.layout_name new_idx))
  | .fullscreen w => some (.fullscreen (d.window_entry w d.focused_window))
  | .monitor action name => some (.monitor action name)
  | .urgency w => some (.urgency (d.window_entry w d.focused_window))

end Desk

/-- An emitter on a desk. -/
def Streams.emit (s : Streams) (d : Desk) (e : Emission) (answers : ℕ → List Answer) : Streams :=
  if s.event_subscribers = [] then s
  else match d.report e with
    | none => s
    | some r => s.fan_out e.kind r.line answers

end Compositor
