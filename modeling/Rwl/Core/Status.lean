import Mathlib.Tactic.Common
import Rwl.Core.Text
import Rwl.Core.Desk

/-!
# The status stream

What `print_status` writes: seven lines for each monitor.

* `MonStatus`: what the lines of one monitor say, and `MonStatus.lines`, how they say it;
* `statuses`: what they say of a desk;
* `format_status`: the whole text.
-/

namespace Compositor

/-- What the status stream says of one monitor. `title_error` marks a title that is the error of
the configuration. -/
structure MonStatus where
  name : Text
  title_error : Bool
  title : Text
  appid : Text
  fullscreen : Bool
  floating : Bool
  selmon : Bool
  occupied : ℕ
  selected : ℕ
  focused : ℕ
  urgent : ℕ
  layout : Text
  deriving DecidableEq

namespace MonStatus

/-- `u32::from` a flag, printed. -/
def flag (b : Bool) : Text := Text.decimal b.toNat

/-- The fields of the `tags` line. -/
def masks (m : MonStatus) : Text :=
  Text.join [Text.decimal m.occupied, Text.decimal m.selected, Text.decimal m.focused,
    Text.decimal m.urgent]

/-- The keyword and the argument of each line. -/
def entries (m : MonStatus) : List (Text × Text) :=
  [(if m.title_error then "title_error".toList else "title".toList, m.title),
    ("appid".toList, m.appid), ("fullscreen".toList, flag m.fullscreen),
    ("floating".toList, flag m.floating), ("selmon".toList, flag m.selmon),
    ("tags".toList, m.masks), ("layout".toList, m.layout)]

/-- One line. -/
def entryLine (name : Text) (e : Text × Text) : Text := name ++ ' ' :: (e.1 ++ ' ' :: e.2)

/-- The lines of a monitor. -/
def lines (m : MonStatus) : List Text := m.entries.map (entryLine m.name)

end MonStatus

namespace Desk

variable (d : Desk)

/-- The windows assigned to a monitor. -/
def windowsOn (i : ℕ) : List WinId := d.windows.filter fun w => decide ((d.st w).mon_idx = i)

/-- `per_mon_tags`: the tags of the windows and of the urgent windows of a monitor. -/
def per_mon_tags (i : ℕ) : ℕ × ℕ :=
  (d.windowsOn i).foldl (fun slot w =>
    (slot.1 ||| (d.st w).tags,
      if (d.st w).is_urgent then slot.2 ||| (d.st w).tags else slot.2)) (0, 0)

/-- `focused_per_mon`. -/
def focused_on (i : ℕ) (mon : Monitor) : Option WinId := d.topOn mon.tags i

/-- What the status stream says of monitor `i`; `err` is the error of the configuration. -/
def status (err : Option Text) (i : ℕ) (mon : Monitor) : MonStatus :=
  let focused := (d.focused_on i mon).map d.st
  { name := (d.output mon.output).name.toList
    title_error := err.isSome
    title := err.getD (((focused.bind WindowState.last_title).getD "").toList)
    appid := ((focused.bind WindowState.last_appid).getD "").toList
    fullscreen := (focused.map WindowState.is_fullscreen).getD false
    floating := (focused.map WindowState.is_floating).getD false
    selmon := decide (i = d.sel_mon)
    occupied := (d.per_mon_tags i).1 &&& d.cfg.tag_mask
    selected := mon.tags
    focused := (focused.map WindowState.tags).getD 0
    urgent := (d.per_mon_tags i).2 &&& d.cfg.tag_mask
    layout := (mon.layout_symbol d.cfg).toList }

/-- What the status stream says of every monitor. -/
def statuses (err : Option Text) : List MonStatus :=
  d.monitors.mapIdx fun i mon => d.status err i mon

/-- `format_status`. -/
def format_status (err : Option Text) : Text :=
  Split.unlines '\n' ((d.statuses err).flatMap MonStatus.lines)

end Desk

end Compositor
