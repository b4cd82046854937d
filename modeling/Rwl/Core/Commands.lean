import Mathlib.Tactic.Common
import Rwl.Core.Ipc
import Rwl.Core.Numbers
import Rwl.Core.Step

/-!
# The commands of the socket

* `Text.parse_int`, `Text.parse_f64`: how `str::parse` reads an `i32` and an `f64`;
* `Action.ipc_command`: the command an action is known by;
* `Command`, `Command.parse`: what `cmd_dispatch` makes of the words of a line;
* `Command.ofArgs`: the same, from the arguments of `rwl msg`;
* `Rwl.command`, `Rwl.msg`: what a command does to the compositor.

What a query writes back to its client is modelled with the status and the events.
-/

namespace Compositor

namespace Text

/-! ### Numbers with a sign -/

/-- `str::parse` for a signed type whose least value is `-bound`. -/
def parse_int (bound : ℕ) : Text → Option ℤ
  | '-' :: digits =>
      if digits ≠ [] ∧ digits.all Char.isDigit then
        let n := Nat.ofDigitChars 10 digits 0
        if n ≤ bound then some (-n) else none
      else none
  | t => (parse_uint bound t).map Int.ofNat

/-- Whether a number begins with a minus sign, and what follows its sign. -/
def sign : Text → Bool × Text
  | '-' :: t => (true, t)
  | '+' :: t => (false, t)
  | t => (false, t)

/-- The exponent a number ends with. -/
def exponent : Text → Option ℤ
  | [] => some 0
  | c :: t =>
      if c = 'e' ∨ c = 'E' then
        let (negative, digits) := sign t
        if digits ≠ [] ∧ digits.all Char.isDigit then
          let n := Nat.ofDigitChars 10 digits 0
          some (if negative then -n else n)
        else none
      else none

/-- The digits after the point, and what follows them. -/
def fraction : Text → Text × Text
  | '.' :: t => (t.takeWhile Char.isDigit, t.dropWhile Char.isDigit)
  | t => ([], t)

/-- A number without its sign. -/
def number (t : Text) : Option ℚ :=
  let whole := t.takeWhile Char.isDigit
  let (frac, rest) := fraction (t.dropWhile Char.isDigit)
  if whole ++ frac = [] then none
  else (exponent rest).map fun e =>
    let shift : ℤ := e - frac.length
    mkRat (Nat.ofDigitChars 10 (whole ++ frac) 0 * 10 ^ shift.toNat) (10 ^ (-shift).toNat)

/-- The least number that rounds to infinity. -/
def f64Limit : ℕ := 2 ^ 1024 - 2 ^ 970

/-- `str::parse` for an `f64`; a finite one is not rounded. -/
def parse_f64 (t : Text) : Option F64 :=
  let (negative, u) := sign t
  let word := u.map Char.toLower
  if word = "inf".toList ∨ word = "infinity".toList then some (.inf negative)
  else if word = "nan".toList then some .nan
  else (number u).map fun q =>
    if (f64Limit : ℚ) ≤ q then .inf negative else .fin (if negative then -q else q)

end Text

/-! ### Commands -/

/-- `Action::ipc_command`. -/
def Action.ipc_command : Action → Option Text
  | .Spawn _ => some "spawn".toList
  | .FocusStack _ => some "focusstack".toList
  | .IncNmaster _ => some "incnmaster".toList
  | .SetMfact _ => some "setmfact".toList
  | .Zoom => some "zoom".toList
  | .ViewPrev => some "viewprev".toList
  | .ViewNextOccTag _ => some "viewnextocctag".toList
  | .KillClient => some "killclient".toList
  | .SetLayout _ => some "setlayout".toList
  | .CycleLayout => some "cyclelayout".toList
  | .ToggleFloating => some "togglefloating".toList
  | .ToggleFullscreen => some "togglefullscreen".toList
  | .TogglePassthrough => some "togglepassthrough".toList
  | .View _ => some "view".toList
  | .ViewTagSpawn _ => some "viewtag_spawn".toList
  | .ToggleView _ => some "toggleview".toList
  | .Tag _ => some "tag".toList
  | .ToggleTag _ => some "toggletag".toList
  | .FocusMon _ => some "focusmon".toList
  | .TagMon _ => some "tagmon".toList
  | .Chvt _ => some "chvt".toList
  | .ReloadConfig => some "reloadconfig".toList
  | .Quit => some "quit".toList
  -- pointer-only grabs
  | .Move | .Resize => none
  | .ResetLayout => none
  | .ToggleGaps => some "togglegaps".toList
  | .ToggleScratch _ | .FocusOrToggleScratch _ | .FocusOrToggleMatchingScratch _ => none
  | .CallLua _ => none
  | .ToggleBar => some "togglebar".toList
  | .BarPrompt => some "barprompt".toList
  | .ToggleOverview | .ToggleOverviewAll | .OverviewNav _ => none
  | .TogglePip | .MovePip => none
  | .Lock => some "lock".toList
  | .LockConsume => none
  | .Consumed => none
  | .SendKeys _ => none

/-- What `cmd_dispatch` makes of a line. -/
inductive Command
  | status (filter : Option Text)
  | clients
  | info (field : Option Text)
  | outputs (cmd : Rwl.IpcCmd) (output val : Text)
  | action (a : Action)
  -- an amount that is not finite
  | set_mfact (delta : F64)
  | resume
  | focusurgent
  | set_override (path : Option Text) (mode : Option WallpaperMode)
  deriving DecidableEq

namespace Command

/-- A command whose first argument is a `u32`. -/
def mask (f : ℕ → Action) (args : List Text) : Option Command :=
  (args.head?.bind (Text.parse_uint (2 ^ 32))).map fun n => .action (f n)

/-- A command whose first argument is an `i32`. -/
def delta (f : ℤ → Action) (args : List Text) : Option Command :=
  (args.head?.bind (Text.parse_int (2 ^ 31))).map fun n => .action (f n)

/-- A command that reads no argument. -/
def bare (a : Action) (_ : List Text) : Option Command := some (.action a)

/-- `setmfact`. -/
def setmfact (args : List Text) : Option Command :=
  (args.head?.bind Text.parse_f64).map fun
    | .fin q => .action (.SetMfact q)
    | x => .set_mfact x

/-- `spawn`. -/
def spawn (args : List Text) : Option Command :=
  if args = [] then none else some (.action (.Spawn (args.map String.ofList)))

/-- `view`, `toggleview` and `setlayout`: an output and a value, or a value. -/
def perOutput (cmd : Rwl.IpcCmd) : List Text → Option Command
  | output :: val :: _ => some (.outputs cmd output val)
  | args => some (.outputs cmd "selected".toList (args.head?.getD []))

/-- `wallpaper`. -/
def wallpaper : List Text → Option Command
  | [] => none
  | path :: rest =>
      if path = "off".toList ∨ path = "none".toList ∨ path = "clear".toList then
        some (.set_override none none)
      else some (.set_override (some path) (rest.head?.bind WallpaperMode.parse))

/-- The arms of `cmd_dispatch`. -/
def arms : List (Text × (List Text → Option Command)) :=
  [("status".toList, fun args => some (.status args.head?)),
    ("clients".toList, fun _ => some .clients),
    ("info".toList, fun args => some (.info args.head?)),
    ("view".toList, perOutput .view),
    ("toggleview".toList, perOutput .toggleview),
    ("setlayout".toList, perOutput .setlayout),
    ("tag".toList, mask .Tag),
    ("toggletag".toList, mask .ToggleTag),
    ("focusstack".toList, delta .FocusStack),
    ("incnmaster".toList, delta .IncNmaster),
    ("setmfact".toList, setmfact),
    ("viewnextocctag".toList, delta .ViewNextOccTag),
    ("focusmon".toList, delta .FocusMon),
    ("tagmon".toList, delta .TagMon),
    ("chvt".toList, mask .Chvt),
    ("viewtag_spawn".toList, mask .ViewTagSpawn),
    ("spawn".toList, spawn),
    ("cyclelayout".toList, bare .CycleLayout),
    ("zoom".toList, bare .Zoom),
    ("viewprev".toList, bare .ViewPrev),
    ("killclient".toList, bare .KillClient),
    ("togglefloating".toList, bare .ToggleFloating),
    ("togglefullscreen".toList, bare .ToggleFullscreen),
    ("togglepassthrough".toList, bare .TogglePassthrough),
    ("reloadconfig".toList, bare .ReloadConfig),
    ("quit".toList, bare .Quit),
    ("resume".toList, fun _ => some .resume),
    ("focusurgent".toList, fun _ => some .focusurgent),
    ("togglebar".toList, bare .ToggleBar),
    ("barprompt".toList, bare .BarPrompt),
    ("togglegaps".toList, bare .ToggleGaps),
    ("lock".toList, bare .Lock),
    ("wallpaper".toList, wallpaper)]

/-- `cmd_dispatch`: the command of the words of a line, if they are one. -/
def parse : List Text → Option Command
  | [] => none
  | cmd :: args => (arms.find? fun arm => decide (arm.1 = cmd)).bind fun arm => arm.2 args

/-- What `rwl msg` with these arguments has the compositor do. -/
def ofArgs : List Text → Option Command
  | [] => none
  | cmd :: args =>
      -- the commands of the bar go to the bar
      if Text.starts_with cmd "-".toList then none
      else ((run_wm (cmd :: args)).bind fun t => receive (Text.bytes t)).bind fun buf =>
        match cmd_handle buf with
        | .command words => parse words
        | _ => none

end Command

/-! ### What commands do -/

namespace Rwl

/-- `find_monitor_idx`. -/
def find_monitor_idx (d : Desk) (name : Text) : Option ℕ :=
  if name = "selected".toList then some d.sel_mon
  else d.monitors.findIdx? fun m => decide ((d.output m.output).name.toList = name)

/-- The monitors a command names. -/
def namedOutputs (d : Desk) (name : Text) : List ℕ :=
  if name = "all".toList then List.range d.monitors.length else (find_monitor_idx d name).toList

/-- One monitor's share of a command; a value that is no number changes nothing. -/
def outputCommand (cmd : IpcCmd) (val : Text) (d : Desk) (idx : ℕ) : Desk :=
  let n := match cmd with
    | .view | .toggleview => Text.parse_uint (2 ^ 32) val
    | .setlayout => Text.parse_uint (2 ^ 64) val
  match n with
  | some n => ipcApply cmd n d idx
  | none => d

/-- `cmd_dispatch`, for `view`, `toggleview` and `setlayout`. -/
def outputsCommand (s : Rwl) (cmd : IpcCmd) (output val : Text) : Rwl :=
  let indices := namedOutputs s.desk output
  let s₁ := (s.modifyDesk fun d => indices.foldl (outputCommand cmd val) d).arrange_all
  let s₂ := if s.desk.sel_mon ∈ indices then s₁.focus_top else s₁
  if cmd = .setlayout then s₂ else indices.foldl (fun s idx => s.emit (.event (.tag idx))) s₂

/-- `cmd_dispatch`: the state after a command. An `Action` has no amount that is not finite. -/
def command (s : Rwl) : Command → Option Rwl
  | .status _ | .clients | .info _ => some s
  | .outputs cmd output val => some (s.outputsCommand cmd output val)
  | .action a => some (s.dispatch a)
  | .set_mfact _ => none
  | .resume => some s.ipc_resume
  | .focusurgent => some s.focus_urgent
  -- the wallpaper is drawing data
  | .set_override _ _ => some s

/-- The state after `rwl msg` with these arguments. -/
def msg (s : Rwl) (args : List Text) : Option Rwl :=
  match Command.ofArgs args with
  | some c => s.command c
  | none => some s

end Rwl

end Compositor
