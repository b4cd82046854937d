import Mathlib.Tactic.Common
import Rwl.Core.Text

/-!
# The command socket and its client

* `run_wm`, `run_bar`, `bar_send`: what `rwl msg` sends for its arguments;
* `receive`, `cmd_handle`: how the server reads a command; `Request`, what it makes of it;
* `matching`, `filtered`: the output filter of `status`, `subscribe` and the later pushes;
* `WallpaperMode`, `WmCommand` and `cmd_dispatch`, for the commands that take free text;
* `write_all`: writing to a socket that may accept any part of what it is given.
-/

namespace Compositor

/-! ### The client -/

/-- The commands whose arguments `run_wm` sends as they are. -/
def sentWhole : List Text :=
  ["status".toList, "info".toList, "clients".toList, "view".toList, "toggleview".toList,
    "setlayout".toList]

/-- The commands that need an argument. -/
def sentWithArgs : List Text :=
  ["tag".toList, "toggletag".toList, "focusstack".toList, "focusmon".toList, "tagmon".toList,
    "viewnextocctag".toList, "incnmaster".toList, "setmfact".toList, "chvt".toList,
    "viewtag_spawn".toList, "spawn".toList, "wallpaper".toList]

/-- The commands that are sent without their arguments. -/
def sentBare : List Text :=
  ["cyclelayout".toList, "zoom".toList, "viewprev".toList, "killclient".toList,
    "togglefloating".toList, "togglefullscreen".toList, "togglepassthrough".toList,
    "reloadconfig".toList, "focusurgent".toList, "resume".toList, "quit".toList,
    "togglebar".toList, "barprompt".toList, "togglegaps".toList, "lock".toList]

/-- `run_wm`: the text written to the command socket, if the command is known and complete. -/
def run_wm : List Text → Option Text
  | [] => none
  | cmd :: args =>
      if cmd ∈ sentWhole then some (Text.join (cmd :: args))
      else if cmd = "subscribe".toList then
        some (Text.join (cmd :: args.take 1))
      else if cmd = "watch".toList then some (Text.join (cmd :: args))
      else if cmd ∈ sentWithArgs ∧ args ≠ [] then some (Text.join (cmd :: args))
      else if cmd ∈ sentBare then some cmd
      else none

/-- `bar_send`: what each bar receives. -/
def bar_send (output cmd : Text) : Option Text → Text
  | none => Text.join [output, cmd]
  | some data => Text.join [output, cmd, data]

/-- The optional duration of `-title`, as an argument of its own. -/
def title_secs : List Text → Text × List Text
  | [] => ([], [])
  | a :: args => if a ≠ [] ∧ a.all Char.isDigit then (a ++ [' '], args) else ([], a :: args)

/-- The optional colour of `-title`. -/
def title_color : List Text → Text × List Text
  | [] => ([], [])
  | a :: args => if a.head? = some '#' then (a ++ [' '], args) else ([], a :: args)

/-- The bar commands that take an output and nothing else. -/
def barBare : List (Text × Text) :=
  [("-prompt".toList, "prompt".toList), ("-show".toList, "show".toList),
    ("-hide".toList, "hide".toList),
    ("-toggle-visibility".toList, "toggle-visibility".toList),
    ("-set-top".toList, "set-top".toList), ("-set-bottom".toList, "set-bottom".toList),
    ("-toggle-location".toList, "toggle-location".toList)]

/-- The loop of `run_bar`, for at most `n` commands. -/
def run_bar_loop : ℕ → List Text → List Text
  | 0, _ => []
  | n + 1, cmd :: output :: args =>
      if cmd = "-status".toList then
        match args with
        | [] => []
        | text :: args => bar_send output "status".toList (some text) :: run_bar_loop n args
      else if cmd = "-title".toList then
        let (secs, rest₁) := title_secs args
        let (color, rest₂) := title_color rest₁
        match rest₂ with
        | [] => []
        | text :: args =>
            bar_send output "title".toList (some (secs ++ color ++ text)) :: run_bar_loop n args
      else match barBare.find? fun c => decide (c.1 = cmd) with
        | some c => bar_send output c.2 none :: run_bar_loop n args
        | none => []
  | _ + 1, _ => []

/-- `run_bar`: the texts that are sent, up to the first command that is unknown or incomplete. -/
def run_bar (args : List Text) : List Text := run_bar_loop args.length args

/-! ### The server -/

/-- `MAX_CMD_BYTES`. -/
def MAX_CMD_BYTES : ℕ := 64 * 1024

/-- What `take(MAX_CMD_BYTES).read_to_string` makes of the bytes a client wrote. -/
def receive (b : List UInt8) : Option Text := Text.from_utf8 (b.take MAX_CMD_BYTES)

/-- What `cmd_handle` makes of a command. -/
inductive Request
  | subscribe (filter : Option Text)
  | watch (filter : Option (List Text))
  | command (words : List Text)
  deriving DecidableEq

/-- `cmd_handle`. -/
def cmd_handle (buf : Text) : Request :=
  let line := Text.trim buf
  if line = "subscribe".toList ∨ Text.starts_with line "subscribe ".toList then
    let rest := Text.trim (line.drop 9)
    .subscribe (if rest = [] then none else some rest)
  else if line = "watch".toList ∨ Text.starts_with line "watch ".toList then
    let rest := Text.trim (line.drop 5)
    .watch (if rest = [] then none
      else some (Split.tokens (fun c => decide (c = ',' ∨ c = ' ')) rest))
  else .command (Text.split_whitespace line)

/-- A command that is neither `subscribe` nor `watch` is its words. -/
theorem cmd_handle_eq_command {buf : Text}
    (hsub : (Text.split_whitespace buf).head? ≠ some "subscribe".toList)
    (hwatch : (Text.split_whitespace buf).head? ≠ some "watch".toList) :
    cmd_handle buf = .command (Text.split_whitespace buf) := by
  have htrim : Text.split_whitespace (Text.trim buf) = Text.split_whitespace buf :=
    Split.tokens_trim buf
  have hfirst (w : Text) (hw : Text.IsWord w)
      (h : Text.trim buf = w ∨ Text.starts_with (Text.trim buf) (w ++ [' ']) = true) :
      (Text.split_whitespace buf).head? = some w := by
    rw [← htrim]
    unfold Text.split_whitespace
    rcases h with h | h
    · rw [h, Split.tokens_of_word hw]
      rfl
    · obtain ⟨rest, hrest⟩ := List.isPrefixOf_iff_prefix.1 h
      rw [← hrest, List.append_assoc, List.singleton_append,
        Split.tokens_append_sep w rest (by decide), Split.tokens_of_word hw]
      rfl
  unfold cmd_handle
  dsimp only
  rw [if_neg, if_neg, htrim]
  · intro h
    exact hwatch (hfirst "watch".toList (by decide) h)
  · intro h
    exact hsub (hfirst "subscribe".toList (by decide) h)

theorem words_of_cmd_handle {buf : Text} {words : List Text}
    (h : cmd_handle buf = .command words) : words = Text.split_whitespace buf := by
  unfold cmd_handle at h
  dsimp only at h
  split_ifs at h
  exact (Request.command.inj h).symm.trans (Split.tokens_trim buf)

/-! ### The output filter -/

/-- The lines a filter lets through. -/
def matching (filter : Option Text) (text : Text) : List Text :=
  match filter with
  | none => Text.lines text
  | some name => (Text.lines text).filter fun l => Text.starts_with l name

/-- What `status` answers, what `subscribe` begins with and what `broadcast_to_subscribers` sends. -/
def filtered (filter : Option Text) (text : Text) : Text :=
  match filter with
  | none => text
  | some name => Split.unlines '\n' (matching (some name) text)

/-! ### Commands that take free text -/

/-- `WallpaperMode`. -/
inductive WallpaperMode
  | Fill
  | Fit
  | Stretch
  | Center
  deriving DecidableEq

namespace WallpaperMode

/-- How a mode is written. -/
def name : WallpaperMode → Text
  | Fill => "fill".toList
  | Fit => "fit".toList
  | Stretch => "stretch".toList
  | Center => "center".toList

/-- `WallpaperMode::parse`. -/
def parse (s : Text) : Option WallpaperMode :=
  if s = "fill".toList then some Fill
  else if s = "fit".toList then some Fit
  else if s = "stretch".toList then some Stretch
  else if s = "center".toList then some Center
  else none

end WallpaperMode

/-- What `cmd_dispatch` does with the words of `status`, `spawn` and `wallpaper`; every other
command is left out. -/
inductive WmCommand
  | status (filter : Option Text)
  | spawn (argv : List Text)
  | set_override (path : Option Text) (mode : Option WallpaperMode)
  deriving DecidableEq

/-- `cmd_dispatch`, for `status`, `spawn` and `wallpaper`. -/
def cmd_dispatch : List Text → Option WmCommand
  | [] => none
  | cmd :: args =>
      if cmd = "status".toList then some (.status args.head?)
      else if cmd = "spawn".toList then if args = [] then none else some (.spawn args)
      else if cmd = "wallpaper".toList then
        match args with
        | [] => none
        | path :: rest =>
            if path ∈ ["off".toList, "none".toList, "clear".toList] then
              some (.set_override none none)
            else some (.set_override (some path) (rest.head?.bind WallpaperMode.parse))
      else none

/-- What a command sent by `run_wm` does, from its arguments to `cmd_dispatch`. -/
def msg (args : List Text) : Option WmCommand :=
  ((run_wm args).bind fun t => receive (Text.bytes t)).bind fun buf =>
    match cmd_handle buf with
    | .command words => cmd_dispatch words
    | _ => none

/-! ### Writing to a socket -/

/-- The answer of a socket to one `write`: it takes that many bytes, it is interrupted, or it
fails, would block or times out. -/
inductive Answer
  | took (n : ℕ)
  | interrupted
  | failed
  deriving DecidableEq

/-- `write_all`: the bytes the socket took, and whether it took all. A socket that gives no
further answer has failed. -/
def write_all : List Answer → List UInt8 → List UInt8 × Bool
  | _, [] => ([], true)
  | [], _ :: _ => ([], false)
  | .took 0 :: _, _ :: _ => ([], false)
  | .took (n + 1) :: as, b :: bs =>
      let (sent, ok) := write_all as ((b :: bs).drop (n + 1))
      ((b :: bs).take (n + 1) ++ sent, ok)
  | .interrupted :: as, b :: bs => write_all as (b :: bs)
  | .failed :: _, _ :: _ => ([], false)

end Compositor
