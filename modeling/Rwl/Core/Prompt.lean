import Mathlib.Tactic.Common
import Mathlib.Data.List.Dedup
import Mathlib.Data.List.Sort
import Rwl.Core.Text

/-!
# The run prompt

The text of the run prompt of a bar, its completion and its history.

* `Prompt`, and `open_prompt`, which scans the commands there are;
* `prompt_ghost`, `nth_completion`: the suggestion behind the text, and the one that Tab fills in;
* `handle_key_input`: one key, and the command it runs;
* `Prompt.step`: an opening or a key. When the bar is shown and hidden is part of `Panel`.
-/

namespace Compositor

/-- `PROMPT_HISTORY_CAP`. -/
def PROMPT_HISTORY_CAP : ℕ := 100

/-- The name of a file, which is not empty. -/
abbrev FileName : Type := { name : Text // name ≠ [] }

/-- The order of strings: that of the bytes, which is that of the code points. -/
def Text.le : Text → Text → Bool
  | [], _ => true
  | _ :: _, [] => false
  | a :: s, b :: t => decide (a.toNat < b.toNat) || (a == b && Text.le s t)

/-- The commands, sorted and each once; `names` are those of all executable files found. -/
def scan_path_commands (names : List FileName) : List Text :=
  (names.map Subtype.val).dedup.insertionSort fun s t => Text.le s t = true

/-- The entry at `index`, from the front again after the last, of the commands that start with
`query`. -/
def nth_completion (commands : List Text) (query : Text) (index : ℕ) : Option Text :=
  let hits := commands.filter fun cmd => Text.starts_with cmd query
  hits[index % hits.length]?

/-- The prompt of a bar. -/
structure Prompt where
  is_prompt_active : Bool
  prompt_buffer : Text
  /-- The text that Tab completes. -/
  autocomplete_query : Option Text
  autocomplete_index : ℕ
  prompt_commands : List Text
  prompt_history : List Text
  /-- The entry of the history that was recalled. -/
  history_index : Option ℕ
  /-- The text before the first recall. -/
  history_temp_buffer : Text

/-- What happens to a prompt. -/
inductive PromptEvent
  | open_prompt (names : List FileName)
  | key (code : ℕ)
  deriving DecidableEq

namespace Prompt

/-- The prompt of a new bar. -/
def new : Prompt where
  is_prompt_active := false
  prompt_buffer := []
  autocomplete_query := none
  autocomplete_index := 0
  prompt_commands := []
  prompt_history := []
  history_index := none
  history_temp_buffer := []

/-- The command `prompt` of the bar. -/
def open_prompt (p : Prompt) (names : List FileName) : Prompt :=
  { p with
    is_prompt_active := true
    prompt_buffer := []
    autocomplete_query := none
    autocomplete_index := 0
    prompt_commands := scan_path_commands names
    history_index := none }

/-- The rest of the first command that starts with the text. -/
def prompt_ghost (p : Prompt) : Text :=
  if p.prompt_buffer = [] then []
  else ((p.prompt_commands.find? fun c => Text.starts_with c p.prompt_buffer).map fun c =>
    c.drop p.prompt_buffer.length).getD []

/-- Escape. -/
def escape (p : Prompt) : Prompt :=
  { p with
    is_prompt_active := false
    prompt_buffer := []
    prompt_commands := []
    history_index := none }

/-- The history after a command was run. -/
def push_history (history : List Text) (cmd : Text) : List Text :=
  if history.getLast? = some cmd then history
  else
    let history := history ++ [cmd]
    if PROMPT_HISTORY_CAP < history.length then history.drop (history.length - PROMPT_HISTORY_CAP)
    else history

/-- Enter, and the command that is run. -/
def enter (p : Prompt) : Prompt × Option Text :=
  let cmd := Text.trim (p.prompt_buffer ++ p.prompt_ghost)
  let history := if cmd = [] then p.prompt_history else push_history p.prompt_history cmd
  ({ p with
      is_prompt_active := false
      history_index := none
      autocomplete_query := none
      prompt_history := history
      prompt_buffer := []
      prompt_commands := [] },
    if cmd = [] then none else some cmd)

def backspace (p : Prompt) : Prompt :=
  { p with
    prompt_buffer := p.prompt_buffer.dropLast
    history_index := none
    autocomplete_query := none }

/-- Tab: the first one completes the text, further ones take the next candidate. -/
def tab (p : Prompt) : Prompt :=
  if p.prompt_buffer = [] then p
  else
    let query := p.autocomplete_query.getD p.prompt_buffer
    let index := if p.autocomplete_query = none then 0 else p.autocomplete_index + 1
    { p with
      autocomplete_query := some query
      autocomplete_index := index
      prompt_buffer := (nth_completion p.prompt_commands query index).getD p.prompt_buffer }

/-- Up: an older entry of the history. -/
def up (p : Prompt) : Prompt :=
  if p.prompt_history = [] then p
  else
    match p.history_index with
    | none =>
        let last_idx := p.prompt_history.length - 1
        { p with
          history_temp_buffer := p.prompt_buffer
          history_index := some last_idx
          prompt_buffer := p.prompt_history.getD last_idx [] }
    | some h_idx =>
        if 0 < h_idx then
          { p with
            history_index := some (h_idx - 1)
            prompt_buffer := p.prompt_history.getD (h_idx - 1) [] }
        else p

/-- Down: a newer entry of the history, or the text before the first recall. -/
def down (p : Prompt) : Prompt :=
  match p.history_index with
  | none => p
  | some h_idx =>
      if h_idx + 1 < p.prompt_history.length then
        { p with
          history_index := some (h_idx + 1)
          prompt_buffer := p.prompt_history.getD (h_idx + 1) [] }
      else { p with history_index := none, prompt_buffer := p.history_temp_buffer }

/-- The character of a key. -/
def key_char : ℕ → Option Char
  | 16 => some 'q' | 17 => some 'w' | 18 => some 'e' | 19 => some 'r' | 20 => some 't'
  | 21 => some 'y' | 22 => some 'u' | 23 => some 'i' | 24 => some 'o' | 25 => some 'p'
  | 30 => some 'a' | 31 => some 's' | 32 => some 'd' | 33 => some 'f' | 34 => some 'g'
  | 35 => some 'h' | 36 => some 'j' | 37 => some 'k' | 38 => some 'l' | 44 => some 'z'
  | 45 => some 'x' | 46 => some 'c' | 47 => some 'v' | 48 => some 'b' | 49 => some 'n'
  | 50 => some 'm' | 57 => some ' '
  | key =>
      if 2 ≤ key ∧ key ≤ 11 then some (Nat.digitChar (if key = 11 then 0 else key - 1)) else none

/-- Any other key ends the completion, and types its character if it has one. -/
def type_key (p : Prompt) (key : ℕ) : Prompt :=
  match key_char key with
  | some c =>
      { p with
        autocomplete_query := none
        history_index := none
        prompt_buffer := p.prompt_buffer ++ [c] }
  | none => { p with autocomplete_query := none }

/-- A key, and the command that is run. -/
def handle_key_input (p : Prompt) (key : ℕ) : Prompt × Option Text :=
  if key = 1 then (p.escape, none)
  else if key = 28 then p.enter
  else if key = 14 then (p.backspace, none)
  else if key = 15 then (p.tab, none)
  else if key = 103 then (p.up, none)
  else if key = 108 then (p.down, none)
  else (p.type_key key, none)

/-- A key goes to the prompt while it is open. -/
def key_event (p : Prompt) (key : ℕ) : Prompt × Option Text :=
  if p.is_prompt_active then p.handle_key_input key else (p, none)

def step (p : Prompt) : PromptEvent → Prompt
  | .open_prompt names => p.open_prompt names
  | .key code => (p.key_event code).1

end Prompt

end Compositor
