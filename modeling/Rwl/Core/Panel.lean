import Mathlib.Data.Fintype.Basic
import Mathlib.Tactic.Common
import Rwl.Core.Bar

/-!
# The bar on the screen

The part of the bar that owns a surface: when it is shown, and the shared memory it draws into.

* `Panel`, the bar of one output with its prompt, its geometry and its buffers;
* `Panel.show_bar`, `hide_bar`, `prompt`, `title`, `handle_key_input` and `expire`, which open and
  close it;
* `Panel.ensure_bar_shm`, `draw_frame` and `released`, the double buffer;
* `BarThread` and `Canvas`, the loop of the thread seen from either side.
-/

namespace Compositor

/-- A `wl_buffer`: the memory file it lies in, its slot of that file, where the slot starts, and the
sizes the buffer was created with. -/
structure Buffer where
  file : ℕ
  slot : Fin 2
  offset : ℤ
  width : ℕ
  height : ℕ
  stride : ℕ
  deriving DecidableEq

/-- The bar of one output. In `bar`, `shown` says that there is a surface, and the number in
`title_override` is the instant at which the title ends. Of the shared memory, `shm_fd` is the
file, `shm_map` the number of bytes mapped, and `shm_pool` the file the pool was made of. -/
structure Panel where
  bar : Bar
  is_prompt_active : Bool
  was_hidden_before_prompt : Bool
  configured : Bool
  width : ℕ
  height : ℕ
  stride : ℕ
  bufsize : ℕ
  textpadding : ℕ
  block_pix_ends : List ℕ
  shm_fd : Option ℕ
  shm_map : Option ℕ
  shm_pool : Option ℕ
  buffers : Fin 2 → Option Buffer
  buffer_busy : Fin 2 → Bool
  pool_bufsize : ℕ

namespace Panel

/-- `Bar::new` and `setup_bar`: the bar has a surface unless it is configured `hidden`. -/
def new (name : Text) (hidden : Bool) (height textpadding : ℕ) : Panel where
  bar := { Bar.new name with shown := !hidden }
  is_prompt_active := false
  was_hidden_before_prompt := false
  configured := false
  width := 0
  height := height
  stride := 0
  bufsize := 0
  textpadding := textpadding
  block_pix_ends := []
  shm_fd := none
  shm_map := none
  shm_pool := none
  buffers := fun _ => none
  buffer_busy := fun _ => false
  pool_bufsize := 0

/-! ### The surface -/

/-- `destroy_shm`. -/
def destroy_shm (p : Panel) : Panel :=
  { p with
    buffers := fun _ => none
    buffer_busy := fun _ => false
    shm_pool := none
    shm_map := none
    shm_fd := none
    pool_bufsize := 0 }

/-- `show_bar`. -/
def show_bar (p : Panel) : Panel := { p with bar := { p.bar with shown := true } }

/-- `hide_bar`. -/
def hide_bar (p : Panel) : Panel :=
  if p.bar.shown then
    { p.destroy_shm with bar := { p.bar with shown := false }, configured := false }
  else p

/-! ### The prompt and the title -/

/-- The command `prompt`. -/
def prompt (p : Panel) : Panel :=
  let is_hidden := !p.bar.shown
  let p := { p with was_hidden_before_prompt := is_hidden }
  let p := if is_hidden then p.show_bar else p
  { p with is_prompt_active := true, bar := { p.bar with redraw := true } }

/-- The command `status`. -/
def set_status (p : Panel) (text : Text) : Panel :=
  { p with bar := { p.bar with status := text, redraw := true }, block_pix_ends := [] }

/-- The command `title`, at the instant `now`. -/
def title (p : Panel) (now : ℕ) (text : Text) (secs : ℕ) (color : Option Color) : Panel :=
  { p with bar := p.bar.override text (now + secs) color }

/-- `handle_key_input`: Escape and Enter close the prompt, the other keys edit its text. -/
def handle_key_input (p : Panel) (key : ℕ) : Panel :=
  if key = 1 ∨ key = 28 then
    let was_hidden := p.was_hidden_before_prompt
    let p := { p with is_prompt_active := false, bar := { p.bar with redraw := true } }
    if was_hidden then p.hide_bar else p
  else p

/-- The title is still to be shown. -/
def Unexpired (p : Panel) (now : ℕ) : Prop := ∃ t ∈ p.bar.title_override, now < t.2.1

/-- The title has run out and is not taken down yet. -/
def Overdue (p : Panel) (now : ℕ) : Prop := ∃ t ∈ p.bar.title_override, t.2.1 ≤ now

instance decidableUnexpired (p : Panel) (now : ℕ) : Decidable (p.Unexpired now) := by
  unfold Unexpired; infer_instance

instance decidableOverdue (p : Panel) (now : ℕ) : Decidable (p.Overdue now) := by
  unfold Overdue; infer_instance

/-- What the end of a turn of the loop does about the title. -/
def expire (p : Panel) (now : ℕ) : Panel :=
  if p.Overdue now then
    let was_hidden := p.bar.was_hidden_before_title
    let p := { p with bar := { p.bar with
      title_override := none, redraw := true, was_hidden_before_title := false } }
    if was_hidden then p.hide_bar else p
  else p

/-! ### The double buffer -/

/-- `as i32`. -/
def as_i32 (n : ℕ) : ℤ := Int.bmod n (2 ^ 32)

/-- The `configure` of a layer surface; `current` says that it is still the one of the bar. -/
def configure (p : Panel) (buffer_scale : ℕ) (current : Bool) (width height : ℕ) : Panel :=
  let w := if 0 < width then width * buffer_scale % u32 else p.width
  let h := if 0 < height then height * buffer_scale % u32 else p.height
  if ¬(current = true ∧ p.bar.shown = true) then p
  else if p.configured = true ∧ w = p.width ∧ h = p.height then p
  else
    { p with
      width := w
      height := h
      stride := w * 4 % u32
      bufsize := w * 4 % u32 * h
      configured := true
      bar := { p.bar with redraw := true } }

/-- What the kernel grants a draw: the shared file, its mapping, the bytes `pwrite` takes before it
fails, and a file for a buffer of one frame. -/
structure Grants where
  file : Bool
  map : Bool
  pwrite : Option ℕ
  throwaway : Bool
  deriving DecidableEq

/-- `ensure_bar_shm`, where `next` is the next memory file: whether there is a pool, the bar, and
the next memory file then. -/
def ensure_bar_shm (p : Panel) (next : ℕ) (g : Grants) : Bool × Panel × ℕ :=
  if p.bufsize = 0 then (false, p, next)
  else if p.pool_bufsize = p.bufsize ∧ p.shm_pool.isSome = true then (true, p, next)
  else
    let p := p.destroy_shm
    -- `checked_mul`
    if 2 ^ 64 ≤ p.bufsize * 2 then (false, p, next)
    else if g.file = false then (false, p, next)
    else
      let buf (slot : Fin 2) : Buffer :=
        ⟨next, slot, as_i32 (slot * p.bufsize), p.width, p.height, p.stride⟩
      (true, { p with
        shm_fd := some next
        shm_map := if g.map then some (p.bufsize * 2) else none
        shm_pool := some next
        buffers := fun slot => some (buf slot)
        buffer_busy := fun _ => false
        pool_bufsize := p.bufsize }, next + 1)

/-- Bytes written to a memory file. -/
structure Write where
  file : ℕ
  offset : ℕ
  length : ℕ
  deriving DecidableEq

/-- What a draw did: the bytes it wrote and the buffer it attached. -/
structure Frame where
  wrote : Option Write
  attached : Option Buffer
  deriving DecidableEq

/-- The first slot that is not busy. -/
def free_slot (p : Panel) : Option (Fin 2) :=
  if p.buffer_busy 0 = false then some 0 else if p.buffer_busy 1 = false then some 1 else none

/-- The bytes that reach the slot at `offset`, and whether all `bytes` do: `ShmMap::write_at`, or
`pwrite_all_fd` when there is no mapping. -/
def fill (p : Panel) (g : Grants) (offset bytes : ℕ) : ℕ × Bool :=
  match p.shm_map with
  | some len => if len < offset + bytes then (0, false) else (bytes, true)
  | none =>
    match g.pwrite with
    | none => (bytes, true)
    | some n => (min n bytes, false)

/-- A draw: the bar afterwards, the next memory file, and what was written and attached. -/
structure Drawn where
  panel : Panel
  next : ℕ
  frame : Frame

/-- `draw_frame_with_qh`, once there is a pool. -/
def draw_into (p : Panel) (next : ℕ) (g : Grants) : Drawn :=
  let bytes := p.bufsize / 4 * 4
  match p.free_slot with
  | some slot =>
    let offset := slot * p.bufsize
    let (n, wrote) := p.fill g offset bytes
    let write := p.shm_fd.map fun file => ⟨file, offset, n⟩
    if wrote then
      ⟨{ p with buffer_busy := Function.update p.buffer_busy slot true }, next,
        ⟨write, p.buffers slot⟩⟩
    else ⟨p, next, ⟨write, none⟩⟩
  | none =>
    -- `build_throwaway_buffer`
    if g.throwaway then
      ⟨p, next + 1, ⟨some ⟨next, 0, bytes⟩, some ⟨next, 0, 0, p.width, p.height, p.stride⟩⟩⟩
    else ⟨p, next, ⟨none, none⟩⟩

/-- `draw_frame_with_qh`. -/
def draw_frame (p : Panel) (next : ℕ) (g : Grants) : Drawn :=
  if ¬(p.bar.shown = true ∧ p.configured = true) then ⟨p, next, ⟨none, none⟩⟩
  else
    match p.ensure_bar_shm next g with
    | (false, p, next) => ⟨p, next, ⟨none, none⟩⟩
    | (true, p, next) => p.draw_into next g

/-- The slot of the buffer `b`. -/
def slot_of (p : Panel) (b : Buffer) : Option (Fin 2) :=
  if p.buffers 0 = some b then some 0 else if p.buffers 1 = some b then some 1 else none

/-- The release of a buffer, at the bar that has it. -/
def released (p : Panel) (b : Buffer) : Panel :=
  match p.slot_of b with
  | some slot => { p with buffer_busy := Function.update p.buffer_busy slot false }
  | none => p

end Panel

/-! ### Socket commands -/

/-- What a socket command asks of a bar. -/
inductive BarCommand
  | prompt
  | status (text : Text)
  | title (text : Text) (secs : ℕ) (color : Option Color)
  | show_bar
  | hide_bar
  | toggle_visibility
  deriving DecidableEq

/-- The command `cmd` with what follows it. The commands that are missing here leave the surface
of a bar where it is. -/
def BarCommand.parse (cmd rest : Text) : Option BarCommand :=
  if cmd = "prompt".toList then some .prompt
  else if cmd = "status".toList then if rest = [] then none else some (.status rest)
  else if cmd = "title".toList then
    let (secs, rest₁) := take_secs rest
    let (color, text) := take_color rest₁
    if text = [] then none else some (.title text secs color)
  else if cmd = "show".toList then some .show_bar
  else if cmd = "hide".toList then some .hide_bar
  else if cmd = "toggle-visibility".toList then some .toggle_visibility
  else none

/-- What a bar does on a command. -/
def Panel.obey (p : Panel) (now : ℕ) : BarCommand → Panel
  | .prompt => p.prompt
  | .status text => p.set_status text
  | .title text secs color => p.title now text secs color
  | .show_bar => p.show_bar
  | .hide_bar => p.hide_bar
  | .toggle_visibility => if p.bar.shown then p.hide_bar else p.show_bar

/-- What the message `buf` asks of a bar, when it is for it. -/
def Panel.asked (p : Panel) (buf : Text) : Option BarCommand :=
  match Text.split_whitespace buf with
  | target :: cmd :: _ =>
      if p.bar.addressed target then
        BarCommand.parse cmd (trim_end_newlines (get_from (skip buf) buf))
      else none
  | _ => none

/-! ### The loop -/

/-- The bars of the thread, and its clock. -/
structure BarThread where
  now : ℕ
  panels : List Panel

/-- What happens to the thread: a message on its socket, a key of the keyboard, time, and the end
of a turn of its loop. -/
inductive BarEvent
  | command (buf : Text)
  | key (key : ℕ)
  | wait (d : ℕ)
  | turn
  deriving DecidableEq

namespace BarThread

/-- `handle_socket_command`. -/
def handle_socket_command (s : BarThread) (buf : Text) : BarThread :=
  { s with panels := s.panels.map fun p => ((p.asked buf).map (p.obey s.now)).getD p }

/-- A pressed key goes to the first bar whose prompt is open. -/
def key_event (s : BarThread) (key : ℕ) : BarThread :=
  let idx := s.panels.findIdx Panel.is_prompt_active
  { s with panels := s.panels.modify idx (Panel.handle_key_input · key) }

/-- One event. -/
def step (s : BarThread) : BarEvent → BarThread
  | .command buf => s.handle_socket_command buf
  | .key key => s.key_event key
  | .wait d => { s with now := s.now + d }
  | .turn => { s with panels := s.panels.map (Panel.expire · s.now) }

/-- The bars of the outputs, each with its name, whether it is configured hidden and its
height. -/
def init (outputs : List (Text × Bool × ℕ)) (textpadding : ℕ) : BarThread where
  now := 0
  panels := outputs.map fun o => Panel.new o.1 o.2.1 o.2.2 textpadding

end BarThread

/-! ### The buffers of the thread -/

/-- The bars of the thread, the next memory file, the buffers the compositor holds, and the
releases that are on their way. -/
structure Canvas where
  panels : List Panel
  buffer_scale : ℕ
  next : ℕ
  held : List Buffer
  inflight : List Buffer

/-- What happens to the buffers: a `configure` of bar `i`, the turn of the loop that redraws it, the
requests to show, hide and redraw it, a `reload` with a font of another height, the compositor
letting go of a buffer, and the release reaching the thread. -/
inductive CanvasEvent
  | configure (i : ℕ) (current : Bool) (width height : ℕ)
  | draw (i : ℕ) (g : Panel.Grants)
  | show_bar (i : ℕ)
  | hide_bar (i : ℕ)
  | redraw (i : ℕ)
  | reload (buffer_scale height textpadding : ℕ)
  | release (b : Buffer)
  | released (b : Buffer)
  deriving DecidableEq

namespace Canvas

/-- What drawing bar `i` does, when it wants to be drawn. -/
def drawn (c : Canvas) (i : ℕ) (g : Panel.Grants) : Option Panel.Drawn :=
  match c.panels[i]? with
  | some p => if p.bar.redraw && p.bar.shown then some (p.draw_frame c.next g) else none
  | none => none

/-- The end of a turn of the loop, for bar `i`: an attached buffer is the compositor's. -/
def draw (c : Canvas) (i : ℕ) (g : Panel.Grants) : Canvas :=
  match c.drawn i g with
  | some d =>
    { c with
      panels := c.panels.set i { d.panel with bar := { d.panel.bar with redraw := false } }
      next := d.next
      held := c.held ++ d.frame.attached.toList }
  | none => c

/-- One event. -/
def step (c : Canvas) : CanvasEvent → Canvas
  | .configure i current width height =>
    { c with panels := c.panels.modify i (Panel.configure · c.buffer_scale current width height) }
  | .draw i g => c.draw i g
  | .show_bar i => { c with panels := c.panels.modify i Panel.show_bar }
  | .hide_bar i => { c with panels := c.panels.modify i Panel.hide_bar }
  | .redraw i =>
    { c with panels := c.panels.modify i fun p => { p with bar := { p.bar with redraw := true } } }
  | .reload buffer_scale height textpadding =>
    { c with
      buffer_scale := buffer_scale
      panels := c.panels.map fun p =>
        { p with height := height, textpadding := textpadding,
                 bar := { p.bar with redraw := true } } }
  | .release b =>
    if b ∈ c.held then { c with held := c.held.erase b, inflight := c.inflight ++ [b] } else c
  | .released b =>
    if b ∈ c.inflight then
      { c with
        inflight := c.inflight.erase b
        panels := c.panels.modify (c.panels.findIdx fun p => (p.slot_of b).isSome)
          (Panel.released · b) }
    else c

/-- The bars of the outputs, as in `BarThread.init`. -/
def init (outputs : List (Text × Bool × ℕ)) (textpadding buffer_scale : ℕ) : Canvas where
  panels := (BarThread.init outputs textpadding).panels
  buffer_scale := buffer_scale
  next := 0
  held := []
  inflight := []

end Canvas

end Compositor
