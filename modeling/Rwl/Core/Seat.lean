import Mathlib.Tactic.Common
import Mathlib.Data.List.Basic
import Rwl.Core.Window

/-!
# The seat

The keyboard and the pointer of the vendored seat library, with the grabs that route their
events.

* `Keymap`: what xkb makes of the key transitions so far;
* `PopupGrab`, `PtrGrab`, `Seat`;
* the keyboard: `key_input` (which events are transitions), `set_focus`, `input_forward`;
* the pointer: `motion`, `button`, `axis`;
* `grab_popup`, `surface_destroyed`.

Key codes and buttons are numbers. The one keyboard source is the physical one, so a key is
held exactly when it is in `pressed_keys`.
-/

namespace Compositor

/-- What xkb makes of the key transitions so far, the newest first. -/
structure Keymap where
  mods : List (ℕ × Bool) → ModifiersState
  modified_sym : List (ℕ × Bool) → ℕ → ℕ
  raw_syms : List (ℕ × Bool) → ℕ → List ℕ
  key_char : List (ℕ × Bool) → ℕ → Option Char

/-- An explicit popup grab: the surface of the toplevel and the serials it was taken with. -/
structure PopupGrab where
  root : SurfaceId
  serial : ℕ
  previous_serial : Option ℕ
  deriving DecidableEq

/-- The pointer grabs: none, the implicit grab of a held button, or a popup's. -/
inductive PtrGrab
  | default
  | click (serial : ℕ) (focus : Option SurfaceId)
  | popup (grab : PopupGrab)
  deriving DecidableEq

/-- The state of the seat. `active_grabs` are the popups with an explicit grab, the newest
last; `alive` and `owner` describe the surfaces. -/
structure Seat where
  keymap : Keymap
  transitions : List (ℕ × Bool)
  kb_focus : Option SurfaceId
  pressed_keys : List ℕ
  forwarded_pressed_keys : List ℕ
  kb_grab : Option PopupGrab
  ptr_focus : Option SurfaceId
  ptr_pending : Option SurfaceId
  location : PointF
  pressed_buttons : List ℕ
  ptr_grab : PtrGrab
  active_grabs : List SurfaceId
  grab_serial : Option ℕ
  alive : SurfaceId → Bool
  owner : SurfaceId → ℕ

namespace Seat

variable (s : Seat)

/-! ### The keyboard -/

/-- `modifier_state`. -/
def modifier_state : ModifiersState := s.keymap.mods s.transitions

/-- `modified_sym`. -/
def modified_sym (code : ℕ) : ℕ := s.keymap.modified_sym s.transitions code

/-- The first of `raw_syms`, else the modified keysym. -/
def base_sym (code : ℕ) : ℕ := ((s.keymap.raw_syms s.transitions code).head?).getD (s.modified_sym code)

/-- `key_char`. -/
def key_char (code : ℕ) : Option Char := s.keymap.key_char s.transitions code

/-- A press of a held key or a release of a free one is absorbed. -/
def is_transition (code : ℕ) (pressed : Bool) : Bool :=
  if pressed then decide (code ∉ s.pressed_keys) else decide (code ∈ s.pressed_keys)

/-- `key_input` of a transition. -/
def key_input (code : ℕ) (pressed : Bool) : Seat :=
  { s with
    transitions := (code, pressed) :: s.transitions
    pressed_keys :=
      if pressed then code :: s.pressed_keys else s.pressed_keys.filter fun k => decide (k ≠ code) }

/-- The grabbing popup the keyboard stays on, else the root of the grab. -/
def current_grab (g : PopupGrab) : SurfaceId := ((s.active_grabs.reverse.find? s.alive)).getD g.root

/-- `PopupGrab::has_ended`. -/
def has_ended (g : PopupGrab) : Bool := !s.alive g.root || s.active_grabs.isEmpty

/-- `KeyboardHandle::set_focus`: a live popup grab lets the focus go to its own popup only. -/
def set_focus (focus : Option SurfaceId) : Seat :=
  match s.kb_grab with
  | none => { s with kb_focus := focus }
  | some g =>
      if s.has_ended g then { s with kb_focus := focus, kb_grab := none }
      else if some (s.current_grab g) = focus then { s with kb_focus := focus }
      else s

/-- `input_forward`: the seat after the key, which goes to its `kb_focus`. A popup grab first
takes the focus; it ends with its last popup, and is discarded when its root is dead. -/
def input_forward (code : ℕ) (pressed : Bool) : Seat :=
  let s' := { s with forwarded_pressed_keys :=
    if pressed then code :: s.forwarded_pressed_keys
    else s.forwarded_pressed_keys.filter fun k => decide (k ≠ code) }
  match s.kb_grab with
  | none => s'
  | some g =>
      if s.alive g.root = false then { s' with kb_grab := none }
      else if s.active_grabs.isEmpty then
        { s' with kb_focus := some (s.current_grab g), kb_grab := none }
      else { s' with kb_focus := some (s.current_grab g) }

/-! ### The pointer -/

/-- `is_grabbed`. -/
def is_grabbed : Bool := decide (s.ptr_grab ≠ .default)

/-- `unset_keyboard_grab`: the keyboard grab of the same popup ends and the root gets the
focus. -/
def unset_keyboard_grab (g : PopupGrab) : Seat :=
  match s.kb_grab with
  | some k =>
      if k.serial = g.serial ∨ k.serial = g.previous_serial.getD g.serial then
        { s with kb_grab := none, kb_focus := some g.root }
      else s
  | none => s

/-- The pointer's inner `motion`. -/
def moveTo (focus : Option SurfaceId) (loc : PointF) : Seat :=
  { s with ptr_focus := focus, location := loc }

/-- Discard a grab whose start surface is dead. -/
def dropDeadGrab : Seat :=
  match s.ptr_grab with
  | .default => s
  | .click _ none => s
  | .click _ (some f) => if s.alive f then s else { s with ptr_grab := .default }
  | .popup g =>
      if s.alive g.root then s else { s.unset_keyboard_grab g with ptr_grab := .default }

/-- `unset_grab` of a popup's pointer grab, with the focus restored. -/
def unsetPopup (g : PopupGrab) : Seat :=
  let s' := { s.unset_keyboard_grab g with ptr_grab := .default }
  s'.moveTo s'.ptr_pending s'.location

/-- The two surfaces belong to one client. -/
def same_client (a b : SurfaceId) : Bool := decide (s.owner a = s.owner b)

/-- `PointerHandle::motion`: the event goes to the `ptr_focus` of the result. -/
def motion (focus : Option SurfaceId) (loc : PointF) : Seat :=
  let s := ({ s with ptr_pending := focus } : Seat).dropDeadGrab
  match s.ptr_grab with
  | .default => s.moveTo focus loc
  | .click _ f => s.moveTo f loc
  | .popup g =>
      if s.has_ended g then s.unsetPopup g
      else s.moveTo (focus.filter fun f => s.same_client f (s.current_grab g)) loc

/-- The implicit grab a press starts. -/
def startClick (serial : ℕ) (pressed : Bool) : Seat :=
  if pressed then { s with ptr_grab := .click serial s.ptr_focus } else s

/-- `PointerHandle::button`: the event goes to the first component, the seat is the second. -/
def button (btn : ℕ) (pressed : Bool) (serial : ℕ) : Option SurfaceId × Seat :=
  let s := ({ s with pressed_buttons :=
    if pressed then s.pressed_buttons ++ [btn]
    else s.pressed_buttons.filter fun b => decide (b ≠ btn) } : Seat).dropDeadGrab
  match s.ptr_grab with
  | .default => (s.ptr_focus, s.startClick serial pressed)
  | .click _ _ =>
      (s.ptr_focus, if s.pressed_buttons.isEmpty then { s with ptr_grab := .default } else s)
  | .popup g =>
      if s.has_ended g then
        ((s.unsetPopup g).ptr_focus, s.unsetPopup g)
      else if pressed ∧ (s.ptr_focus.any fun f => s.same_client (s.current_grab g) f) = false then
        let s' := ({ s with active_grabs := [] } : Seat).unsetPopup g
        (s'.ptr_focus, s')
      else (s.ptr_focus, s)

/-- `PointerHandle::axis`: the event goes to the `ptr_focus` of the result. -/
def axis : Seat := s.dropDeadGrab

/-! ### Popups and surfaces -/

/-- `PopupManager::grab_popup` for a popup of `parent`, and the serial of the grab before. -/
def grab_popup (popup parent : SurfaceId) (serial : ℕ) : Option (Option ℕ × Seat) :=
  let active := s.active_grabs.filter s.alive
  if active.getLast?.any fun g => decide (g ≠ parent) then none
  else some (s.grab_serial, { s with active_grabs := active ++ [popup], grab_serial := some serial })

/-- `XdgShellHandler::grab`. -/
def grab (root popup parent : SurfaceId) (serial : ℕ) : Seat :=
  match s.grab_popup popup parent serial with
  | none => { s with active_grabs := s.active_grabs.filter s.alive }
  | some (previous_serial, s) =>
      let g : PopupGrab := ⟨root, serial, previous_serial⟩
      let foreign (k : ℕ) : Bool := decide (k ≠ serial ∧ k ≠ previous_serial.getD serial)
      if s.kb_grab.any fun k => foreign k.serial then { s with active_grabs := [] }
      else
        let s := { s.set_focus (some (s.current_grab g)) with kb_grab := some g }
        match s.ptr_grab with
        | .default => { s with ptr_grab := .popup g }
        | .click k _ =>
            if foreign k then { s with active_grabs := [] } else { s with ptr_grab := .popup g }
        | .popup p =>
            if foreign p.serial then { s with active_grabs := [] }
            else { s.unset_keyboard_grab p with ptr_grab := .popup g }

/-- The client destroys a surface. -/
def surface_destroyed (f : SurfaceId) : Seat :=
  { s with
    alive := fun g => if g = f then false else s.alive g
    active_grabs := s.active_grabs.filter fun g => decide (g ≠ f) }

/-! ### What focusing leaves alone -/

end Seat

/-- The parts of the seat that a change of focus does not touch. -/
structure Held where
  keymap : Keymap
  transitions : List (ℕ × Bool)
  pressed_keys : List ℕ
  forwarded_pressed_keys : List ℕ
  pressed_buttons : List ℕ
  active_grabs : List SurfaceId
  grab_serial : Option ℕ
  alive : SurfaceId → Bool
  owner : SurfaceId → ℕ

namespace Seat

/-- What the seat holds besides its focus and its grabs. -/
def held (s : Seat) : Held where
  keymap := s.keymap
  transitions := s.transitions
  pressed_keys := s.pressed_keys
  forwarded_pressed_keys := s.forwarded_pressed_keys
  pressed_buttons := s.pressed_buttons
  active_grabs := s.active_grabs
  grab_serial := s.grab_serial
  alive := s.alive
  owner := s.owner

@[simp] theorem held_set_focus (s : Seat) (f : Option SurfaceId) :
    (s.set_focus f).held = s.held := by
  unfold set_focus
  split
  · rfl
  · split_ifs <;> rfl

@[simp] theorem held_unset_keyboard_grab (s : Seat) (g : PopupGrab) :
    (s.unset_keyboard_grab g).held = s.held := by
  unfold unset_keyboard_grab
  split
  · split_ifs <;> rfl
  · rfl

@[simp] theorem held_moveTo (s : Seat) (f : Option SurfaceId) (loc : PointF) :
    (s.moveTo f loc).held = s.held := rfl

@[simp] theorem held_dropDeadGrab (s : Seat) : s.dropDeadGrab.held = s.held := by
  unfold dropDeadGrab
  split
  · rfl
  · rfl
  · split_ifs <;> rfl
  · split_ifs
    · rfl
    · exact held_unset_keyboard_grab s _

@[simp] theorem held_unsetPopup (s : Seat) (g : PopupGrab) : (s.unsetPopup g).held = s.held :=
  held_unset_keyboard_grab s g

@[simp] theorem held_motion (s : Seat) (f : Option SurfaceId) (loc : PointF) :
    (s.motion f loc).held = s.held := by
  have hdrop : ({ s with ptr_pending := f } : Seat).dropDeadGrab.held = s.held :=
    held_dropDeadGrab _
  unfold motion
  dsimp only
  split
  · exact hdrop
  · exact hdrop
  · split_ifs
    · exact (held_unsetPopup _ _).trans hdrop
    · exact hdrop

end Seat

end Compositor
