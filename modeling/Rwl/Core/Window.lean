import Mathlib.Tactic.Common
import Mathlib.Logic.Function.Basic
import Rwl.Core.Config

/-!
# Windows

A window handle is a number. What the compositor attaches to it is a `WindowState`; what its
client decides (titles, sizes, input regions) is a `Client`.

* `WindowState`, `WindowState.new`;
* `Client` and `window_is_float_type`;
* `Windows`, the table of window states, with the accessors of `window.rs`.

A state is attached to every window when it is created, so the table is total and the
defaults of the accessors are those of `WindowState.new`.
-/

namespace Compositor

/-- A window handle. -/
abbrev WinId := ℕ

/-- A `wl_surface`. -/
abbrev SurfaceId := ℕ

/-- An output. -/
abbrev OutputId := ℕ

/-- The compositor's metadata of a window. -/
structure WindowState where
  tags : ℕ
  is_floating : Bool
  is_fullscreen : Bool
  is_urgent : Bool
  scratch_key : Char
  switch_to_tag : Option ℕ
  rules_applied : Bool
  needs_centering : Bool
  saved_loc : Option Point
  mon_idx : ℕ
  cfact : ℚ
  last_title : Option String
  last_appid : Option String
  pending_geom : Option Rect
  buffer_mapped : Bool
  is_override_redirect : Bool
  slide_from_x : ℚ
  slide_to_x : ℚ
  slide_offset_x : ℚ
  slide_start : Option ℕ
  slide_out : Bool
  is_swallowed : Bool
  swallowing : Option WinId
  no_swallow : Bool

/-- `WindowState::new`. -/
def WindowState.new : WindowState where
  tags := 0
  is_floating := false
  is_fullscreen := false
  is_urgent := false
  scratch_key := noScratch
  switch_to_tag := none
  rules_applied := false
  needs_centering := false
  saved_loc := none
  mon_idx := 0
  cfact := 1
  last_title := none
  last_appid := none
  pending_geom := none
  buffer_mapped := false
  is_override_redirect := false
  slide_from_x := 0
  slide_to_x := 0
  slide_offset_x := 0
  slide_start := none
  slide_out := false
  is_swallowed := false
  swallowing := none
  no_swallow := false

/-! ### What the client decides -/

/-- `ToplevelDialogHint`. -/
inductive DialogHint
  | Unknown
  | Dialog
  | Modal
  deriving DecidableEq

/-- `WmWindowType`. -/
inductive WmWindowType
  | Combo
  | Desktop
  | Dialog
  | Dnd
  | Dock
  | DropdownMenu
  | Menu
  | Notification
  | Normal
  | PopupMenu
  | Splash
  | Toolbar
  | Tooltip
  | Utility
  deriving DecidableEq

/-- The X11 properties of an XWayland window; `xid` is the X11 surface it wraps. -/
structure X11Props where
  xid : ℕ
  is_modal : Bool
  window_type : Option WmWindowType
  min_size : Option Size
  max_size : Option Size
  is_transient : Bool
  deriving DecidableEq

/-- What the client of a window has told the compositor. `x11` is `none` for an xdg toplevel;
`input` is the surface at a position relative to the window, if its input region has one. -/
structure Client where
  wl_surface : Option SurfaceId
  x11 : Option X11Props
  app_id : Option String
  title : Option String
  parent : Option SurfaceId
  dialog_hint : DialogHint
  min_size : Size
  max_size : Size
  pending_min_size : Size
  pending_max_size : Size
  pid : Option ℕ
  geometry : Rect
  input : PointF → Option SurfaceId

/-- Both bounds are set and agree on an axis. -/
def fixed_size (min max : Size) : Bool :=
  decide (min.w ≠ 0 ∧ min.h ≠ 0 ∧ (min.w = max.w ∨ min.h = max.h))

/-- The X11 window types that float. -/
def WmWindowType.floats : WmWindowType → Bool
  | .Dialog | .Utility | .Splash | .Toolbar | .Menu | .DropdownMenu | .PopupMenu | .Tooltip
  | .Notification | .Combo => true
  | .Desktop | .Dnd | .Dock | .Normal => false

/-- `window_is_float_type`. -/
def Client.window_is_float_type (c : Client) : Bool :=
  match c.x11 with
  | some x =>
      if x.is_modal then true
      else if x.window_type.any WmWindowType.floats then true
      else match x.min_size, x.max_size with
        | some min, some max => fixed_size min max
        | _, _ => false
  | none =>
      fixed_size c.min_size c.max_size || fixed_size c.pending_min_size c.pending_max_size

/-! ### The table of window states -/

/-- The states of all windows. -/
abbrev Windows := WinId → WindowState

/-- `with_state_mut`. -/
def Windows.modify (ws : Windows) (w : WinId) (f : WindowState → WindowState) : Windows :=
  Function.update ws w (f (ws w))

/-- Apply `f` to each window of a list. -/
def Windows.modifyAll (ws : Windows) (l : List WinId) (f : WinId → WindowState → WindowState) :
    Windows :=
  fun w => if w ∈ l then f w (ws w) else ws w

@[simp] theorem Windows.modify_self (ws : Windows) (w : WinId) (f : WindowState → WindowState) :
    ws.modify w f w = f (ws w) := by
  simp [Windows.modify]

@[simp] theorem Windows.modify_of_ne {v w : WinId} (h : v ≠ w) (ws : Windows)
    (f : WindowState → WindowState) : ws.modify w f v = ws v := by
  simp [Windows.modify, h]

/-- A field that `f` keeps is kept by `modify`. -/
theorem Windows.modify_field {α : Type*} (g : WindowState → α) (ws : Windows) (w v : WinId)
    (f : WindowState → WindowState) (h : ∀ st, g (f st) = g st) :
    g (ws.modify w f v) = g (ws v) := by
  by_cases hv : v = w
  · subst hv; rw [modify_self, h]
  · rw [modify_of_ne hv]

/-- A field that `f` keeps is kept by `modifyAll`. -/
theorem Windows.modifyAll_field {α : Type*} (g : WindowState → α) (ws : Windows) (l : List WinId)
    (v : WinId) (f : WinId → WindowState → WindowState) (h : ∀ w st, g (f w st) = g st) :
    g (ws.modifyAll l f v) = g (ws v) := by
  unfold Windows.modifyAll
  split_ifs
  · rw [h]
  · rfl

/-- `window_visible_on`. -/
def WindowState.visible_on (st : WindowState) (tagset : ℕ) : Bool := st.tags &&& tagset != 0

end Compositor
