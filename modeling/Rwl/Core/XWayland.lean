import Mathlib.Tactic.Common
import Rwl.Core.Shell

/-!
# XWayland

* `window_for_x11`: the window that wraps an X11 surface;
* managed windows: `map_x11_window`, `center_x11`, `unmap_x11_window`, `dismiss_x11_popups`;
* override-redirect windows: `map_x11_override_redirect`;
* `surface_associated` and the requests of the window-manager handler;
* `disconnected`.
-/

namespace Compositor

/-- The window wraps the X11 surface `xid`. -/
def Client.wraps (c : Client) (xid : ℕ) : Bool := c.x11.any fun x => decide (x.xid = xid)

namespace Desk

/-- `window_for_x11`. -/
def window_for_x11 (d : Desk) (xid : ℕ) : Option WinId :=
  (d.windows ++ d.x11_or_windows).find? fun w => (d.client w).wraps xid

/-- The X server pairs a surface with an X11 window, or takes it away. -/
def setX11Surface (d : Desk) (xid : ℕ) (f : Option SurfaceId) : Desk :=
  { d with client := fun w =>
      if (d.client w).wraps xid then { d.client w with wl_surface := f } else d.client w }

/-- The size `center_x11` trusts: the fixed size when there is one. -/
def x11Size (c : Client) : Size :=
  match c.x11 with
  | some x => if x.min_size.isSome ∧ x.min_size = x.max_size then x.min_size.getD c.geometry.size
      else c.geometry.size
  | none => c.geometry.size

/-- `center_x11`. -/
def center_x11 (d : Desk) (w : WinId) : Desk :=
  let size := x11Size (d.client w)
  if size.w ≤ 0 ∨ size.h ≤ 0 then d
  else match d.monitors[(d.st w).mon_idx]? with
    | none => d
    | some mon =>
        let loc : Point := ⟨mon.m.loc.x + (mon.w.size.w - size.w).tdiv 2,
          mon.m.loc.y + (mon.w.size.h - size.h).tdiv 2⟩
        { d.modifyWindow w (fun s => { s with saved_loc := some loc }) with
          space := Space.map_element d.space w loc }

/-- `dismiss_x11_popups`. -/
def dismiss_x11_popups (d : Desk) : Desk :=
  { d with
    space := d.x11_or_windows.foldl Space.unmap_elem d.space
    x11_or_windows := [] }

/-- The desk part of mapping an override-redirect window. -/
def insertOverride (d : Desk) (w : WinId) (c : Client) : Desk :=
  { d with
    created := w :: d.created
    client := Function.update d.client w c
    st := Function.update d.st w
      { WindowState.new with is_override_redirect := true, rules_applied := true }
    space := Space.map_element d.space w c.geometry.loc
    x11_or_windows := d.x11_or_windows ++ [w] }

/-- Forget a managed X11 window; the map entry of its current surface goes with it. -/
def removeX11 (d : Desk) (w : WinId) : Desk :=
  { d with
    window_map := match d.wl_surface w with
      | some f => Function.update d.window_map f none
      | none => d.window_map
    windows := d.windows.filter fun v => decide (v ≠ w)
    focus_stack := d.focus_stack.filter fun v => decide (v ≠ w) }

/-- The managed X11 windows. -/
def x11Windows (d : Desk) : List WinId := d.windows.filter fun w => (d.client w).x11.isSome

/-- Forget every X11 window. -/
def removeAllX11 (d : Desk) : Desk :=
  let dead := d.x11Windows
  { d with
    space := d.x11_or_windows.foldl Space.unmap_elem (dead.foldl Space.unmap_elem d.space)
    window_map := fun f =>
      if dead.any fun w => decide (d.wl_surface w = some f) then none else d.window_map f
    x11_or_windows := []
    windows := d.windows.filter fun w => (d.client w).x11.isNone
    focus_stack := d.focus_stack.filter fun w => (d.client w).x11.isNone }

end Desk

namespace Rwl

/-! ### Mapping and unmapping -/

/-- `map_x11_window`. -/
def map_x11_window (s : Rwl) (w : WinId) (c : Client) : Rwl :=
  let float := c.window_is_float_type
  let s₁ := s.modifyDesk fun d =>
    let d₁ := insertWindow d w c fun st => { st with is_floating := float }
    if float then d₁.center_x11 w else d₁
  (s₁.focus_window (some w)).arrange_all.emit .print_status

/-- `map_x11_override_redirect`. -/
def map_x11_override_redirect (s : Rwl) (w : WinId) (c : Client) : Rwl :=
  s.modifyDesk (Desk.insertOverride · w c)

/-- Refocus, arrange and report. -/
def settleX11 (s : Rwl) : Rwl := s.focus_top.arrange_all.emit .print_status

/-- `unmap_x11_window`. -/
def unmap_x11_window (s : Rwl) (xid : ℕ) : Rwl :=
  match s.desk.window_for_x11 xid with
  | none => s
  | some w =>
      let s₁ := s.modifyDesk fun d => { d with space := Space.unmap_elem d.space w }
      if (s.desk.st w).is_override_redirect then
        s₁.modifyDesk fun d =>
          { d with x11_or_windows := d.x11_or_windows.filter fun v => decide (v ≠ w) }
      else (s₁.modifyDesk fun d => (d.removeX11 w).dismiss_x11_popups).settleX11

/-- `unmapped_window`: the surface is unpaired once the handler has run. -/
def unmapped_window (s : Rwl) (xid : ℕ) : Rwl :=
  (s.unmap_x11_window xid).modifyDesk (Desk.setX11Surface · xid none)

/-- `destroyed_window`. -/
def destroyed_window (s : Rwl) (xid : ℕ) : Rwl := s.unmap_x11_window xid

/-- `surface_associated`. -/
def surface_associated (s : Rwl) (xid : ℕ) (f : SurfaceId) : Rwl :=
  s.modifyDesk fun d =>
    let d₁ := d.setX11Surface xid (some f)
    match d₁.window_for_x11 xid with
    | some w => { d₁ with window_map := Function.update d₁.window_map f (some w) }
    | none => d₁

/-! ### Requests -/

/-- `property_notify` on a hint that may make the window float. -/
def x11_property_notify (s : Rwl) (xid : ℕ) : Rwl :=
  match s.desk.window_for_x11 xid with
  | none => s
  | some w =>
      let st := s.desk.st w
      if st.is_override_redirect ∨ st.is_floating ∨
          (s.desk.client w).window_is_float_type = false then s
      else
        (s.modifyDesk fun d =>
          (d.modifyWindow w fun st =>
            { st with is_floating := true }).center_x11 w).arrange_all.emit .print_status

/-- `configure_request`: a floating or unmanaged window goes where it asks to. -/
def x11_configure_request (s : Rwl) (xid : ℕ) (x y : Option ℤ) : Rwl :=
  match s.desk.window_for_x11 xid with
  | none => s
  | some w =>
      let st := s.desk.st w
      if st.is_override_redirect ∨ st.is_floating then
        let base := st.saved_loc.getD (s.desk.client w).geometry.loc
        let loc : Point := ⟨x.getD base.x, y.getD base.y⟩
        s.modifyDesk fun d =>
          { d.modifyWindow w (fun st => { st with saved_loc := some loc }) with
            space := Space.map_element d.space w loc }
      else s

/-- `configure_notify`. -/
def x11_configure_notify (s : Rwl) (xid : ℕ) (loc : Point) : Rwl :=
  match s.desk.window_for_x11 xid with
  | some w => s.modifyDesk fun d => { d with space := Space.map_element d.space w loc }
  | none => s

/-- `XwmHandler::move_request`. -/
def x11_move_request (s : Rwl) (xid : ℕ) : Rwl :=
  match s.desk.window_for_x11 xid with
  | some w => grab.start_move s w
  | none => s

/-- `XwmHandler::resize_request`. -/
def x11_resize_request (s : Rwl) (xid : ℕ) : Rwl :=
  match s.desk.window_for_x11 xid with
  | some w => grab.start_resize s w
  | none => s

/-- `XwmHandler::fullscreen_request` and `unfullscreen_request`. -/
def x11_fullscreen_request (s : Rwl) (xid : ℕ) (fs : Bool) : Rwl :=
  match s.desk.window_for_x11 xid with
  | some w => (s.modifyDesk (set_fullscreen · w fs)).arrange_all
  | none => s

/-- `XwmHandler::disconnected`. -/
def x11_disconnected (s : Rwl) : Rwl :=
  if s.desk.x11Windows.isEmpty ∧ s.desk.x11_or_windows.isEmpty then s
  else (s.modifyDesk Desk.removeAllX11).settleX11

end Rwl

end Compositor
