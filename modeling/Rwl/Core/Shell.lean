import Mathlib.Tactic.Common
import Rwl.Core.GrabOps
import Rwl.Core.Rules

/-!
# Shell handlers

What the clients' requests do to the managed windows.

* `new_toplevel`, `toplevel_destroyed`, `fullscreen_request`, `move_request`, `resize_request`,
  `parent_changed`, `popup_grab`;
* `commit`: the first commit applies the rules, the first buffer maps the window;
* `commit_layer`, `layer_destroyed`, `check_toplevel_titles`, `dialog_hint_changed`,
  `request_activation`.
-/

namespace Compositor

namespace Rwl

/-! ### Toplevels -/

/-- Where a new window goes and what it shows on: the selected monitor's work area and view. -/
def newPlace (d : Desk) : Point × ℕ :=
  match d.sel_monitor with
  | some mon => (mon.w.loc, mon.tags)
  | none => (⟨0, 0⟩, 1)

/-- The desk with the fresh managed window `w` of the client `c`, its state set by `f`. -/
def insertWindow (d : Desk) (w : WinId) (c : Client) (f : WindowState → WindowState) : Desk :=
  let (loc, initial_tags) := newPlace d
  { d with
    created := w :: d.created
    client := Function.update d.client w c
    st := Function.update d.st w
      (f { WindowState.new with tags := initial_tags, mon_idx := d.sel_mon })
    space := Space.map_element d.space w loc
    windows := w :: d.windows
    window_map := match c.wl_surface with
      | some f => Function.update d.window_map f (some w)
      | none => d.window_map }

/-- `new_toplevel`: the window tops the focus stack before its client has the keyboard. -/
def new_toplevel (s : Rwl) (w : WinId) (c : Client) : Rwl :=
  let prev_focused := s.desk.focus_stack.head?
  let s₁ := s.modifyDesk fun d =>
    { insertWindow d w c id with focus_stack := Recency.toFront w d.focus_stack }
  let s₂ := if prev_focused ≠ some w then s₁.followFocus w prev_focused else s₁
  s₂.emit .print_status

/-- `tile_master_window`. -/
def tile_master_window (d : Desk) : Option WinId :=
  match d.sel_monitor with
  | none => none
  | some mon =>
      if mon.layout_kind d.cfg ≠ .Tile then none
      else d.windows.find? fun w =>
        let s := d.st w
        decide (s.mon_idx = d.sel_mon) && s.visible_on mon.tags && s.rules_applied &&
          !s.is_floating && !s.is_fullscreen

/-- Whether `w` is the xdg toplevel of the surface `f`. -/
def isToplevel (d : Desk) (f : SurfaceId) (w : WinId) : Bool :=
  (d.client w).x11.isNone && decide ((d.client w).wl_surface = some f)

/-- Forget the toplevel of a surface. -/
def dropToplevel (d : Desk) (f : SurfaceId) : Desk :=
  { d with
    window_map := Function.update d.window_map f none
    windows := d.windows.filter fun w => !isToplevel d f w
    focus_stack := d.focus_stack.filter fun w => !isToplevel d f w }

/-- What follows the removal of the window `w`, up to the terminal it hid. -/
def windowGone (s : Rwl) (w : WinId) : Rwl :=
  let st := s.desk.st w
  let s₁ := (pip.on_window_closed s w).modifyDesk fun d =>
    { d with space := Space.unmap_elem d.space w }
  let s₂ := if st.buffer_mapped ∧ st.is_floating = false then
      auto_back_empty_tag.on_window_closed s₁ st.mon_idx (s₁.desk.tagsOf st.mon_idx)
        st.switch_to_tag
    else s₁
  if st.buffer_mapped then ((s₂.fire (.window_close w)).drain).emit (.event (.close w)) else s₂

/-- The end of `toplevel_destroyed`: focus, arrange, warp, and the overview's grid. -/
def refocus (s : Rwl) (was_visible : Bool) (restored : Option WinId) : Rwl :=
  let top := if was_visible then (tile_master_window s.desk).or s.desk.focused_window
    else s.desk.focused_window
  let s₁ := (s.focus_window (restored.or top)).arrange_all
  if was_visible then overview.on_window_closed s₁.warp_cursor_to_focused else s₁

/-- `toplevel_destroyed`. -/
def toplevel_destroyed (s : Rwl) (f : SurfaceId) : Rwl :=
  let s₁ := s.modifyDesk (dropToplevel · f)
  match s.desk.window_map f with
  | some w =>
      let s₂ := s₁.windowGone w
      (s₂.modifyDesk (swallow.on_unmap · w)).refocus (s.desk.st w).buffer_mapped
        (swallow.restored s₂.desk w)
  | none => s₁.refocus false none

/-- `fullscreen_request` and `unfullscreen_request`. -/
def fullscreen_request (s : Rwl) (f : SurfaceId) (fs : Bool) : Rwl :=
  match s.desk.window_map f with
  | some w =>
      let was_fs := (s.desk.st w).is_fullscreen
      let s₁ := (s.modifyDesk (set_fullscreen · w fs)).arrange_all
      if was_fs ≠ fs then (s₁.fire (.fullscreen w fs)).emit (.event (.fullscreen w)) else s₁
  | none => s

/-- `XdgShellHandler::move_request`. -/
def move_request (s : Rwl) (f : SurfaceId) : Rwl :=
  match s.desk.window_map f with
  | some w => grab.start_move s w
  | none => s

/-- `XdgShellHandler::resize_request`. -/
def resize_request (s : Rwl) (f : SurfaceId) : Rwl :=
  match s.desk.window_map f with
  | some w => grab.start_resize s w
  | none => s

/-- `parent_changed`: the rules run again at the next commit. -/
def parent_changed (s : Rwl) (f : SurfaceId) : Rwl :=
  match s.desk.window_map f with
  | some w =>
      if (s.desk.client w).toplevel_parent.isSome ∧ (s.desk.st w).is_floating = false then
        s.modifyDesk fun d => d.modifyWindow w fun st => { st with rules_applied := false }
      else s
  | none => s

/-- `XdgShellHandler::grab`. -/
def popup_grab (s : Rwl) (root popup parent : SurfaceId) (serial : ℕ) : Rwl :=
  s.modifySeat (Seat.grab · root popup parent serial)

/-! ### Commits -/

/-- The first commit of a window: rules, swallowing, the open hook, layout and focus. -/
def firstCommit (s : Rwl) (w : WinId) : Rwl :=
  let s₁ := (s.modifyDesk fun d =>
    d.modifyWindow w fun st => { st with rules_applied := true }).apply_rules w
  let s₂ := ((s₁.modifyDesk (swallow.try_swallow · w)).fire (.window_open w)).drain
  s₂.arrange_all.focus_top.emit (.event (.open w))

/-- The first buffer of a window. -/
def firstBuffer (s : Rwl) (w : WinId) : Rwl :=
  let size := (s.desk.client w).geometry.size
  if (s.desk.st w).buffer_mapped = false ∧ 0 < size.w ∧ 0 < size.h then
    let s₁ := s.modifyDesk fun d => d.modifyWindow w fun st => { st with buffer_mapped := true }
    let s₂ := if s₁.desk.focus_stack.head? = some w then s₁.warp_cursor_to_focused else s₁
    let st := s₂.desk.st w
    let c := s₂.desk.client w
    -- a fixed-size window is only known to be one now
    if c.x11.isNone ∧ st.is_floating = false ∧ st.is_fullscreen = false ∧
        c.window_is_float_type then
      (s₂.modifyDesk fun d => d.modifyWindow w fun st =>
        { st with is_floating := true, needs_centering := true }).arrange_all
    else s₂
  else s

/-- Centre a newly floating window on its monitor, or remember where once it shows. -/
def centre (d : Desk) (w : WinId) : Desk :=
  let st := d.st w
  let size := (d.client w).geometry.size
  if st.needs_centering ∧ 0 < size.w ∧ 0 < size.h then
    match d.monitors[st.mon_idx]? with
    | none => d
    | some mon =>
        let loc : Point := ⟨mon.m.loc.x + (mon.w.size.w - size.w).tdiv 2,
          mon.m.loc.y + (mon.w.size.h - size.h).tdiv 2⟩
        let d₁ := d.modifyWindow w fun st => { st with needs_centering := false }
        if d.monitors.any fun m => st.visible_on m.tags then
          { d₁ with space := Space.map_element d₁.space w loc }
        else d₁.modifyWindow w fun st => { st with saved_loc := some loc }
  else d

/-- The title and the application id of a window as `commit` reads them. -/
def namesNow (c : Client) : Option String × Option String :=
  if c.x11.isSome then (some (c.title.getD ""), some (c.app_id.getD "")) else (c.title, c.app_id)

/-- Notice a changed title or application id. -/
def refreshNames (s : Rwl) (w : WinId) : Rwl :=
  let (title, appid) := namesNow (s.desk.client w)
  if (s.desk.st w).last_title ≠ title ∨ (s.desk.st w).last_appid ≠ appid then
    (s.modifyDesk fun d => d.modifyWindow w fun st =>
      { st with last_title := title, last_appid := appid }).emit .print_status
  else s

/-- `commit` on the surface of the window `w`; `initial_sent` is the protocol library's record of
the initial configure of a toplevel. -/
def commit_window (s : Rwl) (w : WinId) (initial_sent : Bool) : Rwl :=
  let s₁ := if (s.desk.st w).rules_applied = false then s.firstCommit w
    else if (s.desk.client w).x11.isNone ∧ initial_sent = false then s.arrange_all
    else s
  ((s₁.firstBuffer w).modifyDesk (centre · w)).refreshNames w

/-- The monitor whose output has the layer surface `f`. -/
def layerMonitor (d : Desk) (f : SurfaceId) : Option ℕ :=
  d.monitors.findIdx? fun mon => (d.output mon.output).layers.any fun l => decide (l.surface = f)

/-- The work area a layer commit gives a monitor. -/
def layerArea (d : Desk) (mon : Monitor) : Rect :=
  let zone := (d.output mon.output).zone
  if 0 < zone.size.w ∧ 0 < zone.size.h then
    ⟨⟨mon.m.loc.x + zone.loc.x, mon.m.loc.y + zone.loc.y⟩, zone.size⟩
  else mon.m

/-- `commit` on a layer surface of monitor `idx`. -/
def commit_layer (s : Rwl) (idx : ℕ) : Rwl :=
  let s₁ := match s.desk.monitors[idx]? with
    | none => s
    | some mon =>
        let new_w := layerArea s.desk mon
        if new_w ≠ mon.w then
          (s.modifyDesk fun d => d.modifyMonitor idx fun m => { m with w := new_w }).arrange idx
        else s
  s₁.update_layer_focus

/-- `commit`. -/
def commit (s : Rwl) (f : SurfaceId) (initial_sent : Bool) : Rwl :=
  match s.desk.window_map f with
  | some w => s.commit_window w initial_sent
  | none =>
      match layerMonitor s.desk f with
      | some idx => s.commit_layer idx
      | none => s

/-- `layer_destroyed`. -/
def layer_destroyed (s : Rwl) (f : SurfaceId) : Rwl :=
  let forget (info : OutputInfo) : OutputInfo :=
    { info with layers := info.layers.filter fun l => decide (l.surface ≠ f) }
  (s.modifyDesk fun d =>
    { d with output := fun o => forget (d.output o) }).arrange_all.update_layer_focus

/-! ### Titles, dialogs and activation -/

/-- `check_toplevel_titles` on one window. -/
def checkTitle (s : Rwl) (w : WinId) : Rwl :=
  let (title, appid) := namesNow (s.desk.client w)
  let s₁ := s.modifyDesk fun d => d.modifyWindow w fun st =>
    { st with last_title := title, last_appid := appid }
  if (s.desk.st w).last_title = title then s₁
  else
    let s₂ := match title with
      | some t => s₁.fire (.title_change w t)
      | none => s₁
    s₂.emit (.event (.title w))

/-- The windows whose cached names are stale. -/
def staleTitles (d : Desk) : List WinId :=
  d.windows.filter fun w =>
    decide (((d.st w).last_title, (d.st w).last_appid) ≠ namesNow (d.client w))

/-- `check_toplevel_titles`. -/
def check_toplevel_titles (s : Rwl) : Rwl :=
  if (staleTitles s.desk).isEmpty then s
  else ((staleTitles s.desk).foldl checkTitle s).emit .print_status

/-- `dialog_hint_changed` to a dialog or modal hint. -/
def dialog_hint_changed (s : Rwl) (f : SurfaceId) : Rwl :=
  match s.desk.window_map f with
  | none => s
  | some w =>
      if (s.desk.st w).is_floating then s
      else (s.modifyDesk fun d => d.modifyWindow w fun st =>
        { st with is_floating := true, needs_centering := true }).arrange_all

/-- `request_activation` with a token that was granted. -/
def request_activation (s : Rwl) (f : SurfaceId) : Rwl :=
  match s.desk.window_map f with
  | none => s
  | some w =>
      if s.desk.focus_stack.head? = some w then s
      else
        let s₁ := s.modifyDesk fun d => d.modifyWindow w fun st => { st with is_urgent := true }
        ((s₁.fire (.urgency w)).emit (.event (.urgency w))).focus_urgent

end Rwl

end Compositor
