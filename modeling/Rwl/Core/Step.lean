import Mathlib.Tactic.Common
import Rwl.Lib.Run
import Rwl.Core.Input
import Rwl.Core.Render
import Rwl.Core.XWayland

/-!
# The event loop

* the socket commands that do not go through `dispatch`: `ipc_command`, `ipc_resume`;
* `Event`: everything the event loop hands to the compositor, one constructor an event;
* `step`: the state after one event;
* `Setup`, `init`: the state before the first event; `plainSetup`, the setup of a plain desktop.

A client may send any request at any time. Handles are fresh: a `new_toplevel` or an X11 map that
names a window made before is no event.
-/

namespace Compositor

namespace Rwl

/-! ### Socket commands -/

/-- The socket commands on outputs. -/
inductive IpcCmd
  | view
  | toggleview
  | setlayout
  deriving DecidableEq

/-- One output's share of a `view`, `toggleview` or `setlayout` command. -/
def ipcApply (cmd : IpcCmd) (val : ℕ) (d : Desk) (idx : ℕ) : Desk :=
  match cmd with
  | .view =>
      let mask := val &&& d.cfg.tag_mask
      if mask = 0 then d
      else
        let d₁ := if idx = d.sel_mon then d.update_tag_history idx mask else d
        let old_tag := d₁.tagsOf idx
        let output_w := d₁.outputWidth idx
        let d₂ := d₁.modifyMonitor idx (Monitor.view d.cfg · mask)
        { d₂.mark_slide_outs old_tag mask output_w with
          pending_tag_transition := some (old_tag, mask, output_w) }
  | .toggleview =>
      let new := ((d.monitors[idx]?).map fun m => (m.tags ^^^ val) &&& d.cfg.tag_mask).getD 0
      if new = 0 then d
      else
        let d₁ := if idx = d.sel_mon then d.update_tag_history idx new else d
        d₁.modifyMonitor idx (Monitor.toggle_view d.cfg · val)
  | .setlayout => d.modifyMonitor idx (Monitor.set_layout d.cfg · val)

/-- The outputs a command names: all of them, or one. -/
def ipcOutputs (d : Desk) : Option ℕ → List ℕ
  | none => List.range d.monitors.length
  | some idx => [idx]

/-- `view`, `toggleview` and `setlayout` on the socket. -/
def ipc_command (s : Rwl) (cmd : IpcCmd) (which : Option ℕ) (val : ℕ) : Rwl :=
  let indices := ipcOutputs s.desk which
  let s₁ := (s.modifyDesk fun d => indices.foldl (ipcApply cmd val) d).arrange_all
  let s₂ := if s.desk.sel_mon ∈ indices then s₁.focus_top else s₁
  if cmd = .setlayout then s₂ else indices.foldl (fun s idx => s.emit (.event (.tag idx))) s₂

/-- The actions a socket command may name. -/
def ipcAction : Action → Bool
  | .Tag _ | .ToggleTag _ | .FocusStack _ | .IncNmaster _ | .SetMfact _ | .ViewNextOccTag _
  | .FocusMon _ | .TagMon _ | .Chvt _ | .ViewTagSpawn _ | .Spawn _ | .CycleLayout | .Zoom
  | .ViewPrev | .KillClient | .ToggleFloating | .ToggleFullscreen | .TogglePassthrough
  | .ReloadConfig | .Quit | .ToggleBar | .BarPrompt | .ToggleGaps | .Lock => true
  | _ => false

/-- `ipc_resume`: the keys of a cycled input device are released. -/
def ipc_resume (s : Rwl) : Rwl := s.release_all_pressed_keys

/-! ### Events -/

/-- What the event loop hands to the compositor. -/
inductive Event
  -- time, the environment and the loop itself
  | tick (ms : ℕ)
  | idle
  | titles
  | config_written (cfg : Config)
  | processes (parent_pid : ℕ → Option ℕ)
  -- input devices
  | key (code : ℕ) (pressed : Bool)
  | repeat_tick
  | motion (dx dy : ℚ)
  | motion_abs (fx fy : ℚ)
  | button (btn : ℕ) (pressed : Bool) (serial : ℕ)
  | axis (source : AxisSource) (horizontal vertical : Option AxisAmount)
  -- session locks
  | auth (i : ℕ) (ok : Bool)
  | flash
  | ext_lock (obj client : ℕ)
  | ext_unlock (obj : ℕ)
  | ext_destroy (obj : ℕ)
  | ext_get_surface (obj : ℕ) (surface : SurfaceId) (output : Option OutputId)
  -- the socket
  | ipc (a : Action)
  | ipc_outputs (cmd : IpcCmd) (which : Option ℕ) (val : ℕ)
  | ipc_focusurgent
  | ipc_resume
  -- toplevels
  | new_toplevel (w : WinId) (c : Client)
  | toplevel_destroyed (f : SurfaceId)
  | client_update (w : WinId) (c : Client)
  | commit (f : SurfaceId) (initial_sent : Bool)
  | fullscreen_request (f : SurfaceId) (fs : Bool)
  | move_request (f : SurfaceId)
  | resize_request (f : SurfaceId)
  | parent_changed (f : SurfaceId)
  | dialog_hint_changed (f : SurfaceId)
  | popup_grab (root popup parent : SurfaceId) (serial : ℕ)
  | request_activation (f : SurfaceId)
  -- X11 windows
  | x11_map (w : WinId) (c : Client)
  | x11_map_override (w : WinId) (c : Client)
  | x11_unmapped (xid : ℕ)
  | x11_destroyed (xid : ℕ)
  | x11_associated (xid : ℕ) (f : SurfaceId)
  | x11_property (xid : ℕ)
  | x11_configure_request (xid : ℕ) (x y : Option ℤ)
  | x11_configure_notify (xid : ℕ) (loc : Point)
  | x11_move_request (xid : ℕ)
  | x11_resize_request (xid : ℕ)
  | x11_fullscreen_request (xid : ℕ) (fs : Bool)
  | x11_disconnected
  -- surfaces, layers and clients
  | surface_destroyed (f : SurfaceId)
  | layers_changed (o : OutputId) (layers : List LayerSurface) (zone : Rect) (exclusive : Bool)
  | layer_destroyed (f : SurfaceId)
  | client_disconnected (client : ℕ)
  -- outputs and frames
  | output_added (o : OutputId) (info : OutputInfo)
  | output_removed (o : OutputId)
  | capture_output (frame : ℕ) (output : Option OutputId)
  | copy (frame : ℕ)
  | frame_destroyed (frame : ℕ)
  | vblank (o : OutputId) (out : RenderOutcome)
  | winit_frame (o : OutputId) (out : RenderOutcome)

/-- What a client may change of a window: its surface, its process and its X11 surface stay. -/
def updateClient (old new : Client) : Client :=
  { new with
    wl_surface := old.wl_surface
    pid := old.pid
    x11 := old.x11.map fun x => { new.x11.getD x with xid := x.xid } }

/-- The layer clients of an output rearrange its layers. -/
def setLayers (d : Desk) (o : OutputId) (layers : List LayerSurface) (zone : Rect)
    (exclusive : Bool) : Desk :=
  let info := { d.output o with
    layers := layers
    non_exclusive_zone := zone
    has_exclusive_layers := exclusive }
  { d with output := Function.update d.output o info }

/-- The state after one event. -/
def step (s : Rwl) : Event → Rwl
  | .tick ms => s.modifyDesk fun d => { d with now := d.now + ms }
  | .idle => s.drain
  | .titles => s.check_toplevel_titles
  | .config_written cfg => { s with config_file := cfg }
  | .processes parent_pid => s.modifyDesk fun d => { d with parent_pid := parent_pid }
  | .key code pressed => s.process_key_event code pressed
  | .repeat_tick => s.key_repeat_tick
  | .motion dx dy => s.process_pointer_motion dx dy
  | .motion_abs fx fy => s.process_pointer_motion_abs fx fy
  | .button btn pressed serial => s.process_pointer_button btn pressed serial
  | .axis source horizontal vertical => s.process_pointer_axis source horizontal vertical
  | .auth i ok => s.worker_done i ok
  | .flash => s.flash_expired
  | .ext_lock obj client => s.ext_lock obj client
  | .ext_unlock obj => s.ext_unlock obj
  | .ext_destroy obj => s.ext_destroy obj
  | .ext_get_surface obj surface output => s.ext_get_surface obj surface output
  | .ipc a => if ipcAction a then s.dispatch a else s
  | .ipc_outputs cmd which val => s.ipc_command cmd which val
  | .ipc_focusurgent => s.focus_urgent
  | .ipc_resume => s.ipc_resume
  | .new_toplevel w c =>
      if w ∈ s.desk.created ∨ c.x11.isSome ∨ c.wl_surface.isNone then s else s.new_toplevel w c
  | .toplevel_destroyed f => s.toplevel_destroyed f
  | .client_update w c => s.modifyDesk fun d =>
      { d with client := Function.update d.client w (updateClient (d.client w) c) }
  | .commit f initial_sent => s.commit f initial_sent
  | .fullscreen_request f fs => s.fullscreen_request f fs
  | .move_request f => s.move_request f
  | .resize_request f => s.resize_request f
  | .parent_changed f => s.parent_changed f
  | .dialog_hint_changed f => s.dialog_hint_changed f
  | .popup_grab root popup parent serial => s.popup_grab root popup parent serial
  | .request_activation f => s.request_activation f
  | .x11_map w c => if w ∈ s.desk.created ∨ c.x11.isNone then s else s.map_x11_window w c
  | .x11_map_override w c =>
      if w ∈ s.desk.created ∨ c.x11.isNone then s else s.map_x11_override_redirect w c
  | .x11_unmapped xid => s.unmapped_window xid
  | .x11_destroyed xid => s.destroyed_window xid
  | .x11_associated xid f => s.surface_associated xid f
  | .x11_property xid => s.x11_property_notify xid
  | .x11_configure_request xid x y => s.x11_configure_request xid x y
  | .x11_configure_notify xid loc => s.x11_configure_notify xid loc
  | .x11_move_request xid => s.x11_move_request xid
  | .x11_resize_request xid => s.x11_resize_request xid
  | .x11_fullscreen_request xid fs => s.x11_fullscreen_request xid fs
  | .x11_disconnected => s.x11_disconnected
  | .surface_destroyed f => s.modifySeat (Seat.surface_destroyed · f)
  | .layers_changed o layers zone exclusive =>
      s.modifyDesk (setLayers · o layers zone exclusive)
  | .layer_destroyed f => s.layer_destroyed f
  | .client_disconnected client => s.client_disconnected client
  | .output_added o info =>
      if (s.desk.monitor_for_output o).isSome then s else s.output_added o info
  | .output_removed o => s.output_removed o
  | .capture_output frame output => s.capture_output frame output
  | .copy frame => s.copy frame
  | .frame_destroyed frame => s.frame_destroyed frame
  | .vblank o out => s.on_vblank o out
  | .winit_frame o out => s.render_frame o out

/-! ### Startup -/

/-- What a compositor starts with. -/
structure Setup where
  cfg : Config
  gaps_enabled : Bool
  lua : Lua
  on_arrange : ℕ → ℕ → Rect → ℚ → ℤ → String → Option (List LuaRect)
  keymap : Keymap
  owner : SurfaceId → ℕ
  client : WinId → Client

/-- The desk before the first event. -/
def initDesk (env : Setup) : Desk where
  cfg := env.cfg
  gaps_enabled := env.gaps_enabled
  now := 0
  on_arrange := env.on_arrange
  lua_calls := 0
  parent_pid := fun _ => none
  created := []
  windows := []
  focus_stack := []
  x11_or_windows := []
  window_map := fun _ => none
  st := fun _ => WindowState.new
  client := env.client
  space := []
  monitors := []
  sel_mon := 0
  tag_history := []
  monitor_memory := fun _ => none
  monitor_bounds := (0, 0, 0, 0)
  output := fun _ => ⟨"", none, 1, .Normal, ⟨0, 0⟩, [], Rect.zero, false⟩
  pending_tag_transition := none

/-- The seat before the first event. -/
def initSeat (env : Setup) : Seat where
  keymap := env.keymap
  transitions := []
  kb_focus := none
  pressed_keys := []
  forwarded_pressed_keys := []
  kb_grab := none
  ptr_focus := none
  ptr_pending := none
  location := ⟨0, 0⟩
  pressed_buttons := []
  ptr_grab := .default
  active_grabs := []
  grab_serial := none
  alive := fun _ => true
  owner := env.owner

/-- The session before the first event. -/
def initSession : Session where
  locked := false
  native_lock := none
  lock_surfaces := []
  ext_locks := fun _ => none
  workers := []
  next_channel := 0
  flash_timers := 0

/-- The state before the first event. -/
def init (env : Setup) : Rwl where
  desk := initDesk env
  seat := initSeat env
  keys := ⟨[], false, none, none, false⟩
  grab := Grab.idle .Normal
  session := initSession
  overview := none
  pip := none
  screencopy := ⟨fun _ => none, []⟩
  hooks := ⟨[], 0, none, false⟩
  lua := env.lua
  config_file := env.cfg
  initial_warp_done := false
  tag_transition_was_active := false
  post_transition_wakeup := 0
  running := true
  out := []

/-- The states some run from a start reaches. -/
def Reachable (s : Rwl) : Prop := ∃ env, Transition.Reach step (init env) s

/-! ### A plain environment -/

/-- A configuration with no rules and one tiling layout. -/
def plainConfig (keys : List KeyBind) (buttons : List ButtonBind) : Config where
  mouse_focus := true
  follow := false
  border_px := 0
  gaps_px := 0
  smart_gaps := false
  fade_out_ms := 0
  tag_transition := false
  tag_transition_ms := 0
  auto_back_empty_tag := false
  warp_cursor := false
  tag_count := 9
  pertag_layouts := []
  rules := []
  layouts := [⟨"[]=", .Tile⟩]
  monitor_rules := []
  repeat_rate := 25
  repeat_delay := 600
  touchpad_scroll_factor := 1
  mouse_scroll_factor := 1
  keys := keys
  buttons := buttons
  auto_spawn := []
  hint_keys := ['a', 'b', 'c']
  overview_padding := 10
  overview_animation_ms := 200
  swallow_enabled := false
  swallow_terminals := []

/-- A keymap on which every key is its own keysym; the key `MODKEY` is the logo key. -/
def plainKeymap : Keymap where
  mods ts := ⟨decide ((ts.find? fun t => decide (t.1 = MODKEY)).map Prod.snd = some true),
    false, false, false⟩
  modified_sym _ code := code
  raw_syms _ code := [code]
  key_char _ code := some (Char.ofNat code)

/-- An xdg client of the surface `f` that covers a box of 100 by 100. -/
def plainClient (f : SurfaceId) : Client where
  wl_surface := some f
  x11 := none
  app_id := none
  title := none
  parent := none
  dialog_hint := .Unknown
  min_size := ⟨0, 0⟩
  max_size := ⟨0, 0⟩
  pending_min_size := ⟨0, 0⟩
  pending_max_size := ⟨0, 0⟩
  pid := none
  geometry := Rect.of 0 0 100 100
  input p := if (Rect.of 0 0 100 100).contains ⟨⌊p.x⌋, ⌊p.y⌋⟩ then some f else none

/-- An output with a mode and no layers. -/
def plainOutput (name : String) : OutputInfo where
  name := name
  mode := some ⟨800, 600⟩
  scale := 1
  transform := .Normal
  location := ⟨0, 0⟩
  layers := []
  non_exclusive_zone := Rect.zero
  has_exclusive_layers := false

/-- A frame that is rendered and copied without a fault. -/
def plainFrame : RenderOutcome where
  within_gate := false
  rendered := true
  readback := true
  copied _ := true

/-- A setup with no Lua, in which every surface is a client of its own. -/
def plainSetup (keys : List KeyBind) (buttons : List ButtonBind) : Setup where
  cfg := plainConfig keys buttons
  gaps_enabled := false
  lua := ⟨fun _ _ => [], fun _ _ => none⟩
  on_arrange _ _ _ _ _ _ := none
  keymap := plainKeymap
  owner f := f
  client f := plainClient f

end Rwl

end Compositor
