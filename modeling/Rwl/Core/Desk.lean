import Mathlib.Tactic.Common
import Mathlib.Data.List.Basic
import Rwl.Core.Layout

/-!
# The desk: monitors, windows and the space

The part of `Rwl` that holds the window list, the focus stack, the monitors and the space, with
the functions that only read it.

* `LayerSurface`, `OutputInfo`: what clients and the backend have set on an output;
* `Space`: the mapped windows, the topmost last;
* `Desk` and the lookups `focused_window`, `monitor_at`, `element_under`, `surface_under`,
  `layer_surf_at`, `dir_to_monitor`, `count_tiled`, `next_occ_tag`;
* `update_tag_history`, `update_monitor_bounds`.
-/

namespace Compositor

/-! ### Outputs -/

/-- The four layers of layer-shell. -/
inductive WlrLayer
  | Background
  | Bottom
  | Top
  | Overlay
  deriving DecidableEq

/-- A layer surface; its geometry is relative to the output. -/
structure LayerSurface where
  surface : SurfaceId
  layer : WlrLayer
  can_receive_keyboard_focus : Bool
  geometry : Rect
  input : PointF → Option SurfaceId

/-- An output as the backend and its layer clients have set it up. `layers` is oldest first;
`non_exclusive_zone` is relative to the output and is what its layers leave, when it has any. -/
structure OutputInfo where
  name : String
  mode : Option Size
  scale : ℚ
  transform : Transform
  location : Point
  layers : List LayerSurface
  non_exclusive_zone : Rect
  has_exclusive_layers : Bool

/-- `Transform::transform_size`. -/
def Transform.transform_size (t : Transform) (size : Size) : Size :=
  if t = ._90 ∨ t = ._270 ∨ t = .Flipped90 ∨ t = .Flipped270 then ⟨size.h, size.w⟩ else size

/-- The rectangle `LayerMap::arrange` starts from. -/
def OutputInfo.output_rect (info : OutputInfo) : Rect :=
  match info.mode with
  | some mode => ⟨⟨0, 0⟩, info.transform.transform_size
      ⟨roundAway (mode.w / info.scale), roundAway (mode.h / info.scale)⟩⟩
  | none => Rect.zero

/-- What `LayerMap::non_exclusive_zone` is after an arrange. -/
def OutputInfo.zone (info : OutputInfo) : Rect :=
  if info.layers.isEmpty then info.output_rect else info.non_exclusive_zone

/-- The size of `Space::output_geometry`. -/
def OutputInfo.output_geometry_size (info : OutputInfo) : Option Size :=
  info.mode.map fun mode =>
    let size := info.transform.transform_size mode
    ⟨⌈(size.w : ℚ) / info.scale⌉, ⌈(size.h : ℚ) / info.scale⌉⟩

/-! ### The space -/

/-- The mapped windows with their positions, the topmost last. -/
abbrev Space := List (WinId × Point)

/-- `Space::element_location`. -/
def Space.element_location (sp : Space) (w : WinId) : Option Point :=
  (sp.find? fun e => decide (e.1 = w)).map Prod.snd

/-- `Space::unmap_elem`. -/
def Space.unmap_elem (sp : Space) (w : WinId) : Space := sp.filter fun e => decide (e.1 ≠ w)

/-- `Space::map_element`: the window comes on top. -/
def Space.map_element (sp : Space) (w : WinId) (loc : Point) : Space :=
  Space.unmap_elem sp w ++ [(w, loc)]

/-- `Space::relocate_element`: the window keeps its place in the stack. -/
def Space.relocate_element (sp : Space) (w : WinId) (loc : Point) : Space :=
  sp.map fun e => if e.1 = w then (w, loc) else e

/-! ### The desk -/

/-- Monitors, windows and the space. `on_arrange` is the layout callback of the configuration's
Lua machine, by the number of the call; `now` is the clock in milliseconds; `parent_pid` is the
process tree; `created` are the window handles made so far, none of which comes twice. -/
structure Desk where
  cfg : Config
  gaps_enabled : Bool
  now : ℕ
  on_arrange : ℕ → ℕ → Rect → ℚ → ℤ → String → Option (List LuaRect)
  lua_calls : ℕ
  parent_pid : ℕ → Option ℕ
  created : List WinId
  windows : List WinId
  focus_stack : List WinId
  x11_or_windows : List WinId
  window_map : SurfaceId → Option WinId
  st : Windows
  client : WinId → Client
  space : Space
  monitors : List Monitor
  sel_mon : ℕ
  tag_history : List (List ℕ)
  monitor_memory : String → Option MonitorMemory
  monitor_bounds : ℤ × ℤ × ℤ × ℤ
  output : OutputId → OutputInfo
  pending_tag_transition : Option (ℕ × ℕ × ℚ)

namespace Desk

variable (d : Desk)

/-- `sel_monitor`. -/
def sel_monitor : Option Monitor := d.monitors[d.sel_mon]?

/-- The active tags of a monitor, 0 when there is none. -/
def tagsOf (mon_idx : ℕ) : ℕ := ((d.monitors[mon_idx]?).map Monitor.tags).getD 0

/-- The first window of the focus stack visible on `tags` and assigned to monitor `mon_idx`. -/
def topOn (tags mon_idx : ℕ) : Option WinId :=
  d.focus_stack.find? fun w => (d.st w).visible_on tags && decide ((d.st w).mon_idx = mon_idx)

/-- `focused_window`. -/
def focused_window : Option WinId := d.topOn (d.tagsOf d.sel_mon) d.sel_mon

/-- `monitor_for_output`. -/
def monitor_for_output (o : OutputId) : Option ℕ :=
  d.monitors.findIdx? fun m => decide (m.output = o)

/-- `monitor_at`. -/
def monitor_at (p : PointF) : Option ℕ :=
  d.monitors.findIdx? fun m => m.m.contains ⟨truncZero p.x, truncZero p.y⟩

/-- `window_for_surface`. -/
def window_for_surface (s : SurfaceId) : Option WinId := d.window_map s

/-- The surface of a window. -/
def wl_surface (w : WinId) : Option SurfaceId := (d.client w).wl_surface

/-- `Space::element_geometry`: the position in the space with the committed size. -/
def element_geometry (w : WinId) : Option Rect :=
  (Space.element_location d.space w).map fun loc => ⟨loc, (d.client w).geometry.size⟩

/-- The client surface of the mapped window `e` at `p`. -/
def hit (p : PointF) (e : WinId × Point) : Option SurfaceId :=
  let c := d.client e.1
  c.input ⟨p.x - (e.2.x - c.geometry.loc.x : ℤ), p.y - (e.2.y - c.geometry.loc.y : ℤ)⟩

/-- `Space::element_under`: the topmost mapped window whose input region has the point. -/
def element_under (p : PointF) : Option WinId :=
  (d.space.reverse.find? fun e => (d.hit p e).isSome).map Prod.fst

/-- `surface_under`. -/
def surface_under (p : PointF) : Option SurfaceId := d.space.reverse.findSome? (d.hit p)

/-- `layer_surf_at`: monitor by monitor, the topmost first. -/
def layer_surf_at (p : PointF) (layer : WlrLayer) : Option SurfaceId :=
  d.monitors.findSome? fun mon =>
    ((d.output mon.output).layers.filter fun l => decide (l.layer = layer)).reverse.findSome?
      fun l => l.input ⟨p.x - (mon.m.loc.x + l.geometry.loc.x : ℤ),
        p.y - (mon.m.loc.y + l.geometry.loc.y : ℤ)⟩

/-- `target_monitor_for_window`. -/
def target_monitor_for_window (rule_monitor : ℤ) : ℕ :=
  if 0 ≤ rule_monitor then min rule_monitor.toNat (d.monitors.length - 1) else d.sel_mon

/-- `dir_to_monitor`. -/
def dir_to_monitor (source : ℕ) (dir : ℤ) : Option ℕ :=
  let n := d.monitors.length
  if n < 2 then none
  else if 0 < dir then some ((source + 1) % n) else some ((source + n - 1) % n)

/-- The windows `count_tiled` counts. -/
def countsAsTiled (st : WindowState) (tags : ℕ) : Bool :=
  st.visible_on tags && !st.is_floating && !st.is_fullscreen && st.rules_applied

/-- `count_tiled`. -/
def count_tiled (tags : ℕ) : ℕ := d.windows.countP fun w => countsAsTiled (d.st w) tags

/-- The union of the tags of all windows. -/
def occupied : ℕ := (d.windows.map fun w => (d.st w).tags).foldl (· ||| ·) 0

/-- `next_occ_tag`. -/
def next_occ_tag (dir : ℤ) : Option ℕ :=
  d.sel_monitor.bind fun mon => mon.next_occupied_tag d.cfg d.occupied dir

/-- The union of the tags every monitor shows. -/
def all_visible : ℕ := (d.monitors.map Monitor.tags).foldl (· ||| ·) 0

/-- The width of a monitor's work area, the slide distance of a tag switch. -/
def outputWidth (mon_idx : ℕ) : ℚ :=
  ((d.monitors[mon_idx]?).map fun m => (m.w.size.w : ℚ)).getD 1920

/-! ### Small updates -/

/-- `with_state_mut` on a window of the desk. -/
def modifyWindow (w : WinId) (f : WindowState → WindowState) : Desk :=
  { d with st := d.st.modify w f }

/-- `monitors.get_mut(mon_idx)`. -/
def modifyMonitor (mon_idx : ℕ) (f : Monitor → Monitor) : Desk :=
  { d with monitors := d.monitors.modify mon_idx f }

/-- `set_window_tags`. -/
def set_window_tags (w : WinId) (tags : ℕ) : Desk := d.modifyWindow w fun s => { s with tags := tags }

/-- One push of `update_tag_history`: the entry moves to the end, the oldest of 17 goes. -/
def pushHistory (history : List ℕ) (old_tags : ℕ) : List ℕ :=
  let h := history.filter (fun t => decide (t ≠ old_tags)) ++ [old_tags]
  if 16 < h.length then h.tail else h

/-- `update_tag_history`. -/
def update_tag_history (mon_idx target_tags : ℕ) : Desk :=
  match d.monitors[mon_idx]? with
  | some m =>
      if m.tags ≠ target_tags then
        { d with tag_history := d.tag_history.modify mon_idx (pushHistory · m.tags) }
      else d
  | none => d

/-- `update_monitor_bounds`. -/
def update_monitor_bounds : Desk :=
  let box (r : Rect) : ℤ × ℤ × ℤ × ℤ :=
    (r.loc.x, r.loc.y, r.loc.x + r.size.w, r.loc.y + r.size.h)
  let join (a b : ℤ × ℤ × ℤ × ℤ) : ℤ × ℤ × ℤ × ℤ :=
    (min a.1 b.1, min a.2.1 b.2.1, max a.2.2.1 b.2.2.1, max a.2.2.2 b.2.2.2)
  { d with monitor_bounds :=
      match d.monitors with
      | [] => (0, 0, 0, 0)
      | m :: ms => (ms.map fun m => box m.m).foldl join (box m.m) }

/-- `clamp_pointer`. -/
def clamp_pointer (p : PointF) : PointF :=
  if d.monitors.isEmpty then p
  else
    let (min_x, min_y, max_x, max_y) := d.monitor_bounds
    ⟨clampQ p.x min_x max_x, clampQ p.y min_y max_y⟩

end Desk

end Compositor
