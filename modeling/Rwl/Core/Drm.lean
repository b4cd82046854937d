import Mathlib.Tactic.Common
import Rwl.Lib.Keyed
import Rwl.Core.Step

/-!
# The DRM backend

The devices, their surfaces and the frames they show.

* `Connector`, `Topology`: what a scan reads of a device;
* `collect_conn_infos`, `setup_connector_output`, `scan_connectors`;
* `on_vblank` up to `queue_frame`, the idle callbacks of `schedule_render`, the completed flips;
* `backend_device_added`, `backend_device_removed`, `open_pending_devices`, `pause_drm_devices`;
* `drmStep`: one event.

Which windows resize, what is damaged and whether the kernel takes a frame come with the event.
Beside the data of the source the state records the frames in flight, the calls of `queue_frame`,
the last scan of each device and the connector each output was made for.
-/

namespace Compositor

open Keyed

/-- A device number. -/
abbrev DevId := ℕ

/-- A `crtc::Handle`. -/
abbrev Crtc := ℕ

/-- A `connector::Handle`. -/
abbrev ConnId := ℕ

/-! ### What a scan reads -/

/-- A connector: its modes, each with whether it is preferred, and the CRTCs its encoders can
use, in order. -/
structure Connector where
  id : ConnId
  name : String
  connected : Bool
  modes : List (Bool × Size)
  crtcs : List Crtc
  deriving DecidableEq

/-- The preferred mode, else the first one. -/
def Connector.mode (c : Connector) : Option Size :=
  ((c.modes.find? fun m => m.1).or c.modes.head?).map Prod.snd

/-- The connectors of a device that can be read; their handles are distinct. -/
structure Topology where
  connectors : List Connector
  nodup : (connectors.map Connector.id).Nodup

/-- `ConnInfo`. -/
structure ConnInfo where
  crtc : Crtc
  drm_mode : Size
  conn : ConnId
  name : String
  deriving DecidableEq

/-- What comes of a call of `on_vblank`: `queue` is empty when the frame is held, has no damage or
fails before `queue_frame`, else it says whether that call succeeds. -/
structure FrameOutcome where
  out : RenderOutcome
  queue : Option Bool

/-- What a scan meets: the connectors, unless they cannot be listed, whether a DRM compositor is
built for a CRTC, and its first frame. -/
structure Scan where
  topology : Option Topology
  built : Crtc → Bool
  first : Crtc → FrameOutcome

/-! ### The state -/

/-- `OutputSurface`. -/
structure OutputSurface where
  output : OutputId
  flip_pending : Bool
  connector : ConnId
  deriving DecidableEq

/-- `DeviceData`. -/
structure DeviceData where
  active : Bool
  surfaces : Map Crtc OutputSurface

/-- One call of `queue_frame`, and what was pending on the CRTC. -/
structure QueueCall where
  device : DevId
  crtc : Crtc
  flip_pending : Bool
  in_flight : Bool
  deriving DecidableEq

/-- The compositor with the data of the backend. -/
structure Udev where
  rwl : Rwl
  session_active : Bool
  devices : Map DevId DeviceData
  pending_devices : List DevId
  /-- The next output object. -/
  next_output : OutputId
  /-- The frames queued and neither completed nor discarded. -/
  in_flight : DevId → Crtc → Bool
  queue_log : List QueueCall
  /-- What the last scan of each device found. -/
  scanned : DevId → List Connector
  /-- The device and the connector an output was made for. -/
  origin : OutputId → DevId × ConnId

namespace Udev

/-- The surface of a CRTC. -/
def surface (b : Udev) (dev : DevId) (crtc : Crtc) : Option OutputSurface :=
  (b.devices.lookup dev).bind fun d => d.surfaces.lookup crtc

/-- Change the surface of a CRTC. -/
def modifySurface (b : Udev) (dev : DevId) (crtc : Crtc) (f : OutputSurface → OutputSurface) :
    Udev :=
  let change (d : DeviceData) : DeviceData := { d with surfaces := modify crtc f d.surfaces }
  { b with devices := modify dev change b.devices }

/-! ### Frames -/

/-- `queue_frame`; only a frame the kernel takes is waited for. -/
def queue_frame (b : Udev) (dev : DevId) (crtc : Crtc) (ok : Bool) : Udev :=
  let call : QueueCall := {
    device := dev
    crtc := crtc
    flip_pending := ((b.surface dev crtc).map OutputSurface.flip_pending).getD false
    in_flight := b.in_flight dev crtc }
  let b' := { b with queue_log := b.queue_log ++ [call] }
  if ok then
    { b'.modifySurface dev crtc (fun surf => { surf with flip_pending := true }) with
      in_flight := Function.update b.in_flight dev (Function.update (b.in_flight dev) crtc true) }
  else b'

/-- `on_vblank`. -/
def on_vblank (b : Udev) (dev : DevId) (crtc : Crtc) (f : FrameOutcome) : Udev :=
  match b.devices.lookup dev with
  | none => b
  | some d =>
      if d.active = false then b
      else match d.surfaces.lookup crtc with
        | none => b
        | some surf =>
            let b' := { b with rwl := Rwl.step b.rwl (.vblank surf.output f.out) }
            match f.queue with
            | none => b'
            | some ok => b'.queue_frame dev crtc ok

/-- `DrmEvent::VBlank`: the frame is on screen. -/
def vblank (b : Udev) (dev : DevId) (crtc : Crtc) (f : FrameOutcome) : Udev :=
  let b' := match b.surface dev crtc with
    | none => b
    | some _ =>
        { b.modifySurface dev crtc (fun surf => { surf with flip_pending := false }) with
          in_flight :=
            Function.update b.in_flight dev (Function.update (b.in_flight dev) crtc false) }
  b'.on_vblank dev crtc f

/-- An idle callback of `schedule_render`. -/
def idle_render (b : Udev) (dev : DevId) (crtc : Crtc) (f : FrameOutcome) : Udev :=
  let active := ((b.devices.lookup dev).map DeviceData.active).getD false
  let flip_pending := ((b.surface dev crtc).map OutputSurface.flip_pending).getD true
  if active ∧ flip_pending = false then b.on_vblank dev crtc f else b

/-! ### Connectors -/

/-- `collect_conn_infos`, with the CRTCs in use and those claimed so far. -/
def collect_conn_infos (used : Crtc → Bool) : List Crtc → List Connector → List ConnInfo
  | _, [] => []
  | claimed, c :: cs =>
      match c.connected, c.mode, c.crtcs.find? fun k => !used k && !claimed.contains k with
      | true, some mode, some crtc =>
          { crtc := crtc, drm_mode := mode, conn := c.id, name := c.name } ::
            collect_conn_infos used (crtc :: claimed) cs
      | _, _, _ => collect_conn_infos used claimed cs

/-- The new surfaces a scan of a device proposes. -/
def proposals (d : DeviceData) (t : Topology) : List ConnInfo :=
  collect_conn_infos (fun k => decide (k ∈ d.surfaces)) [] t.connectors

/-- The `Output` that `setup_connector_output` makes. -/
def newOutput (info : ConnInfo) : OutputInfo where
  name := info.name
  mode := some info.drm_mode
  scale := 1
  transform := .Normal
  location := ⟨0, 0⟩
  layers := []
  non_exclusive_zone := Rect.zero
  has_exclusive_layers := false

/-- `setup_connector_output`. -/
def setup_connector_output (b : Udev) (dev : DevId) (scan : Scan) (info : ConnInfo) : Udev :=
  let o := b.next_output
  let b' := { b with next_output := o + 1 }
  if scan.built info.crtc = false then b'
  else
    let surf : OutputSurface := { output := o, flip_pending := false, connector := info.conn }
    let add (d : DeviceData) : DeviceData :=
      { d with surfaces := d.surfaces.insert info.crtc surf }
    let b₁ := { b' with
      devices := modify dev add b.devices
      origin := Function.update b.origin o (dev, info.conn) }
    let b₂ := { b₁ with rwl := Rwl.step b.rwl (.output_added o (newOutput info)) }
    b₂.on_vblank dev info.crtc (scan.first info.crtc)

/-- `scan_connectors`; nothing happens when the device is gone or cannot be read. -/
def scan_connectors (b : Udev) (dev : DevId) (scan : Scan) : Udev :=
  match b.devices.lookup dev, scan.topology with
  | some d, some t =>
      let b' := { b with scanned := Function.update b.scanned dev t.connectors }
      (proposals d t).foldl (fun b info => b.setup_connector_output dev scan info) b'
  | _, _ => b

/-! ### Devices -/

/-- `backend_device_added` on a device that opens: whatever it showed before is discarded. -/
def open_device (b : Udev) (dev : DevId) (scan : Scan) : Udev :=
  let b' := { b with
    devices := b.devices.insert dev { active := true, surfaces := ∅ }
    in_flight := Function.update b.in_flight dev fun _ => false }
  b'.scan_connectors dev scan

/-- `enqueue_device`: an event of udev; a device that cannot be opened or scanned is deferred. -/
def enqueue_device (b : Udev) (dev : DevId) (opened : Bool) (scan : Scan) : Udev :=
  if b.session_active = false ∨ opened = false then
    { b with pending_devices := b.pending_devices ++ [dev] }
  else
    let b' := b.open_device dev scan
    if scan.topology.isSome then b'
    else { b' with pending_devices := b'.pending_devices ++ [dev] }

/-- `backend_device_changed`. -/
def backend_device_changed (b : Udev) (dev : DevId) (scan : Scan) : Udev :=
  b.scan_connectors dev scan

/-- `backend_device_removed`. -/
def backend_device_removed (b : Udev) (dev : DevId) : Udev :=
  match b.devices.lookup dev with
  | none => b
  | some d =>
      { b with
        devices := b.devices.erase dev
        in_flight := Function.update b.in_flight dev fun _ => false
        rwl := d.surfaces.entries.foldl
          (fun s e => Rwl.step s (.output_removed e.2.output)) b.rwl }

/-- `pause_drm_devices`, when the session is paused. -/
def pause_drm_devices (b : Udev) : Udev :=
  { b with
    session_active := false
    devices := mapVals (fun d => { d with active := false }) b.devices }

/-- What `open_pending_devices` meets: which devices are activated and opened, their scans, and
the frames of the surfaces of an activated device. -/
structure Resume where
  activated : DevId → Bool
  opened : DevId → Bool
  scan : DevId → Scan
  frame : DevId → Crtc → FrameOutcome

/-- A device that is activated again: its flips are discarded, it is scanned, and all its
surfaces are rendered. -/
def activate_device (b : Udev) (r : Resume) (dev : DevId) : Udev :=
  match b.devices.lookup dev with
  | none => b
  | some d =>
      if d.active ∨ r.activated dev = false then b
      else
        let reset (surf : OutputSurface) : OutputSurface := { surf with flip_pending := false }
        let b₁ := { b with
          devices := b.devices.insert dev { active := true, surfaces := mapVals reset d.surfaces }
          in_flight := Function.update b.in_flight dev fun _ => false }
        let b₂ := b₁.scan_connectors dev (r.scan dev)
        let existing_crtcs := ((b₂.devices.lookup dev).map fun d => d.surfaces.keys).getD []
        existing_crtcs.foldl (fun b crtc => b.on_vblank dev crtc (r.frame dev crtc)) b₂

/-- `open_pending_devices`. -/
def open_pending_devices (b : Udev) (r : Resume) : Udev :=
  let b₁ := b.devices.keys.foldl (fun b dev => b.activate_device r dev) b
  let b₂ := { b₁ with pending_devices := [] }
  b₁.pending_devices.foldl (fun b dev =>
    if b.session_active = false ∨ r.opened dev = false then b
    else b.open_device dev (r.scan dev)) b₂

end Udev

/-! ### Events -/

/-- What the event loop hands to the backend. -/
inductive DrmEvent
  | vblank (dev : DevId) (crtc : Crtc) (f : FrameOutcome)
  | idle_render (dev : DevId) (crtc : Crtc) (f : FrameOutcome)
  | added (dev : DevId) (opened : Bool) (scan : Scan)
  | changed (dev : DevId) (scan : Scan)
  | removed (dev : DevId)
  | pause_session
  | activate_session (r : Udev.Resume)
  /-- `open_pending_devices` at startup. -/
  | startup (r : Udev.Resume)
  | ipc_resume (r : Udev.Resume)
  /-- Any other event. -/
  | event (e : Rwl.Event)

/-- The events of the compositor that come from its backend. -/
def Rwl.Event.fromBackend : Rwl.Event → Bool
  | .vblank _ _ | .winit_frame _ _ | .output_added _ _ | .output_removed _ | .ipc_resume => true
  | _ => false

/-- One event. -/
def drmStep (b : Udev) : DrmEvent → Udev
  | .vblank dev crtc f => b.vblank dev crtc f
  | .idle_render dev crtc f => b.idle_render dev crtc f
  | .added dev opened scan => b.enqueue_device dev opened scan
  | .changed dev scan => b.backend_device_changed dev scan
  | .removed dev => b.backend_device_removed dev
  | .pause_session => b.pause_drm_devices
  | .activate_session r => { b with session_active := true }.open_pending_devices r
  | .startup r => b.open_pending_devices r
  | .ipc_resume r =>
      let b' := b.open_pending_devices r
      { b' with rwl := Rwl.step b'.rwl .ipc_resume }
  | .event e => if e.fromBackend then b else { b with rwl := Rwl.step b.rwl e }

/-- The backend before the first event. -/
def Udev.init (env : Rwl.Setup) (session_active : Bool) (device_list : List DevId) : Udev where
  rwl := Rwl.init env
  session_active := session_active
  devices := ∅
  pending_devices := device_list
  next_output := 0
  in_flight _ _ := false
  queue_log := []
  scanned _ := []
  origin _ := (0, 0)

end Compositor
