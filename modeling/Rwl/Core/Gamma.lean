import Mathlib.Logic.Function.Basic
import Mathlib.Tactic.Common
import Rwl.Core.Monitor

/-!
# Gamma controls

`zwlr_gamma_control_v1`: a client takes the control of the gamma of an output and sets its ramp.

* `GammaState`: the controls, the maps of the compositor, and the ramps of the hardware;
* `get_gamma_control`, `set_gamma`, `destroyed`: the requests on the manager and on a control;
* `apply_gamma`, `restore_gamma`, `reapply_gamma_ramps`: what reaches the hardware;
* `output_added`, `output_removed`: what a hotplug does to the maps;
* `GammaEvent`, `GammaState.step`.
-/

namespace Compositor

/-- The red, the green and the blue ramp, one after the other. -/
abbrev Ramp := List ℕ

/-- A `zwlr_gamma_control_v1` object: its `GammaControlData`, whether it was sent `failed`, and
whether it is not destroyed yet. -/
structure GammaControl where
  output : Option OutputId
  failed : Bool
  live : Bool
  deriving DecidableEq

/-- The outputs there are and those that have a DRM surface, the controls there ever were, the
registered control and the stored ramp of each output, and the ramp its CRTC shows (`none` is the
one the kernel starts with). -/
structure GammaState where
  next_output : OutputId
  outputs : List OutputId
  surfaces : List OutputId
  controls : List GammaControl
  gamma_controls : OutputId → Option ℕ
  gamma_ramps : OutputId → Option Ramp
  hardware : OutputId → Option Ramp

namespace GammaState

/-- `gamma_size_for_output`, where `crtc` is the gamma length `get_crtc` answers, if it does. -/
def gamma_size_for_output (s : GammaState) (o : OutputId) (crtc : Option ℕ) : Option ℕ :=
  if o ∈ s.surfaces then crtc else none

/-- A new control. -/
def add_control (s : GammaState) (c : GammaControl) : GammaState :=
  { s with controls := s.controls ++ [c] }

/-- `GammaManagerData::request`; `output` is `none` for an unknown output. -/
def get_gamma_control (s : GammaState) (output : Option OutputId) (crtc : Option ℕ) : GammaState :=
  match output with
  | none => s.add_control ⟨none, true, true⟩
  | some o =>
    if (s.gamma_controls o).isSome then s.add_control ⟨none, true, true⟩
    else
      match s.gamma_size_for_output o crtc with
      | some _ =>
        { s.add_control ⟨some o, false, true⟩ with
          gamma_controls := Function.update s.gamma_controls o (some s.controls.length) }
      | none => s.add_control ⟨some o, true, true⟩

/-- The values of the bytes, two by two, the low byte first. -/
def values : List UInt8 → Ramp
  | lo :: hi :: rest => (lo.toNat + 256 * hi.toNat) :: values rest
  | _ => []

/-- The ramp `apply_gamma` makes of the bytes behind the file descriptor (`none` if they cannot be
read), when the driver takes it (`ok`). -/
def accepted (s : GammaState) (o : OutputId) (crtc : Option ℕ) (data : Option (List UInt8))
    (ok : Bool) : Option Ramp :=
  match s.gamma_size_for_output o crtc, data with
  | some gamma_size, some data =>
    let expected_bytes := gamma_size * 3 * 2
    if gamma_size = 0 then none
    else if (data.take (expected_bytes + 1)).length ≠ expected_bytes then none
    else if ok then some (values data)
    else none
  | _, _ => none

/-- `apply_gamma`: whether it succeeds, and the state afterwards. -/
def apply_gamma (s : GammaState) (o : OutputId) (crtc : Option ℕ) (data : Option (List UInt8))
    (ok : Bool) : Bool × GammaState :=
  match s.accepted o crtc data ok with
  | some ramp =>
    (true, { s with
      hardware := Function.update s.hardware o (some ramp)
      gamma_ramps := Function.update s.gamma_ramps o (some ramp) })
  | none => (false, s)

/-- The event `failed` on control `c`. -/
def send_failed (s : GammaState) (c : ℕ) : GammaState :=
  { s with controls := s.controls.modify c fun ctrl => { ctrl with failed := true } }

/-- `SetGamma` on control `c`. -/
def set_gamma (s : GammaState) (c : ℕ) (crtc : Option ℕ) (data : Option (List UInt8)) (ok : Bool) :
    GammaState :=
  match s.controls[c]? with
  | some ctrl =>
    if ctrl.live then
      match ctrl.output with
      | some o =>
        let (applied, t) := s.apply_gamma o crtc data ok
        if applied then t else t.send_failed c
      | none => s
    else s
  | none => s

/-- The identity ramp of one channel. -/
def identity_channel (size : ℕ) : Ramp :=
  (List.range size).map fun i => if size = 1 then 0xffff else i * 0xffff / (size - 1)

/-- The ramp `restore_gamma` puts on output `o`, when the driver takes it (`ok`). -/
def restored (s : GammaState) (o : OutputId) (crtc : Option ℕ) (ok : Bool) : Option Ramp :=
  match s.gamma_size_for_output o crtc with
  | some size =>
    if size = 0 ∨ ok = false then none
    else some (identity_channel size ++ identity_channel size ++ identity_channel size)
  | none => none

/-- `restore_gamma`. -/
def restore_gamma (s : GammaState) (o : OutputId) (crtc : Option ℕ) (ok : Bool) : GammaState :=
  match s.restored o crtc ok with
  | some ramp => { s with hardware := Function.update s.hardware o (some ramp) }
  | none => s

/-- The maps forget output `o`. -/
def forget (s : GammaState) (o : OutputId) : GammaState :=
  { s with
    gamma_controls := Function.update s.gamma_controls o none
    gamma_ramps := Function.update s.gamma_ramps o none }

/-- `GammaControlData::destroyed`. -/
def destroyed (s : GammaState) (c : ℕ) (crtc : Option ℕ) (ok : Bool) : GammaState :=
  match s.controls[c]? with
  | some ctrl =>
    if ctrl.live then
      let s := { s with controls := s.controls.set c { ctrl with live := false } }
      match ctrl.output with
      | some o => (s.forget o).restore_gamma o crtc ok
      | none => s
    else s
  | none => s

/-- A connector comes up: its output is a new one, with a DRM surface unless the backend has
none. -/
def output_added (s : GammaState) (drm : Bool) : GammaState :=
  { s with
    next_output := s.next_output + 1
    outputs := s.outputs ++ [s.next_output]
    surfaces := if drm then s.surfaces ++ [s.next_output] else s.surfaces }

/-- The output `o` goes away with its surface: `output_removed`. -/
def output_removed (s : GammaState) (o : OutputId) : GammaState :=
  if o ∈ s.outputs then
    forget { s with outputs := s.outputs.erase o, surfaces := s.surfaces.erase o } o
  else s

/-- A resume from suspend: the kernel has lost the ramps, and `reapply_gamma_ramps` sets those that
are stored, where the driver takes them (`ok`). -/
def reapply_gamma_ramps (s : GammaState) (ok : OutputId → Bool) : GammaState :=
  { s with
    hardware := fun o =>
      if o ∈ s.surfaces ∧ ok o = true then
        (s.gamma_ramps o).filter fun ramp => decide (ramp.length / 3 ≠ 0)
      else none }

end GammaState

/-- A request of a client, a hotplug, or a resume, with what the driver answers. -/
inductive GammaEvent
  | get_gamma_control (output : Option OutputId) (crtc : Option ℕ)
  | set_gamma (c : ℕ) (crtc : Option ℕ) (data : Option (List UInt8)) (ok : Bool)
  | destroyed (c : ℕ) (crtc : Option ℕ) (ok : Bool)
  | output_added (drm : Bool)
  | output_removed (o : OutputId)
  | resume (ok : OutputId → Bool)

namespace GammaState

/-- One event. An output that never was is an unknown one. -/
def step (s : GammaState) : GammaEvent → GammaState
  | .get_gamma_control output crtc =>
    s.get_gamma_control (output.filter fun o => decide (o < s.next_output)) crtc
  | .set_gamma c crtc data ok => s.set_gamma c crtc data ok
  | .destroyed c crtc ok => s.destroyed c crtc ok
  | .output_added drm => s.output_added drm
  | .output_removed o => s.output_removed o
  | .resume ok => s.reapply_gamma_ramps ok

/-- No output and no control. -/
def init : GammaState where
  next_output := 0
  outputs := []
  surfaces := []
  controls := []
  gamma_controls := fun _ => none
  gamma_ramps := fun _ => none
  hardware := fun _ => none

end GammaState

end Compositor
