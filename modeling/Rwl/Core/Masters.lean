import Mathlib.Tactic.Common
import Rwl.Core.GrabOps
import Rwl.Core.Numbers

/-!
# The master area

`mfact` and `nmaster` of each monitor, on the numbers of the source, and what changes them: the two
actions, which take any number a binding, a Lua callback or a socket line carries, and a resize.

* `MasterArea`, `Masters`: the two numbers of a monitor; what the actions and a resize work on;
* `Masters.set_mfact`, `Masters.inc_nmaster`, `Masters.start_resize`, `Masters.handle_resize`;
* `MasterEvent`, `Masters.step`: the machine of these events.
-/

namespace Compositor

/-- What the layouts read of a monitor's master area. -/
structure MasterArea where
  mfact : F64
  nmaster : I32

/-- The master areas, with what a resize remembers. `sums` logs the sums `inc_nmaster` formed,
before they are cut to 32 bits. -/
structure Masters where
  monitors : List MasterArea
  sel_mon : ℕ
  grab_mfact : Option F64
  sums : List ℤ

/-- What happens to the master areas. -/
inductive MasterEvent
  | focus_mon (i : ℕ)
  | SetMfact (delta : F64)
  | IncNmaster (delta : I32)
  /-- A resize begins, with the `mfact` of the monitor `base`, if it has one to remember. -/
  | start_resize (base : Option ℕ)
  /-- A motion of a resize: `delta` pixels of the `area` of the monitor `i`. -/
  | handle_resize (i : ℕ) (delta : ℚ) (area : ℤ)
  | end_grab

namespace Masters

/-- The selected monitor's master area. -/
def sel_monitor (s : Masters) : Option MasterArea := s.monitors[s.sel_mon]?

/-- `set_mfact`. -/
def set_mfact (s : Masters) (delta : F64) : Masters :=
  { s with
    monitors := s.monitors.modify s.sel_mon fun m =>
      { m with mfact := (m.mfact.add delta).clamp (5 / 100) (95 / 100) } }

/-- `inc_nmaster`. -/
def inc_nmaster (s : Masters) (delta : I32) : Masters :=
  { s with
    monitors := s.monitors.modify s.sel_mon fun m =>
      { m with nmaster := (m.nmaster.add delta).max0 }
    sums := (s.sel_monitor.map fun m => m.nmaster.1 + delta.1).toList ++ s.sums }

/-- `start_resize`. -/
def start_resize (s : Masters) (base : Option ℕ) : Masters :=
  { s with grab_mfact := base.bind fun i => (s.monitors[i]?).map MasterArea.mfact }

/-- `handle_resize`, in the layouts with a master split. -/
def handle_resize (s : Masters) (i : ℕ) (delta : ℚ) (area : ℤ) : Masters :=
  { s with
    monitors := s.monitors.modify i fun m =>
      if 0 < area then
        { m with
          mfact := ((s.grab_mfact.getD m.mfact).add (.fin (delta / area))).clamp
            (5 / 100) (95 / 100) }
      else m }

/-- One event. -/
def step (s : Masters) : MasterEvent → Masters
  | .focus_mon i => { s with sel_mon := i }
  | .SetMfact delta => s.set_mfact delta
  | .IncNmaster delta => s.inc_nmaster delta
  | .start_resize base => s.start_resize base
  | .handle_resize i delta area => s.handle_resize i delta area
  | .end_grab => { s with grab_mfact := none }

end Masters

end Compositor
