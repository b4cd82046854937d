import Mathlib.Tactic.Common
import Rwl.Core.Step

/-!
# The nested window

Inside another compositor the output is a window, and its size is the mode of the output.

* `Desk.fill`: the first monitor takes the size of the window;
* `Rwl.resized`: `WinitEvent::Resized`;
* `NestedEvent`, `nestedStep`: resizes among the events of the compositor.
-/

namespace Compositor

namespace Desk

/-- The first monitor takes the size of the window, at the origin. -/
def fill (d : Desk) (size : Size) (scale_factor : ℚ) : Desk :=
  let area : Rect := ⟨⟨0, 0⟩, logicalSize size scale_factor⟩
  d.modifyMonitor 0 fun mon => { mon with m := area, w := area }

/-- The output `o` of the window changes its mode and scale. -/
def change_current_state (d : Desk) (o : OutputId) (size : Size) (scale_factor : ℚ) : Desk :=
  let info := { d.output o with mode := some size, scale := scale_factor }
  { d with output := Function.update d.output o info }

end Desk

namespace Rwl

/-- `WinitEvent::Resized`, for the window of the output `o`. -/
def resized (s : Rwl) (o : OutputId) (size : Size) (scale_factor : ℚ) : Rwl :=
  (s.modifyDesk fun d =>
    (d.change_current_state o size scale_factor).fill size scale_factor).arrange_all

end Rwl

/-- What happens to a nested compositor. -/
inductive NestedEvent
  | resized (size : Size) (scale_factor : ℚ)
  | event (e : Rwl.Event)

/-- One event of a compositor in the window of the output `o`. -/
def nestedStep (o : OutputId) (s : Rwl) : NestedEvent → Rwl
  | .resized size scale_factor => s.resized o size scale_factor
  | .event e => Rwl.step s e

end Compositor
