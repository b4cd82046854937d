import Mathlib.Tactic.Common
import Rwl.Core.Blocks
import Rwl.Core.DrawText

/-!
# Finding the block under the pointer

What the bar thread does with a new status of the blocks: the text and overrides it draws, and where
each block ends in pixels.

* `compute_pix_ends`: the ends of the blocks, measured on the status as it was joined;
* `with_status`: the parameters of `draw_bar` for a parsed status.
-/

namespace Compositor

open ByteScan

namespace azoth_render

/-- The boundary of a character at or before byte `stop`. -/
def floor_boundary (raw : Text) : ℕ → ℕ
  | 0 => 0
  | stop + 1 => if (splitAt? (stop + 1) raw).isSome then stop + 1 else floor_boundary raw stop

/-- `compute_pix_ends`. -/
def compute_pix_ends (font : FcftFont) (raw : Text) (bounds : List ℕ) : List ℕ :=
  bounds.map fun b =>
    measure font ((slice? raw 0 (floor_boundary raw (min b (len raw)))).getD []) 0

/-- What `render_bar` passes on of a status. -/
def with_status (p : BarParams) (parsed : CustomText) : BarParams :=
  { p with
    status_text := some ((CString parsed.text).getD [])
    status_colors := parsed.colors }

end azoth_render

end Compositor
