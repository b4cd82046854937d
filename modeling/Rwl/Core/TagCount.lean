import Mathlib.Tactic.Common
import Rwl.Core.Monitor
import Rwl.Core.Numbers

/-!
# The number of tags

What the loader makes of `tags.number` and `tags.names`, and every place that shifts by a tag, on
the `u32` of the source. A shift is by the amount modulo 32, as in a build without overflow checks.

* `tag_count`, `tag_mask`, `view`, `next_occupied_tag`;
* `tag_names`, `draw_bar_shifts`: the tags of the bar;
* `default_bind_shifts`: the shifts of the default bindings.
-/

namespace Compositor

namespace tags

/-- `tag_count`, as `from_lua_globals` reads it; without a `tags` table it is the default too. -/
def tag_count (number : LuaValue) : UInt32 := lua_u32 number 9

/-- `tag_mask`. -/
def tag_mask (count : UInt32) : UInt32 := (1 <<< count) - 1

/-- The view after `Monitor::view`. -/
def view (count current mask : UInt32) : UInt32 :=
  let new_tags := mask &&& tag_mask count
  if new_tags = 0 ∨ new_tags = current then current else new_tags

/-- `tag_count as i32`. -/
def countI32 (count : UInt32) : ℤ := (I32.wrap count.toNat).1

/-- The shift of one step of `next_occupied_tag`. -/
def stepShift (count current : UInt32) (dir : I32) (step : ℕ) : ℤ :=
  let pos : I32 := .wrap (Nat.log2 current.toNat)
  (pos.add (.wrap (dir.1 * step))).1 % countI32 count

/-- The steps of `next_occupied_tag`: `1..=count`. -/
def steps (count : UInt32) : List ℕ := (List.range (countI32 count).toNat).map (· + 1)

/-- `Monitor::next_occupied_tag`. -/
def next_occupied_tag (count current occupied : UInt32) (dir : I32) : Option UInt32 :=
  if current = 0 then none
  else
    ((steps count).map fun step => 1 <<< UInt32.ofNat (stepShift count current dir step).toNat).find?
      fun mask => occupied &&& mask != 0

/-- `lua_tag_names`: `names` is the array, each entry with the string it can be read as. -/
def tag_names (names : Option (List (Option String))) : List String :=
  match names with
  | none | some [] => List.replicate 6 " "
  | some l => l.filterMap id

/-- The tags of the bar: `DEFAULT_TAG_NAMES` when there is none. -/
def bar_tags (names : Option (List (Option String))) : List String :=
  if (tag_names names).isEmpty then ["1", "2", "3", "4", "5", "6"] else tag_names names

/-- The shifts of `draw_bar`: one for each tag. -/
def draw_bar_shifts (num_tags : ℕ) : List ℕ := List.range num_tags

/-- The shifts of the default bindings: the mask of all tags, and tags 1 to 9. -/
def default_bind_shifts : List ℕ := 6 :: List.range 9

end tags

end Compositor
