import Mathlib.Tactic.Common
import Rwl.Core.Geometry

/-!
# Machine numbers

What the configuration, the socket and the Lua callbacks can pass for a number.

* `F64`: the rationals with NaN and the two infinities; `F64.add`, `F64.clamp`, `F64.toU32`;
* `I32`: the integers of 32 bits; `I32.add` wraps, and `InI32` says that it need not;
* `LuaValue`, `lua_u32`, `lua_i32`, `lua_f64`: a value of a Lua table, and the number read from it.
-/

namespace Compositor

/-! ### Floating point -/

/-- An `f64`; the finite ones are taken for rationals. -/
inductive F64
  | nan
  | inf (negative : Bool)
  | fin (q : ℚ)
  deriving DecidableEq

namespace F64

/-- `+`. -/
def add : F64 → F64 → F64
  | .fin p, .fin q => .fin (p + q)
  | .nan, _ | _, .nan => .nan
  | .inf a, .inf b => if a = b then .inf a else .nan
  | .inf a, .fin _ | .fin _, .inf a => .inf a

/-- `f64::clamp`: NaN stays NaN. -/
def clamp (x : F64) (lo hi : ℚ) : F64 :=
  match x with
  | .nan => .nan
  | .inf true => .fin lo
  | .inf false => .fin hi
  | .fin q => .fin (clampQ q lo hi)

/-- `as u32`: towards zero, and to the nearest value in range. -/
def toU32 : F64 → UInt32
  | .nan | .inf true => 0
  | .inf false => .ofNat (2 ^ 32 - 1)
  | .fin q => .ofNat (clampZ (truncZero q) 0 (2 ^ 32 - 1)).toNat

/-- A number between `lo` and `hi`. -/
def Between (x : F64) (lo hi : ℚ) : Prop := ∃ q, x = .fin q ∧ lo ≤ q ∧ q ≤ hi

/-- The clamp gives a number in range exactly when it is not given NaN. -/
theorem between_clamp_iff {x : F64} {lo hi : ℚ} (h : lo ≤ hi) :
    (x.clamp lo hi).Between lo hi ↔ x ≠ .nan := by
  cases x with
  | nan =>
    refine ⟨fun ⟨_, heq, _⟩ => ?_, fun hne => absurd rfl hne⟩
    cases heq
  | inf negative =>
    refine ⟨?_, fun _ => ?_⟩
    · intro _ heq
      cases heq
    · cases negative with
      | true => exact ⟨lo, rfl, le_rfl, h⟩
      | false => exact ⟨hi, rfl, h, le_rfl⟩
  | fin q =>
    refine ⟨?_, fun _ => ⟨_, rfl, clampQ_bounds h q⟩⟩
    intro _ heq
    cases heq

/-- A number plus `x` is NaN only for NaN. -/
theorem add_eq_nan_iff {p : ℚ} {x : F64} : add (.fin p) x = .nan ↔ x = .nan := by
  cases x <;> simp [add]

end F64

/-! ### Integers of 32 bits -/

/-- The values of an `i32`. -/
def InI32 (z : ℤ) : Prop := -2 ^ 31 ≤ z ∧ z < 2 ^ 31

instance (z : ℤ) : Decidable (InI32 z) := inferInstanceAs (Decidable (_ ∧ _))

/-- An `i32`. -/
def I32 := { z : ℤ // InI32 z }

/-- The `i32` with the bits of `z`. -/
def I32.wrap (z : ℤ) : I32 :=
  ⟨z.bmod (2 ^ 32), by
    have hlow := Int.le_bmod (x := z) (m := 2 ^ 32) (by decide)
    have hhigh := Int.bmod_lt (x := z) (m := 2 ^ 32) (by decide)
    constructor <;> omega⟩

theorem I32.wrap_val {z : ℤ} (h : InI32 z) : (I32.wrap z).1 = z := by
  show z.bmod (2 ^ 32) = z
  obtain ⟨hlow, hhigh⟩ := h
  rw [Int.bmod_def]
  split_ifs <;> omega

/-- `+`, in a build without overflow checks. -/
def I32.add (a b : I32) : I32 := .wrap (a.1 + b.1)

theorem I32.add_val {a b : I32} (h : InI32 (a.1 + b.1)) : (a.add b).1 = a.1 + b.1 := I32.wrap_val h

/-- `x.max(0)`. -/
def I32.max0 (a : I32) : I32 :=
  ⟨max a.1 0, by
    have hrange := a.2
    unfold InI32 at hrange ⊢
    omega⟩

/-- `as i32`: towards zero, and to the nearest value in range. -/
def F64.toI32 : F64 → I32
  | .nan => .wrap 0
  | .inf true => .wrap (-2 ^ 31)
  | .inf false => .wrap (2 ^ 31 - 1)
  | .fin q => .wrap (clampZ (truncZero q) (-2 ^ 31) (2 ^ 31 - 1))

/-! ### Lua values -/

/-- A value of a Lua table; the ones that are no number are alike. -/
inductive LuaValue
  | Integer (n : ℤ)
  | Number (f : F64)
  | other
  deriving DecidableEq

/-- `lua_u32`. -/
def lua_u32 (v : LuaValue) (default : UInt32) : UInt32 :=
  match v with
  | .Integer n => if 0 ≤ n ∧ n < 2 ^ 32 then .ofNat n.toNat else default
  | .Number f => f.toU32
  | .other => default

/-- `lua_i32`. -/
def lua_i32 (v : LuaValue) (default : I32) : I32 :=
  match v with
  | .Integer n => if h : InI32 n then ⟨n, h⟩ else default
  | .Number f => f.toI32
  | .other => default

/-- `lua_f64`. -/
def lua_f64 (v : LuaValue) (default : F64) : F64 :=
  match v with
  | .Integer n => .fin n
  | .Number f => f
  | .other => default

/-- A binding can pass every `i32`. -/
theorem lua_i32_integer (n d : I32) : lua_i32 (.Integer n.1) d = n := dif_pos n.2

end Compositor
