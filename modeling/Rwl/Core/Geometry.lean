import Mathlib.Tactic.Common
import Mathlib.Tactic.Linarith
import Mathlib.Data.Rat.Floor

/-!
# Points, rectangles and rounding

Logical coordinates are integers, pointer positions and fractions are rationals.

* `Point`, `Size`, `Rect` with `Rect.contains` and `Rect.Inside`;
* `roundAway` (`f64::round`) and `truncZero` (`as i32`).
-/

namespace Compositor

/-- A logical position. -/
structure Point where
  x : ℤ
  y : ℤ
  deriving DecidableEq, Inhabited

/-- A logical size. -/
structure Size where
  w : ℤ
  h : ℤ
  deriving DecidableEq, Inhabited

/-- A logical rectangle. -/
structure Rect where
  loc : Point
  size : Size
  deriving DecidableEq, Inhabited

/-- A pointer position. -/
structure PointF where
  x : ℚ
  y : ℚ
  deriving DecidableEq, Inhabited

/-- `Rectangle::new` from its four numbers. -/
def Rect.of (x y w h : ℤ) : Rect := ⟨⟨x, y⟩, ⟨w, h⟩⟩

/-- `Rectangle::default()`. -/
def Rect.zero : Rect := Rect.of 0 0 0 0

/-- `Rectangle::contains` for a point: the right and bottom edges are outside. -/
def Rect.contains (r : Rect) (p : Point) : Bool :=
  decide (r.loc.x ≤ p.x ∧ p.x < r.loc.x + r.size.w ∧
    r.loc.y ≤ p.y ∧ p.y < r.loc.y + r.size.h)

/-- Every pixel of `r` belongs to `area`. -/
def Rect.Inside (r area : Rect) : Prop :=
  area.loc.x ≤ r.loc.x ∧ r.loc.x + r.size.w ≤ area.loc.x + area.size.w ∧
    area.loc.y ≤ r.loc.y ∧ r.loc.y + r.size.h ≤ area.loc.y + area.size.h

instance (r area : Rect) : Decidable (r.Inside area) :=
  inferInstanceAs (Decidable (_ ∧ _))

/-- `f64::round`: to the nearest integer, halves away from zero. -/
def roundAway (q : ℚ) : ℤ := if 0 ≤ q then ⌊q + 1 / 2⌋ else ⌈q - 1 / 2⌉

/-- A float cast to an integer: towards zero. -/
def truncZero (q : ℚ) : ℤ := if 0 ≤ q then ⌊q⌋ else ⌈q⌉

/-- A float clamped between two bounds. -/
def clampQ (q lo hi : ℚ) : ℚ := if q < lo then lo else if hi < q then hi else q

/-- An integer clamped between two bounds. -/
def clampZ (z lo hi : ℤ) : ℤ := if z < lo then lo else if hi < z then hi else z

theorem truncZero_intCast (k : ℤ) : truncZero (k : ℚ) = k := by
  unfold truncZero
  split_ifs
  · exact Int.floor_intCast k
  · exact Int.ceil_intCast k

theorem roundAway_intCast (k : ℤ) : roundAway (k : ℚ) = k := by
  unfold roundAway
  split_ifs
  · rw [Int.floor_eq_iff]
    constructor <;> linarith
  · rw [Int.ceil_eq_iff]
    constructor <;> linarith

/-- Rounding moves a number by at most one half. -/
theorem roundAway_bounds (q : ℚ) : q - 1 / 2 ≤ roundAway q ∧ (roundAway q : ℚ) ≤ q + 1 / 2 := by
  unfold roundAway
  split_ifs
  · constructor
    · linarith [Int.lt_floor_add_one (q + 1 / 2)]
    · exact Int.floor_le _
  · constructor
    · exact Int.le_ceil _
    · linarith [Int.ceil_lt_add_one (q - 1 / 2)]

/-- An integer bound survives rounding. -/
theorem le_roundAway {k : ℤ} {q : ℚ} (h : (k : ℚ) ≤ q) : k ≤ roundAway q := by
  have hlow := (roundAway_bounds q).1
  have hlt : (k : ℚ) < roundAway q + 1 := by linarith
  exact_mod_cast Int.lt_add_one_iff.1 (by exact_mod_cast hlt)

theorem roundAway_le {k : ℤ} {q : ℚ} (h : q ≤ k) : roundAway q ≤ k := by
  have hup := (roundAway_bounds q).2
  have hlt : (roundAway q : ℚ) < k + 1 := by linarith
  exact_mod_cast Int.lt_add_one_iff.1 (by exact_mod_cast hlt)

theorem clampQ_bounds {lo hi : ℚ} (h : lo ≤ hi) (q : ℚ) :
    lo ≤ clampQ q lo hi ∧ clampQ q lo hi ≤ hi := by
  unfold clampQ
  split_ifs with h₁ h₂
  · exact ⟨le_rfl, h⟩
  · exact ⟨h, le_rfl⟩
  · exact ⟨not_lt.1 h₁, not_lt.1 h₂⟩

theorem clampQ_of_mem {q lo hi : ℚ} (hlo : lo ≤ q) (hhi : q ≤ hi) : clampQ q lo hi = q := by
  rw [clampQ, if_neg (not_lt.2 hlo), if_neg (not_lt.2 hhi)]

end Compositor
