import Mathlib.Tactic.Common
import Rwl.Lib.Guillotine

/-!
# Painting front to back

A list of coloured shapes, the frontmost first; a pixel shows the first shape that has it.

* `seen`: what a pixel shows; `seen_append`, `seen_flatMap`;
* `ring t b`: four strips, each `t` thick, around the box `b`;
* `has_ring_iff`: together they are `grow t b` without `b`.
-/

namespace Painting

section seen

variable {α β γ : Type*} (has : α → Bool)

/-- What a pixel shows, when `has` says which shapes have it. -/
def seen (l : List (α × γ)) : Option γ := (l.find? fun e => has e.1).map Prod.snd

@[simp] theorem seen_nil : seen has ([] : List (α × γ)) = none := rfl

theorem seen_append (l m : List (α × γ)) : seen has (l ++ m) = (seen has l).or (seen has m) := by
  unfold seen
  rw [List.find?_append]
  cases l.find? fun e => has e.1 <;> rfl

/-- Shapes of one colour show that colour or nothing. -/
theorem seen_map (shapes : List α) (c : γ) :
    seen has (shapes.map fun r => (r, c)) = if ∃ r ∈ shapes, has r = true then some c else none := by
  induction shapes with
  | nil => simp
  | cons r rs ih =>
    have hcons : seen has ((r :: rs).map fun r => (r, c)) =
        if has r = true then some c else seen has (rs.map fun r => (r, c)) := by
      unfold seen
      rw [List.map_cons, List.find?_cons]
      cases has r <;> rfl
    rw [hcons, ih]
    simp only [List.exists_mem_cons_iff]
    by_cases hr : has r = true <;> simp [hr]

/-- Groups of shapes, all of one colour. -/
theorem seen_flatMap (ws : List β) (shapes : β → List α) (c : γ) :
    seen has (ws.flatMap fun w => (shapes w).map fun r => (r, c)) =
      if ∃ w ∈ ws, ∃ r ∈ shapes w, has r = true then some c else none := by
  have hflat : (ws.flatMap fun w => (shapes w).map fun r => (r, c)) =
      (ws.flatMap shapes).map fun r => (r, c) := (List.map_flatMap).symm
  rw [hflat, seen_map]
  refine if_congr ?_ rfl rfl
  simp only [List.mem_flatMap]
  constructor
  · rintro ⟨r, ⟨w, hw, hr⟩, hhas⟩
    exact ⟨w, hw, r, hr, hhas⟩
  · rintro ⟨w, hw, r, hr, hhas⟩
    exact ⟨r, ⟨w, hw, hr⟩, hhas⟩

end seen

/-! ### Rings -/

open Guillotine

/-- The box with `t` more pixels on every side. -/
def grow (t : ℤ) (b : Box) : Box := ⟨b.x - t, b.y - t, b.w + 2 * t, b.h + 2 * t⟩

/-- The strips above, below, left and right of a box. -/
def ring (t : ℤ) (b : Box) : List Box :=
  [⟨b.x - t, b.y - t, b.w + t * 2, t⟩, ⟨b.x - t, b.y + b.h, b.w + t * 2, t⟩,
    ⟨b.x - t, b.y, t, b.h⟩, ⟨b.x + b.w, b.y, t, b.h⟩]

variable {t px py : ℤ} {b : Box}

/-- A ring is what growing adds to the box. -/
theorem has_ring_iff (ht : 0 ≤ t) (hw : 0 ≤ b.w) (hh : 0 ≤ b.h) :
    (∃ s ∈ ring t b, s.Has px py) ↔ (grow t b).Has px py ∧ ¬b.Has px py := by
  simp only [ring, List.mem_cons, List.not_mem_nil, or_false, exists_eq_or_imp, exists_eq_left,
    grow, Box.Has]
  omega

end Painting
