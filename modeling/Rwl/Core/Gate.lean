import Mathlib.Tactic.Common
import Rwl.Core.Step

/-!
# The render gate

While tiled windows of an output resize, its frames are held back for a while. The start of that
while is one field for all outputs.

* `any_tiled_pending_resize`, `any_existing_tiled_pending_resize`: the two conditions;
* `gate`: whether a frame is held, and the new start;
* `Gated`, `gatedStep`: the compositor with the gate; times are in nanoseconds.
-/

namespace Compositor

/-- A tiled window of the output, with a buffer or without one, has not taken its size yet. -/
def tiledPending (mapped : Bool) (d : Desk) (o : OutputId) : Bool :=
  let tags := ((d.monitors.find? fun m => decide (m.output = o)).map Monitor.tags).getD 0
  d.windows.any fun w =>
    let s := d.st w
    !s.is_floating && !s.is_fullscreen && s.visible_on tags && (s.buffer_mapped == mapped) &&
      s.pending_geom.any fun g => decide (g.size ≠ (d.client w).geometry.size)

/-- `any_tiled_pending_resize`: windows that have no buffer yet. -/
def any_tiled_pending_resize (d : Desk) (o : OutputId) : Bool := tiledPending false d o

/-- `any_existing_tiled_pending_resize`: windows that have a buffer of another size. -/
def any_existing_tiled_pending_resize (d : Desk) (o : OutputId) : Bool := tiledPending true d o

/-- How long a frame is held, in milliseconds. -/
def gate_timeout_ms (new_pending : Bool) : ℕ := if new_pending then 100 else 32

/-- Whether the frame is held at `now`, and what `layout_gate_since` becomes. -/
def gate (new_pending resize_pending : Bool) (since : Option ℕ) (now : ℕ) : Bool × Option ℕ :=
  if new_pending || resize_pending then
    let since := since.getD now
    if (now - since) / 1000000 < gate_timeout_ms new_pending then (true, some since)
    else (false, none)
  else (false, none)

/-- The compositor with the start of the gate. -/
structure Gated where
  rwl : Rwl
  layout_gate_since : Option ℕ

/-- The frames a backend asks for, at some time, and the other events. -/
inductive GatedEvent
  /-- `on_vblank` of the DRM backend, or `render_frame` of the nested one. -/
  | frame (nested : Bool) (o : OutputId) (now : ℕ) (out : RenderOutcome)
  | event (e : Rwl.Event)

/-- The events that ask for a frame. -/
def Rwl.Event.isFrame : Rwl.Event → Bool
  | .vblank _ _ | .winit_frame _ _ => true
  | _ => false

namespace Gated

/-- What the gate makes of a frame of `o` at `now`. -/
def gateAt (g : Gated) (o : OutputId) (now : ℕ) : Bool × Option ℕ :=
  let new_pending := any_tiled_pending_resize g.rwl.desk o
  let resize_pending := !new_pending && any_existing_tiled_pending_resize g.rwl.desk o
  gate new_pending resize_pending g.layout_gate_since now

end Gated

/-- One event; frames go through the gate. -/
def gatedStep (g : Gated) : GatedEvent → Gated
  | .frame nested o now out =>
      let (held, since) := g.gateAt o now
      let out' := { out with within_gate := held }
      { rwl := Rwl.step g.rwl (if nested then .winit_frame o out' else .vblank o out')
        layout_gate_since := since }
  | .event e => if e.isFrame then g else { g with rwl := Rwl.step g.rwl e }

/-- The two conditions make up the one that a frame is held for. -/
theorem pendingResize_eq (d : Desk) (o : OutputId) :
    Rwl.pendingResize d o =
      (any_tiled_pending_resize d o || any_existing_tiled_pending_resize d o) := by
  unfold Rwl.pendingResize any_tiled_pending_resize any_existing_tiled_pending_resize tiledPending
  dsimp only
  rw [Bool.eq_iff_iff, Bool.or_eq_true, List.any_eq_true, List.any_eq_true, List.any_eq_true]
  constructor
  · rintro ⟨w, hw, hs⟩
    cases hm : (d.st w).buffer_mapped
    · exact .inl ⟨w, hw, by simpa [hm] using hs⟩
    · exact .inr ⟨w, hw, by simpa [hm] using hs⟩
  · rintro (⟨w, hw, hs⟩ | ⟨w, hw, hs⟩) <;> refine ⟨w, hw, ?_⟩ <;>
      simp only [Bool.and_eq_true] at hs ⊢ <;> exact ⟨hs.1.1, hs.2⟩

end Compositor
