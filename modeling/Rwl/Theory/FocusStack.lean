import Mathlib.Tactic.Common
import Rwl.Theory.StepActs

/-!
# The focus stack

* `FocusValid`: the focus stack has no duplicates, it and `window_map` hold managed windows
  only, and no managed window is override-redirect;
* `focus_stack_valid`: this holds all along a run in which the windows taken from where handles
  are kept are managed, and a window that has gone does not come back.

`focus_window` pushes any window it is given, and the overview keeps the window it closes on
through its animation.
-/

namespace Compositor

namespace Rwl

open Transition

/-- The focus stack and `window_map` are well formed. -/
structure FocusValid (d : Desk) : Prop where
  nodup : d.focus_stack.Nodup
  focus_stack : ∀ w ∈ d.focus_stack, w ∈ d.windows
  window_map : ∀ f w, d.window_map f = some w → w ∈ d.windows
  managed : ∀ w ∈ d.windows, (d.st w).is_override_redirect = false

/-- The window the event takes from where handles are kept is managed, and the event leaves no
key of a removed window. -/
def HandlesManaged (s : Rwl) (e : Event) : Prop :=
  (∀ w ∈ s.captured e, w ∈ s.desk.windows) ∧ s.Tidy e

theorem focusValid_of_closed {d : Desk} (h : d.registry.Closed) : FocusValid d :=
  ⟨h.nodup, h.recent, h.keys, h.own⟩

theorem init_closed (env : Setup) : (init env).desk.registry.Closed :=
  ⟨List.nodup_nil, fun _ hw => absurd hw List.not_mem_nil, nofun,
    fun _ hw => absurd hw List.not_mem_nil, fun _ hw => absurd hw List.not_mem_nil, nofun⟩

/-- One event keeps the registry closed. -/
theorem step_closed {s : Rwl} {e : Event} (hs : s.desk.registry.Closed)
    (h : HandlesManaged s e) : (step s e).desk.registry.Closed :=
  ((step_registry s e).closed ⟨hs, h.2⟩ ⟨hs, fun w hw => h.1 w hw⟩).1

/-- A window that has gone does not come back, whatever the event. -/
theorem step_gone (s : Rwl) (e : Event) {w : WinId} (hw : w ∈ s.desk.created)
    (hgone : w ∉ s.desk.windows) : w ∉ (step s e).desk.windows :=
  (step_registry s e).gone hw hgone

/-- **The focus stack and `window_map` hold managed windows all along a run whose handles are
managed, and a window that has gone does not come back.** -/
theorem focus_stack_valid (env : Setup) (es : List Event)
    (h : Guarded step HandlesManaged (init env) es) :
    Always step (fun s => FocusValid s.desk ∧
      ∀ e, ∀ w ∈ s.desk.created, w ∉ s.desk.windows → w ∉ (step s e).desk.windows)
      (init env) es :=
  (h.always (I := fun s => s.desk.registry.Closed) (fun _ _ => step_closed)
    (init_closed env)).mono fun s hs =>
      ⟨focusValid_of_closed hs, fun e _ hw hgone => step_gone s e hw hgone⟩

/-- Two windows; a press on the one below, which is then destroyed. -/
theorem focus_stack_valid_plain :
    Always step (fun s => FocusValid s.desk ∧
      ∀ e, ∀ w ∈ s.desk.created, w ∉ s.desk.windows → w ∉ (step s e).desk.windows)
      (init (plainSetup [] []))
      [.output_added 0 (plainOutput "a"), .new_toplevel 0 (plainClient 10), .commit 10 true,
        .new_toplevel 1 (plainClient 11), .commit 11 true, .motion 500 10, .button 1 true 1,
        .button 1 false 2, .toplevel_destroyed 10] :=
  focus_stack_valid _ _ ⟨⟨by decide +kernel, trivial⟩, ⟨by decide +kernel, trivial⟩,
    ⟨by decide +kernel, trivial⟩, ⟨by decide +kernel, trivial⟩, ⟨by decide +kernel, trivial⟩,
    ⟨by decide +kernel, trivial⟩, ⟨by decide +kernel, trivial⟩, ⟨by decide +kernel, trivial⟩,
    ⟨by decide +kernel, trivial⟩, trivial⟩

/-- The overview closes on a window, and the window goes while it does. -/
def closingOnDead : List Event :=
  [.output_added 0 (plainOutput "a"), .new_toplevel 0 (plainClient 10), .commit 10 true,
    .new_toplevel 1 (plainClient 11), .commit 11 true,
    .key 5 true, .key 5 false, .key 97 true, .key 97 false,
    .toplevel_destroyed 11, .tick 1000, .vblank 0 plainFrame]

/-- When the overview has closed, the window that has gone is on top of the focus stack. -/
theorem not_focus_stack_valid :
    ¬∀ env es, Always step (fun s => FocusValid s.desk ∧
      ∀ e, ∀ w ∈ s.desk.created, w ∉ s.desk.windows → w ∉ (step s e).desk.windows)
      (init env) es := by
  intro h
  have hend := (h (plainSetup [⟨0, 5, .ToggleOverview, none⟩] []) closingOnDead).last.1
  have hstack : (run step (init (plainSetup [⟨0, 5, .ToggleOverview, none⟩] []))
      closingOnDead).desk.focus_stack = [1, 0] := by decide +kernel
  have hwindows : (run step (init (plainSetup [⟨0, 5, .ToggleOverview, none⟩] []))
      closingOnDead).desk.windows = [0] := by decide +kernel
  have hmem := hend.focus_stack 1 (by rw [hstack]; decide)
  rw [hwindows] at hmem
  exact absurd hmem (by decide)

end Rwl

end Compositor
