import Mathlib.Tactic.Common
import Rwl.Lib.Registry
import Rwl.Core.Actions

/-!
# The desk as a registry

* `Desk.registry`: windows are the items, the focus stack is the recent list, `window_map` the
  index, `mon_idx` the slot, and outputs the slots, in monitor order;
* the functions that leave the registry alone: anything that keeps the `bare` desk, and the
  updates of windows and monitors that keep `mon_idx` and `output`.
-/

namespace Compositor

namespace Desk

/-- The registry of a desk. -/
def registry (d : Desk) : Registry WinId SurfaceId OutputId where
  items := d.windows
  recent := d.focus_stack
  made := d.created
  byKey := d.window_map
  keyOf := d.wl_surface
  movable w := (d.client w).x11.isSome
  foreign w := (d.st w).is_override_redirect
  slot w := (d.st w).mon_idx
  slots := d.monitors.map Monitor.output
  current := d.sel_mon
  logs := d.tag_history.length

theorem registry_bare (d : Desk) : d.bare.registry = d.registry := by
  simp only [registry, bare, List.map_map]
  rfl

/-- The registry is part of what a layout pass leaves alone. -/
theorem registry_of_bare {d d' : Desk} (h : d'.bare = d.bare) : d'.registry = d.registry := by
  rw [← registry_bare d', h, registry_bare]

/-! ### Windows -/

/-- The parts of a window state the registry reads. -/
def SameSlot (s s' : WindowState) : Prop :=
  s'.mon_idx = s.mon_idx ∧ s'.is_override_redirect = s.is_override_redirect

theorem registry_of_st (d : Desk) {ws : Windows} (h : ∀ w, SameSlot (d.st w) (ws w)) :
    ({ d with st := ws } : Desk).registry = d.registry := by
  have hslot : (fun w => (ws w).mon_idx) = fun w => (d.st w).mon_idx := funext fun w => (h w).1
  have hforeign : (fun w => (ws w).is_override_redirect) = fun w => (d.st w).is_override_redirect :=
    funext fun w => (h w).2
  simp only [registry, hslot, hforeign]
  rfl

theorem registry_modifyWindow (d : Desk) (w : WinId) {f : WindowState → WindowState}
    (h : ∀ s, SameSlot s (f s)) : (d.modifyWindow w f).registry = d.registry :=
  registry_of_st d fun v =>
    ⟨Windows.modify_field WindowState.mon_idx d.st w v f fun s => (h s).1,
      Windows.modify_field WindowState.is_override_redirect d.st w v f fun s => (h s).2⟩

theorem registry_modifyAll (d : Desk) (l : List WinId) {f : WinId → WindowState → WindowState}
    (h : ∀ w s, SameSlot s (f w s)) :
    ({ d with st := d.st.modifyAll l f } : Desk).registry = d.registry :=
  registry_of_st d fun v =>
    ⟨Windows.modifyAll_field WindowState.mon_idx d.st l v f fun w s => (h w s).1,
      Windows.modifyAll_field WindowState.is_override_redirect d.st l v f fun w s => (h w s).2⟩

theorem registry_set_window_tags (d : Desk) (w : WinId) (tags : ℕ) :
    (d.set_window_tags w tags).registry = d.registry :=
  registry_modifyWindow d w fun _ => ⟨rfl, rfl⟩

/-- Giving a window to a monitor changes its slot and nothing else the registry reads. -/
theorem registry_assign (d : Desk) (w : WinId) {f : WindowState → WindowState} {i : ℕ}
    (hi : ∀ s, (f s).mon_idx = i)
    (hf : ∀ s, (f s).is_override_redirect = s.is_override_redirect) :
    (d.modifyWindow w f).registry =
      { d.registry with slot := Function.update d.registry.slot w i } := by
  have hslot : (fun v => (d.st.modify w f v).mon_idx) =
      Function.update (fun v => (d.st v).mon_idx) w i := by
    funext v
    by_cases hv : v = w
    · subst hv
      rw [Windows.modify_self, hi, Function.update_self]
    · rw [Windows.modify_of_ne hv, Function.update_of_ne hv]
  have hforeign : (fun v => (d.st.modify w f v).is_override_redirect) =
      fun v => (d.st v).is_override_redirect :=
    funext fun v => Windows.modify_field WindowState.is_override_redirect d.st w v f hf
  simp only [registry, modifyWindow, hslot, hforeign]
  rfl

/-! ### Monitors -/

theorem registry_modifyMonitor (d : Desk) (i : ℕ) {f : Monitor → Monitor}
    (h : ∀ m, (f m).output = m.output) : (d.modifyMonitor i f).registry = d.registry := by
  simp only [registry, modifyMonitor, Recency.map_modify_eq Monitor.output f h]
  rfl

theorem registry_update_tag_history (d : Desk) (i tags : ℕ) :
    (d.update_tag_history i tags).registry = d.registry := by
  unfold update_tag_history
  split
  · split_ifs
    · simp only [registry, List.length_modify]
      rfl
    · rfl
  · rfl

theorem registry_update_monitor_bounds (d : Desk) :
    d.update_monitor_bounds.registry = d.registry := rfl

theorem registry_view (d : Desk) (i mask : ℕ) (cfg : Config) :
    (d.modifyMonitor i (Monitor.view cfg · mask)).registry = d.registry :=
  registry_modifyMonitor d i fun m => (Monitor.reviewed_view cfg m mask).sameOutput.1

/-! ### Layout -/

theorem registry_arrange (d : Desk) (i : ℕ) : (d.arrange i).registry = d.registry :=
  registry_of_bare (bare_arrange d i)

theorem registry_arrangePasses (d : Desk) : d.arrangePasses.registry = d.registry :=
  registry_of_bare (bare_arrangePasses d)

theorem registry_mark_slide_outs (d : Desk) (old new : ℕ) (ow : ℚ) :
    (d.mark_slide_outs old new ow).registry = d.registry :=
  registry_of_bare (bare_mark_slide_outs d old new ow)

theorem registry_start_tag_transition (d : Desk) (old new : ℕ) (ow : ℚ) :
    (d.start_tag_transition old new ow).registry = d.registry :=
  registry_of_bare (bare_start_tag_transition d old new ow)

theorem registry_advance_tag_transitions (d : Desk) :
    d.advance_tag_transitions.registry = d.registry :=
  registry_of_bare (bare_advance_tag_transitions d)

theorem registry_finalize_slide_outs (d : Desk) : d.finalize_slide_outs.registry = d.registry :=
  registry_of_bare (bare_finalize_slide_outs d)

end Desk

end Compositor
