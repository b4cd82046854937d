import Mathlib.Tactic.Common
import Rwl.Lib.Recency
import Rwl.Core.State

/-!
# Focus

* the small updates every handler uses: `emit`, `fire`, `modifyDesk`, `kb_set_focus`,
  `ptr_motion`;
* `pointer_focus_under`, `refresh_pointer_focus`, `arrange_all`;
* `focus_window`, `focus_top`, `update_layer_focus`.
-/

namespace Compositor

namespace Rwl

/-! ### Small updates -/

/-- Record an effect. -/
def emit (s : Rwl) (e : Effect) : Rwl := { s with out := e :: s.out }

/-- Change the desk. -/
def modifyDesk (s : Rwl) (f : Desk → Desk) : Rwl := { s with desk := f s.desk }

/-- Change the seat. -/
def modifySeat (s : Rwl) (f : Seat → Seat) : Rwl := { s with seat := f s.seat }

/-- Call a Lua callback: the commands it enqueues join the queue. -/
def fire (s : Rwl) (c : HookCall) : Rwl :=
  { s with hooks := { s.hooks with
      queue := s.hooks.queue ++ s.lua.callback s.hooks.calls c
      calls := s.hooks.calls + 1 } }

/-- `hooks::focus`: fires when the surface differs from the last one. -/
def fireFocus (s : Rwl) (w : WinId) : Rwl :=
  if s.hooks.last_focus = s.desk.wl_surface w then s
  else ({ s with hooks := { s.hooks with last_focus := s.desk.wl_surface w } } : Rwl).fire (.focus w)

/-- `KeyboardHandle::set_focus`. -/
def kb_set_focus (s : Rwl) (f : Option SurfaceId) : Rwl := s.modifySeat (Seat.set_focus · f)

/-- `PointerHandle::motion`. -/
def ptr_motion (s : Rwl) (f : Option SurfaceId) (loc : PointF) : Rwl :=
  let s' := s.modifySeat (Seat.motion · f loc)
  s'.emit (.motion s'.seat.ptr_focus)

/-! ### Pointer focus -/

/-- The rectangle of a lock surface on its output. -/
def lockRect (info : OutputInfo) : Rect :=
  let size : Size := (info.mode.map fun m =>
    (⟨roundAway (m.w / info.scale), roundAway (m.h / info.scale)⟩ : Size)).getD ⟨0, 0⟩
  ⟨info.location, size⟩

/-- `pointer_focus_under`. -/
def pointer_focus_under (s : Rwl) (loc : PointF) : Option SurfaceId :=
  if s.session.locked then
    ((s.session.lock_surfaces.filter fun p => s.seat.alive p.1).find? fun p =>
      (lockRect (s.desk.output p.2)).contains ⟨⌊loc.x⌋, ⌊loc.y⌋⟩).map Prod.fst
  else
    ((((s.desk.layer_surf_at loc .Overlay).or (s.desk.layer_surf_at loc .Top)).or
      (s.desk.surface_under loc)).or
      (s.desk.layer_surf_at loc .Bottom)).or (s.desk.layer_surf_at loc .Background)

/-- Route the pointer, which stays where it is, to what is under it now. -/
def reevaluate_pointer (s : Rwl) : Rwl :=
  s.ptr_motion (s.pointer_focus_under s.seat.location) s.seat.location

/-- `refresh_pointer_focus`. -/
def refresh_pointer_focus (s : Rwl) : Rwl :=
  if s.session.locked then s
  else if s.seat.is_grabbed then s
  else s.reevaluate_pointer

/-! ### Arranging and focusing -/

/-- `arrange` of one monitor. -/
def arrange (s : Rwl) (mon_idx : ℕ) : Rwl := s.modifyDesk (Desk.arrange · mon_idx)

/-- `arrange_all`. -/
def arrange_all (s : Rwl) : Rwl :=
  ((s.modifyDesk Desk.arrangePasses).emit .print_status).refresh_pointer_focus

theorem desk_arrange_all (s : Rwl) : s.arrange_all.desk = s.desk.arrangePasses := by
  unfold arrange_all refresh_pointer_focus
  split_ifs <;> rfl

/-- The desk part of focusing `w`: it loses its urgent mark and tops the focus stack. -/
def raise (d : Desk) (w : WinId) : Desk :=
  { d.modifyWindow w (fun st => { st with is_urgent := false }) with
    focus_stack := Recency.toFront w d.focus_stack }

/-- Tell the status pipe, the Lua machine and the event stream about the new top. -/
def notifyFocus (s : Rwl) : Rwl :=
  let s₁ := s.emit .print_status
  let s₂ := match s.desk.focus_stack.head? with
    | some w => s₁.fireFocus w
    | none => s₁
  s₂.emit (.event (.focus s.desk.focus_stack.head?))

@[simp] theorem desk_notifyFocus (s : Rwl) : s.notifyFocus.desk = s.desk := by
  unfold notifyFocus fireFocus
  dsimp only
  split
  · split_ifs <;> rfl
  · rfl

/-- Select and arrange the monitor of the new top `w`, and the monitor of the previous one. -/
def followFocus (s : Rwl) (w : WinId) (prev_focused : Option WinId) : Rwl :=
  let mon_idx := (s.desk.st w).mon_idx
  let s₁ := (s.modifyDesk fun d => { d with sel_mon := mon_idx }).arrange mon_idx
  match prev_focused with
  | some p =>
      if (s.desk.st p).mon_idx ≠ mon_idx then s₁.arrange (s.desk.st p).mon_idx else s₁
  | none => s₁

/-- The part of `focus_window` that follows a change of the top of the focus stack. -/
def focusChanged (s : Rwl) (prev_focused : Option WinId) : Rwl :=
  match s.desk.focus_stack.head? with
  | some w => s.notifyFocus.followFocus w prev_focused
  | none => s.notifyFocus.arrange_all

/-- `focus_window`. -/
def focus_window (s : Rwl) (window : Option WinId) : Rwl :=
  let surface := window.bind s.desk.wl_surface
  let prev_focused := s.desk.focus_stack.head?
  let s₁ := match window with
    | some w => s.modifyDesk (raise · w)
    | none => s
  -- the lock surface owns keyboard focus
  if s.session.locked then s₁
  else
    let s₂ := s₁.kb_set_focus surface
    if s₂.desk.focus_stack.head? = prev_focused then s₂ else s₂.focusChanged prev_focused

/-- Focus the window `focused_window` names, or nothing. -/
def focus_top (s : Rwl) : Rwl := s.focus_window s.desk.focused_window

/-- The layer surface `update_layer_focus` gives the keyboard to. -/
def interactiveLayer (d : Desk) : Option SurfaceId :=
  d.monitors.findSome? fun mon =>
    let pick (layer : WlrLayer) : Option LayerSurface :=
      (d.output mon.output).layers.reverse.find? fun l =>
        decide (l.layer = layer) && l.can_receive_keyboard_focus && decide (0 < l.geometry.size.w)
    ((pick .Overlay).or (pick .Top)).map LayerSurface.surface

/-- `update_layer_focus`. -/
def update_layer_focus (s : Rwl) : Rwl :=
  if s.session.locked then s
  else match interactiveLayer s.desk with
    | some f => s.kb_set_focus (some f)
    | none => s.kb_set_focus (s.desk.focused_window.bind s.desk.wl_surface)

end Rwl

end Compositor
