import Mathlib.Tactic.Common
import Rwl.Theory.OutputActs

/-!
# What one event can do

* `captured`, `consulted`: the windows an event takes from where handles are kept, to focus
  them, or to read their monitor;
* `grant`: what the environment vouches for at an event;
* `acts_step`: an ordinary event is a chain of changes; `acts_key`, `acts_button`,
  `acts_vblank` and `acts_winit_frame` say the same of the others, around their answers;
* `step_registry`: every event changes the registry of the desk by registry steps.
-/

namespace Compositor

open Registry (Grant)

namespace Rwl

/-! ### Captured handles -/

/-- The window focus follows the pointer to at `loc`. -/
def hoverTarget (s : Rwl) (loc : PointF) : Option WinId :=
  if s.desk.cfg.mouse_focus ∧ s.grab.cursor_mode = .Normal ∧ s.keys.passthrough = false ∧
      sel_layout_is_monocle s.desk = false then
    (s.desk.element_under loc).filter fun w => decide (s.desk.focused_window ≠ some w)
  else none

/-- The window a motion to `loc` focuses. -/
def pointed (hovers : Bool) (s : Rwl) (loc : PointF) : Option WinId :=
  if s.session.locked ∨ (hovers ∧ s.overview.isSome) then none
  else (s.modifyDesk fun d => { d with sel_mon := (d.monitor_at loc).getD d.sel_mon }).hoverTarget loc

/-- The window a press focuses. -/
def pressTarget (s : Rwl) : Option WinId :=
  if s.session.locked ∨ s.overview.isSome ∨ s.keys.passthrough then none
  else s.desk.element_under s.seat.location

/-- The window an event takes from where handles are kept, and focuses. -/
def captured (s : Rwl) : Event → Option WinId
  | .motion dx dy => pointed true s (s.relLocation dx dy)
  | .motion_abs fx fy => pointed false s (s.absLocation fx fy)
  | .button _ true _ => s.pressTarget
  | .move_request f | .resize_request f => s.desk.window_map f
  | .x11_move_request xid | .x11_resize_request xid => s.desk.window_for_x11 xid
  | .vblank o out =>
      if pendingResize s.refreshSpace.desk o ∧ out.within_gate then none else s.closesOn
  | .winit_frame o out => if pendingResize s.desk o ∧ out.within_gate then none else s.closesOn
  | _ => none

/-- The window an event takes from where handles are kept, to read its monitor. -/
def consulted (s : Rwl) : Event → Option WinId
  | .toplevel_destroyed f => s.desk.window_map f
  | .commit f _ => ((s.desk.window_map f).filter fun w => !(s.desk.st w).rules_applied).bind
      (Desk.adoptedFrom s.desk)
  | .ipc_focusurgent => urgentWindow s.desk
  | .request_activation f => (s.desk.window_map f).bind fun w =>
      urgentWindow (s.desk.modifyWindow w fun st => { st with is_urgent := true })
  | _ => none

/-! ### Keys of removed windows -/

/-- The event leaves no key of a removed window in `window_map`, and gives none to a window that
is not managed. -/
def Tidy (s : Rwl) : Event → Prop
  | .x11_unmapped xid | .x11_destroyed xid => ∀ k w, s.desk.window_for_x11 xid = some w →
      s.desk.window_map k = some w → w ∈ s.desk.windows →
        (s.desk.st w).is_override_redirect = false → s.desk.wl_surface w = some k
  | .x11_disconnected => ∀ k w, s.desk.window_map k = some w → w ∈ s.desk.windows →
      (s.desk.client w).x11.isSome = true → s.desk.wl_surface w = some k
  | .x11_associated xid f => ∀ w,
      (s.desk.setX11Surface xid (some f)).window_for_x11 xid = some w → w ∈ s.desk.windows
  | _ => True

/-- What the environment vouches for at an event. -/
def grant (s : Rwl) (e : Event) : Grant WinId where
  handle w := s.captured e = some w
  index w := s.captured e = some w ∨ s.consulted e = some w
  clean := s.desk.registry.Closed ∧ s.Tidy e

/-! ### Ordinary events -/

/-- The events that are chains of changes from end to end. -/
def Event.isOrdinary : Event → Bool
  | .key .. | .button .. | .axis .. | .auth .. | .flash | .ext_lock .. | .ext_unlock .. => false
  | .ext_destroy .. | .ext_get_surface .. | .ipc_resume | .popup_grab .. => false
  | .surface_destroyed .. | .client_disconnected .. => false
  | .capture_output .. | .copy .. | .frame_destroyed .. | .vblank .. | .winit_frame .. => false
  | _ => true

theorem registry_client_update (d : Desk) (w : WinId) (c : Client) :
    ({ d with client := Function.update d.client w (updateClient (d.client w) c) } : Desk).registry =
      d.registry := by
  have hkey : Client.wl_surface ∘ Function.update d.client w (updateClient (d.client w) c) =
      d.registry.keyOf :=
    (Function.comp_update ..).trans (Function.update_eq_self w _)
  have hmovable : (fun c : Client => c.x11.isSome) ∘
      Function.update d.client w (updateClient (d.client w) c) = d.registry.movable := by
    rw [Function.comp_update, show (updateClient (d.client w) c).x11.isSome =
      (d.client w).x11.isSome from Option.isSome_map ..]
    exact Function.update_eq_self w _
  exact Registry.ext rfl rfl rfl rfl hkey hmovable rfl rfl rfl rfl rfl

namespace Acts

variable {g : Grant WinId} {s₀ s : Rwl}

theorem mouseFocus (h : Acts g s₀ s) (loc : PointF)
    (hw : ∀ w, s.hoverTarget loc = some w → g.handle w ∧ g.index w) :
    Acts g s₀ (s.mouseFocus loc) := by
  unfold Rwl.mouseFocus
  split_ifs with hcond
  · split
    · rename_i w hunder
      split_ifs with hne
      · obtain ⟨hh, hi⟩ := hw w (by
          unfold hoverTarget
          rw [if_pos hcond, hunder, Option.filter_some, if_pos (decide_eq_true hne)])
        exact h.focus_window (.of_grant hh hi)
      · exact h
    · exact h
  · exact h

theorem pointerTo (h : Acts g s₀ s) (hovers : Bool) (loc : PointF)
    (hw : ∀ w, pointed hovers s loc = some w → g.handle w ∧ g.index w) :
    Acts g s₀ (Rwl.pointerTo hovers s loc) := by
  have hsel : Acts g s₀ (s.modifyDesk fun d =>
      { d with sel_mon := (d.monitor_at loc).getD d.sel_mon }) := by
    refine h.select ?_
    cases hat : s.desk.monitor_at loc with
    | none => exact .inl rfl
    | some i =>
      exact .inr (.inl (Desk.inRange_of_lt (List.findIdx?_eq_some_iff_getElem.1 hat).1))
  unfold Rwl.pointerTo
  dsimp only
  split_ifs with hl hov
  · exact hsel.tail (.point _ loc)
  · split
    · exact (hsel.handle_move loc).tail (.away _ loc)
    · exact (hsel.handle_resize loc).tail (.away _ loc)
    · exact Acts.rest (hsel.tail (.away _ loc)) rfl
    · exact Acts.rest (hsel.tail (.away _ loc)) rfl
  · have hcond : ¬(s.session.locked = true ∨ hovers = true ∧ s.overview.isSome = true) :=
      not_or.2 ⟨hl, hov⟩
    have hfocus := hsel.mouseFocus loc fun w h => hw w (by
      unfold pointed
      rw [if_neg hcond]
      exact h)
    split
    · exact (hsel.handle_move loc).tail (.away _ loc)
    · exact (hsel.handle_resize loc).tail (.away _ loc)
    · exact hfocus.tail (.point _ loc)
    · exact hfocus.tail (.point _ loc)

theorem key_repeat_tick (h : Acts g s₀ s) : Acts g s₀ s.key_repeat_tick := by
  unfold Rwl.key_repeat_tick
  split_ifs
  · split
    · exact h.dispatch _
    · exact h
  · exact h

end Acts

/-- A captured window may be focused. -/
theorem focusable_of_captured {s : Rwl} {e : Event} {w : WinId} (h : s.captured e = some w) :
    Focusable (s.grant e) s.desk w :=
  .of_grant h (.inl h)

/-- **An ordinary event is a chain of changes.** -/
theorem acts_step (s : Rwl) (e : Event) (he : e.isOrdinary = true) :
    Acts (s.grant e) s (step s e) := by
  have h : Acts (s.grant e) s s := .refl s
  cases e with
  | tick ms => exact h.quiet (f := fun d => { d with now := d.now + ms }) rfl
  | idle => exact h.drain
  | titles => exact h.check_toplevel_titles
  | config_written cfg => exact h.rest rfl
  | processes parent_pid => exact h.quiet (f := fun d => { d with parent_pid := parent_pid }) rfl
  | repeat_tick => exact h.key_repeat_tick
  | motion dx dy => exact h.pointerTo true _ fun w hw => ⟨hw, .inl hw⟩
  | motion_abs fx fy => exact h.pointerTo false _ fun w hw => ⟨hw, .inl hw⟩
  | ipc a =>
    simp only [step]
    split_ifs
    · exact h.dispatch a
    · exact h
  | ipc_outputs cmd which val => exact h.ipc_command cmd which val
  | ipc_focusurgent => exact h.focus_urgent fun w hw => .inr (.inr hw)
  | new_toplevel w c =>
    simp only [step]
    split_ifs with hw
    · exact h
    · exact h.new_toplevel (fun hmem => hw (.inl hmem)) c
  | toplevel_destroyed f =>
    refine h.toplevel_destroyed f (fun w hw => Option.some_ne_none w hw.symm) (fun hg k w hk hw ht => ?_)
      fun w hw => .inr hw
    unfold isToplevel at ht
    simp only [Bool.and_eq_true, decide_eq_true_eq] at ht
    have hkey := hg.1.fixed k w hk (by simpa [Desk.registry] using ht.1)
    exact Option.some.inj (hkey.symm.trans ht.2)
  | client_update w c =>
    exact h.quiet (f := fun d =>
      { d with client := Function.update d.client w (updateClient (d.client w) c) })
        (registry_client_update s.desk w c)
  | commit f initial_sent =>
    refine h.commit f initial_sent fun w pw hw hr hp => .inr (.inr ?_)
    simp only [consulted, hw, Option.filter_some, hr, Bool.not_false, if_true, Option.bind_some]
    exact hp
  | fullscreen_request f fs => exact h.fullscreen_request f fs
  | move_request f => exact h.move_request f fun w hw => focusable_of_captured hw
  | resize_request f => exact h.resize_request f fun w hw => focusable_of_captured hw
  | parent_changed f => exact h.parent_changed f
  | dialog_hint_changed f => exact h.dialog_hint_changed f
  | request_activation f =>
    refine h.request_activation f fun w hw v hv => .inr (.inr ?_)
    simp only [consulted, hw, Option.bind_some]
    exact hv
  | x11_map w c =>
    simp only [step]
    split_ifs with hw
    · exact h
    · exact h.map_x11_window (fun hmem => hw (.inl hmem)) c
  | x11_map_override w c =>
    simp only [step]
    split_ifs with hw
    · exact h
    · exact h.map_x11_override_redirect (fun hmem => hw (.inl hmem)) c
  | x11_unmapped xid =>
    exact (h.unmap_x11_window xid (fun w hw => Option.some_ne_none w hw.symm) fun hg => hg.2).setX11Surface xid none
  | x11_destroyed xid => exact h.unmap_x11_window xid (fun w hw => Option.some_ne_none w hw.symm) fun hg => hg.2
  | x11_associated xid f => exact h.surface_associated xid f fun hg => hg.2
  | x11_property xid => exact h.x11_property_notify xid
  | x11_configure_request xid x y => exact h.x11_configure_request xid x y
  | x11_configure_notify xid loc => exact h.x11_configure_notify xid loc
  | x11_move_request xid => exact h.x11_move_request xid fun w hw => focusable_of_captured hw
  | x11_resize_request xid => exact h.x11_resize_request xid fun w hw => focusable_of_captured hw
  | x11_fullscreen_request xid fs => exact h.x11_fullscreen_request xid fs
  | x11_disconnected => exact h.x11_disconnected (fun w hw => Option.some_ne_none w hw.symm) fun hg => hg.2
  | layers_changed o layers zone exclusive =>
    exact h.quiet (f := (setLayers · o layers zone exclusive)) rfl
  | layer_destroyed f => exact h.layer_destroyed f
  | output_added o info =>
    simp only [step]
    split_ifs with ho
    · exact h
    · exact h.output_added (Option.not_isSome_iff_eq_none.1 ho) info
  | output_removed o =>
    exact h.output_removed o fun w hw => hw.elim (fun hc => (Option.some_ne_none w hc.symm).elim)
      fun hc => (Option.some_ne_none w hc.symm).elim
  | key | button | axis | auth | flash | ext_lock | ext_unlock | ext_destroy | ext_get_surface
  | ipc_resume | popup_grab | surface_destroyed | client_disconnected | capture_output | copy
  | frame_destroyed | vblank | winit_frame => cases he

/-! ### The other events -/

/-- The state after the key filter, with a bound press remembered. -/
def afterKey (s : Rwl) (code : ℕ) (pressed : Bool) : Rwl :=
  if pressed ∧ (s.keyInput code pressed).2.isSome then (s.keyInput code pressed).1.rememberKey code
  else (s.keyInput code pressed).1

/-- **What follows the key filter is a chain of changes.** -/
theorem acts_key (g : Grant WinId) (s : Rwl) (code : ℕ) (pressed : Bool) :
    Acts g (s.afterKey code pressed) (s.process_key_event code pressed) := by
  have hrun {s₀ s' : Rwl} (h : Acts g s₀ s') (a : Action) : Acts g s₀ (s'.runAction a) := by
    unfold runAction
    split_ifs
    · refine (h.dispatch a).rest ?_
      unfold start_key_repeat
      dsimp only
      split_ifs <;> rfl
    · exact (h.dispatch a).cancelRepeat
  have hfilter : Acts g (s.afterKey code pressed)
      ((s.keyInput code pressed).1.afterFilter code pressed (s.keyInput code pressed).2) := by
    unfold afterKey afterFilter
    cases pressed with
    | true =>
      cases (s.keyInput code true).2 with
      | none => exact .refl _
      | some a => exact hrun (.refl _) a
    | false =>
      cases (s.keyInput code false).2 with
      | none => exact (Acts.refl _).cancelRepeat
      | some a => exact hrun (Acts.refl _).cancelRepeat a
  unfold process_key_event update_mod_tap
  dsimp only
  split_ifs
  · exact hfilter.rest rfl
  · split
    · have htap : Acts g (s.afterKey code pressed) (setModTap _ none) := hfilter.rest rfl
      exact htap.dispatch _
    · exact hfilter.rest rfl
  · exact hfilter

/-- Whether a button event on this state goes to the overview or to a binding. -/
def Consumes (s : Rwl) (btn : ℕ) (pressed : Bool) : Prop :=
  s.session.locked = false ∧
    (s.overview.isSome = true ∨ pressed = true ∧ ((s.setModTap none).boundAction btn).isSome = true)

instance (s : Rwl) (btn : ℕ) (pressed : Bool) : Decidable (s.Consumes btn pressed) :=
  inferInstanceAs (Decidable (_ ∧ _))

theorem Acts.pressFocus {g : Grant WinId} {s₀ s : Rwl} (h : Acts g s₀ s) {under : Option WinId}
    (hw : ∀ w, under = some w → s.keys.passthrough = false → Focusable g s.desk w) :
    Acts g s₀ (s.pressFocus under) := by
  have hmode : Acts g s₀ (s.setCursorMode .Pressed) := h.rest rfl
  unfold Rwl.pressFocus
  split
  · rename_i w
    split_ifs with hp
    · exact hmode
    · exact hmode.focus_window (hw w rfl (Bool.eq_false_iff.2 hp))
  · exact hmode

theorem Acts.runButton {g : Grant WinId} {s₀ s : Rwl} (h : Acts g s₀ s) {under : Option WinId}
    (hw : ∀ w, under = some w → Focusable g s.desk w) (a : Action) :
    Acts g s₀ (s.runButton under a) := by
  unfold Rwl.runButton
  split
  · split
    · exact h.start_move (hw _ rfl)
    · exact h
  · split
    · exact h.start_resize (hw _ rfl)
    · exact h
  · exact h.dispatch _

/-- **A button event is a chain of changes, then an answer.** -/
theorem acts_button (s : Rwl) (btn : ℕ) (pressed : Bool) (serial : ℕ) :
    ∃ s', Acts (s.grant (.button btn pressed serial)) s s' ∧
      s.process_pointer_button btn pressed serial =
        if s.Consumes btn pressed then s'.emit (.buttonConsumed btn pressed)
        else s'.deliverButton btn pressed serial := by
  unfold process_pointer_button
  by_cases hl : s.session.locked = true
  · have hc : ¬s.Consumes btn pressed := fun h => absurd (hl.symm.trans h.1) (by decide)
    exact ⟨s, .refl s, by rw [if_pos hl, if_neg hc]⟩
  have hl' : s.session.locked = false := Bool.eq_false_iff.2 hl
  have htap : Acts (s.grant (.button btn pressed serial)) s (s.setModTap none) :=
    (Acts.refl s).rest rfl
  rw [if_neg hl]
  by_cases hov : s.overview.isSome = true
  · have hc : s.Consumes btn pressed := ⟨hl', .inl hov⟩
    simp only [if_pos hc]
    rw [if_pos (show (s.setModTap none).overview.isSome = true from hov)]
    split_ifs
    · exact ⟨_, htap.rest (core_handle_pointer_click _ _), rfl⟩
    · exact ⟨_, htap, rfl⟩
  dsimp only
  rw [if_neg (show ¬(s.setModTap none).overview.isSome = true from hov)]
  cases pressed with
  | false =>
    refine ⟨(s.setModTap none).releaseGrab, ?_, ?_⟩
    · unfold releaseGrab
      split_ifs
      · exact htap.end_grab
      · exact htap.rest rfl
    · have hc : ¬s.Consumes btn false := fun h => h.2.elim hov fun h => absurd h.1 (by decide)
      rw [if_neg hc, if_neg (by decide)]
  | true =>
    have hfocusable (w : WinId) (hw : s.desk.element_under s.seat.location = some w)
        (hp : s.keys.passthrough = false) (s' : Rwl) :
        Focusable (s.grant (.button btn true serial)) s'.desk w := by
      have hcap : s.captured (.button btn true serial) = some w := by
        simp only [captured, pressTarget, hl', Bool.eq_false_iff.2 hov, hp]
        exact hw
      exact .of_grant hcap (.inl hcap)
    have hpress : Acts (s.grant (.button btn true serial)) s
        ((s.setModTap none).pressFocus (s.desk.element_under s.seat.location)) :=
      htap.pressFocus fun w hw hp => hfocusable w hw hp _
    rw [if_pos rfl]
    cases hb : (s.setModTap none).boundAction btn with
    | none =>
      refine ⟨_, hpress, ?_⟩
      have hc : ¬s.Consumes btn true := fun h => h.2.elim hov fun h => by
        rw [hb] at h
        exact absurd h.2 (by decide)
      rw [if_neg hc]
      rfl
    | some a =>
      have hp : s.keys.passthrough = false := by
        unfold boundAction at hb
        split_ifs at hb with hp
        exact Bool.eq_false_iff.2 hp
      refine ⟨_, hpress.runButton (fun w hw => hfocusable w hw hp _) a, ?_⟩
      have hc : s.Consumes btn true := ⟨hl', .inr ⟨rfl, by rw [hb]; rfl⟩⟩
      rw [if_pos hc]
      rfl

theorem acts_refreshSpace (g : Grant WinId) (s : Rwl) : Acts g s s.refreshSpace :=
  (Acts.refl s).quiet rfl

/-- A frame is a chain of changes up to the point where it is composed. -/
theorem acts_vblank (s : Rwl) (o : OutputId) (out : RenderOutcome)
    (hgate : ¬(pendingResize s.refreshSpace.desk o ∧ out.within_gate = true)) :
    Acts (s.grant (.vblank o out)) s s.refreshSpace.animateVblank := by
  refine (acts_refreshSpace _ s).animateVblank fun w hw => ?_
  have hcap : s.captured (.vblank o out) = some w := by
    simp only [captured, if_neg hgate]
    exact hw
  exact ⟨hcap, .inl hcap⟩

/-- The same for the nested backend. -/
theorem acts_winit_frame (s : Rwl) (o : OutputId) (out : RenderOutcome)
    (hgate : ¬(pendingResize s.desk o ∧ out.within_gate = true)) :
    Acts (s.grant (.winit_frame o out)) s s.animateWinit.refreshSpace := by
  refine Acts.quiet ((Acts.refl s).animateWinit fun w hw => ?_) rfl
  have hcap : s.captured (.winit_frame o out) = some w := by
    simp only [captured, if_neg hgate]
    exact hw
  exact ⟨hcap, .inl hcap⟩

/-! ### The desk at the other events -/

theorem desk_filterState (s : Rwl) (code : ℕ) (pressed : Bool) :
    (s.filterState code pressed).desk = s.desk := by
  unfold filterState feed_key
  split_ifs
  · split <;> rfl
  · rfl
  · rfl
  · rfl
  · rfl

@[simp] theorem desk_keyInput (s : Rwl) (code : ℕ) (pressed : Bool) :
    (s.keyInput code pressed).1.desk = s.desk := by
  unfold keyInput
  split_ifs
  · dsimp only
    split <;> exact desk_filterState _ code pressed
  · rfl

@[simp] theorem desk_afterKey (s : Rwl) (code : ℕ) (pressed : Bool) :
    (s.afterKey code pressed).desk = s.desk := by
  unfold afterKey
  split_ifs <;> exact desk_keyInput s code pressed

@[simp] theorem desk_release_all_pressed_keys (s : Rwl) :
    s.release_all_pressed_keys.desk = s.desk := by
  refine Recency.foldl_keeps Rwl.desk releaseKey (fun s code => ?_) _ s
  unfold releaseKey
  split_ifs <;> rfl

@[simp] theorem desk_unlock (s : Rwl) : s.unlock.desk = s.desk :=
  desk_release_all_pressed_keys _

@[simp] theorem desk_worker_done (s : Rwl) (i : ℕ) (ok : Bool) :
    (s.worker_done i ok).desk = s.desk := by
  unfold worker_done on_auth_result
  split
  · rfl
  · dsimp only
    split_ifs
    · exact desk_unlock _
    · rfl
    · rfl

@[simp] theorem desk_session_unlock (s : Rwl) : s.session_unlock.desk = s.desk := by
  unfold session_unlock
  split_ifs <;> rfl

@[simp] theorem desk_new_surface (s : Rwl) (f : SurfaceId) (o : Option OutputId) :
    (s.new_surface f o).desk = s.desk := by
  unfold new_surface
  split_ifs
  · rfl
  · dsimp only
    split <;> rfl

@[simp] theorem desk_serveWith (f : PendingFrame → Effect) (s : Rwl) (o : OutputId) :
    (serveWith f s o).desk = s.desk :=
  Recency.foldl_keeps Rwl.desk (fun s pf => s.emit (f pf)) (fun _ _ => rfl) _ _

/-- **Every event changes the registry of the desk by registry steps.** -/
theorem step_registry (s : Rwl) (e : Event) :
    Registry.Steps (s.grant e) s.desk.registry (step s e).desk.registry := by
  have hdesk {s' : Rwl} (h : s'.desk = s.desk) :
      Registry.Steps (s.grant e) s.desk.registry s'.desk.registry := by
    rw [h]
  cases he : e.isOrdinary with
  | true => exact (acts_step s e he).registry
  | false =>
    cases e with
    | key code pressed =>
      have h := (acts_key (s.grant (.key code pressed)) s code pressed).registry
      rwa [desk_afterKey] at h
    | button btn pressed serial =>
      obtain ⟨s', hacts, hstep⟩ := acts_button s btn pressed serial
      have h : (step s (.button btn pressed serial)).desk = s'.desk := by
        simp only [step, hstep]
        split_ifs <;> rfl
      rw [h]
      exact hacts.registry
    | axis source horizontal vertical =>
      refine hdesk ?_
      simp only [step, process_pointer_axis]
      split_ifs <;> rfl
    | auth i ok => exact hdesk (desk_worker_done s i ok)
    | flash =>
      refine hdesk ?_
      simp only [step, flash_expired]
      split_ifs <;> rfl
    | ext_lock obj client =>
      refine hdesk ?_
      simp only [step, Rwl.ext_lock]
      split_ifs <;> rfl
    | ext_unlock obj =>
      refine hdesk ?_
      simp only [step, Rwl.ext_unlock]
      split_ifs
      · rfl
      · exact desk_session_unlock s
    | ext_destroy obj =>
      refine hdesk ?_
      simp only [step, Rwl.ext_destroy]
      split_ifs <;> rfl
    | ext_get_surface obj f o =>
      refine hdesk ?_
      simp only [step, Rwl.ext_get_surface]
      split_ifs
      · rfl
      · exact desk_new_surface s f o
    | ipc_resume => exact hdesk (desk_release_all_pressed_keys s)
    | popup_grab root popup parent serial => exact hdesk rfl
    | surface_destroyed f => exact hdesk rfl
    | client_disconnected client => exact hdesk rfl
    | capture_output frame output =>
      refine hdesk ?_
      simp only [step, Rwl.capture_output]
      split_ifs
      · rfl
      · split <;> rfl
    | copy frame =>
      refine hdesk ?_
      simp only [step, Rwl.copy]
      split
      · rfl
      · split_ifs
        · rfl
        · split <;> rfl
        · split <;> rfl
    | frame_destroyed frame => exact hdesk rfl
    | vblank o out =>
      simp only [step, on_vblank]
      split_ifs with hgate
      · exact (acts_refreshSpace _ s).registry
      · exact (acts_vblank s o out hgate).registry
      · exact (acts_vblank s o out hgate).registry
      · rw [submit_screencopy_frames, desk_serveWith]
        exact (acts_vblank s o out hgate).registry
      · rw [fail_screencopy_frames, desk_serveWith]
        exact (acts_vblank s o out hgate).registry
    | winit_frame o out =>
      simp only [step, render_frame]
      split_ifs with hgate
      · exact hdesk rfl
      · rw [submit_screencopy_frames, desk_serveWith]
        exact (acts_winit_frame s o out hgate).registry
      · exact (acts_winit_frame s o out hgate).registry
    | _ => cases he

end Rwl

end Compositor
