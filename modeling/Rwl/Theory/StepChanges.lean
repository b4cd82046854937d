import Mathlib.Tactic.Common
import Rwl.Theory.ShellChanges

/-!
# What an event changes on the desk

* `Life g e`: what the event `e` makes or removes, of windows, monitors and links, and what it
  drags of the column fractions;
* X11 windows, outputs, frames, the socket, input devices;
* `Moves.step`: an event changes the desk by small updates and by what it makes or removes.
-/

namespace Compositor

namespace Rwl

/-- The windows, monitors and links an event makes or removes, and the column fractions it drags;
`g` is the grab that is on. -/
inductive Life (g : Grab) : Event → Desk → Desk → Prop
  | toplevel (d : Desk) (w : WinId) (c : Client) : Life g (.new_toplevel w c) d
      { insertWindow d w c id with focus_stack := Recency.toFront w d.focus_stack }
  | closed (d : Desk) (f : SurfaceId) : Life g (.toplevel_destroyed f) d (dropToplevel d f)
  | unmapped (d : Desk) (f : SurfaceId) (w : WinId) :
      Life g (.toplevel_destroyed f) d (swallow.on_unmap d w)
  | swallowed (d : Desk) (f : SurfaceId) (b : Bool) (w : WinId) :
      Life g (.commit f b) d (swallow.try_swallow d w)
  | jump (d : Desk) (f : SurfaceId) (b : Bool) (p : Option (ℕ × ℕ × ℚ)) :
      Life g (.commit f b) d { d with pending_tag_transition := p }
  | slide (d : Desk) (cmd : IpcCmd) (which : Option ℕ) (val : ℕ) (p : Option (ℕ × ℕ × ℚ)) :
      Life g (.ipc_outputs cmd which val) d { d with pending_tag_transition := p }
  | x11 (d : Desk) (w : WinId) (c : Client) (float : Bool) : Life g (.x11_map w c) d
      (insertWindow d w c fun st => { st with is_floating := float })
  | override (d : Desk) (w : WinId) (c : Client) :
      Life g (.x11_map_override w c) d (d.insertOverride w c)
  | x11_unmapped (d : Desk) (xid : ℕ) (w : WinId) :
      Life g (.x11_unmapped xid) d (d.removeX11 w).dismiss_x11_popups
  | x11_destroyed (d : Desk) (xid : ℕ) (w : WinId) :
      Life g (.x11_destroyed xid) d (d.removeX11 w).dismiss_x11_popups
  | popup_unmapped (d : Desk) (xid : ℕ) (w : WinId) : Life g (.x11_unmapped xid) d
      { d with x11_or_windows := d.x11_or_windows.filter fun v => decide (v ≠ w) }
  | popup_destroyed (d : Desk) (xid : ℕ) (w : WinId) : Life g (.x11_destroyed xid) d
      { d with x11_or_windows := d.x11_or_windows.filter fun v => decide (v ≠ w) }
  | unpaired (d : Desk) (xid : ℕ) : Life g (.x11_unmapped xid) d (d.setX11Surface xid none)
  | paired (d : Desk) (xid : ℕ) (f : SurfaceId) :
      Life g (.x11_associated xid f) d (d.setX11Surface xid (some f))
  | mapped (d : Desk) (xid : ℕ) (f : SurfaceId) (w : WinId) : Life g (.x11_associated xid f) d
      { d with window_map := Function.update d.window_map f (some w) }
  | disconnected (d : Desk) : Life g .x11_disconnected d d.removeAllX11
  | monitor (d : Desk) (o : OutputId) (info : OutputInfo) :
      Life g (.output_added o info) d (d.addMonitor o info)
  | unplugged (d : Desk) (o : OutputId) (i : ℕ) :
      Life g (.output_removed o) d (d.removeMonitor i)
  | dragged_by (d d' : Desk) (dx dy : ℚ) : grab.Dragged g d d' → Life g (.motion dx dy) d d'
  | dragged_to (d d' : Desk) (fx fy : ℚ) : grab.Dragged g d d' → Life g (.motion_abs fx fy) d d'

end Rwl

namespace Desk.Changes

variable {file : Config} {L : Desk → Desk → Prop} {d₀ d : Desk}

theorem center_x11 (h : Changes file L d₀ d) (w : WinId) :
    Changes file L d₀ (d.center_x11 w) := by
  have hloc (loc : Point) := h.window w (f := fun s => { s with saved_loc := some loc })
    fun _ => ⟨⟨rfl, rfl⟩, rfl, rfl⟩
  unfold Desk.center_x11
  dsimp only
  split_ifs
  · exact h
  · split
    · exact h
    · exact (hloc _).relaid rfl rfl rfl

/-- One output's share of a socket command. -/
theorem ipcApply (h : Changes file L d₀ d) (cmd : Rwl.IpcCmd) (val idx : ℕ)
    (hslide : ∀ (d : Desk) p, L d { d with pending_tag_transition := p }) :
    Changes file L d₀ (Rwl.ipcApply cmd val d idx) := by
  have hrecord (mask : ℕ) :
      Changes file L d₀ (if idx = d.sel_mon then d.update_tag_history idx mask else d) ∧
        (if idx = d.sel_mon then d.update_tag_history idx mask else d).cfg = d.cfg := by
    split_ifs
    · exact ⟨h.tail (.history d idx mask), cfg_update_tag_history d idx mask⟩
    · exact ⟨h, rfl⟩
  have hop (mask : ℕ) (op : MonitorOp) (hnot : ∀ t, op ≠ .retag t) := by
    have hop := (hrecord mask).1.monitor idx op hnot
    rwa [(hrecord mask).2] at hop
  cases cmd with
  | view =>
    unfold Rwl.ipcApply
    dsimp only
    split
    · exact h
    · exact Relation.ReflTransGen.tail ((hop _ (.view _) nofun).mark_slide_outs _ _ _)
        (.life _ _ (hslide _ _))
  | toggleview =>
    unfold Rwl.ipcApply
    dsimp only
    split
    · exact h
    · exact hop _ (.toggle_view val) nofun
  | setlayout => exact h.monitor idx (.set_layout val) nofun

end Desk.Changes

namespace Rwl

namespace Moves

variable {L : Desk → Desk → Prop} {s₀ s : Rwl}

/-- One small update. -/
theorem change (h : Moves L s₀ s) {f : Desk → Desk}
    (hf : Desk.Change s₀.config_file L s.desk (f s.desk)) : Moves L s₀ (s.modifyDesk f) :=
  h.desk fun hc => hc.tail hf

theorem life (h : Moves L s₀ s) {f : Desk → Desk} (hf : L s.desk (f s.desk)) :
    Moves L s₀ (s.modifyDesk f) :=
  h.change (.life _ _ hf)

/-! ### X11 windows -/

theorem settleX11 (h : Moves L s₀ s) : Moves L s₀ s.settleX11 := h.focus_top.arrange_all.emit _

theorem map_x11_window (h : Moves L s₀ s) (w : WinId) (c : Client)
    (hinsert : ∀ float, L s.desk
      (insertWindow s.desk w c fun st => { st with is_floating := float })) :
    Moves L s₀ (s.map_x11_window w c) := by
  let float := c.window_is_float_type
  let d₁ := insertWindow s.desk w c fun st => { st with is_floating := float }
  have hmapped : Desk.Changes s₀.config_file L s₀.desk d₁ :=
    h.changes.tail (.life _ _ (hinsert float))
  have hcentred : Moves L s₀ (s.modifyDesk fun _ => if float then d₁.center_x11 w else d₁) := by
    refine ⟨h.file, ?_⟩
    dsimp only [modifyDesk]
    split_ifs
    · exact hmapped.center_x11 w
    · exact hmapped
  exact (hcentred.focus_window _).arrange_all.emit _

theorem unmap_x11_window (h : Moves L s₀ s) (xid : ℕ)
    (hremove : ∀ d w, L d (Desk.removeX11 d w).dismiss_x11_popups)
    (hpopup : ∀ (d : Desk) w, L d
      { d with x11_or_windows := d.x11_or_windows.filter fun v => decide (v ≠ w) }) :
    Moves L s₀ (s.unmap_x11_window xid) := by
  unfold Rwl.unmap_x11_window
  split
  · exact h
  · rename_i w _
    have hspace := h.space fun d => Space.unmap_elem d.space w
    dsimp only
    split_ifs
    · exact hspace.life (hpopup _ w)
    · exact Moves.settleX11 (hspace.life (f := fun d => (d.removeX11 w).dismiss_x11_popups)
        (hremove _ w))

theorem surface_associated (h : Moves L s₀ s) (xid : ℕ) (f : SurfaceId)
    (hpair : ∀ d, L d (Desk.setX11Surface d xid (some f)))
    (hmap : ∀ (d : Desk) w, L d { d with window_map := Function.update d.window_map f (some w) }) :
    Moves L s₀ (s.surface_associated xid f) := by
  have hpaired := h.life (f := (Desk.setX11Surface · xid (some f))) (hpair _)
  refine ⟨h.file, ?_⟩
  dsimp only [Rwl.surface_associated, modifyDesk]
  split
  · exact hpaired.changes.tail (.life _ _ (hmap _ _))
  · exact hpaired.changes

theorem x11_property_notify (h : Moves L s₀ s) (xid : ℕ) : Moves L s₀ (s.x11_property_notify xid) := by
  unfold Rwl.x11_property_notify
  split
  · exact h
  · rename_i w _
    have hfloat := h.window w (f := fun st => { st with is_floating := true })
      fun _ => ⟨⟨rfl, rfl⟩, rfl, rfl⟩
    dsimp only
    split_ifs
    · exact h
    · have hcentred := hfloat.desk (f := fun d => d.center_x11 w) fun hc => hc.center_x11 w
      exact hcentred.arrange_all.emit _

theorem x11_configure_request (h : Moves L s₀ s) (xid : ℕ) (x y : Option ℤ) :
    Moves L s₀ (s.x11_configure_request xid x y) := by
  unfold Rwl.x11_configure_request
  split
  · exact h
  · rename_i w _
    have hloc (loc : Point) := h.window w (f := fun st => { st with saved_loc := some loc })
      fun _ => ⟨⟨rfl, rfl⟩, rfl, rfl⟩
    dsimp only
    split_ifs
    · exact (hloc _).space fun d => Space.map_element s.desk.space w _
    · exact h

theorem x11_configure_notify (h : Moves L s₀ s) (xid : ℕ) (loc : Point) :
    Moves L s₀ (s.x11_configure_notify xid loc) := by
  unfold Rwl.x11_configure_notify
  split
  · exact h.space _
  · exact h

theorem x11_move_request (h : Moves L s₀ s) (xid : ℕ) : Moves L s₀ (s.x11_move_request xid) := by
  unfold Rwl.x11_move_request
  split
  · exact h.start_move _
  · exact h

theorem x11_resize_request (h : Moves L s₀ s) (xid : ℕ) : Moves L s₀ (s.x11_resize_request xid) := by
  unfold Rwl.x11_resize_request
  split
  · exact h.start_resize _
  · exact h

theorem x11_fullscreen_request (h : Moves L s₀ s) (xid : ℕ) (fs : Bool) :
    Moves L s₀ (s.x11_fullscreen_request xid fs) := by
  unfold Rwl.x11_fullscreen_request
  split
  · exact (h.set_fullscreen _ fs).arrange_all
  · exact h

theorem x11_disconnected (h : Moves L s₀ s) (hremove : ∀ d, L d (Desk.removeAllX11 d)) :
    Moves L s₀ s.x11_disconnected := by
  unfold Rwl.x11_disconnected
  split_ifs
  · exact h
  · exact Moves.settleX11 (h.life (hremove _))

/-! ### Outputs -/

theorem output_added (h : Moves L s₀ s) (o : OutputId) (info : OutputInfo)
    (hadd : L s.desk (s.desk.addMonitor o info)) : Moves L s₀ (s.output_added o info) := by
  have hadded := (h.life (f := (Desk.addMonitor · o info)) hadd).arrange_all
  exact output_added_kept (fun _ h => h.same rfl) (fun _ h => h.warp_cursor_to_focused)
    (fun _ h => h.same rfl) (fun _ c h => h.fire c) (fun _ h => h.emit _) hadded

theorem output_removed (h : Moves L s₀ s) (o : OutputId)
    (hremove : ∀ i, L s.desk (s.desk.removeMonitor i)) : Moves L s₀ (s.output_removed o) := by
  unfold Rwl.output_removed
  refine Moves.arrange_all ?_
  split
  · rename_i i _
    exact (((h.life (f := (Desk.removeMonitor · i)) (hremove i)).fire _).fire _).emit _
  · exact h

/-! ### Frames -/

theorem finish_close (h : Moves L s₀ s) : Moves L s₀ (overview.finish_close s) := by
  unfold overview.finish_close
  split
  · exact h
  · have hclosed : Moves L s₀ ({ s with overview := none } : Rwl) := h.same rfl
    dsimp only
    split
    · split_ifs
      · exact ((hclosed.dispatch _).focus_window _).warp_cursor_to_focused
      · exact (hclosed.focus_window _).warp_cursor_to_focused
    · exact hclosed
    · exact hclosed

theorem advance (h : Moves L s₀ s) : Moves L s₀ (overview.advance s) := by
  unfold overview.advance
  split
  · exact h
  · split_ifs
    · exact h.finish_close
    · exact h

theorem afterSlides (h : Moves L s₀ s) (transitioning : Bool) :
    Moves L s₀ (s.afterSlides transitioning) :=
  afterSlides_kept (fun _ h => h.arrange_all.focus_top) (fun _ _ h => h.same rfl)
    (fun _ _ h => h.same rfl) h transitioning

theorem advanceSlides (h : Moves L s₀ s) : Moves L s₀ s.advanceSlides :=
  h.desk fun hc => hc.advance_tag_transitions

theorem finalize_slide_outs (h : Moves L s₀ s) :
    Moves L s₀ (s.modifyDesk Desk.finalize_slide_outs) :=
  h.desk fun hc => hc.finalize_slide_outs

theorem animateVblank (h : Moves L s₀ s) : Moves L s₀ s.animateVblank :=
  Moves.afterSlides (Moves.finalize_slide_outs h.advanceSlides.advance) _

theorem animateWinit (h : Moves L s₀ s) : Moves L s₀ s.animateWinit :=
  Moves.advance (Moves.afterSlides (Moves.finalize_slide_outs h.advanceSlides) _)

theorem refreshSpace (h : Moves L s₀ s) : Moves L s₀ s.refreshSpace := h.space _

theorem serveWith (h : Moves L s₀ s) (f : PendingFrame → Effect) (o : OutputId) :
    Moves L s₀ (serveWith f s o) :=
  foldl (fun _ _ h => h.emit _) _ (h.same rfl)

theorem on_vblank (h : Moves L s₀ s) (o : OutputId) (out : RenderOutcome) :
    Moves L s₀ (s.on_vblank o out) := by
  have hanimated := h.refreshSpace.animateVblank
  have hcomposed : Moves L s₀ (s.refreshSpace.animateVblank.composite o) := hanimated.emit _
  unfold Rwl.on_vblank
  dsimp only
  split_ifs
  · exact h.refreshSpace
  · exact hanimated
  · exact hcomposed
  · exact hcomposed.serveWith _ o
  · exact hcomposed.serveWith _ o

theorem render_frame (h : Moves L s₀ s) (o : OutputId) (out : RenderOutcome) :
    Moves L s₀ (s.render_frame o out) := by
  have hanimated := h.animateWinit.refreshSpace
  have hcomposed : Moves L s₀ (s.animateWinit.refreshSpace.composite o) := hanimated.emit _
  unfold Rwl.render_frame
  dsimp only
  split_ifs
  · exact h
  · exact hcomposed.serveWith _ o
  · exact hanimated

/-! ### The socket -/

theorem ipc_command (h : Moves L s₀ s) (cmd : IpcCmd) (which : Option ℕ) (val : ℕ)
    (hslide : ∀ (d : Desk) p, L d { d with pending_tag_transition := p }) :
    Moves L s₀ (s.ipc_command cmd which val) := by
  have happlied := (h.desk (f := fun d => (ipcOutputs s.desk which).foldl (ipcApply cmd val) d)
    fun hc => hc.foldl (fun _ idx h => h.ipcApply cmd val idx hslide) _).arrange_all
  have htop (p : Prop) [Decidable p] {s₁ : Rwl} (h₁ : Moves L s₀ s₁) :
      Moves L s₀ (if p then s₁.focus_top else s₁) := by
    split_ifs
    · exact h₁.focus_top
    · exact h₁
  unfold Rwl.ipc_command
  dsimp only
  split
  · exact htop _ happlied
  · exact foldl (fun _ _ h => h.emit _) _ (htop _ happlied)

end Moves

/-! ### Sessions and keys -/

theorem base_filterState (s : Rwl) (code : ℕ) (pressed : Bool) :
    (s.filterState code pressed).base = s.base := by
  unfold filterState feed_key
  split_ifs
  · split <;> rfl
  · rfl
  · rfl
  · rfl
  · rfl

theorem base_keyInput (s : Rwl) (code : ℕ) (pressed : Bool) :
    (s.keyInput code pressed).1.base = s.base := by
  unfold keyInput
  split_ifs
  · dsimp only
    split <;> exact base_filterState _ code pressed
  · rfl

theorem base_release_all_pressed_keys (s : Rwl) : s.release_all_pressed_keys.base = s.base := by
  refine Recency.foldl_keeps base releaseKey (fun s code => ?_) _ s
  unfold releaseKey
  split_ifs <;> rfl

theorem base_worker_done (s : Rwl) (i : ℕ) (ok : Bool) : (s.worker_done i ok).base = s.base := by
  unfold worker_done on_auth_result
  split
  · rfl
  · dsimp only
    split_ifs
    · exact base_release_all_pressed_keys _
    · rfl
    · rfl

theorem base_session_unlock (s : Rwl) : s.session_unlock.base = s.base := by
  unfold session_unlock
  split_ifs <;> rfl

theorem base_new_surface (s : Rwl) (f : SurfaceId) (o : Option OutputId) :
    (s.new_surface f o).base = s.base := by
  unfold new_surface
  split_ifs
  · rfl
  · dsimp only
    split <;> rfl

theorem base_flash_expired (s : Rwl) : s.flash_expired.base = s.base := by
  unfold flash_expired
  split_ifs <;> rfl

theorem base_ext_lock (s : Rwl) (obj client : ℕ) : (s.ext_lock obj client).base = s.base := by
  unfold ext_lock
  dsimp only
  split_ifs <;> rfl

theorem base_ext_unlock (s : Rwl) (obj : ℕ) : (s.ext_unlock obj).base = s.base := by
  unfold ext_unlock
  split_ifs
  · rfl
  · exact base_session_unlock s

theorem base_ext_destroy (s : Rwl) (obj : ℕ) : (s.ext_destroy obj).base = s.base := by
  unfold ext_destroy
  split_ifs <;> rfl

theorem base_ext_get_surface (s : Rwl) (obj : ℕ) (f : SurfaceId) (o : Option OutputId) :
    (s.ext_get_surface obj f o).base = s.base := by
  unfold ext_get_surface
  split_ifs
  · rfl
  · exact base_new_surface s f o

namespace Moves

variable {L : Desk → Desk → Prop} {s₀ s : Rwl}

/-! ### Input devices -/

theorem runAction (h : Moves L s₀ s) (a : Action) : Moves L s₀ (s.runAction a) := by
  unfold Rwl.runAction
  split_ifs
  · refine (h.dispatch a).same ?_
    unfold start_key_repeat
    dsimp only
    split_ifs <;> rfl
  · exact (h.dispatch a).cancelRepeat

theorem update_mod_tap (h : Moves L s₀ s) (pressed : Bool) (before after : ℕ) :
    Moves L s₀ (s.update_mod_tap pressed before after) := by
  unfold Rwl.update_mod_tap
  split_ifs
  · exact h.same rfl
  · split
    · exact Moves.dispatch (h.same (rfl : (s.setModTap none).store = s.store)) _
    · exact h.same rfl
  · exact h

theorem process_key_event (h : Moves L s₀ s) (code : ℕ) (pressed : Bool) :
    Moves L s₀ (s.process_key_event code pressed) := by
  have hinput : Moves L s₀ (s.keyInput code pressed).1 :=
    h.same (store_of_base (base_keyInput s code pressed))
  refine Moves.update_mod_tap ?_ _ _ _
  unfold afterFilter
  cases pressed with
  | true =>
    cases (s.keyInput code true).2 with
    | none => exact hinput
    | some a =>
      exact Moves.runAction (hinput.same (rfl : ((s.keyInput code true).1.rememberKey code).store =
        (s.keyInput code true).1.store)) a
  | false =>
    cases (s.keyInput code false).2 with
    | none => exact hinput.cancelRepeat
    | some a => exact hinput.cancelRepeat.runAction a

theorem key_repeat_tick (h : Moves L s₀ s) : Moves L s₀ s.key_repeat_tick := by
  unfold Rwl.key_repeat_tick
  split_ifs
  · split
    · exact h.dispatch _
    · exact h
  · exact h

theorem mouseFocus (h : Moves L s₀ s) (loc : PointF) : Moves L s₀ (s.mouseFocus loc) := by
  unfold Rwl.mouseFocus
  split_ifs
  · split
    · split_ifs
      · exact h.focus_window _
      · exact h
    · exact h
  · exact h

theorem pointerTo (h : Moves L s₀ s) (hovers : Bool) (loc : PointF)
    (hcol : ∀ d d', grab.Dragged s.grab d d' → L d d') :
    Moves L s₀ (pointerTo hovers s loc) := by
  have hselect := h.desk (f := fun d => { d with sel_mon := (d.monitor_at loc).getD d.sel_mon })
    fun hc => hc.tail (.select _ _)
  unfold Rwl.pointerTo
  dsimp only
  split_ifs
  · exact hselect.ptr_motion _ loc
  · split
    · exact (hselect.handle_move loc).ptr_motion _ loc
    · exact (hselect.handle_resize loc hcol).ptr_motion _ loc
    · exact hselect.same rfl
    · exact hselect.same rfl
  · split
    · exact (hselect.handle_move loc).ptr_motion _ loc
    · exact (hselect.handle_resize loc hcol).ptr_motion _ loc
    · exact (hselect.mouseFocus loc).ptr_motion _ loc
    · exact (hselect.mouseFocus loc).ptr_motion _ loc

theorem pressFocus (h : Moves L s₀ s) (under : Option WinId) : Moves L s₀ (s.pressFocus under) := by
  have hmode : Moves L s₀ (s.setCursorMode .Pressed) := h.same rfl
  unfold Rwl.pressFocus
  split
  · split_ifs
    · exact hmode
    · exact hmode.focus_window _
  · exact hmode

theorem runButton (h : Moves L s₀ s) (under : Option WinId) (a : Action) :
    Moves L s₀ (s.runButton under a) := by
  unfold Rwl.runButton
  split
  · split
    · exact h.start_move _
    · exact h
  · split
    · exact h.start_resize _
    · exact h
  · exact h.dispatch a

theorem releaseGrab (h : Moves L s₀ s) : Moves L s₀ s.releaseGrab := by
  unfold Rwl.releaseGrab
  split_ifs
  · exact h.end_grab
  · exact h.same rfl

theorem deliverButton (h : Moves L s₀ s) (btn : ℕ) (pressed : Bool) (serial : ℕ) :
    Moves L s₀ (s.deliverButton btn pressed serial) := h.same rfl

theorem process_pointer_button (h : Moves L s₀ s) (btn : ℕ) (pressed : Bool) (serial : ℕ) :
    Moves L s₀ (s.process_pointer_button btn pressed serial) := by
  have htap : Moves L s₀ (s.setModTap none) := h.same rfl
  unfold Rwl.process_pointer_button
  dsimp only
  split_ifs
  · exact h.deliverButton _ _ _
  · exact (htap.same (store_of_ground (ground_handle_pointer_click _ _))).emit _
  · exact htap.emit _
  · split
    · exact ((htap.pressFocus _).runButton _ _).emit _
    · exact (htap.pressFocus _).deliverButton _ _ _
  · exact htap.releaseGrab.deliverButton _ _ _

theorem process_pointer_axis (h : Moves L s₀ s) (source : AxisSource)
    (horizontal vertical : Option AxisAmount) :
    Moves L s₀ (s.process_pointer_axis source horizontal vertical) := by
  unfold Rwl.process_pointer_axis
  dsimp only
  split_ifs <;> exact h.same rfl

/-! ### Events -/

/-- **What an event changes on the desk**, for every event but a new configuration file: small
updates, and what it makes or removes. -/
theorem step (s : Rwl) (e : Event) (he : ∀ cfg, e ≠ .config_written cfg)
    (hL : ∀ d d', Life s.grab e d d' → L d d') : Moves L s (step s e) := by
  have h : Moves L s s := .refl s
  have hguard (p : Prop) [Decidable p] {s' : Rwl} (h' : Moves L s s') :
      Moves L s (if p then s else s') := by
    split_ifs
    · exact h
    · exact h'
  cases e with
  | tick ms => exact h.change (f := fun d => { d with now := d.now + ms }) (.clock _ _)
  | idle => exact h.drain
  | titles => exact h.check_toplevel_titles
  | config_written cfg => exact absurd rfl (he cfg)
  | processes p => exact h.change (f := fun d => { d with parent_pid := p }) (.processes _ p)
  | key code pressed => exact h.process_key_event code pressed
  | repeat_tick => exact h.key_repeat_tick
  | motion dx dy => exact h.pointerTo _ _ fun d d' hd => hL _ _ (.dragged_by d d' dx dy hd)
  | motion_abs fx fy => exact h.pointerTo _ _ fun d d' hd => hL _ _ (.dragged_to d d' fx fy hd)
  | button btn pressed serial => exact h.process_pointer_button btn pressed serial
  | axis source hor ver => exact h.process_pointer_axis source hor ver
  | auth i ok => exact h.same (store_of_base (base_worker_done s i ok))
  | flash => exact h.same (store_of_base (base_flash_expired s))
  | ext_lock obj client => exact h.same (store_of_base (base_ext_lock s obj client))
  | ext_unlock obj => exact h.same (store_of_base (base_ext_unlock s obj))
  | ext_destroy obj => exact h.same (store_of_base (base_ext_destroy s obj))
  | ext_get_surface obj f o => exact h.same (store_of_base (base_ext_get_surface s obj f o))
  | ipc a =>
    change Moves L s (if ipcAction a then s.dispatch a else s)
    split_ifs
    · exact h.dispatch a
    · exact h
  | ipc_outputs cmd which val =>
    exact h.ipc_command cmd which val fun d p => hL _ _ (.slide d cmd which val p)
  | ipc_focusurgent => exact h.focus_urgent
  | ipc_resume => exact h.same (store_of_base (base_release_all_pressed_keys s))
  | new_toplevel w c =>
    have hinsert := h.life (f := fun d =>
      { insertWindow d w c id with focus_stack := Recency.toFront w d.focus_stack })
      (hL _ _ (.toplevel s.desk w c))
    refine hguard _ (Moves.emit ?_ _)
    split_ifs
    · exact hinsert.followFocus _ _
    · exact hinsert
  | toplevel_destroyed f =>
    exact h.toplevel_destroyed f (fun d => hL _ _ (.closed d f)) fun d w => hL _ _ (.unmapped d f w)
  | client_update w c =>
    exact h.change (f := fun d =>
      { d with client := Function.update d.client w (updateClient (d.client w) c) })
      (.client _ w c)
  | commit f b =>
    exact h.commit f b (fun d p => hL _ _ (.jump d f b p)) fun d w => hL _ _ (.swallowed d f b w)
  | fullscreen_request f fs => exact h.fullscreen_request f fs
  | move_request f => exact h.move_request f
  | resize_request f => exact h.resize_request f
  | parent_changed f => exact h.parent_changed f
  | dialog_hint_changed f => exact h.dialog_hint_changed f
  | popup_grab root popup parent serial => exact h.same rfl
  | request_activation f => exact h.request_activation f
  | x11_map w c => exact hguard _ (h.map_x11_window w c fun b => hL _ _ (.x11 s.desk w c b))
  | x11_map_override w c =>
    exact hguard _ (h.life (f := (Desk.insertOverride · w c)) (hL _ _ (.override s.desk w c)))
  | x11_unmapped xid =>
    have hunmap := h.unmap_x11_window xid (fun d w => hL _ _ (.x11_unmapped d xid w))
      fun d w => hL _ _ (.popup_unmapped d xid w)
    exact hunmap.life (f := (Desk.setX11Surface · xid none)) (hL _ _ (.unpaired _ xid))
  | x11_destroyed xid =>
    exact h.unmap_x11_window xid (fun d w => hL _ _ (.x11_destroyed d xid w))
      fun d w => hL _ _ (.popup_destroyed d xid w)
  | x11_associated xid f =>
    exact h.surface_associated xid f (fun d => hL _ _ (.paired d xid f))
      fun d w => hL _ _ (.mapped d xid f w)
  | x11_property xid => exact h.x11_property_notify xid
  | x11_configure_request xid x y => exact h.x11_configure_request xid x y
  | x11_configure_notify xid loc => exact h.x11_configure_notify xid loc
  | x11_move_request xid => exact h.x11_move_request xid
  | x11_resize_request xid => exact h.x11_resize_request xid
  | x11_fullscreen_request xid fs => exact h.x11_fullscreen_request xid fs
  | x11_disconnected => exact h.x11_disconnected fun d => hL _ _ (.disconnected d)
  | surface_destroyed f => exact h.same rfl
  | layers_changed o layers zone exclusive =>
    exact h.change (f := (setLayers · o layers zone exclusive))
      (.outputs _ _ (Desk.name_update s.desk o _ (by rfl)))
  | layer_destroyed f => exact h.layer_destroyed f
  | client_disconnected client => exact h.same rfl
  | output_added o info =>
    exact hguard _ (h.output_added o info (hL _ _ (.monitor s.desk o info)))
  | output_removed o => exact h.output_removed o fun i => hL _ _ (.unplugged s.desk o i)
  | capture_output frame output =>
    refine h.same ?_
    change (s.capture_output frame output).store = _
    unfold Rwl.capture_output
    split_ifs
    · rfl
    · split <;> rfl
  | copy frame =>
    refine h.same ?_
    change (s.copy frame).store = _
    unfold Rwl.copy
    split
    · rfl
    · dsimp only
      split
      · rfl
      · split
        · rfl
        · split <;> rfl
  | frame_destroyed frame => exact h.same rfl
  | vblank o out => exact h.on_vblank o out
  | winit_frame o out => exact h.render_frame o out

end Moves

end Rwl

end Compositor
