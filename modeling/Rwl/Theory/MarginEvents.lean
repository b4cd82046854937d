import Mathlib.Tactic.Common
import Rwl.Theory.MarginFrame

/-!
# Which events touch the mod-tap candidate and the overview

* input devices, session locks, outputs, frames and windows spare the candidate and the overview;
* `spares_step`: so does every event that is no key and no button;
* `inRange_step`: every event keeps the highlights of the overview in range.
-/

namespace Compositor

namespace Rwl

variable (s : Rwl)

/-! ### Input devices -/

theorem margin_keyInput (code : ℕ) (pressed : Bool) : (s.keyInput code pressed).1.margin = s.margin := by
  have hfilter (s : Rwl) : (s.filterState code pressed).margin = s.margin := by
    unfold filterState feed_key
    split_ifs
    · split <;> rfl
    · rfl
    · rfl
    · rfl
    · rfl
  unfold keyInput
  split_ifs
  · dsimp only
    split
    · exact hfilter (s.modifySeat (Seat.key_input · code pressed))
    · exact hfilter (s.modifySeat (Seat.key_input · code pressed))
  · rfl

theorem spares_runAction (a : Action) : Spares s (s.runAction a) := by
  have hrepeat (s : Rwl) : (s.start_key_repeat a).margin = s.margin := by
    unfold start_key_repeat
    dsimp only
    split_ifs <;> rfl
  unfold runAction
  split_ifs
  · exact (spares_dispatch s a).thenSame (hrepeat _)
  · exact (spares_dispatch s a).thenSame rfl

theorem spares_afterFilter (code : ℕ) (pressed : Bool) (act : Option Action) :
    Spares s (s.afterFilter code pressed act) := by
  have hfirst : (if pressed then (if act.isSome then s.rememberKey code else s)
      else s.cancelRepeat).margin = s.margin := by
    split_ifs <;> rfl
  unfold afterFilter
  dsimp only
  split
  · exact (spares_runAction _ _).afterSame hfirst
  · exact .same hfirst

theorem spares_key_repeat_tick : Spares s s.key_repeat_tick := by
  unfold key_repeat_tick
  split_ifs
  · split
    · exact spares_dispatch s _
    · exact .refl s
  · exact .refl s

theorem margin_mouseFocus (loc : PointF) : (s.mouseFocus loc).margin = s.margin := by
  unfold mouseFocus
  split_ifs
  · split
    · split_ifs
      · exact margin_focus_window s _
      · rfl
    · rfl
  · rfl

theorem spares_pointerTo (hovers : Bool) (loc : PointF) : Spares s (pointerTo hovers s loc) := by
  let s₁ := s.modifyDesk fun d => { d with sel_mon := (d.monitor_at loc).getD d.sel_mon }
  have hmove : (grab.handle_move s₁ loc).margin = s.margin := margin_handle_move s₁ loc
  have hresize : (grab.handle_resize s₁ loc).margin = s.margin := margin_handle_resize s₁ loc
  have hmouse : (s₁.mouseFocus loc).margin = s.margin := margin_mouseFocus s₁ loc
  have hhover : Spares s (overview.handle_pointer_motion (s₁.ptr_motion none loc) loc) :=
    (spares_handle_pointer_motion _ loc).afterSame rfl
  unfold pointerTo
  dsimp only
  split_ifs
  · exact .same rfl
  · split
    · exact .same hmove
    · exact .same hresize
    · exact hhover
    · exact hhover
  · split
    · exact .same hmove
    · exact .same hresize
    · exact .same hmouse
    · exact .same hmouse

theorem margin_pressFocus (under : Option WinId) : (s.pressFocus under).margin = s.margin := by
  unfold pressFocus
  split
  · split_ifs
    · rfl
    · exact (margin_focus_window _ _).trans rfl
  · rfl

theorem spares_runButton (under : Option WinId) (a : Action) :
    Spares s (s.runButton under a) := by
  unfold runButton
  split
  · split
    · exact .same (margin_start_move s _)
    · exact .refl s
  · split
    · exact .same (margin_start_resize s _)
    · exact .refl s
  · exact spares_dispatch s _

theorem margin_releaseGrab : s.releaseGrab.margin = s.margin := by
  unfold releaseGrab
  split_ifs
  · exact margin_end_grab s
  · rfl

theorem margin_process_pointer_axis (source : AxisSource) (horizontal vertical : Option AxisAmount) :
    (s.process_pointer_axis source horizontal vertical).margin = s.margin := by
  unfold process_pointer_axis
  dsimp only
  split_ifs <;> rfl

/-! ### Session locks -/

theorem margin_release_all_pressed_keys : s.release_all_pressed_keys.margin = s.margin := by
  refine Recency.foldl_keeps margin releaseKey (fun s code => ?_) _ s
  unfold releaseKey
  split_ifs <;> rfl

theorem margin_unlock : s.unlock.margin = s.margin :=
  (margin_release_all_pressed_keys ((s.modifySession disengage).fire .unlock)).trans rfl

theorem margin_worker_done (i : ℕ) (ok : Bool) : (s.worker_done i ok).margin = s.margin := by
  unfold worker_done on_auth_result
  split
  · rfl
  · dsimp only
    split_ifs
    · exact margin_unlock _
    · rfl
    · rfl

theorem margin_ext_lock (obj client : ℕ) : (s.ext_lock obj client).margin = s.margin := by
  unfold ext_lock
  dsimp only
  split_ifs <;> rfl

theorem margin_ext_unlock (obj : ℕ) : (s.ext_unlock obj).margin = s.margin := by
  unfold ext_unlock session_unlock
  split_ifs <;> rfl

theorem margin_ext_get_surface (obj : ℕ) (f : SurfaceId) (output : Option OutputId) :
    (s.ext_get_surface obj f output).margin = s.margin := by
  unfold ext_get_surface new_surface
  split_ifs
  · rfl
  · rfl
  · dsimp only
    split <;> rfl

/-! ### Outputs and frames -/

theorem margin_output_added (o : OutputId) (info : OutputInfo) :
    (s.output_added o info).margin = s.margin := by
  have hadded : (s.modifyDesk (Desk.addMonitor · o info)).arrange_all.margin = s.margin :=
    margin_arrange_all (s.modifyDesk (Desk.addMonitor · o info))
  exact output_added_kept (P := fun t => t.margin = s.margin) (fun _ h => h)
    (fun t h => (margin_warp_cursor_to_focused t).trans h) (fun _ h => h) (fun _ _ h => h)
    (fun _ h => h) hadded

theorem margin_output_removed (o : OutputId) : (s.output_removed o).margin = s.margin := by
  unfold output_removed
  dsimp only
  rw [margin_arrange_all]
  split <;> rfl

theorem margin_capture_output (frame : ℕ) (output : Option OutputId) :
    (s.capture_output frame output).margin = s.margin := by
  unfold capture_output
  split_ifs
  · rfl
  · split <;> rfl

theorem margin_copy (frame : ℕ) : (s.copy frame).margin = s.margin := by
  unfold copy
  split
  · rfl
  · split_ifs
    · rfl
    · dsimp only
      split <;> rfl
    · dsimp only
      split <;> rfl

theorem margin_serveWith (f : PendingFrame → Effect) (o : OutputId) :
    (serveWith f s o).margin = s.margin :=
  (Recency.foldl_keeps margin (fun s pf => s.emit (f pf)) (fun _ _ => rfl) _
    (s.modifyScreencopy _)).trans rfl

theorem spares_finish_close : Spares s (overview.finish_close s) := by
  have hclosed : Spares s { s with overview := none } := ⟨rfl, fun _ => nofun⟩
  unfold overview.finish_close
  split
  · exact .refl s
  · dsimp only
    split
    · have hend (t : Rwl) (w : WinId) :
          (t.focus_window (some w)).warp_cursor_to_focused.margin = t.margin := by
        rw [margin_warp_cursor_to_focused, margin_focus_window]
      refine Spares.thenSame ?_ (hend _ _)
      split_ifs
      · exact (spares_dispatch _ _).after hclosed
      · exact hclosed
    · exact hclosed
    · exact hclosed

theorem spares_advance : Spares s (overview.advance s) := by
  unfold overview.advance
  split
  · exact .refl s
  · split_ifs
    · exact spares_finish_close s
    · exact .refl s

theorem margin_afterSlides (transitioning : Bool) : (s.afterSlides transitioning).margin = s.margin := by
  have hfocus (t : Rwl) (h : t.margin = s.margin) : t.arrange_all.focus_top.margin = s.margin := by
    rw [margin_focus_top, margin_arrange_all, h]
  exact afterSlides_kept hfocus (fun _ _ h => h) (fun _ _ h => h) rfl transitioning

theorem spares_on_vblank (o : OutputId) (out : RenderOutcome) : Spares s (s.on_vblank o out) := by
  have hanimate : Spares s s.refreshSpace.animateVblank := by
    unfold animateVblank
    dsimp only
    have hend (t : Rwl) (transitioning : Bool) :
        ((t.modifyDesk Desk.finalize_slide_outs).afterSlides transitioning).margin = t.margin :=
      (margin_afterSlides _ _).trans rfl
    have hadvance : Spares s (overview.advance s.refreshSpace.advanceSlides) :=
      (spares_advance _).afterSame rfl
    exact hadvance.thenSame (hend _ _)
  unfold on_vblank
  dsimp only
  split_ifs
  · exact .same rfl
  · exact hanimate
  · exact hanimate.thenSame rfl
  · exact hanimate.thenSame (margin_serveWith _ _ _)
  · exact hanimate.thenSame (margin_serveWith _ _ _)

theorem spares_render_frame (o : OutputId) (out : RenderOutcome) :
    Spares s (s.render_frame o out) := by
  have hanimate : Spares s s.animateWinit.refreshSpace := by
    have h : Spares s s.animateWinit := by
      unfold animateWinit
      dsimp only
      exact (spares_advance _).afterSame ((margin_afterSlides _ _).trans rfl)
    exact h.thenSame rfl
  unfold render_frame
  dsimp only
  split_ifs
  · exact .refl s
  · exact hanimate.thenSame (margin_serveWith _ _ _)
  · exact hanimate

/-! ### Toplevels -/

theorem margin_apply_rules (w : WinId) : (s.apply_rules w).margin = s.margin := by
  unfold apply_rules
  split
  · rfl
  · dsimp only
    split <;> rfl

theorem spares_told (c : HookCall) : Spares s (s.fire c).drain :=
  (spares_drain (s.fire c)).afterSame rfl

theorem spares_firstCommit (w : WinId) : Spares s (s.firstCommit w) := by
  have hshow (t : Rwl) (e : Effect) : (t.arrange_all.focus_top.emit e).margin = t.margin := by
    show t.arrange_all.focus_top.margin = t.margin
    rw [margin_focus_top, margin_arrange_all]
  have hruled : (((s.modifyDesk fun d => d.modifyWindow w fun st =>
      { st with rules_applied := true }).apply_rules w).modifyDesk
        (swallow.try_swallow · w)).margin = s.margin := margin_apply_rules _ w
  exact ((spares_told _ (.window_open w)).afterSame hruled).thenSame (hshow _ _)

theorem margin_firstBuffer (w : WinId) : (s.firstBuffer w).margin = s.margin := by
  unfold firstBuffer
  dsimp only
  split_ifs
  · exact (margin_arrange_all _).trans ((margin_warp_cursor_to_focused _).trans rfl)
  · exact (margin_warp_cursor_to_focused _).trans rfl
  · exact (margin_arrange_all _).trans rfl
  · rfl
  · rfl

theorem margin_refreshNames (w : WinId) : (s.refreshNames w).margin = s.margin := by
  unfold refreshNames
  dsimp only
  split_ifs <;> rfl

theorem spares_commit_window (w : WinId) (initial_sent : Bool) :
    Spares s (s.commit_window w initial_sent) := by
  have hend (t : Rwl) :
      (((t.firstBuffer w).modifyDesk (centre · w)).refreshNames w).margin = t.margin :=
    (margin_refreshNames _ _).trans (margin_firstBuffer t w)
  unfold commit_window
  dsimp only
  refine Spares.thenSame ?_ (hend _)
  split_ifs
  · exact spares_firstCommit s w
  · exact .same (margin_arrange_all s)
  · exact .refl s

theorem margin_commit_layer (i : ℕ) : (s.commit_layer i).margin = s.margin := by
  unfold commit_layer
  dsimp only
  rw [margin_update_layer_focus]
  split
  · rfl
  · split_ifs <;> rfl

theorem spares_commit (f : SurfaceId) (initial_sent : Bool) :
    Spares s (s.commit f initial_sent) := by
  unfold commit
  split
  · exact spares_commit_window s _ _
  · split
    · exact .same (margin_commit_layer s _)
    · exact .refl s

theorem margin_auto_back (i tags : ℕ) (prev : Option ℕ) :
    (auto_back_empty_tag.on_window_closed s i tags prev).margin = s.margin := by
  unfold auto_back_empty_tag.on_window_closed
  split_ifs
  · rfl
  · dsimp only
    split
    · rfl
    · rw [margin_focus_top]
      exact (margin_arrange_all _).trans rfl

theorem spares_windowGone (w : WinId) : Spares s (s.windowGone w) := by
  have hpip : ((pip.on_window_closed s w).modifyDesk fun d =>
      { d with space := Space.unmap_elem d.space w }).margin = s.margin :=
    margin_pip_on_window_closed s w
  have hback (i tags : ℕ) (prev : Option ℕ) := (margin_auto_back _ i tags prev).trans hpip
  have htold (t : Rwl) : Spares t ((t.fire (.window_close w)).drain.emit (.event (.close w))) :=
    (spares_told t _).thenSame rfl
  unfold windowGone
  dsimp only
  split_ifs
  · exact (htold _).afterSame (hback _ _ _)
  · exact (htold _).afterSame hpip
  · exact .same (hback _ _ _)
  · exact .same hpip

theorem spares_refocus (was_visible : Bool) (restored : Option WinId) :
    Spares s (s.refocus was_visible restored) := by
  have hfocus (w : Option WinId) : ((s.focus_window w).arrange_all).margin = s.margin := by
    rw [margin_arrange_all, margin_focus_window]
  unfold refocus
  dsimp only
  split_ifs
  · exact (spares_overview_on_window_closed _).afterSame
      ((margin_warp_cursor_to_focused _).trans (hfocus _))
  · exact .same (hfocus _)

theorem spares_toplevel_destroyed (f : SurfaceId) : Spares s (s.toplevel_destroyed f) := by
  unfold toplevel_destroyed
  dsimp only
  cases s.desk.window_map f with
  | none => exact (spares_refocus (s.modifyDesk (dropToplevel · f)) false none).afterSame rfl
  | some w =>
    dsimp only
    have hgone : Spares s ((s.modifyDesk (dropToplevel · f)).windowGone w) :=
      (spares_windowGone (s.modifyDesk (dropToplevel · f)) w).afterSame rfl
    exact (spares_refocus _ _ _).after (hgone.thenSame rfl)

theorem margin_fullscreen_request (f : SurfaceId) (fs : Bool) :
    (s.fullscreen_request f fs).margin = s.margin := by
  unfold fullscreen_request
  split
  · rename_i w _
    have hset : (s.modifyDesk (set_fullscreen · w fs)).arrange_all.margin = s.margin :=
      (margin_arrange_all _).trans rfl
    dsimp only
    split_ifs
    · exact hset
    · exact hset
  · rfl

theorem margin_check_toplevel_titles : s.check_toplevel_titles.margin = s.margin := by
  have hcheck (s : Rwl) (w : WinId) : (s.checkTitle w).margin = s.margin := by
    unfold checkTitle
    dsimp only
    split_ifs
    · rfl
    · split <;> rfl
  unfold check_toplevel_titles
  split_ifs
  · rfl
  · exact Recency.foldl_keeps margin checkTitle hcheck _ s

theorem margin_dialog_hint_changed (f : SurfaceId) : (s.dialog_hint_changed f).margin = s.margin := by
  unfold dialog_hint_changed
  split
  · rfl
  · split_ifs
    · rfl
    · exact (margin_arrange_all _).trans rfl

theorem margin_request_activation (f : SurfaceId) : (s.request_activation f).margin = s.margin := by
  unfold request_activation
  split
  · rfl
  · split_ifs
    · rfl
    · exact (margin_focus_urgent _).trans rfl

theorem margin_parent_changed (f : SurfaceId) : (s.parent_changed f).margin = s.margin := by
  unfold parent_changed
  cases s.desk.window_map f with
  | none => rfl
  | some w =>
    dsimp only
    split_ifs <;> rfl

theorem margin_new_toplevel (w : WinId) (c : Client) : (s.new_toplevel w c).margin = s.margin := by
  unfold new_toplevel
  dsimp only
  change (if _ then _ else _ : Rwl).margin = s.margin
  split_ifs
  · exact (margin_followFocus _ _ _).trans rfl
  · rfl

/-! ### X11 windows -/

theorem margin_map_x11_window (w : WinId) (c : Client) : (s.map_x11_window w c).margin = s.margin := by
  have hfocus (t : Rwl) (v : Option WinId) : (t.focus_window v).arrange_all.margin = t.margin := by
    rw [margin_arrange_all, margin_focus_window]
  exact (hfocus _ _).trans rfl

theorem margin_settleX11 : s.settleX11.margin = s.margin := by
  have h : s.focus_top.arrange_all.margin = s.margin := by
    rw [margin_arrange_all, margin_focus_top]
  exact h

theorem margin_unmap_x11_window (xid : ℕ) : (s.unmap_x11_window xid).margin = s.margin := by
  unfold unmap_x11_window
  split
  · rfl
  · dsimp only
    split_ifs
    · rfl
    · exact margin_settleX11 _

theorem margin_x11_property_notify (xid : ℕ) : (s.x11_property_notify xid).margin = s.margin := by
  unfold x11_property_notify
  split
  · rfl
  · dsimp only
    split_ifs
    · rfl
    · exact (margin_arrange_all (s.modifyDesk _)).trans rfl

theorem margin_x11_configure_request (xid : ℕ) (x y : Option ℤ) :
    (s.x11_configure_request xid x y).margin = s.margin := by
  unfold x11_configure_request
  split
  · rfl
  · dsimp only
    split_ifs <;> rfl

theorem margin_x11_fullscreen_request (xid : ℕ) (fs : Bool) :
    (s.x11_fullscreen_request xid fs).margin = s.margin := by
  unfold x11_fullscreen_request
  split
  · exact (margin_arrange_all _).trans rfl
  · rfl

theorem margin_x11_disconnected : s.x11_disconnected.margin = s.margin := by
  unfold x11_disconnected
  split_ifs
  · rfl
  · exact (margin_settleX11 _).trans rfl

/-! ### Events -/

theorem margin_ipc_command (cmd : IpcCmd) (which : Option ℕ) (val : ℕ) :
    (s.ipc_command cmd which val).margin = s.margin := by
  have htag (l : List ℕ) (s : Rwl) :
      (l.foldl (fun s idx => s.emit (.event (.tag idx))) s).margin = s.margin :=
    Recency.foldl_keeps margin (fun s idx => s.emit (.event (.tag idx))) (fun _ _ => rfl) l s
  have hall : ((s.modifyDesk fun d => (ipcOutputs s.desk which).foldl (ipcApply cmd val)
      d).arrange_all).margin = s.margin := (margin_arrange_all _).trans rfl
  unfold ipc_command
  dsimp only
  split_ifs
  · exact (margin_focus_top _).trans hall
  · exact hall
  · exact (htag _ _).trans ((margin_focus_top _).trans hall)
  · exact (htag _ _).trans hall

/-- **An event that is no key and no button spares the candidate and the overview.** -/
theorem spares_step (e : Event) (hkey : ∀ code pressed, e ≠ .key code pressed)
    (hbutton : ∀ btn pressed serial, e ≠ .button btn pressed serial) :
    Spares s (step s e) := by
  cases e with
  | key code pressed => exact absurd rfl (hkey code pressed)
  | button btn pressed serial => exact absurd rfl (hbutton btn pressed serial)
  | idle => exact spares_drain s
  | titles => exact .same (margin_check_toplevel_titles s)
  | repeat_tick => exact spares_key_repeat_tick s
  | motion dx dy => exact spares_pointerTo s true _
  | motion_abs fx fy => exact spares_pointerTo s false _
  | axis source horizontal vertical => exact .same (margin_process_pointer_axis s source horizontal vertical)
  | auth i ok => exact .same (margin_worker_done s i ok)
  | flash =>
    simp only [step, flash_expired]
    split_ifs <;> exact .same rfl
  | ext_lock obj client => exact .same (margin_ext_lock s obj client)
  | ext_unlock obj => exact .same (margin_ext_unlock s obj)
  | ext_destroy obj =>
    simp only [step, ext_destroy]
    split_ifs <;> exact .same rfl
  | ext_get_surface obj surface output => exact .same (margin_ext_get_surface s obj surface output)
  | ipc a =>
    simp only [step]
    split_ifs
    · exact spares_dispatch s a
    · exact .refl s
  | ipc_outputs cmd which val => exact .same (margin_ipc_command s cmd which val)
  | ipc_focusurgent => exact .same (margin_focus_urgent s)
  | ipc_resume => exact .same (margin_release_all_pressed_keys s)
  | new_toplevel w c =>
    simp only [step]
    split_ifs
    · exact .refl s
    · exact .same (margin_new_toplevel s w c)
  | toplevel_destroyed f => exact spares_toplevel_destroyed s f
  | commit f initial_sent => exact spares_commit s f initial_sent
  | fullscreen_request f fs => exact .same (margin_fullscreen_request s f fs)
  | move_request f =>
    simp only [step, move_request]
    split
    · exact .same (margin_start_move s _)
    · exact .refl s
  | resize_request f =>
    simp only [step, resize_request]
    split
    · exact .same (margin_start_resize s _)
    · exact .refl s
  | parent_changed f => exact .same (margin_parent_changed s f)
  | dialog_hint_changed f => exact .same (margin_dialog_hint_changed s f)
  | request_activation f => exact .same (margin_request_activation s f)
  | x11_map w c =>
    simp only [step]
    split_ifs
    · exact .refl s
    · exact .same (margin_map_x11_window s w c)
  | x11_map_override w c =>
    simp only [step]
    split_ifs <;> exact .same rfl
  | x11_unmapped xid => exact .same (margin_unmap_x11_window s xid)
  | x11_destroyed xid => exact .same (margin_unmap_x11_window s xid)
  | x11_property xid => exact .same (margin_x11_property_notify s xid)
  | x11_configure_request xid x y => exact .same (margin_x11_configure_request s xid x y)
  | x11_configure_notify xid loc =>
    simp only [step, x11_configure_notify]
    split <;> exact .same rfl
  | x11_move_request xid =>
    simp only [step, x11_move_request]
    split
    · exact .same (margin_start_move s _)
    · exact .refl s
  | x11_resize_request xid =>
    simp only [step, x11_resize_request]
    split
    · exact .same (margin_start_resize s _)
    · exact .refl s
  | x11_fullscreen_request xid fs => exact .same (margin_x11_fullscreen_request s xid fs)
  | x11_disconnected => exact .same (margin_x11_disconnected s)
  | layer_destroyed f =>
    simp only [step, layer_destroyed]
    refine .same ?_
    rw [margin_update_layer_focus, margin_arrange_all]
    rfl
  | output_added o info =>
    simp only [step]
    split_ifs
    · exact .refl s
    · exact .same (margin_output_added s o info)
  | output_removed o => exact .same (margin_output_removed s o)
  | capture_output frame output => exact .same (margin_capture_output s frame output)
  | copy frame => exact .same (margin_copy s frame)
  | vblank o out => exact spares_on_vblank s o out
  | winit_frame o out => exact spares_render_frame s o out
  | _ => exact .same rfl

/-- **Every event keeps the highlights of the overview in range.** -/
theorem inRange_step (e : Event) (hs : s.OverviewInRange) : (step s e).OverviewInRange := by
  by_cases hkey : ∃ code pressed, e = .key code pressed
  · obtain ⟨code, pressed, rfl⟩ := hkey
    have hinput := (spares_afterFilter (s.keyInput code pressed).1 code pressed
      (s.keyInput code pressed).2).afterSame (margin_keyInput s code pressed)
    have hfilter := hinput.inRange hs
    show (process_key_event s code pressed).OverviewInRange
    unfold process_key_event update_mod_tap
    dsimp only
    split_ifs
    · exact hfilter
    · split
      · exact (spares_dispatch _ _).inRange hfilter
      · exact hfilter
    · exact hfilter
  · by_cases hbutton : ∃ btn pressed serial, e = .button btn pressed serial
    · obtain ⟨btn, pressed, serial, rfl⟩ := hbutton
      show (process_pointer_button s btn pressed serial).OverviewInRange
      have hpress (under : Option WinId) : ((s.setModTap none).pressFocus under).OverviewInRange :=
        (Spares.same (margin_pressFocus (s.setModTap none) under)).inRange hs
      unfold process_pointer_button
      by_cases hl : s.session.locked = true
      · rw [if_pos hl]
        exact hs
      · rw [if_neg hl]
        dsimp only
        by_cases hov : (s.setModTap none).overview.isSome = true
        · rw [if_pos hov]
          cases pressed with
          | true => exact (spares_handle_pointer_click (s.setModTap none) _).inRange hs
          | false => exact hs
        · rw [if_neg hov]
          cases pressed with
          | true =>
            rw [if_pos rfl]
            split
            · exact (spares_runButton _ _ _).inRange (hpress _)
            · exact hpress _
          | false => exact (Spares.same (margin_releaseGrab (s.setModTap none))).inRange hs
    · exact (spares_step s e (fun code pressed h => hkey ⟨code, pressed, h⟩)
        fun btn pressed serial h => hbutton ⟨btn, pressed, serial, h⟩).inRange hs

end Rwl

end Compositor
