import Mathlib.Tactic.Common
import Rwl.Theory.Heard

/-!
# Which events tell of windows

* input devices, session locks, outputs and frames leave the news and the stages alone;
* `heard_firstCommit`, `heard_windowGone`: the two functions that send news;
* `heard_commit`, `heard_toplevel_destroyed`, `heard_parent_changed` and the lemmas on fresh
  windows: what the six events that concern the life of windows do;
* `heard_step`: no other event tells of windows.
-/

namespace Compositor

open Desk (stages_of_bare stages_modifyWindow)

namespace Rwl

variable (s : Rwl)

/-! ### Session locks -/

theorem heard_key_forward (code : ℕ) (pressed : Bool) :
    (s.key_forward code pressed).heard = s.heard :=
  heard_emit (s.modifySeat (Seat.input_forward · code pressed)) rfl

theorem heard_release_all_pressed_keys : s.release_all_pressed_keys.heard = s.heard := by
  refine Recency.foldl_keeps heard releaseKey (fun s code => ?_) _ s
  unfold releaseKey
  split_ifs
  · exact heard_key_forward (s.modifySeat (Seat.key_input · code false)) code false
  · rfl

theorem heard_unlock : s.unlock.heard = s.heard := by
  have hrelease := heard_release_all_pressed_keys ((s.modifySession disengage).fire .unlock)
  unfold unlock
  dsimp only
  rw [heard_reevaluate_pointer]
  exact hrelease

theorem heard_worker_done (i : ℕ) (ok : Bool) : (s.worker_done i ok).heard = s.heard := by
  unfold worker_done on_auth_result
  split
  · rfl
  · dsimp only
    split_ifs
    · exact heard_unlock _
    · rfl
    · rfl

theorem heard_ext_lock (obj client : ℕ) : (s.ext_lock obj client).heard = s.heard := by
  unfold ext_lock
  dsimp only
  split_ifs
  · rfl
  · exact heard_emit _ rfl
  · rw [heard_reevaluate_pointer]
    exact heard_emit (s.modifySession _) rfl

theorem heard_ext_unlock (obj : ℕ) : (s.ext_unlock obj).heard = s.heard := by
  unfold ext_unlock session_unlock
  split_ifs
  · rfl
  · rfl
  · exact heard_reevaluate_pointer _

theorem heard_ext_get_surface (obj : ℕ) (f : SurfaceId) (output : Option OutputId) :
    (s.ext_get_surface obj f output).heard = s.heard := by
  unfold ext_get_surface new_surface
  split_ifs
  · rfl
  · rfl
  · dsimp only
    split <;> rfl

/-! ### Input devices -/

theorem heard_keyInput (code : ℕ) (pressed : Bool) :
    (s.keyInput code pressed).1.heard = s.heard := by
  have hfilter (s : Rwl) : (s.filterState code pressed).heard = s.heard := by
    unfold filterState feed_key
    split_ifs
    · split <;> rfl
    · rfl
    · rfl
    · rfl
    · rfl
  unfold keyInput
  split_ifs
  · dsimp only
    split
    · exact (heard_emit _ rfl).trans (hfilter (s.modifySeat (Seat.key_input · code pressed)))
    · exact (heard_key_forward _ _ _).trans
        (hfilter (s.modifySeat (Seat.key_input · code pressed)))
  · rfl

theorem heard_runAction (a : Action) : (s.runAction a).heard = s.heard := by
  have hrepeat (s : Rwl) : (s.start_key_repeat a).heard = s.heard := by
    unfold start_key_repeat
    dsimp only
    split_ifs <;> rfl
  unfold runAction
  split_ifs
  · rw [hrepeat, heard_dispatch]
  · exact heard_dispatch s a

theorem heard_process_key_event (code : ℕ) (pressed : Bool) :
    (s.process_key_event code pressed).heard = s.heard := by
  have hafter (s : Rwl) (act : Option Action) :
      (s.afterFilter code pressed act).heard = s.heard := by
    have hfirst : (if pressed then (if act.isSome then s.rememberKey code else s)
        else s.cancelRepeat).heard = s.heard := by
      split_ifs <;> rfl
    unfold afterFilter
    dsimp only
    split
    · exact (heard_runAction _ _).trans hfirst
    · exact hfirst
  have htap (s : Rwl) (before after : ℕ) :
      (s.update_mod_tap pressed before after).heard = s.heard := by
    unfold update_mod_tap
    split_ifs
    · rfl
    · split
      · exact heard_dispatch (s.setModTap none) _
      · rfl
    · rfl
  unfold process_key_event
  dsimp only
  rw [htap, hafter, heard_keyInput]

theorem heard_key_repeat_tick : s.key_repeat_tick.heard = s.heard := by
  unfold key_repeat_tick
  split_ifs
  · split
    · exact heard_dispatch s _
    · rfl
  · rfl

theorem heard_mouseFocus (loc : PointF) : (s.mouseFocus loc).heard = s.heard := by
  unfold mouseFocus
  split_ifs
  · split
    · split_ifs
      · exact heard_focus_window s _
      · rfl
    · rfl
  · rfl

theorem heard_pointerTo (hovers : Bool) (loc : PointF) :
    (pointerTo hovers s loc).heard = s.heard := by
  let s₁ := s.modifyDesk fun d => { d with sel_mon := (d.monitor_at loc).getD d.sel_mon }
  have hmotion (s' : Rwl) (h : s'.heard = s.heard) (f : Option SurfaceId) :
      (s'.ptr_motion f loc).heard = s.heard := (heard_ptr_motion s' f loc).trans h
  have hmove : (grab.handle_move s₁ loc).heard = s.heard := heard_handle_move s₁ loc
  have hresize : (grab.handle_resize s₁ loc).heard = s.heard := heard_handle_resize s₁ loc
  have hmouse : (s₁.mouseFocus loc).heard = s.heard := heard_mouseFocus s₁ loc
  unfold pointerTo
  dsimp only
  split_ifs
  · exact hmotion s₁ rfl _
  · split
    · exact hmotion _ hmove _
    · exact hmotion _ hresize _
    · exact hmotion s₁ rfl none
    · exact hmotion s₁ rfl none
  · split
    · exact hmotion _ hmove _
    · exact hmotion _ hresize _
    · exact hmotion _ hmouse _
    · exact hmotion _ hmouse _

theorem heard_deliverButton (btn : ℕ) (pressed : Bool) (serial : ℕ) :
    (s.deliverButton btn pressed serial).heard = s.heard :=
  heard_emit (s.modifySeat _) rfl

theorem heard_pressFocus (under : Option WinId) : (s.pressFocus under).heard = s.heard := by
  unfold pressFocus
  split
  · split_ifs
    · rfl
    · exact heard_focus_window (s.setCursorMode .Pressed) _
  · rfl

theorem heard_runButton (under : Option WinId) (a : Action) :
    (s.runButton under a).heard = s.heard := by
  unfold runButton
  split
  · split
    · exact heard_start_move s _
    · rfl
  · split
    · exact heard_start_resize s _
    · rfl
  · exact heard_dispatch s _

theorem heard_releaseGrab : s.releaseGrab.heard = s.heard := by
  unfold releaseGrab
  split_ifs
  · exact heard_end_grab s
  · rfl

theorem heard_process_pointer_button (btn : ℕ) (pressed : Bool) (serial : ℕ) :
    (s.process_pointer_button btn pressed serial).heard = s.heard := by
  have hpress (under : Option WinId) : ((s.setModTap none).pressFocus under).heard = s.heard :=
    heard_pressFocus (s.setModTap none) under
  unfold process_pointer_button
  dsimp only
  split_ifs
  · exact heard_deliverButton s _ _ _
  · exact (heard_emit _ rfl).trans (heard_handle_pointer_click (s.setModTap none) _)
  · exact heard_emit (s.setModTap none) rfl
  · split
    · exact (heard_emit _ rfl).trans ((heard_runButton _ _ _).trans (hpress _))
    · exact (heard_deliverButton _ _ _ _).trans (hpress _)
  · exact (heard_deliverButton _ _ _ _).trans (heard_releaseGrab (s.setModTap none))

theorem heard_process_pointer_axis (source : AxisSource) (horizontal vertical : Option AxisAmount) :
    (s.process_pointer_axis source horizontal vertical).heard = s.heard := by
  unfold process_pointer_axis
  dsimp only
  rw [heard_emit _ rfl]
  split_ifs
  · exact heard_reevaluate_pointer s
  · rfl

/-! ### Outputs and frames -/

theorem heard_output_added (o : OutputId) (info : OutputInfo) :
    (s.output_added o info).heard = s.heard := by
  have hadded : (s.modifyDesk (Desk.addMonitor · o info)).arrange_all.heard = s.heard :=
    heard_arrange_all (s.modifyDesk (Desk.addMonitor · o info))
  exact output_added_kept (P := fun t => t.heard = s.heard) (fun _ h => h)
    (fun t h => (heard_warp_cursor_to_focused t).trans h) (fun _ h => h) (fun _ _ h => h)
    (fun t h => (heard_emit t rfl).trans h) hadded

theorem stages_removeMonitor (d : Desk) (i : ℕ) : (d.removeMonitor i).stages = d.stages := by
  refine Desk.stages_modifyAll d d.windows fun _ st => ?_
  unfold Desk.migrateWindow
  dsimp only
  split_ifs <;> rfl

theorem heard_output_removed (o : OutputId) : (s.output_removed o).heard = s.heard := by
  unfold output_removed
  dsimp only
  rw [heard_arrange_all]
  split
  · rw [heard_emit _ rfl]
    exact heard_modifyDesk (f := (Desk.removeMonitor · _)) (stages_removeMonitor s.desk _)
  · rfl

theorem heard_capture_output (frame : ℕ) (output : Option OutputId) :
    (s.capture_output frame output).heard = s.heard := by
  unfold capture_output
  split_ifs
  · rfl
  · split
    · rfl
    · exact heard_emit (s.modifyScreencopy _) rfl

theorem heard_copy (frame : ℕ) : (s.copy frame).heard = s.heard := by
  unfold copy
  split
  · rfl
  · split_ifs
    · rfl
    · dsimp only
      split
      · exact heard_emit (s.modifyScreencopy _) rfl
      · exact heard_emit (s.modifyScreencopy _) rfl
    · dsimp only
      split
      · exact heard_emit (s.modifyScreencopy _) rfl
      · rfl

theorem heard_serveWith {f : PendingFrame → Effect} (hf : ∀ pf, (f pf).news = none)
    (o : OutputId) : (serveWith f s o).heard = s.heard :=
  (Recency.foldl_keeps heard (fun s pf => s.emit (f pf)) (fun s pf => heard_emit s (hf pf)) _
    (s.modifyScreencopy _)).trans rfl

theorem heard_submit_screencopy_frames (copied : ℕ → Bool) (o : OutputId) :
    (submit_screencopy_frames copied s o).heard = s.heard := by
  refine heard_serveWith s (fun pf => ?_) o
  split_ifs <;> rfl

theorem heard_finish_close : (overview.finish_close s).heard = s.heard := by
  unfold overview.finish_close
  split
  · rfl
  · dsimp only
    split
    · rw [heard_warp_cursor_to_focused, heard_focus_window]
      split_ifs
      · exact heard_dispatch _ _
      · rfl
    · rfl
    · rfl

theorem heard_advance : (overview.advance s).heard = s.heard := by
  unfold overview.advance
  split
  · rfl
  · split_ifs
    · exact heard_finish_close s
    · rfl

theorem heard_afterSlides (transitioning : Bool) :
    (s.afterSlides transitioning).heard = s.heard := by
  have hfocus (t : Rwl) (h : t.heard = s.heard) : t.arrange_all.focus_top.heard = s.heard := by
    rw [heard_focus_top, heard_arrange_all, h]
  exact afterSlides_kept hfocus (fun _ _ h => h) (fun _ _ h => h) rfl transitioning

theorem heard_advanceSlides : s.advanceSlides.heard = s.heard :=
  heard_modifyDesk (stages_of_bare (Desk.bare_advance_tag_transitions s.desk))

theorem heard_finalize_slide_outs : (s.modifyDesk Desk.finalize_slide_outs).heard = s.heard :=
  heard_modifyDesk (stages_of_bare (Desk.bare_finalize_slide_outs s.desk))

theorem heard_on_vblank (o : OutputId) (out : RenderOutcome) :
    (s.on_vblank o out).heard = s.heard := by
  have hanimate : s.refreshSpace.animateVblank.heard = s.heard := by
    unfold animateVblank
    dsimp only
    rw [heard_afterSlides, heard_finalize_slide_outs, heard_advance, heard_advanceSlides]
    rfl
  have hcomposite : (s.refreshSpace.animateVblank.composite o).heard = s.heard :=
    (heard_emit _ rfl).trans hanimate
  unfold on_vblank
  dsimp only
  split_ifs
  · rfl
  · exact hanimate
  · exact hcomposite
  · exact (heard_submit_screencopy_frames _ _ _).trans hcomposite
  · exact (heard_serveWith _ (fun _ => rfl) _).trans hcomposite

theorem heard_render_frame (o : OutputId) (out : RenderOutcome) :
    (s.render_frame o out).heard = s.heard := by
  have hanimate : s.animateWinit.refreshSpace.heard = s.heard := by
    have h : s.animateWinit.heard = s.heard := by
      unfold animateWinit
      dsimp only
      rw [heard_advance, heard_afterSlides, heard_finalize_slide_outs, heard_advanceSlides]
    exact h
  unfold render_frame
  dsimp only
  split_ifs
  · rfl
  · exact (heard_submit_screencopy_frames _ _ _).trans ((heard_emit _ rfl).trans hanimate)
  · exact hanimate

/-! ### Rules and swallowing -/

theorem stages_switchTo (d : Desk) (w : WinId) (i mask : ℕ) :
    (switchTo d w i mask).stages = d.stages := by
  unfold switchTo
  dsimp only
  split
  · exact Desk.stages_update_tag_history d i mask
  · rename_i m _
    split_ifs
    · exact Desk.stages_update_tag_history d i mask
    · let d₂ := (((d.update_tag_history i mask).mark_slide_outs m.tags (mask &&& d.cfg.tag_mask)
        m.w.size.w).modifyMonitor i (Monitor.view d.cfg · mask))
      have hview : d₂.stages = d.stages :=
        (stages_of_bare (Desk.bare_mark_slide_outs _ _ _ _)).trans
          (Desk.stages_update_tag_history d i mask)
      have hjump : (d₂.modifyWindow w fun s => { s with switch_to_tag := some m.tags }).stages =
          d₂.stages := stages_modifyWindow d₂ w fun _ => rfl
      exact hjump.trans hview

theorem stages_settle (d : Desk) (w : WinId) (acc : RuleAccum) :
    (settle d w acc).stages = d.stages := by
  unfold settle
  dsimp only
  rw [stages_modifyWindow]
  · split
    · split_ifs
      · rfl
      · exact stages_switchTo d w _ _
    · rfl
  · exact fun _ => rfl

theorem heard_apply_rules (w : WinId) : (s.apply_rules w).heard = s.heard := by
  unfold apply_rules
  split
  · refine heard_modifyDesk (f := (adoptParent · w _)) ?_
    exact stages_modifyWindow s.desk w fun _ => rfl
  · dsimp only
    split
    · rename_i ov _
      refine (heard_modifyDesk (s := s.fire (.window_rule w)) ?_).trans rfl
      exact (stages_settle _ w _).trans (stages_modifyWindow s.desk w fun _ => rfl)
    · exact (heard_modifyDesk (s := s.fire (.window_rule w)) (stages_settle s.desk w _)).trans rfl

theorem stages_try_swallow (d : Desk) (w : WinId) : (swallow.try_swallow d w).stages = d.stages := by
  unfold swallow.try_swallow
  dsimp only
  split
  · unfold swallow.do_swallow
    dsimp only
    rw [stages_modifyWindow, stages_modifyWindow]
    · exact fun _ => rfl
    · exact fun _ => rfl
  · rfl

theorem stages_on_unmap (d : Desk) (w : WinId) : (swallow.on_unmap d w).stages = d.stages := by
  have hforget (d : Desk) : ({ d with st := d.st.modifyAll d.windows fun _ s =>
      { s with swallowing := if s.swallowing = some w then none else s.swallowing } } :
        Desk).stages = d.stages := Desk.stages_modifyAll d d.windows fun _ _ => rfl
  have hback (term : WinId) : (d.modifyWindow term fun s =>
      { s with is_swallowed := false, tags := (d.st w).tags, mon_idx := (d.st w).mon_idx }).stages =
        d.stages := stages_modifyWindow d term fun _ => rfl
  unfold swallow.on_unmap
  cases swallow.restored d w with
  | none =>
    dsimp only
    split_ifs
    · exact hforget d
    · rfl
  | some term =>
    dsimp only
    split_ifs
    · exact (hforget _).trans (hback term)
    · exact hback term

/-! ### Toplevels -/

/-- **A first commit opens the window.** -/
theorem heard_firstCommit (w : WinId) : (s.firstCommit w).heard =
    ((w, .opened) :: s.heard.1,
      Function.update s.heard.2 w ⟨true, (s.desk.st w).buffer_mapped⟩) := by
  let s₁ := s.modifyDesk fun d => d.modifyWindow w fun st => { st with rules_applied := true }
  have hrules : s₁.heard =
      (s.heard.1, Function.update s.heard.2 w ⟨true, (s.desk.st w).buffer_mapped⟩) :=
    congrArg (s.out.filterMap Effect.news, ·) (Desk.stages_modifyWindow_to s.desk w rfl)
  have hswallow : ((s₁.apply_rules w).modifyDesk (swallow.try_swallow · w)).heard = s₁.heard :=
    (heard_modifyDesk (stages_try_swallow _ w)).trans (heard_apply_rules s₁ w)
  unfold firstCommit
  dsimp only
  rw [heard_tell _ rfl, heard_focus_top, heard_arrange_all, heard_drain]
  exact (congrArg (fun h : List (WinId × News) × (WinId → Stage) =>
    ((w, News.opened) :: h.1, h.2)) (hswallow.trans hrules) :)

theorem heard_firstBuffer (w : WinId) : (s.firstBuffer w).heard =
    (s.heard.1, Function.update s.heard.2 w ⟨(s.desk.st w).rules_applied,
      (s.desk.st w).buffer_mapped || decide (0 < (s.desk.client w).geometry.size.w) &&
        decide (0 < (s.desk.client w).geometry.size.h)⟩) := by
  unfold firstBuffer
  dsimp only
  by_cases hfirst : (s.desk.st w).buffer_mapped = false ∧
      0 < (s.desk.client w).geometry.size.w ∧ 0 < (s.desk.client w).geometry.size.h
  · rw [if_pos hfirst]
    obtain ⟨-, hw, hh⟩ := hfirst
    let s₁ := s.modifyDesk fun d => d.modifyWindow w fun st => { st with buffer_mapped := true }
    have hmapped : s₁.heard =
        (s.heard.1, Function.update s.heard.2 w ⟨(s.desk.st w).rules_applied, true⟩) :=
      congrArg (s.out.filterMap Effect.news, ·) (Desk.stages_modifyWindow_to s.desk w rfl)
    have hwarped : (if s₁.desk.focus_stack.head? = some w then s₁.warp_cursor_to_focused
        else s₁).heard = s₁.heard := by
      split_ifs
      · exact heard_warp_cursor_to_focused s₁
      · rfl
    have htrue : ((s.desk.st w).buffer_mapped || decide (0 < (s.desk.client w).geometry.size.w) &&
        decide (0 < (s.desk.client w).geometry.size.h)) = true := by
      simp [hw, hh]
    rw [htrue, ← hmapped, ← hwarped]
    split_ifs
    · exact (heard_arrange_all _).trans (heard_modifyWindow _ w fun _ => rfl)
    · rfl
    · exact (heard_arrange_all _).trans (heard_modifyWindow _ w fun _ => rfl)
    · rfl
  · rw [if_neg hfirst]
    have hsame : ((s.desk.st w).buffer_mapped ||
        decide (0 < (s.desk.client w).geometry.size.w) &&
          decide (0 < (s.desk.client w).geometry.size.h)) = (s.desk.st w).buffer_mapped := by
      cases hb : (s.desk.st w).buffer_mapped with
      | true => rfl
      | false =>
        rw [Bool.false_or, Bool.and_eq_false_iff, decide_eq_false_iff_not, decide_eq_false_iff_not]
        by_contra hcon
        rw [not_or, not_not, not_not] at hcon
        exact hfirst ⟨hb, hcon.1, hcon.2⟩
    rw [hsame]
    exact Prod.ext rfl (Function.update_eq_self w s.heard.2).symm

theorem stages_centre (d : Desk) (w : WinId) : (centre d w).stages = d.stages := by
  have hclear : (d.modifyWindow w fun st => { st with needs_centering := false }).stages =
      d.stages := stages_modifyWindow d w fun _ => rfl
  unfold centre
  dsimp only
  by_cases hsize : (d.st w).needs_centering ∧ 0 < (d.client w).geometry.size.w ∧
      0 < (d.client w).geometry.size.h
  · rw [if_pos hsize]
    split
    · rfl
    · split_ifs
      · exact hclear
      · refine Eq.trans (stages_modifyWindow _ w ?_) hclear
        exact fun _ => rfl
  · rw [if_neg hsize]

theorem heard_refreshNames (w : WinId) : (s.refreshNames w).heard = s.heard := by
  unfold refreshNames
  dsimp only
  split_ifs
  · exact (heard_emit _ rfl).trans (heard_modifyWindow s w fun _ => rfl)
  · rfl

/-- **What a commit on a window tells**: it opens the window when its rules have not run. -/
theorem heard_commit_window (w : WinId) (initial_sent : Bool) :
    ∃ mapped, ((s.desk.st w).buffer_mapped = true → mapped = true) ∧
      (s.commit_window w initial_sent).heard =
        ((if (s.desk.st w).rules_applied then [] else [(w, News.opened)]) ++ s.heard.1,
          Function.update s.heard.2 w ⟨true, mapped⟩) := by
  have hend (s : Rwl) : ((s.modifyDesk (centre · w)).refreshNames w).heard = s.heard := by
    rw [heard_refreshNames]
    exact heard_modifyDesk (f := (centre · w)) (stages_centre s.desk w)
  have hbuffer {s₁ : Rwl} {l : List (WinId × News)}
      (h : s₁.heard = (l, Function.update s.heard.2 w ⟨true, (s.desk.st w).buffer_mapped⟩)) :
      ∃ mapped, ((s.desk.st w).buffer_mapped = true → mapped = true) ∧
        (((s₁.firstBuffer w).modifyDesk (centre · w)).refreshNames w).heard =
          (l, Function.update s.heard.2 w ⟨true, mapped⟩) := by
    have hstage : (s₁.desk.st w).stage = ⟨true, (s.desk.st w).buffer_mapped⟩ := by
      exact (congrFun (congrArg Prod.snd h) w).trans (Function.update_self ..)
    obtain ⟨hrules, hmapped⟩ := Stage.mk.inj hstage
    have hrun := heard_firstBuffer s₁ w
    rw [h, hrules, hmapped, Function.update_idem] at hrun
    exact ⟨_, fun hb => by rw [hb, Bool.true_or], (hend _).trans hrun⟩
  unfold commit_window
  dsimp only
  cases hr : (s.desk.st w).rules_applied with
  | false => exact hbuffer (heard_firstCommit s w)
  | true =>
    have hsame : s.heard =
        (s.heard.1, Function.update s.heard.2 w ⟨true, (s.desk.st w).buffer_mapped⟩) := by
      refine Prod.ext rfl (Function.update_eq_self_iff.2 ?_).symm
      rw [← hr]
      rfl
    rw [if_neg (by decide)]
    refine hbuffer (l := s.heard.1) ?_
    split_ifs
    · exact (heard_arrange_all s).trans hsame
    · exact hsame

theorem heard_commit_layer (i : ℕ) : (s.commit_layer i).heard = s.heard := by
  unfold commit_layer
  dsimp only
  rw [heard_update_layer_focus]
  split
  · rfl
  · split_ifs
    · exact heard_arrange _ _
    · rfl

theorem heard_auto_back (i tags : ℕ) (prev : Option ℕ) :
    (auto_back_empty_tag.on_window_closed s i tags prev).heard = s.heard := by
  have hrepeat (s : Rwl) : s.cancelRepeat.heard = s.heard := rfl
  unfold auto_back_empty_tag.on_window_closed
  split_ifs
  · rfl
  · dsimp only
    split
    · rfl
    · rw [heard_focus_top, heard_start_tag_transition, heard_arrange_all, hrepeat,
        heard_mark_slide_outs]
      rfl

/-- **A toplevel that had a buffer is closed.** -/
theorem heard_windowGone (w : WinId) : (s.windowGone w).heard =
    ((if (s.desk.st w).buffer_mapped then [(w, News.closed)] else []) ++ s.heard.1, s.heard.2) := by
  have hpip : ((pip.on_window_closed s w).modifyDesk fun d =>
      { d with space := Space.unmap_elem d.space w }).heard = s.heard :=
    heard_pip_on_window_closed s w
  have hback (i tags : ℕ) (prev : Option ℕ) := (heard_auto_back _ i tags prev).trans hpip
  unfold windowGone
  dsimp only
  split_ifs
  · rw [heard_tell _ rfl, heard_drain]
    exact (congrArg (fun h : List (WinId × News) × (WinId → Stage) =>
      ((w, News.closed) :: h.1, h.2)) (hback _ _ _) :)
  · rw [heard_tell _ rfl, heard_drain]
    exact (congrArg (fun h : List (WinId × News) × (WinId → Stage) =>
      ((w, News.closed) :: h.1, h.2)) hpip :)
  · exact hback _ _ _
  · exact hpip

theorem heard_refocus (was_visible : Bool) (restored : Option WinId) :
    (s.refocus was_visible restored).heard = s.heard := by
  have hfocus (w : Option WinId) : ((s.focus_window w).arrange_all).heard = s.heard := by
    rw [heard_arrange_all, heard_focus_window]
  unfold refocus
  dsimp only
  split_ifs
  · rw [heard_overview_on_window_closed, heard_warp_cursor_to_focused, hfocus]
  · exact hfocus _

theorem heard_toplevel_destroyed (f : SurfaceId) : (s.toplevel_destroyed f).heard =
    ((match s.desk.window_map f with
      | some w => if (s.desk.st w).buffer_mapped then [(w, News.closed)] else []
      | none => []) ++ s.heard.1, s.heard.2) := by
  unfold toplevel_destroyed
  dsimp only
  cases s.desk.window_map f with
  | none => exact heard_refocus (s.modifyDesk (dropToplevel · f)) false none
  | some w =>
    dsimp only
    rw [heard_refocus]
    refine (heard_modifyDesk (f := (swallow.on_unmap · w)) (stages_on_unmap _ w)).trans ?_
    exact heard_windowGone (s.modifyDesk (dropToplevel · f)) w

theorem heard_fullscreen_request (f : SurfaceId) (fs : Bool) :
    (s.fullscreen_request f fs).heard = s.heard := by
  unfold fullscreen_request
  split
  · rename_i w _
    have hset : (s.modifyDesk (set_fullscreen · w fs)).arrange_all.heard = s.heard :=
      (heard_arrange_all _).trans (heard_set_fullscreen s w fs)
    dsimp only
    split_ifs
    · exact (heard_emit _ rfl).trans hset
    · exact hset
  · rfl

theorem heard_check_toplevel_titles : s.check_toplevel_titles.heard = s.heard := by
  have hcheck (s : Rwl) (w : WinId) : (s.checkTitle w).heard = s.heard := by
    have hnames (title appid : Option String) : (s.modifyDesk fun d => d.modifyWindow w fun st =>
        { st with last_title := title, last_appid := appid }).heard = s.heard :=
      heard_modifyWindow s w fun _ => rfl
    unfold checkTitle
    dsimp only
    split_ifs
    · exact hnames _ _
    · rw [heard_emit _ rfl]
      split
      · exact hnames _ _
      · exact hnames _ _
  unfold check_toplevel_titles
  split_ifs
  · rfl
  · exact (heard_emit _ rfl).trans (Recency.foldl_keeps heard checkTitle hcheck _ s)

theorem heard_dialog_hint_changed (f : SurfaceId) : (s.dialog_hint_changed f).heard = s.heard := by
  unfold dialog_hint_changed
  split
  · rfl
  · split_ifs
    · rfl
    · exact (heard_arrange_all _).trans (heard_modifyWindow s _ fun _ => rfl)

theorem heard_request_activation (f : SurfaceId) : (s.request_activation f).heard = s.heard := by
  unfold request_activation
  split
  · rfl
  · rename_i w _
    have hurgent : (s.modifyDesk fun d => d.modifyWindow w fun st =>
        { st with is_urgent := true }).heard = s.heard := heard_modifyWindow s w fun _ => rfl
    split_ifs
    · rfl
    · dsimp only
      rw [heard_focus_urgent, heard_emit _ rfl]
      exact hurgent

/-- **What a change of parent does**: the rules of a tiled window run again. -/
theorem heard_parent_changed (f : SurfaceId) : (s.parent_changed f).heard =
    (s.heard.1, match s.desk.window_map f with
      | some w =>
          if (s.desk.client w).toplevel_parent.isSome ∧ (s.desk.st w).is_floating = false then
            Function.update s.heard.2 w ⟨false, (s.desk.st w).buffer_mapped⟩
          else s.heard.2
      | none => s.heard.2) := by
  unfold parent_changed
  cases s.desk.window_map f with
  | none => rfl
  | some w =>
    dsimp only
    split_ifs
    · exact congrArg (s.out.filterMap Effect.news, ·) (Desk.stages_modifyWindow_to s.desk w rfl)
    · rfl

/-! ### Fresh windows -/

theorem stages_insertWindow (d : Desk) (w : WinId) (c : Client) {f : WindowState → WindowState}
    (hf : ∀ st, (f st).stage = st.stage) :
    (insertWindow d w c f).stages = Function.update d.stages w ⟨false, false⟩ := by
  funext v
  by_cases hvw : v = w
  · subst hvw
    simp only [Desk.stages, insertWindow, Function.update_self]
    exact hf _
  · simp [Desk.stages, insertWindow, hvw]

theorem heard_new_toplevel (w : WinId) (c : Client) : (s.new_toplevel w c).heard =
    (s.heard.1, Function.update s.heard.2 w ⟨false, false⟩) := by
  have hinsert : (s.modifyDesk fun d =>
      { insertWindow d w c id with focus_stack := Recency.toFront w d.focus_stack }).heard =
        (s.heard.1, Function.update s.heard.2 w ⟨false, false⟩) :=
    congrArg (s.out.filterMap Effect.news, ·) (stages_insertWindow s.desk w c fun _ => rfl)
  unfold new_toplevel
  dsimp only
  rw [heard_emit _ rfl]
  split_ifs
  · exact (heard_followFocus _ _ _).trans hinsert
  · exact hinsert

theorem stages_center_x11 (d : Desk) (w : WinId) : (d.center_x11 w).stages = d.stages := by
  unfold Desk.center_x11
  dsimp only
  split_ifs
  · rfl
  · split
    · rfl
    · exact stages_modifyWindow d w fun _ => rfl

theorem heard_map_x11_window (w : WinId) (c : Client) : (s.map_x11_window w c).heard =
    (s.heard.1, Function.update s.heard.2 w ⟨false, false⟩) := by
  have hinsert : (insertWindow s.desk w c fun st =>
      { st with is_floating := c.window_is_float_type }).stages =
        Function.update s.desk.stages w ⟨false, false⟩ :=
    stages_insertWindow s.desk w c fun _ => rfl
  unfold map_x11_window
  dsimp only
  rw [heard_emit _ rfl, heard_arrange_all, heard_focus_window]
  refine congrArg (s.out.filterMap Effect.news, ·) ?_
  split_ifs
  · exact (stages_center_x11 _ w).trans hinsert
  · exact hinsert

theorem heard_map_x11_override_redirect (w : WinId) (c : Client) :
    (s.map_x11_override_redirect w c).heard =
      (s.heard.1, Function.update s.heard.2 w ⟨true, false⟩) := by
  have hinsert : (s.desk.insertOverride w c).stages =
      Function.update s.desk.stages w ⟨true, false⟩ := by
    funext v
    by_cases hvw : v = w
    · subst hvw
      simp [Desk.stages, Desk.insertOverride, WindowState.stage, WindowState.new]
    · simp [Desk.stages, Desk.insertOverride, hvw]
  exact congrArg (s.out.filterMap Effect.news, ·) hinsert

/-! ### X11 windows -/

theorem heard_settleX11 : s.settleX11.heard = s.heard := by
  rw [settleX11, heard_emit _ rfl, heard_arrange_all, heard_focus_top]

theorem heard_unmap_x11_window (xid : ℕ) : (s.unmap_x11_window xid).heard = s.heard := by
  unfold unmap_x11_window
  split
  · rfl
  · dsimp only
    split_ifs
    · rfl
    · exact heard_settleX11 _

theorem heard_surface_associated (xid : ℕ) (f : SurfaceId) :
    (s.surface_associated xid f).heard = s.heard := by
  refine heard_modifyDesk ?_
  dsimp only
  split <;> rfl

theorem heard_x11_property_notify (xid : ℕ) : (s.x11_property_notify xid).heard = s.heard := by
  unfold x11_property_notify
  split
  · rfl
  · rename_i w _
    dsimp only
    split_ifs
    · rfl
    · rw [heard_emit _ rfl, heard_arrange_all]
      exact heard_modifyDesk (f := fun d => Desk.center_x11 (d.modifyWindow w fun st =>
        { st with is_floating := true }) w)
          ((stages_center_x11 _ w).trans (stages_modifyWindow s.desk w fun _ => rfl))

theorem heard_x11_configure_request (xid : ℕ) (x y : Option ℤ) :
    (s.x11_configure_request xid x y).heard = s.heard := by
  unfold x11_configure_request
  split
  · rfl
  · dsimp only
    split_ifs
    · exact heard_modifyDesk (stages_modifyWindow s.desk _ fun _ => rfl)
    · rfl

theorem heard_x11_fullscreen_request (xid : ℕ) (fs : Bool) :
    (s.x11_fullscreen_request xid fs).heard = s.heard := by
  unfold x11_fullscreen_request
  split
  · exact (heard_arrange_all _).trans (heard_set_fullscreen s _ fs)
  · rfl

theorem heard_x11_disconnected : s.x11_disconnected.heard = s.heard := by
  unfold x11_disconnected
  split_ifs
  · rfl
  · exact heard_settleX11 _

/-! ### Events -/

theorem heard_ipc_command (cmd : IpcCmd) (which : Option ℕ) (val : ℕ) :
    (s.ipc_command cmd which val).heard = s.heard := by
  have happly (d : Desk) (i : ℕ) : (ipcApply cmd val d i).stages = d.stages := by
    have hhistory (tags : ℕ) : (if i = d.sel_mon then d.update_tag_history i tags else d).stages =
        d.stages := by
      split_ifs
      · exact Desk.stages_update_tag_history d i tags
      · rfl
    unfold ipcApply
    dsimp only
    cases cmd with
    | view =>
      dsimp only
      by_cases hmask : val &&& d.cfg.tag_mask = 0
      · rw [if_pos hmask]
      · rw [if_neg hmask]
        exact (stages_of_bare (Desk.bare_mark_slide_outs _ _ _ _)).trans (hhistory _)
    | toggleview =>
      dsimp only
      split_ifs
      · rfl
      · exact Desk.stages_update_tag_history d i _
      · rfl
    | setlayout => rfl
  have hall : ((s.modifyDesk fun d => (ipcOutputs s.desk which).foldl (ipcApply cmd val)
      d).arrange_all).heard = s.heard :=
    (heard_arrange_all _).trans
      (heard_modifyDesk (Recency.foldl_keeps Desk.stages (ipcApply cmd val) happly _ s.desk))
  have htag (l : List ℕ) (s : Rwl) :
      (l.foldl (fun s idx => s.emit (.event (.tag idx))) s).heard = s.heard :=
    Recency.foldl_keeps heard (fun s idx => s.emit (.event (.tag idx))) (fun s _ => heard_emit s rfl) l s
  unfold ipc_command
  dsimp only
  split_ifs
  · exact (heard_focus_top _).trans hall
  · exact hall
  · exact (htag _ _).trans ((heard_focus_top _).trans hall)
  · exact (htag _ _).trans hall

/-- The events that concern the life of windows. -/
def Event.isLife : Event → Bool
  | .new_toplevel .. | .toplevel_destroyed .. | .commit .. | .parent_changed .. => true
  | .x11_map .. | .x11_map_override .. => true
  | _ => false

/-- **No other event tells of windows.** -/
theorem heard_step (e : Event) (he : e.isLife = false) : (step s e).heard = s.heard := by
  cases e with
  | new_toplevel | toplevel_destroyed | commit | parent_changed | x11_map
  | x11_map_override => cases he
  | idle => exact heard_drain s
  | titles => exact heard_check_toplevel_titles s
  | key code pressed => exact heard_process_key_event s code pressed
  | repeat_tick => exact heard_key_repeat_tick s
  | motion dx dy => exact heard_pointerTo s true _
  | motion_abs fx fy => exact heard_pointerTo s false _
  | button btn pressed serial => exact heard_process_pointer_button s btn pressed serial
  | axis source horizontal vertical => exact heard_process_pointer_axis s source horizontal vertical
  | auth i ok => exact heard_worker_done s i ok
  | flash =>
    simp only [step, flash_expired]
    split_ifs <;> rfl
  | ext_lock obj client => exact heard_ext_lock s obj client
  | ext_unlock obj => exact heard_ext_unlock s obj
  | ext_destroy obj =>
    simp only [step, ext_destroy]
    split_ifs <;> rfl
  | ext_get_surface obj surface output => exact heard_ext_get_surface s obj surface output
  | ipc a =>
    simp only [step]
    split_ifs
    · exact heard_dispatch s a
    · rfl
  | ipc_outputs cmd which val => exact heard_ipc_command s cmd which val
  | ipc_focusurgent => exact heard_focus_urgent s
  | ipc_resume => exact heard_release_all_pressed_keys s
  | fullscreen_request f fs => exact heard_fullscreen_request s f fs
  | move_request f =>
    simp only [step, move_request]
    split
    · exact heard_start_move s _
    · rfl
  | resize_request f =>
    simp only [step, resize_request]
    split
    · exact heard_start_resize s _
    · rfl
  | dialog_hint_changed f => exact heard_dialog_hint_changed s f
  | request_activation f => exact heard_request_activation s f
  | x11_unmapped xid => exact heard_unmap_x11_window s xid
  | x11_destroyed xid => exact heard_unmap_x11_window s xid
  | x11_associated xid f => exact heard_surface_associated s xid f
  | x11_property xid => exact heard_x11_property_notify s xid
  | x11_configure_request xid x y => exact heard_x11_configure_request s xid x y
  | x11_configure_notify xid loc =>
    simp only [step, x11_configure_notify]
    split <;> rfl
  | x11_move_request xid =>
    simp only [step, x11_move_request]
    split
    · exact heard_start_move s _
    · rfl
  | x11_resize_request xid =>
    simp only [step, x11_resize_request]
    split
    · exact heard_start_resize s _
    · rfl
  | x11_fullscreen_request xid fs => exact heard_x11_fullscreen_request s xid fs
  | x11_disconnected => exact heard_x11_disconnected s
  | layer_destroyed f =>
    simp only [step, layer_destroyed]
    rw [heard_update_layer_focus, heard_arrange_all]
    rfl
  | output_added o info =>
    simp only [step]
    split_ifs
    · rfl
    · exact heard_output_added s o info
  | output_removed o => exact heard_output_removed s o
  | capture_output frame output => exact heard_capture_output s frame output
  | copy frame => exact heard_copy s frame
  | vblank o out => exact heard_on_vblank s o out
  | winit_frame o out => exact heard_render_frame s o out
  | _ => rfl

end Rwl

end Compositor
