import Mathlib.Tactic.Common
import Rwl.Core.Step
import Rwl.Theory.Composites

/-!
# What the event stream tells of windows

An `open` event leaves the compositor at the first commit of a window, a `close` event when a
toplevel goes. Nothing else sends one of them, and nothing else changes how far a window is.

* `News`, `Effect.news`: the part of the event stream that is about the life of windows;
* `Stage`: how far a window is; it has its rules, and it has a buffer;
* `heard`: the news sent and the stages of the windows;
* one lemma for each function of the compositor that leaves both alone.
-/

namespace Compositor

/-- What the event stream tells of the life of a window. -/
inductive News
  | opened
  | closed
  deriving DecidableEq

/-- The news an effect carries. -/
def Effect.news : Effect → Option (WinId × News)
  | .event (.open w) => some (w, .opened)
  | .event (.close w) => some (w, .closed)
  | _ => none

/-- How far a window is: whether its rules have run and whether it has had a buffer. -/
structure Stage where
  rules_applied : Bool
  buffer_mapped : Bool
  deriving DecidableEq

/-- The stage of a window. -/
def WindowState.stage (s : WindowState) : Stage := ⟨s.rules_applied, s.buffer_mapped⟩

namespace Desk

/-- The stages of all windows. -/
def stages (d : Desk) (w : WinId) : Stage := (d.st w).stage

theorem stages_of_bare {d d' : Desk} (h : d'.bare = d.bare) : d'.stages = d.stages :=
  (congrArg (fun b : Desk => b.stages) h :)

theorem stages_modifyWindow (d : Desk) (w : WinId) {f : WindowState → WindowState}
    (h : ∀ s, (f s).stage = s.stage) : (d.modifyWindow w f).stages = d.stages :=
  funext fun v => Windows.modify_field WindowState.stage d.st w v f h

theorem stages_modifyAll (d : Desk) (l : List WinId) {f : WinId → WindowState → WindowState}
    (h : ∀ w s, (f w s).stage = s.stage) :
    ({ d with st := d.st.modifyAll l f } : Desk).stages = d.stages :=
  funext fun v => Windows.modifyAll_field WindowState.stage d.st l v f h

/-- A window of one stage becomes one of another. -/
theorem stages_modifyWindow_to (d : Desk) (w : WinId) {f : WindowState → WindowState} {g : Stage}
    (h : (f (d.st w)).stage = g) :
    (d.modifyWindow w f).stages = Function.update d.stages w g := by
  funext v
  by_cases hvw : v = w
  · subst hvw
    simp [stages, modifyWindow, h]
  · simp [stages, modifyWindow, hvw]

theorem stages_set_window_tags (d : Desk) (w : WinId) (tags : ℕ) :
    (d.set_window_tags w tags).stages = d.stages :=
  stages_modifyWindow d w fun _ => rfl

theorem stages_update_tag_history (d : Desk) (i tags : ℕ) :
    (d.update_tag_history i tags).stages = d.stages := by
  unfold update_tag_history
  split
  · split_ifs <;> rfl
  · rfl

end Desk

namespace Rwl

/-- The news sent, newest first, and the stages of the windows. -/
def heard (s : Rwl) : List (WinId × News) × (WinId → Stage) :=
  (s.out.filterMap Effect.news, s.desk.stages)

variable (s : Rwl)

/-! ### Small updates -/

theorem heard_emit {e : Effect} (h : e.news = none) : (s.emit e).heard = s.heard :=
  congrArg (·, s.desk.stages) (List.filterMap_cons_none h)

theorem heard_tell {e : Effect} {n : WinId × News} (h : e.news = some n) :
    (s.emit e).heard = (n :: s.heard.1, s.heard.2) :=
  congrArg (·, s.desk.stages) (List.filterMap_cons_some h)

variable {s} in
theorem heard_modifyDesk {f : Desk → Desk} (h : (f s.desk).stages = s.desk.stages) :
    (s.modifyDesk f).heard = s.heard :=
  congrArg (s.out.filterMap Effect.news, ·) h

theorem heard_modifyWindow (w : WinId) {f : WindowState → WindowState}
    (h : ∀ st, (f st).stage = st.stage) :
    (s.modifyDesk fun d => d.modifyWindow w f).heard = s.heard :=
  heard_modifyDesk (Desk.stages_modifyWindow s.desk w h)

theorem heard_ptr_motion (f : Option SurfaceId) (loc : PointF) :
    (s.ptr_motion f loc).heard = s.heard :=
  heard_emit (s.modifySeat (Seat.motion · f loc)) rfl

theorem heard_reevaluate_pointer : s.reevaluate_pointer.heard = s.heard :=
  heard_ptr_motion s _ _

theorem heard_refresh_pointer_focus : s.refresh_pointer_focus.heard = s.heard := by
  unfold refresh_pointer_focus
  split_ifs
  · rfl
  · rfl
  · exact heard_reevaluate_pointer s

theorem heard_arrange (i : ℕ) : (s.arrange i).heard = s.heard :=
  heard_modifyDesk (Desk.stages_of_bare (Desk.bare_arrange s.desk i))

theorem heard_arrange_all : s.arrange_all.heard = s.heard := by
  rw [arrange_all, heard_refresh_pointer_focus, heard_emit _ rfl]
  exact heard_modifyDesk (Desk.stages_of_bare (Desk.bare_arrangePasses s.desk))

theorem heard_mark_slide_outs (old new : ℕ) (ow : ℚ) :
    (s.modifyDesk (Desk.mark_slide_outs · old new ow)).heard = s.heard :=
  heard_modifyDesk (Desk.stages_of_bare (Desk.bare_mark_slide_outs s.desk old new ow))

theorem heard_start_tag_transition (old new : ℕ) (ow : ℚ) :
    (s.modifyDesk (Desk.start_tag_transition · old new ow)).heard = s.heard :=
  heard_modifyDesk (Desk.stages_of_bare (Desk.bare_start_tag_transition s.desk old new ow))

/-! ### Focusing -/

theorem heard_fireFocus (w : WinId) : (s.fireFocus w).heard = s.heard := by
  unfold fireFocus
  split_ifs <;> rfl

theorem heard_notifyFocus : s.notifyFocus.heard = s.heard := by
  unfold notifyFocus
  dsimp only
  split
  · rw [heard_emit _ rfl, heard_fireFocus, heard_emit _ rfl]
  · rw [heard_emit _ rfl, heard_emit _ rfl]

theorem heard_followFocus (w : WinId) (prev : Option WinId) :
    (s.followFocus w prev).heard = s.heard := by
  have hsel : ((s.modifyDesk fun d => { d with sel_mon := (s.desk.st w).mon_idx }).arrange
      (s.desk.st w).mon_idx).heard = s.heard := (heard_arrange _ _).trans rfl
  unfold followFocus
  dsimp only
  split
  · split_ifs
    · rw [heard_arrange, hsel]
    · exact hsel
  · exact hsel

theorem heard_focusChanged (prev : Option WinId) : (s.focusChanged prev).heard = s.heard := by
  unfold focusChanged
  split
  · rw [heard_followFocus, heard_notifyFocus]
  · rw [heard_arrange_all, heard_notifyFocus]

theorem heard_raise (w : WinId) : (s.modifyDesk (raise · w)).heard = s.heard :=
  heard_modifyDesk (Desk.stages_modifyWindow
    { s.desk with focus_stack := Recency.toFront w s.desk.focus_stack } w fun _ => rfl)

/-- **Focusing tells nothing of the life of windows.** -/
theorem heard_focus_window (window : Option WinId) : (s.focus_window window).heard = s.heard := by
  have hfocus {s₁ : Rwl} (h₁ : s₁.heard = s.heard) (f : Option SurfaceId) (prev : Option WinId) :
      (if s₁.session.locked then s₁
        else if (s₁.kb_set_focus f).desk.focus_stack.head? = prev then s₁.kb_set_focus f
        else (s₁.kb_set_focus f).focusChanged prev).heard = s.heard := by
    split_ifs
    · exact h₁
    · exact h₁
    · exact (heard_focusChanged _ _).trans h₁
  cases window with
  | none => exact hfocus rfl _ _
  | some w => exact hfocus (heard_raise s w) _ _

theorem heard_focus_top : s.focus_top.heard = s.heard := heard_focus_window s _

theorem heard_update_layer_focus : s.update_layer_focus.heard = s.heard := by
  unfold update_layer_focus
  split_ifs
  · rfl
  · split <;> rfl

/-! ### The overview and interactive grabs -/

theorem heard_warp_cursor_to_focused : s.warp_cursor_to_focused.heard = s.heard := by
  unfold warp_cursor_to_focused
  split_ifs
  · rfl
  · split
    · exact heard_ptr_motion s _ _
    · rfl

theorem heard_choose (ov : OverviewState) (i : Option ℕ) :
    (overview.choose s ov i).heard = s.heard := by
  unfold overview.choose
  split <;> rfl

theorem heard_overview_toggle (all_tags : Bool) : (overview.toggle s all_tags).heard = s.heard := by
  unfold overview.toggle
  split_ifs
  · rfl
  · split
    · rfl
    · dsimp only
      split_ifs <;> rfl

theorem heard_kill_selected : (overview.kill_selected s).heard = s.heard := by
  unfold overview.kill_selected
  split
  · split_ifs
    · exact heard_emit s rfl
    · rfl
  · rfl

theorem heard_overview_on_window_closed : (overview.on_window_closed s).heard = s.heard := by
  unfold overview.on_window_closed
  split
  · rfl
  · split
    · rfl
    · dsimp only
      split_ifs <;> rfl

theorem heard_type_char (c : Char) : (overview.type_char s c).heard = s.heard := by
  unfold overview.type_char
  split
  · rfl
  · dsimp only
    split_ifs
    · rfl
    · exact heard_choose _ _ _

theorem heard_handle_key (keysym : ℕ) : (overview.handle_key s keysym).heard = s.heard := by
  unfold overview.handle_key
  split_ifs
  · rfl
  · rfl
  · unfold overview.select_best
    split
    · rfl
    · exact heard_choose s _ _
  · rfl
  · rfl
  · rfl
  · split
    · exact heard_type_char s _
    · rfl

theorem heard_handle_pointer_click (loc : PointF) :
    (overview.handle_pointer_click s loc).heard = s.heard := by
  unfold overview.handle_pointer_click
  split
  · rfl
  · exact heard_choose s _ _

theorem heard_pip_toggle : (pip.toggle s).heard = s.heard := by
  unfold pip.toggle
  split_ifs
  · rfl
  · split <;> rfl

theorem heard_pip_on_window_closed (w : WinId) : (pip.on_window_closed s w).heard = s.heard := by
  unfold pip.on_window_closed
  split_ifs <;> rfl

theorem heard_start_move (w : WinId) : (grab.start_move s w).heard = s.heard := by
  rw [grab.start_move, grab.begin, heard_focus_window]
  exact heard_modifyWindow s w fun _ => rfl

theorem heard_start_resize (w : WinId) : (grab.start_resize s w).heard = s.heard := by
  rw [grab.start_resize, grab.begin, heard_focus_window]
  rfl

theorem heard_handle_move (loc : PointF) : (grab.handle_move s loc).heard = s.heard := by
  unfold grab.handle_move
  split <;> rfl

theorem stages_apply_cfact (g : Grab) (w : WinId) (len : ℤ) (delta : ℚ) (d : Desk) :
    (grab.apply_cfact g w len delta d).stages = d.stages := by
  unfold grab.apply_cfact
  split_ifs
  · rfl
  · exact Desk.stages_modifyWindow d w fun _ => rfl

theorem heard_handle_resize (loc : PointF) : (grab.handle_resize s loc).heard = s.heard := by
  have hdrag (g : Grab) (w : WinId) (i : ℕ) (len : ℤ) (d₁ d₂ : ℚ) (area : Monitor → ℤ) :
      ((s.modifyDesk fun d =>
        grab.apply_cfact g w len d₁ (grab.dragSplit g i d₂ area d)).arrange i).heard = s.heard := by
    rw [heard_arrange]
    exact heard_modifyDesk (stages_apply_cfact g w len d₁ (grab.dragSplit g i d₂ area s.desk))
  unfold grab.handle_resize
  split
  · dsimp only
    split_ifs
    · rfl
    · split
      · rfl
      · split
        · exact hdrag ..
        · exact hdrag ..
        · exact hdrag ..
        · split
          · exact heard_arrange _ _
          · rfl
        · split_ifs
          · exact heard_arrange _ _
          · rfl
        · split_ifs
          · exact heard_arrange _ _
          · rfl
        · rfl
        · rfl
  · rfl

theorem heard_end_grab : (grab.end_grab s).heard = s.heard := by
  unfold grab.end_grab
  dsimp only
  split_ifs
  · rw [heard_arrange_all]
    split
    · exact heard_modifyWindow s _ fun _ => rfl
    · rfl
  · split <;> rfl

/-! ### Actions -/

theorem heard_spawn (cmd : List String) : (s.spawn cmd).heard = s.heard := by
  unfold spawn
  split_ifs
  · rfl
  · exact heard_emit s rfl

theorem heard_kill_focused : s.kill_focused.heard = s.heard := by
  unfold kill_focused
  split
  · exact heard_emit s rfl
  · rfl

theorem heard_zoom : s.zoom.heard = s.heard := by
  unfold zoom
  split
  · rfl
  · split_ifs
    · rw [heard_arrange_all, heard_focus_window]
      rfl
    · rfl

theorem heard_focus_urgent : s.focus_urgent.heard = s.heard := by
  unfold focus_urgent
  split
  · rfl
  · dsimp only
    rw [heard_focus_window, heard_arrange_all]
    split_ifs <;> rfl

theorem heard_focus_stack_step (dir : ℤ) : (s.focus_stack_step dir).heard = s.heard := by
  unfold focus_stack_step
  split
  · exact heard_focus_window s _
  · rfl

theorem stages_showTags (d : Desk) (mask : ℕ) : (showTags d mask).stages = d.stages :=
  (rfl : _ = (d.update_tag_history d.sel_mon mask).stages).trans
    (Desk.stages_update_tag_history d _ _)

theorem heard_slideTo (old new : ℕ) (ow : ℚ) : (s.slideTo old new ow).heard = s.heard := by
  rw [slideTo, heard_focus_top, heard_start_tag_transition, heard_arrange_all,
    heard_mark_slide_outs]

theorem heard_view (mask : ℕ) : (s.view mask).heard = s.heard := by
  rw [view, heard_slideTo]
  exact heard_modifyDesk (stages_showTags s.desk mask)

theorem heard_view_next_occ_tag (dir : ℤ) : (s.view_next_occ_tag dir).heard = s.heard := by
  unfold view_next_occ_tag
  split
  · exact heard_view s _
  · rfl

theorem heard_view_prev : s.view_prev.heard = s.heard := by
  unfold view_prev
  dsimp only
  rw [heard_slideTo]
  exact heard_modifyDesk ((rfl : _ = (s.desk.update_tag_history s.desk.sel_mon _).stages).trans
    (Desk.stages_update_tag_history s.desk _ _))

theorem heard_toggle_view (mask : ℕ) : (s.toggle_view mask).heard = s.heard := by
  unfold toggle_view
  dsimp only
  rw [heard_focus_top, heard_arrange_all]
  split_ifs
  · exact heard_modifyDesk (f := (Desk.update_tag_history · _ _))
      (Desk.stages_update_tag_history s.desk _ _)
  · rfl

theorem heard_view_tag_spawn (mask : ℕ) : (s.view_tag_spawn mask).heard = s.heard := by
  have hshow (mask : ℕ) : (s.modifyDesk (showTags · mask)).heard = s.heard :=
    heard_modifyDesk (stages_showTags s.desk mask)
  unfold view_tag_spawn
  dsimp only
  rw [heard_slideTo]
  split_ifs
  · split
    · rw [heard_spawn, hshow]
    · exact hshow _
  · exact hshow _

theorem heard_set_window_tags (w : WinId) (tags : ℕ) :
    (s.modifyDesk (Desk.set_window_tags · w tags)).heard = s.heard :=
  heard_modifyDesk (Desk.stages_set_window_tags s.desk w tags)

theorem heard_tag (mask : ℕ) : (s.tag mask).heard = s.heard := by
  unfold tag
  dsimp only
  split_ifs
  · rfl
  · rw [heard_focus_top, heard_arrange_all]
    split
    · exact (heard_modifyDesk (stages_showTags _ _)).trans (heard_set_window_tags s _ _)
    · rfl
  · rw [heard_focus_top, heard_arrange_all]
    split
    · exact heard_set_window_tags s _ _
    · rfl

theorem heard_toggle_tag (mask : ℕ) : (s.toggle_tag mask).heard = s.heard := by
  unfold toggle_tag
  dsimp only
  rw [heard_arrange_all]
  split
  · split_ifs
    · exact heard_set_window_tags s _ _
    · rfl
  · rfl

theorem heard_focus_mon (dir : ℤ) : (s.focus_mon dir).heard = s.heard := by
  unfold focus_mon
  split
  · dsimp only
    rw [heard_arrange_all, heard_focus_window]
    rfl
  · rfl

theorem heard_sendTo (w : WinId) (next : ℕ) :
    (s.modifyDesk (sendTo · w next)).heard = s.heard :=
  heard_modifyDesk (Desk.stages_modifyWindow s.desk w fun _ => rfl)

theorem heard_tag_mon (dir : ℤ) : (s.tag_mon dir).heard = s.heard := by
  unfold tag_mon
  split
  · dsimp only
    rw [heard_arrange_all]
    split_ifs
    · exact (heard_focus_window _ _).trans (heard_sendTo s _ _)
    · exact heard_sendTo s _ _
  · rfl

theorem heard_relayout (f : Config → Monitor → Monitor) : (s.relayout f).heard = s.heard :=
  heard_arrange_all _

theorem heard_inc_nmaster (delta : ℤ) : (s.inc_nmaster delta).heard = s.heard := by
  rw [inc_nmaster, heard_relayout]

theorem heard_set_mfact (delta : ℚ) : (s.set_mfact delta).heard = s.heard := by
  rw [set_mfact, heard_relayout]

theorem heard_set_layout (idx : ℕ) : (s.set_layout idx).heard = s.heard := by
  rw [set_layout, heard_relayout]

theorem heard_reset_layout : s.reset_layout.heard = s.heard := by
  rw [reset_layout, heard_relayout]

theorem heard_cycle_layout : s.cycle_layout.heard = s.heard := by
  unfold cycle_layout
  dsimp only
  split_ifs
  · exact heard_arrange_all s
  · exact heard_set_layout s _

theorem heard_toggle_gaps : s.toggle_gaps.heard = s.heard := heard_arrange_all _

theorem heard_toggle_focused_floating : s.toggle_focused_floating.heard = s.heard := by
  unfold toggle_focused_floating
  split
  · rw [heard_arrange_all]
    exact heard_modifyWindow s _ fun _ => rfl
  · rfl

theorem heard_set_fullscreen (w : WinId) (fs : Bool) :
    (s.modifyDesk (set_fullscreen · w fs)).heard = s.heard :=
  heard_modifyDesk (Desk.stages_modifyWindow s.desk w fun _ => rfl)

theorem heard_toggle_focused_fullscreen : s.toggle_focused_fullscreen.heard = s.heard := by
  unfold toggle_focused_fullscreen
  split
  · dsimp only
    rw [heard_emit _ rfl]
    exact (heard_arrange_all _).trans (heard_set_fullscreen s _ _)
  · rfl

theorem heard_hideScratch (w : WinId) : (s.hideScratch w).heard = s.heard := by
  rw [hideScratch, heard_warp_cursor_to_focused, heard_arrange_all, heard_focus_top]
  exact heard_modifyDesk ((rfl : _ = (s.desk.set_window_tags w 0).stages).trans
    (Desk.stages_set_window_tags s.desk w 0))

theorem heard_showScratch (w : WinId) : (s.showScratch w).heard = s.heard := by
  rw [showScratch, heard_warp_cursor_to_focused, heard_arrange_all, heard_focus_window,
    heard_set_window_tags]

theorem heard_toggle_scratch (cmd : ScratchCmd) : (s.toggle_scratch cmd).heard = s.heard := by
  unfold toggle_scratch
  split
  · split_ifs
    · exact heard_hideScratch s _
    · exact heard_showScratch s _
  · exact heard_spawn s _

theorem heard_focus_or_toggle_scratch (cmd : ScratchCmd) :
    (s.focus_or_toggle_scratch cmd).heard = s.heard := by
  unfold focus_or_toggle_scratch
  split
  · split_ifs
    · exact heard_hideScratch s _
    · exact heard_showScratch s _
  · exact heard_spawn s _

theorem heard_focus_or_toggle_matching_scratch (cmd : ScratchCmd) :
    (s.focus_or_toggle_matching_scratch cmd).heard = s.heard := by
  unfold focus_or_toggle_matching_scratch
  dsimp only
  split
  · split_ifs
    · exact heard_hideScratch s _
    · exact heard_showScratch s _
  · exact heard_spawn s _

theorem stages_reapplyRule (d : Desk) (i : ℕ) : (d.reapplyRule i).stages = d.stages := by
  unfold Desk.reapplyRule
  split <;> rfl

theorem heard_reapply_monitor_rules : s.reapply_monitor_rules.heard = s.heard := by
  have hrules : s.desk.reapply_monitor_rules.stages = s.desk.stages :=
    Recency.foldl_keeps Desk.stages Desk.reapplyRule stages_reapplyRule _ s.desk
  exact heard_modifyDesk (f := Desk.reapply_monitor_rules) hrules

theorem heard_reload_config : s.reload_config.heard = s.heard := by
  unfold reload_config
  dsimp only
  rw [heard_emit _ rfl, heard_arrange_all]
  exact heard_reapply_monitor_rules (s.modifyDesk fun d => { d with cfg := s.config_file })

theorem heard_lock : s.lock.heard = s.heard := by
  unfold lock
  split_ifs
  · rfl
  · exact heard_reevaluate_pointer _

/-- No action tells of the life of windows. -/
theorem heard_perform (a : Action) : (s.perform a).heard = s.heard := by
  cases a with
  | Spawn cmd => exact heard_spawn s cmd
  | FocusStack dir => exact heard_focus_stack_step s dir
  | IncNmaster delta => exact heard_inc_nmaster s delta
  | SetMfact delta => exact heard_set_mfact s delta
  | Zoom => exact heard_zoom s
  | ViewPrev => exact heard_view_prev s
  | ViewNextOccTag dir => exact heard_view_next_occ_tag s dir
  | KillClient => exact heard_kill_focused s
  | SetLayout idx => exact heard_set_layout s idx
  | CycleLayout => exact heard_cycle_layout s
  | ResetLayout => exact heard_reset_layout s
  | ToggleFloating => exact heard_toggle_focused_floating s
  | ToggleFullscreen => exact heard_toggle_focused_fullscreen s
  | ToggleGaps => exact heard_toggle_gaps s
  | View mask => exact heard_view s mask
  | ViewTagSpawn mask => exact heard_view_tag_spawn s mask
  | ToggleView mask => exact heard_toggle_view s mask
  | Tag mask => exact heard_tag s mask
  | ToggleTag mask => exact heard_toggle_tag s mask
  | FocusMon dir => exact heard_focus_mon s dir
  | TagMon dir => exact heard_tag_mon s dir
  | ToggleScratch cmd => exact heard_toggle_scratch s cmd
  | FocusOrToggleScratch cmd => exact heard_focus_or_toggle_scratch s cmd
  | FocusOrToggleMatchingScratch cmd => exact heard_focus_or_toggle_matching_scratch s cmd
  | Chvt vt => exact heard_emit s rfl
  | ReloadConfig => exact heard_reload_config s
  | ToggleBar => exact (heard_toggle_gaps _).trans (heard_emit s rfl)
  | BarPrompt => exact heard_emit s rfl
  | ToggleOverview => exact heard_overview_toggle s false
  | ToggleOverviewAll => exact heard_overview_toggle s true
  | OverviewNav keysym => exact heard_handle_key s keysym
  | TogglePip => exact heard_pip_toggle s
  | Lock => exact heard_lock s
  | TogglePassthrough | Quit | Move | Resize | MovePip | LockConsume | Consumed | CallLua
  | SendKeys => rfl

theorem heard_notifyChanges (before : Rwl) : (before.notifyChanges s).heard = s.heard := by
  have htag (old new : ℕ) (i : ℕ) :
      ((s.fire (.tag_switch old new)).emit (.event (.tag i))).heard = s.heard := heard_emit _ rfl
  have hlayout (s' : Rwl) (old new : ℕ) (i : ℕ) :
      ((s'.fire (.layout_change old new)).emit (.event (.layout i old new))).heard = s'.heard :=
    heard_emit _ rfl
  unfold notifyChanges
  split
  · dsimp only
    split_ifs
    · rfl
    · rw [hlayout, htag]
    · exact hlayout s _ _ _
    · exact htag _ _ _
    · rfl
  · rfl

/-! ### Dispatch and Lua -/

theorem heard_keptByParts : KeptByParts fun t => t.heard = s.heard where
  perform t a h := (heard_perform t a).trans h
  notifyChanges before t h := (heard_notifyChanges t before).trans h
  call _ _ h := h
  text t _ h := (heard_emit t rfl).trans h
  kill_selected t h := (heard_kill_selected t).trans h
  force_close _ h := h
  taken _ h := h
  spawn t argv h := (heard_spawn t argv).trans h
  notify t _ h := (heard_emit t rfl).trans h
  close t _ h := (heard_emit t rfl).trans h
  set_tags t w _ h := by rw [heard_focus_top, heard_arrange_all, heard_set_window_tags, h]
  set_floating t w _ h := by
    rw [heard_arrange_all, ← h]
    exact heard_modifyWindow t w fun _ => rfl
  set_fullscreen t w fs h := by rw [heard_arrange_all, heard_set_fullscreen, h]
  send t w _ next _ h := by rw [heard_focus_top, heard_arrange_all, heard_sendTo, h]
  focus t _ _ h := (heard_focus_window t _).trans h
  warp t _ _ h := by rw [heard_warp_cursor_to_focused, heard_focus_window, h]
  set_scratch t w _ h := by
    rw [← h]
    exact heard_modifyWindow t w fun _ => rfl

theorem heard_drain : s.drain.heard = s.heard := (heard_keptByParts s).drain rfl

/-- **No action, with all the Lua it runs, tells of the life of windows.** -/
theorem heard_dispatch (a : Action) : (s.dispatch a).heard = s.heard :=
  (heard_keptByParts s).dispatch rfl a

end Rwl

end Compositor
