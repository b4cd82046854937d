import Mathlib.Tactic.Common
import Rwl.Theory.DeskChanges
import Rwl.Theory.Composites

/-!
# What actions change on the desk

* the overview, Picture-in-Picture and cursor warping leave the desk alone;
* one lemma for each action, and `Moves.perform`;
* `Moves.dispatch`: an action with the Lua commands it runs.
-/

namespace Compositor

namespace Desk

/-- One round of `reapply_monitor_rules` moves and resizes a monitor. -/
theorem rearranged_reapplyRule (d : Desk) (i : ℕ) : Rearranged d (d.reapplyRule i) := by
  unfold reapplyRule
  split
  · exact .refl d
  · refine ⟨_, _, rfl, ?_, fun o => name_update d _ _ (by rfl) o⟩
    refine Recency.map_modify_eq Monitor.steady _ (fun m => ?_) d.monitors _
    dsimp only
    split <;> split_ifs <;> rfl

theorem rearranged_rounds (d : Desk) (rounds : List ℕ) :
    Rearranged d (rounds.foldl reapplyRule d) := by
  induction rounds generalizing d with
  | nil => exact .refl d
  | cons i rounds ih => exact (rearranged_reapplyRule d i).trans (ih _)

namespace Changes

variable {file : Config} {L : Desk → Desk → Prop} {d₀ d : Desk}

/-- A view change with the view it leaves recorded first. -/
theorem recorded (h : Changes file L d₀ d) (i tags : ℕ) (op : MonitorOp) (hop : ∀ t, op ≠ .retag t) :
    Changes file L d₀
      ((d.update_tag_history i tags).modifyMonitor i fun m => op.run d.cfg m) := by
  have hcfg : (d.update_tag_history i tags).cfg = d.cfg := by
    unfold update_tag_history
    split
    · split_ifs <;> rfl
    · rfl
  have hrecord : Changes file L d₀ (d.update_tag_history i tags) := h.tail (.history d i tags)
  have hop := hrecord.monitor i op hop
  rwa [hcfg] at hop

theorem reapply_monitor_rules (h : Changes file L d₀ d) :
    Changes file L d₀ d.reapply_monitor_rules :=
  h.tail (.rules _ _ (rearranged_rounds d _))

end Changes

end Desk

namespace Rwl

/-! ### The overview, Picture-in-Picture, warping -/

@[simp] theorem ground_choose (s : Rwl) (ov : OverviewState) (i : Option ℕ) :
    (overview.choose s ov i).ground = s.ground := by
  unfold overview.choose
  split <;> rfl

@[simp] theorem ground_type_char (s : Rwl) (c : Char) :
    (overview.type_char s c).ground = s.ground := by
  unfold overview.type_char
  split
  · rfl
  · dsimp only
    split_ifs
    · rfl
    · exact ground_choose ..

@[simp] theorem ground_select_best (s : Rwl) : (overview.select_best s).ground = s.ground := by
  unfold overview.select_best
  split
  · rfl
  · exact ground_choose ..

theorem ground_handle_key (s : Rwl) (keysym : ℕ) :
    (overview.handle_key s keysym).ground = s.ground := by
  unfold overview.handle_key
  split_ifs
  · rfl
  · rfl
  · exact ground_select_best s
  · rfl
  · rfl
  · rfl
  · split
    · exact ground_type_char ..
    · rfl

theorem ground_overview_toggle (s : Rwl) (all_tags : Bool) :
    (overview.toggle s all_tags).ground = s.ground := by
  unfold overview.toggle
  split_ifs
  · rfl
  · split
    · rfl
    · dsimp only
      split_ifs <;> rfl

theorem ground_overview_on_window_closed (s : Rwl) :
    (overview.on_window_closed s).ground = s.ground := by
  unfold overview.on_window_closed
  split
  · rfl
  · split
    · rfl
    · dsimp only
      split_ifs <;> rfl

theorem ground_handle_pointer_click (s : Rwl) (loc : PointF) :
    (overview.handle_pointer_click s loc).ground = s.ground := by
  unfold overview.handle_pointer_click
  split
  · rfl
  · exact ground_choose ..

theorem ground_pip_toggle (s : Rwl) : (pip.toggle s).ground = s.ground := by
  unfold pip.toggle
  split_ifs
  · rfl
  · split <;> rfl

theorem ground_pip_on_window_closed (s : Rwl) (w : WinId) :
    (pip.on_window_closed s w).ground = s.ground := by
  unfold pip.on_window_closed
  split_ifs <;> rfl

theorem ground_warp_cursor_to_focused (s : Rwl) : s.warp_cursor_to_focused.ground = s.ground := by
  unfold warp_cursor_to_focused
  split_ifs
  · rfl
  · split <;> rfl

theorem desk_warp_cursor_to_focused (s : Rwl) : s.warp_cursor_to_focused.desk = s.desk :=
  (Prod.mk.inj (store_of_ground (ground_warp_cursor_to_focused s))).1

theorem desk_output_added (s : Rwl) (o : OutputId) (info : OutputInfo) :
    (s.output_added o info).desk = (s.desk.addMonitor o info).arrangePasses := by
  have hadded := desk_arrange_all (s.modifyDesk (Desk.addMonitor · o info))
  exact output_added_kept (P := fun t => t.desk = (s.desk.addMonitor o info).arrangePasses)
    (fun _ h => h) (fun t h => (desk_warp_cursor_to_focused t).trans h) (fun _ h => h)
    (fun _ _ h => h) (fun _ h => h) hadded

theorem ground_spawn (s : Rwl) (cmd : List String) : (s.spawn cmd).ground = s.ground := by
  unfold spawn
  split_ifs <;> rfl

theorem ground_kill_selected (s : Rwl) : (overview.kill_selected s).ground = s.ground := by
  unfold overview.kill_selected
  split
  · split_ifs <;> rfl
  · rfl

theorem store_lock (s : Rwl) : s.lock.store = s.store := by
  unfold lock
  split_ifs <;> rfl

theorem ground_notifyChanges (before s : Rwl) : (before.notifyChanges s).ground = s.ground := by
  unfold notifyChanges
  split
  · dsimp only
    split_ifs <;> rfl
  · rfl

namespace Moves

variable {L : Desk → Desk → Prop} {s₀ s : Rwl}

theorem warp_cursor_to_focused (h : Moves L s₀ s) : Moves L s₀ s.warp_cursor_to_focused :=
  h.same (store_of_ground (ground_warp_cursor_to_focused s))

theorem spawn (h : Moves L s₀ s) (cmd : List String) : Moves L s₀ (s.spawn cmd) :=
  h.same (store_of_ground (ground_spawn s cmd))

theorem kill_focused (h : Moves L s₀ s) : Moves L s₀ s.kill_focused := by
  unfold Rwl.kill_focused
  split
  · exact h.emit _
  · exact h

/-! ### Order and focus -/

theorem zoom (h : Moves L s₀ s) : Moves L s₀ s.zoom := by
  unfold Rwl.zoom
  split
  · exact h
  · rename_i w _
    split_ifs with hw
    · exact ((h.desk (f := fun d => { d with windows := Recency.toFront w d.windows })
        fun hc => hc.tail (.front _ w hw)).focus_window _).arrange_all
    · exact h

theorem focus_urgent (h : Moves L s₀ s) : Moves L s₀ s.focus_urgent := by
  unfold Rwl.focus_urgent
  split
  · exact h
  · rename_i w _
    dsimp only
    have hsel := h.select (s.desk.st w).mon_idx
    split_ifs
    · exact (hsel.desk fun hc => hc.monitor _ (.view _) nofun).arrange_all.focus_window _
    · exact hsel.arrange_all.focus_window _

theorem focus_stack_step (h : Moves L s₀ s) (dir : ℤ) : Moves L s₀ (s.focus_stack_step dir) := by
  unfold Rwl.focus_stack_step
  split
  · exact h.focus_window _
  · exact h

/-! ### Views and tags -/

theorem slideTo (h : Moves L s₀ s) (old new : ℕ) (ow : ℚ) : Moves L s₀ (s.slideTo old new ow) :=
  ((h.desk fun hc => hc.mark_slide_outs old new ow).arrange_all.desk
    fun hc => hc.start_tag_transition old new ow).focus_top

theorem showTags (h : Moves L s₀ s) (mask : ℕ) :
    Moves L s₀ (s.modifyDesk (Rwl.showTags · mask)) :=
  h.desk fun hc => hc.recorded _ mask (.view mask) nofun

theorem view (h : Moves L s₀ s) (mask : ℕ) : Moves L s₀ (s.view mask) :=
  (h.showTags mask).slideTo _ _ _

theorem view_next_occ_tag (h : Moves L s₀ s) (dir : ℤ) : Moves L s₀ (s.view_next_occ_tag dir) := by
  unfold Rwl.view_next_occ_tag
  split
  · exact h.view _
  · exact h

theorem update_tag_history (h : Moves L s₀ s) (i tags : ℕ) :
    Moves L s₀ (s.modifyDesk (Desk.update_tag_history · i tags)) :=
  h.desk fun hc => hc.tail (.history _ i tags)

theorem monitor (h : Moves L s₀ s) (i : ℕ) (op : MonitorOp) (hop : ∀ t, op ≠ .retag t) :
    Moves L s₀ (s.modifyDesk fun d => d.modifyMonitor i fun m => op.run d.cfg m) :=
  h.desk fun hc => hc.monitor i op hop

theorem view_prev (h : Moves L s₀ s) : Moves L s₀ s.view_prev := by
  unfold Rwl.view_prev
  dsimp only
  refine Moves.slideTo (h.desk fun hc => ?_) _ _ _
  exact hc.recorded s.desk.sel_mon _ .view_prev nofun

theorem toggle_view (h : Moves L s₀ s) (mask : ℕ) : Moves L s₀ (s.toggle_view mask) := by
  unfold Rwl.toggle_view
  dsimp only
  refine Moves.focus_top (Moves.arrange_all (Moves.monitor ?_ _ (.toggle_view mask) nofun))
  split_ifs
  · exact h.update_tag_history _ _
  · exact h

theorem view_tag_spawn (h : Moves L s₀ s) (mask : ℕ) : Moves L s₀ (s.view_tag_spawn mask) := by
  have hshow := h.showTags (mask &&& s.desk.cfg.tag_mask)
  unfold Rwl.view_tag_spawn
  dsimp only
  refine Moves.slideTo ?_ _ _ _
  split_ifs
  · split
    · exact hshow.spawn _
    · exact hshow
  · exact hshow

theorem tag (h : Moves L s₀ s) (mask : ℕ) : Moves L s₀ (s.tag mask) := by
  have htag (w : WinId) := h.set_window_tags w (.masked mask)
  unfold Rwl.tag
  dsimp only
  split_ifs
  · exact h
  · refine Moves.focus_top (Moves.arrange_all ?_)
    split
    · exact (htag _).showTags _
    · exact h
  · refine Moves.focus_top (Moves.arrange_all ?_)
    split
    · exact htag _
    · exact h

theorem toggle_tag (h : Moves L s₀ s) (mask : ℕ) : Moves L s₀ (s.toggle_tag mask) := by
  unfold Rwl.toggle_tag
  dsimp only
  refine Moves.arrange_all ?_
  split
  · split_ifs
    · exact h.set_window_tags _ (.masked _)
    · exact h
  · exact h

/-! ### Monitors and layouts -/

theorem focus_mon (h : Moves L s₀ s) (dir : ℤ) : Moves L s₀ (s.focus_mon dir) := by
  unfold Rwl.focus_mon
  split
  · exact ((h.select _).focus_window _).arrange_all
  · exact h

/-- What a monitor shows, or 1 when there is none. -/
theorem origin_shown (d : Desk) (i : ℕ) : d.Origin (((d.monitors[i]?).map Monitor.tags).getD 1) := by
  cases hm : d.monitors[i]? with
  | none => exact .first
  | some m => exact .shown m m.sel_tags (List.mem_of_getElem? hm)

theorem sendTo (h : Moves L s₀ s) (w : WinId) (next : ℕ) :
    Moves L s₀ (s.modifyDesk (Rwl.sendTo · w next)) :=
  h.desk fun hc => hc.place w (origin_shown s.desk next) fun _ => ⟨⟨rfl, rfl⟩, rfl⟩

theorem tag_mon (h : Moves L s₀ s) (dir : ℤ) : Moves L s₀ (s.tag_mon dir) := by
  unfold Rwl.tag_mon
  split
  · rename_i focused next _ _
    have hsent := h.sendTo focused next
    dsimp only
    split_ifs
    · exact ((hsent.select next).focus_window _).arrange_all
    · exact hsent.arrange_all
  · exact h

/-- The layout parameters or the work area of a monitor change. -/
theorem tune (h : Moves L s₀ s) (i : ℕ) {f : Monitor → Monitor}
    (hf : ∀ m, (f m).steady = m.steady ∧ (f m).m = m.m) :
    Moves L s₀ (s.modifyDesk fun d => d.modifyMonitor i f) :=
  h.desk fun hc => hc.tail (.tune _ i f hf)

theorem inc_nmaster (h : Moves L s₀ s) (delta : ℤ) : Moves L s₀ (s.inc_nmaster delta) := by
  unfold Rwl.inc_nmaster relayout
  exact (h.tune s.desk.sel_mon (f := fun m => { m with nmaster := max (m.nmaster + delta) 0 })
    fun _ => ⟨rfl, rfl⟩).arrange_all

theorem set_mfact (h : Moves L s₀ s) (delta : ℚ) : Moves L s₀ (s.set_mfact delta) := by
  unfold Rwl.set_mfact relayout
  exact (h.tune s.desk.sel_mon (f := fun m =>
    { m with mfact := clampQ (m.mfact + delta) (5 / 100) (95 / 100) })
      fun _ => ⟨rfl, rfl⟩).arrange_all

theorem set_layout (h : Moves L s₀ s) (idx : ℕ) : Moves L s₀ (s.set_layout idx) :=
  (h.monitor s.desk.sel_mon (.set_layout idx) nofun).arrange_all

theorem cycle_layout (h : Moves L s₀ s) : Moves L s₀ s.cycle_layout := by
  unfold Rwl.cycle_layout
  dsimp only
  split_ifs
  · exact h.arrange_all
  · exact h.set_layout _

theorem reset_layout (h : Moves L s₀ s) : Moves L s₀ s.reset_layout :=
  (h.monitor s.desk.sel_mon .reset nofun).arrange_all

theorem toggle_gaps (h : Moves L s₀ s) : Moves L s₀ s.toggle_gaps :=
  (h.desk fun hc => hc.tail (.gaps _ _)).arrange_all

theorem toggle_focused_floating (h : Moves L s₀ s) : Moves L s₀ s.toggle_focused_floating := by
  unfold Rwl.toggle_focused_floating
  split
  · exact Moves.arrange_all (h.window _ fun _ => ⟨⟨rfl, rfl⟩, rfl, rfl⟩)
  · exact h

theorem set_fullscreen (h : Moves L s₀ s) (w : WinId) (fs : Bool) :
    Moves L s₀ (s.modifyDesk (Rwl.set_fullscreen · w fs)) :=
  h.window w fun _ => ⟨⟨rfl, rfl⟩, rfl, rfl⟩

theorem toggle_focused_fullscreen (h : Moves L s₀ s) : Moves L s₀ s.toggle_focused_fullscreen := by
  unfold Rwl.toggle_focused_fullscreen
  split
  · exact ((h.set_fullscreen _ _).arrange_all.fire _).emit _
  · exact h

/-! ### Scratchpads -/

theorem hideScratch (h : Moves L s₀ s) (w : WinId) : Moves L s₀ (s.hideScratch w) := by
  have htags := h.set_window_tags w .hidden
  have hlower := htags.desk (f := fun d =>
    { d with focus_stack := d.focus_stack.filter fun v => decide (v ≠ w) })
      fun hc => hc.tail (.lower _ w)
  exact hlower.focus_top.arrange_all.warp_cursor_to_focused

theorem showScratch (h : Moves L s₀ s) (w : WinId) : Moves L s₀ (s.showScratch w) :=
  ((h.set_window_tags w (origin_shown s.desk s.desk.sel_mon)).focus_window
    _).arrange_all.warp_cursor_to_focused

theorem toggle_scratch (h : Moves L s₀ s) (cmd : ScratchCmd) : Moves L s₀ (s.toggle_scratch cmd) := by
  unfold Rwl.toggle_scratch
  split
  · split_ifs
    · exact h.hideScratch _
    · exact h.showScratch _
  · exact h.spawn _

theorem focus_or_toggle_scratch (h : Moves L s₀ s) (cmd : ScratchCmd) :
    Moves L s₀ (s.focus_or_toggle_scratch cmd) := by
  unfold Rwl.focus_or_toggle_scratch
  split
  · split_ifs
    · exact h.hideScratch _
    · exact h.showScratch _
  · exact h.spawn _

theorem focus_or_toggle_matching_scratch (h : Moves L s₀ s) (cmd : ScratchCmd) :
    Moves L s₀ (s.focus_or_toggle_matching_scratch cmd) := by
  unfold Rwl.focus_or_toggle_matching_scratch
  dsimp only
  split
  · split_ifs
    · exact h.hideScratch _
    · exact h.showScratch _
  · exact h.spawn _

/-! ### The rest -/

theorem reapply_monitor_rules (h : Moves L s₀ s) : Moves L s₀ s.reapply_monitor_rules :=
  (h.desk fun hc => hc.reapply_monitor_rules).fire _

theorem reload_config (h : Moves L s₀ s) : Moves L s₀ s.reload_config := by
  have hreload := h.desk (f := fun d => { d with cfg := s.config_file }) fun hc => by
    rw [h.file]
    exact hc.tail (.reload _)
  exact ((hreload.reapply_monitor_rules.desk fun hc => hc.tail (.every _)).arrange_all).emit _

/-- The body of every action changes the desk by small updates. -/
theorem perform (h : Moves L s₀ s) (a : Action) : Moves L s₀ (s.perform a) := by
  cases a with
  | Spawn cmd => exact h.spawn cmd
  | FocusStack dir => exact h.focus_stack_step dir
  | IncNmaster delta => exact h.inc_nmaster delta
  | SetMfact delta => exact h.set_mfact delta
  | Zoom => exact h.zoom
  | ViewPrev => exact h.view_prev
  | ViewNextOccTag dir => exact h.view_next_occ_tag dir
  | KillClient => exact h.kill_focused
  | SetLayout idx => exact h.set_layout idx
  | CycleLayout => exact h.cycle_layout
  | ResetLayout => exact h.reset_layout
  | ToggleFloating => exact h.toggle_focused_floating
  | ToggleFullscreen => exact h.toggle_focused_fullscreen
  | ToggleGaps => exact h.toggle_gaps
  | View mask => exact h.view mask
  | ViewTagSpawn mask => exact h.view_tag_spawn mask
  | ToggleView mask => exact h.toggle_view mask
  | Tag mask => exact h.tag mask
  | ToggleTag mask => exact h.toggle_tag mask
  | FocusMon dir => exact h.focus_mon dir
  | TagMon dir => exact h.tag_mon dir
  | ToggleScratch cmd => exact h.toggle_scratch cmd
  | FocusOrToggleScratch cmd => exact h.focus_or_toggle_scratch cmd
  | FocusOrToggleMatchingScratch cmd => exact h.focus_or_toggle_matching_scratch cmd
  | ReloadConfig => exact h.reload_config
  | ToggleBar => exact (h.emit _).toggle_gaps
  | ToggleOverview => exact h.same (store_of_ground (ground_overview_toggle s false))
  | ToggleOverviewAll => exact h.same (store_of_ground (ground_overview_toggle s true))
  | OverviewNav keysym => exact h.same (store_of_ground (ground_handle_key s keysym))
  | TogglePip => exact h.same (store_of_ground (ground_pip_toggle s))
  | Lock => exact h.same (store_lock s)
  | TogglePassthrough | Quit | Chvt | BarPrompt => exact h.same rfl
  | Move | Resize | MovePip | LockConsume | Consumed | CallLua | SendKeys => exact h

/-! ### Dispatch and Lua -/

theorem keptByParts : KeptByParts (Moves L s₀) where
  perform _ a h := h.perform a
  notifyChanges before s h := h.same (store_of_ground (ground_notifyChanges before s))
  call _ _ h := h.fire _
  text _ _ h := h.emit _
  kill_selected s h := h.same (store_of_ground (ground_kill_selected s))
  force_close _ h := h.same rfl
  taken _ h := h.same rfl
  spawn _ argv h := h.spawn argv
  notify _ _ h := h.emit _
  close _ _ h := h.emit _
  set_tags _ w _ h := (h.set_window_tags w (.masked _)).arrange_all.focus_top
  set_floating _ w _ h := Moves.arrange_all (h.window w fun _ => ⟨⟨rfl, rfl⟩, rfl, rfl⟩)
  set_fullscreen _ w fs h := (h.set_fullscreen w fs).arrange_all
  send _ w _ next _ h := (h.sendTo w next).arrange_all.focus_top
  focus _ _ _ h := h.focus_window _
  warp _ _ _ h := (h.focus_window _).warp_cursor_to_focused
  set_scratch _ w _ h := h.window w fun _ => ⟨⟨rfl, rfl⟩, rfl, rfl⟩

theorem foldl {α : Type*} {f : Rwl → α → Rwl} (hf : ∀ s a, Moves L s₀ s → Moves L s₀ (f s a))
    (l : List α) (h : Moves L s₀ s) : Moves L s₀ (l.foldl f s) :=
  List.foldlRecOn l f h fun s h a _ => hf s a h

theorem drain (h : Moves L s₀ s) : Moves L s₀ s.drain := keptByParts.drain h

/-- **An action, with all the Lua it runs, changes the desk by small updates.** -/
theorem dispatch (h : Moves L s₀ s) (a : Action) : Moves L s₀ (s.dispatch a) :=
  keptByParts.dispatch h a

end Moves

end Rwl

end Compositor
