import Mathlib.Tactic.Common
import Rwl.Theory.Acts
import Rwl.Theory.Composites

/-!
# Actions are chains of changes

* the overview, Picture-in-Picture and cursor warping;
* one lemma for each action, and `Acts.perform`;
* `Acts.dispatch`: an action with the Lua commands it runs;
* `Acts.finish_close`: the end of the overview's closing animation.
-/

namespace Compositor

open Registry (Grant)

/-! ### Positions the desk computes -/

namespace Desk

theorem dir_to_monitor_lt {d : Desk} {source next : ℕ} {dir : ℤ}
    (h : d.dir_to_monitor source dir = some next) : next < d.monitors.length := by
  unfold dir_to_monitor at h
  dsimp only at h
  split_ifs at h with hn hdir
  all_goals
    rw [← Option.some.inj h]
    exact Nat.mod_lt _ (by omega)

theorem inRange_of_lt {d : Desk} {i : ℕ} (h : i < d.monitors.length) : d.registry.InRange i := by
  unfold Registry.InRange
  rw [show d.registry.slots.length = d.monitors.length from List.length_map ..]
  omega

theorem sound_dir_to_monitor {g : Grant WinId} {d : Desk} {source next : ℕ} {dir : ℤ}
    (h : d.dir_to_monitor source dir = some next) : Registry.Sound g d.registry next :=
  .inr (.inl (inRange_of_lt (dir_to_monitor_lt h)))

theorem registry_reapplyRule (d : Desk) (i : ℕ) : (d.reapplyRule i).registry = d.registry := by
  unfold reapplyRule
  split
  · rfl
  · refine (registry_modifyMonitor d _ fun m => ?_ :)
    dsimp only
    split <;> split_ifs <;> rfl

theorem registry_reapply_monitor_rules (d : Desk) :
    d.reapply_monitor_rules.registry = d.registry :=
  Recency.foldl_keeps registry reapplyRule registry_reapplyRule _ d

end Desk

namespace Rwl

theorem registry_showTags (d : Desk) (mask : ℕ) : (showTags d mask).registry = d.registry :=
  (Desk.registry_view _ _ _ _).trans (Desk.registry_update_tag_history d _ _)

@[simp] theorem registry_arrange_all (s : Rwl) :
    s.arrange_all.desk.registry = s.desk.registry := by
  rw [desk_arrange_all, Desk.registry_arrangePasses]

theorem Focusable.of_registry {g : Grant WinId} {d d' : Desk} {w : WinId}
    (h : d'.registry = d.registry) (hw : Focusable g d w) : Focusable g d' w := by
  obtain ⟨handle, index⟩ := hw
  have hitems : d'.windows = d.windows := congrArg Registry.items h
  have hrecent : d'.focus_stack = d.focus_stack := congrArg Registry.recent h
  have hslot : (d'.st w).mon_idx = (d.st w).mon_idx := congrFun (congrArg Registry.slot h) w
  exact ⟨by rwa [hitems, hrecent], by rwa [h, hslot]⟩

/-! ### The overview, Picture-in-Picture, warping -/

@[simp] theorem core_choose (s : Rwl) (ov : OverviewState) (i : Option ℕ) :
    (overview.choose s ov i).core = s.core := by
  unfold overview.choose
  split <;> rfl

@[simp] theorem core_type_char (s : Rwl) (c : Char) : (overview.type_char s c).core = s.core := by
  unfold overview.type_char
  split
  · rfl
  · dsimp only
    split_ifs
    · rfl
    · exact core_choose ..

@[simp] theorem core_select_best (s : Rwl) : (overview.select_best s).core = s.core := by
  unfold overview.select_best
  split
  · rfl
  · exact core_choose ..

@[simp] theorem core_handle_key (s : Rwl) (keysym : ℕ) :
    (overview.handle_key s keysym).core = s.core := by
  unfold overview.handle_key
  split_ifs
  · rfl
  · rfl
  · exact core_select_best s
  · rfl
  · rfl
  · rfl
  · split
    · exact core_type_char ..
    · rfl

@[simp] theorem core_overview_toggle (s : Rwl) (all_tags : Bool) :
    (overview.toggle s all_tags).core = s.core := by
  unfold overview.toggle
  split_ifs
  · rfl
  · split
    · rfl
    · dsimp only
      split_ifs <;> rfl

@[simp] theorem core_overview_on_window_closed (s : Rwl) :
    (overview.on_window_closed s).core = s.core := by
  unfold overview.on_window_closed
  split
  · rfl
  · split
    · rfl
    · dsimp only
      split_ifs <;> rfl

@[simp] theorem core_handle_pointer_click (s : Rwl) (loc : PointF) :
    (overview.handle_pointer_click s loc).core = s.core := by
  unfold overview.handle_pointer_click
  split
  · rfl
  · exact core_choose ..

@[simp] theorem core_pip_toggle (s : Rwl) : (pip.toggle s).core = s.core := by
  unfold pip.toggle
  split_ifs
  · rfl
  · split <;> rfl

@[simp] theorem core_pip_on_window_closed (s : Rwl) (w : WinId) :
    (pip.on_window_closed s w).core = s.core := by
  unfold pip.on_window_closed
  split_ifs <;> rfl

namespace Acts

variable {g : Grant WinId} {s₀ s : Rwl}

theorem kill_selected (h : Acts g s₀ s) : Acts g s₀ (overview.kill_selected s) := by
  unfold overview.kill_selected
  split
  · split_ifs
    · exact h.emit rfl
    · exact h
  · exact h

theorem warp_cursor_to_focused (h : Acts g s₀ s) : Acts g s₀ s.warp_cursor_to_focused := by
  unfold Rwl.warp_cursor_to_focused
  split_ifs
  · exact h
  · split
    · exact h.tail (.point s _)
    · exact h

theorem cancelRepeat (h : Acts g s₀ s) : Acts g s₀ s.cancelRepeat := h.rest rfl

/-! ### Programs, order and focus -/

theorem spawn (h : Acts g s₀ s) (cmd : List String) : Acts g s₀ (s.spawn cmd) := by
  unfold Rwl.spawn
  split_ifs
  · exact h
  · exact h.emit rfl

theorem kill_focused (h : Acts g s₀ s) : Acts g s₀ s.kill_focused := by
  unfold Rwl.kill_focused
  split
  · exact h.emit rfl
  · exact h

theorem zoom (h : Acts g s₀ s) : Acts g s₀ s.zoom := by
  unfold Rwl.zoom
  split
  · exact h
  · rename_i w _
    split_ifs with hw
    · have hfront := h.desk (f := fun d => { d with windows := Recency.toFront w d.windows })
        (.single (.reorder s.desk.registry _ (Recency.toFront_perm hw)))
      exact (hfront.focus_window (.of_mem (Recency.mem_toFront.2 (.inl rfl)))).arrange_all
    · exact h

/-- The urgent window needs the environment's word only when it is recent but not listed. -/
theorem focus_urgent (h : Acts g s₀ s)
    (hw : ∀ w, urgentWindow s.desk = some w → w ∈ s.desk.windows ∨ g.index w) :
    Acts g s₀ s.focus_urgent := by
  unfold Rwl.focus_urgent
  split
  · exact h
  · rename_i w hurgent
    dsimp only
    have hmem : w ∈ s.desk.windows ∨ w ∈ s.desk.focus_stack := by
      rcases Option.or_eq_some_iff.1 hurgent with hf | ⟨_, hf⟩
      · exact .inr (List.mem_of_find?_eq_some hf)
      · exact .inl (List.mem_of_find?_eq_some hf)
    have hsound : Registry.Sound g s.desk.registry (s.desk.st w).mon_idx :=
      .inr (.inr ⟨w, hw w hurgent, rfl⟩)
    have hsel := h.select hsound
    have hfocus (s' : Rwl)
        (hs' : s'.desk.registry = { s.desk.registry with current := (s.desk.st w).mon_idx }) :
        Focusable g s'.desk w := by
      refine Focusable.of_registry (d := { s.desk with sel_mon := (s.desk.st w).mon_idx }) hs'
        ⟨?_, .inl rfl⟩
      rcases hmem with hmem | hmem
      · exact .inl hmem
      · exact .inr (.inl hmem)
    split_ifs
    · refine (hsel.quiet (Desk.registry_view _ _ _ _)).arrange_all.focus_window (hfocus _ ?_)
      rw [registry_arrange_all]
      exact Desk.registry_view _ _ _ _
    · refine hsel.arrange_all.focus_window (hfocus _ ?_)
      rw [registry_arrange_all]
      rfl

theorem focus_stack_step (h : Acts g s₀ s) (dir : ℤ) : Acts g s₀ (s.focus_stack_step dir) := by
  unfold Rwl.focus_stack_step
  split
  · rename_i w hw
    refine h.focus_window (.of_mem ?_)
    unfold stepTarget at hw
    dsimp only at hw
    split_ifs at hw
    all_goals exact List.mem_of_mem_filter (List.mem_of_getElem? hw)
  · exact h

/-! ### Views and tags -/

theorem slideTo (h : Acts g s₀ s) (old new : ℕ) (ow : ℚ) : Acts g s₀ (s.slideTo old new ow) :=
  ((h.quiet (Desk.registry_mark_slide_outs ..)).arrange_all.quiet
    (Desk.registry_start_tag_transition ..)).focus_top

theorem view (h : Acts g s₀ s) (mask : ℕ) : Acts g s₀ (s.view mask) :=
  (h.quiet (registry_showTags _ _)).slideTo _ _ _

theorem view_next_occ_tag (h : Acts g s₀ s) (dir : ℤ) : Acts g s₀ (s.view_next_occ_tag dir) := by
  unfold Rwl.view_next_occ_tag
  split
  · exact h.view _
  · exact h

theorem view_prev (h : Acts g s₀ s) : Acts g s₀ s.view_prev :=
  (h.quiet ((Desk.registry_modifyMonitor _ _ fun m =>
    (Monitor.reviewed_view_prev _ m).sameOutput.1).trans (Desk.registry_update_tag_history _ _ _))).slideTo
      _ _ _

theorem toggle_view (h : Acts g s₀ s) (mask : ℕ) : Acts g s₀ (s.toggle_view mask) := by
  unfold Rwl.toggle_view
  dsimp only
  refine Acts.focus_top (Acts.arrange_all (Acts.quiet ?_
    (Desk.registry_modifyMonitor _ _ fun m => (Monitor.reviewed_toggle_view _ m mask).sameOutput.1)))
  split_ifs
  · exact h.quiet (Desk.registry_update_tag_history _ _ _)
  · exact h

theorem view_tag_spawn (h : Acts g s₀ s) (mask : ℕ) : Acts g s₀ (s.view_tag_spawn mask) := by
  have hshow : Acts g s₀ (s.modifyDesk (showTags · (mask &&& s.desk.cfg.tag_mask))) :=
    h.quiet (registry_showTags _ _)
  unfold Rwl.view_tag_spawn
  dsimp only
  refine Acts.slideTo ?_ _ _ _
  split_ifs
  · split
    · exact hshow.spawn _
    · exact hshow
  · exact hshow

theorem tag (h : Acts g s₀ s) (mask : ℕ) : Acts g s₀ (s.tag mask) := by
  unfold Rwl.tag
  dsimp only
  split_ifs
  · exact h
  · refine Acts.focus_top (Acts.arrange_all ?_)
    split
    · exact (h.set_window_tags _ _).quiet (registry_showTags _ _)
    · exact h
  · refine Acts.focus_top (Acts.arrange_all ?_)
    split
    · exact h.set_window_tags _ _
    · exact h

theorem toggle_tag (h : Acts g s₀ s) (mask : ℕ) : Acts g s₀ (s.toggle_tag mask) := by
  unfold Rwl.toggle_tag
  dsimp only
  refine Acts.arrange_all ?_
  split
  · split_ifs
    · exact h.set_window_tags _ _
    · exact h
  · exact h

/-! ### Monitors and layouts -/

theorem focus_mon (h : Acts g s₀ s) (dir : ℤ) : Acts g s₀ (s.focus_mon dir) := by
  unfold Rwl.focus_mon
  split
  · rename_i next hnext
    exact ((h.select (Desk.sound_dir_to_monitor hnext)).focus_option
      fun w hw => .of_topOn hw).arrange_all
  · exact h

/-- A window goes to another monitor. -/
theorem assign (h : Acts g s₀ s) {w : WinId} {f : WindowState → WindowState} {i : ℕ}
    (hi : Registry.Sound g s.desk.registry i) (hf : ∀ st, (f st).mon_idx = i)
    (hr : ∀ st, (f st).is_override_redirect = st.is_override_redirect) :
    Acts g s₀ (s.modifyDesk fun d => d.modifyWindow w f) := by
  refine h.desk (.single ?_)
  rw [Desk.registry_assign s.desk w hf hr]
  exact .assign _ w i hi

theorem sendTo (h : Acts g s₀ s) (w : WinId) {next : ℕ}
    (hi : Registry.Sound g s.desk.registry next) : Acts g s₀ (s.modifyDesk (Rwl.sendTo · w next)) :=
  h.assign hi (fun _ => rfl) fun _ => rfl

theorem tag_mon (h : Acts g s₀ s) (dir : ℤ) : Acts g s₀ (s.tag_mon dir) := by
  unfold Rwl.tag_mon
  split
  · rename_i focused next hfocused hnext
    have hsent := h.sendTo focused (Desk.sound_dir_to_monitor hnext)
    dsimp only
    split_ifs
    · refine Acts.arrange_all (Acts.focus_window (hsent.select (.inr (.inl ?_))) ⟨.inr (.inl ?_), ?_⟩)
      · exact Desk.inRange_of_lt (Desk.dir_to_monitor_lt hnext)
      · exact List.mem_of_find?_eq_some hfocused
      · refine .inl ?_
        simp [Rwl.sendTo, Desk.modifyWindow, modifyDesk, Desk.registry]
    · exact hsent.arrange_all
  · exact h

theorem relayout (h : Acts g s₀ s) {f : Config → Monitor → Monitor}
    (hf : ∀ cfg m, (f cfg m).output = m.output) : Acts g s₀ (s.relayout f) :=
  (h.quiet (Desk.registry_modifyMonitor s.desk _ (hf s.desk.cfg))).arrange_all

theorem inc_nmaster (h : Acts g s₀ s) (delta : ℤ) : Acts g s₀ (s.inc_nmaster delta) := by
  unfold Rwl.inc_nmaster
  exact Acts.relayout h fun _ _ => rfl

theorem set_mfact (h : Acts g s₀ s) (delta : ℚ) : Acts g s₀ (s.set_mfact delta) := by
  unfold Rwl.set_mfact
  exact Acts.relayout h fun _ _ => rfl

theorem set_layout (h : Acts g s₀ s) (idx : ℕ) : Acts g s₀ (s.set_layout idx) :=
  h.relayout fun cfg m => (Monitor.reviewed_set_layout cfg m idx).sameOutput.1

theorem cycle_layout (h : Acts g s₀ s) : Acts g s₀ s.cycle_layout := by
  unfold Rwl.cycle_layout
  dsimp only
  split_ifs
  · exact h.arrange_all
  · exact h.set_layout _

theorem reset_layout (h : Acts g s₀ s) : Acts g s₀ s.reset_layout :=
  h.relayout fun cfg m => (Monitor.reviewed_reset cfg m _).sameOutput.1

theorem toggle_gaps (h : Acts g s₀ s) : Acts g s₀ s.toggle_gaps := (h.quiet rfl).arrange_all

theorem toggle_focused_floating (h : Acts g s₀ s) : Acts g s₀ s.toggle_focused_floating := by
  unfold Rwl.toggle_focused_floating
  split
  · exact Acts.arrange_all (h.modifyWindow _ fun _ => ⟨rfl, rfl⟩)
  · exact h

theorem set_fullscreen (h : Acts g s₀ s) (w : WinId) (fs : Bool) :
    Acts g s₀ (s.modifyDesk (Rwl.set_fullscreen · w fs)) :=
  h.modifyWindow w fun _ => ⟨rfl, rfl⟩

theorem toggle_focused_fullscreen (h : Acts g s₀ s) : Acts g s₀ s.toggle_focused_fullscreen := by
  unfold Rwl.toggle_focused_fullscreen
  split
  · exact ((h.set_fullscreen _ _).arrange_all.fire _).emit rfl
  · exact h

/-! ### Scratchpads -/

theorem hideScratch (h : Acts g s₀ s) (w : WinId) : Acts g s₀ (s.hideScratch w) := by
  unfold Rwl.hideScratch
  dsimp only
  refine Acts.warp_cursor_to_focused (Acts.arrange_all (Acts.focus_top (h.desk (.single ?_))))
  have htags := Desk.registry_set_window_tags s.desk w 0
  change Registry.Step g s.desk.registry { (s.desk.set_window_tags w 0).registry with
    recent := s.desk.registry.recent.filter fun v => decide (v ≠ w) }
  rw [htags]
  exact .lower _ _

theorem showScratch (h : Acts g s₀ s) {w : WinId} (hw : w ∈ s.desk.windows) :
    Acts g s₀ (s.showScratch w) :=
  ((h.set_window_tags w _).focus_window (.of_mem hw)).arrange_all.warp_cursor_to_focused

theorem find_scratch_mem {d : Desk} {key : Char} {w : WinId} (h : find_scratch d key = some w) :
    w ∈ d.windows :=
  List.mem_of_find?_eq_some h

theorem toggle_scratch (h : Acts g s₀ s) (cmd : ScratchCmd) : Acts g s₀ (s.toggle_scratch cmd) := by
  unfold Rwl.toggle_scratch
  split
  · rename_i w hw
    split_ifs
    · exact h.hideScratch w
    · exact h.showScratch (find_scratch_mem hw)
  · exact h.spawn _

theorem focus_or_toggle_scratch (h : Acts g s₀ s) (cmd : ScratchCmd) :
    Acts g s₀ (s.focus_or_toggle_scratch cmd) := by
  unfold Rwl.focus_or_toggle_scratch
  split
  · rename_i w hw
    split_ifs
    · exact h.hideScratch w
    · exact h.showScratch (find_scratch_mem hw)
  · exact h.spawn _

theorem focus_or_toggle_matching_scratch (h : Acts g s₀ s) (cmd : ScratchCmd) :
    Acts g s₀ (s.focus_or_toggle_matching_scratch cmd) := by
  unfold Rwl.focus_or_toggle_matching_scratch
  dsimp only
  split
  · rename_i w hw
    split_ifs
    · exact h.hideScratch w
    · exact h.showScratch (List.mem_of_find?_eq_some hw)
  · exact h.spawn _

/-! ### The rest -/

theorem reapply_monitor_rules (h : Acts g s₀ s) : Acts g s₀ s.reapply_monitor_rules :=
  (h.quiet (Desk.registry_reapply_monitor_rules s.desk)).fire _

theorem reload_config (h : Acts g s₀ s) : Acts g s₀ s.reload_config := by
  have hrules := (h.quiet (f := fun d => { d with cfg := s.config_file }) rfl).reapply_monitor_rules
  refine Acts.emit (Acts.arrange_all (hrules.quiet ?_)) rfl
  have houtput (cfg : Config) : Monitor.output ∘ (fun m => pertag_layouts.apply cfg m m.tags) =
      Monitor.output := funext fun m => (Monitor.reviewed_apply cfg m m.tags).sameOutput.1
  simp only [Desk.registry, List.map_map]
  rw [houtput]
  rfl

/-- **Locking is a chain of changes.** -/
theorem lock (h : Acts g s₀ s) : Acts g s₀ s.lock := by
  unfold Rwl.lock
  split_ifs with hl
  · exact h
  · rw [not_or, Bool.not_eq_true, Option.not_isSome_iff_eq_none] at hl
    have hlock : Acts g s₀ _ := h.tail (.lock s hl.1 hl.2)
    refine Acts.reevaluate_pointer (Acts.rest hlock ?_)
    rfl

/-- The body of every action is a chain of changes. -/
theorem perform (h : Acts g s₀ s) (a : Action) : Acts g s₀ (s.perform a) := by
  cases a with
  | Spawn cmd => exact h.spawn cmd
  | FocusStack dir => exact h.focus_stack_step dir
  | IncNmaster delta => exact h.inc_nmaster delta
  | SetMfact delta => exact h.set_mfact delta
  | Zoom => exact h.zoom
  | ViewPrev => exact h.view_prev
  | ViewNextOccTag dir => exact h.view_next_occ_tag dir
  | KillClient => exact h.kill_focused
  | SetLayout idx => exact h.set_layout idx
  | CycleLayout => exact h.cycle_layout
  | ResetLayout => exact h.reset_layout
  | ToggleFloating => exact h.toggle_focused_floating
  | ToggleFullscreen => exact h.toggle_focused_fullscreen
  | TogglePassthrough => exact h.rest rfl
  | ToggleGaps => exact h.toggle_gaps
  | View mask => exact h.view mask
  | ViewTagSpawn mask => exact h.view_tag_spawn mask
  | ToggleView mask => exact h.toggle_view mask
  | Tag mask => exact h.tag mask
  | ToggleTag mask => exact h.toggle_tag mask
  | FocusMon dir => exact h.focus_mon dir
  | TagMon dir => exact h.tag_mon dir
  | ToggleScratch cmd => exact h.toggle_scratch cmd
  | FocusOrToggleScratch cmd => exact h.focus_or_toggle_scratch cmd
  | FocusOrToggleMatchingScratch cmd => exact h.focus_or_toggle_matching_scratch cmd
  | Chvt vt => exact h.emit rfl
  | ReloadConfig => exact h.reload_config
  | Quit => exact h.rest rfl
  | ToggleBar => exact (h.emit rfl).toggle_gaps
  | BarPrompt => exact h.emit rfl
  | ToggleOverview => exact h.rest (core_overview_toggle s false)
  | ToggleOverviewAll => exact h.rest (core_overview_toggle s true)
  | OverviewNav keysym => exact h.rest (core_handle_key s keysym)
  | TogglePip => exact h.rest (core_pip_toggle s)
  | Lock => exact h.lock
  | Move | Resize | MovePip | LockConsume | Consumed | CallLua | SendKeys => exact h

theorem notifyChanges (before : Rwl) (h : Acts g s₀ s) : Acts g s₀ (before.notifyChanges s) := by
  unfold Rwl.notifyChanges
  split
  · dsimp only
    split_ifs
    · exact h
    · exact (((h.fire _).emit rfl).fire _).emit rfl
    · exact (h.fire _).emit rfl
    · exact (h.fire _).emit rfl
    · exact h
  · exact h

/-! ### Dispatch and Lua -/

theorem keptByParts : KeptByParts (Acts g s₀) where
  perform _ a h := h.perform a
  notifyChanges before _ h := h.notifyChanges before
  call _ _ h := h.fire _
  text s _ h := h.tail (.text s _)
  kill_selected _ h := h.kill_selected
  force_close _ h := h.rest rfl
  taken _ h := h.rest rfl
  spawn _ argv h := h.spawn argv
  notify _ _ h := h.emit rfl
  close _ _ h := h.emit rfl
  set_tags _ w _ h := (h.set_window_tags w _).arrange_all.focus_top
  set_floating _ w _ h := Acts.arrange_all (h.modifyWindow w fun _ => ⟨rfl, rfl⟩)
  set_fullscreen _ w fs h := (h.set_fullscreen w fs).arrange_all
  send _ w _ _ hnext h := (h.sendTo w (Desk.sound_dir_to_monitor hnext)).arrange_all.focus_top
  focus _ _ hw h := h.focus_window (.of_mem hw)
  warp _ _ hw h := (h.focus_window (.of_mem hw)).warp_cursor_to_focused
  set_scratch _ w _ h := h.modifyWindow w fun _ => ⟨rfl, rfl⟩

theorem drain (h : Acts g s₀ s) : Acts g s₀ s.drain := keptByParts.drain h

/-- **An action, with all the Lua it runs, is a chain of changes.** -/
theorem dispatch (h : Acts g s₀ s) (a : Action) : Acts g s₀ (s.dispatch a) :=
  keptByParts.dispatch h a

end Acts

end Rwl

end Compositor
