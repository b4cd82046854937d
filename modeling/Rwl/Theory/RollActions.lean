import Mathlib.Tactic.Common
import Rwl.Theory.Rolls

/-!
# Actions mend what they stir

* one lemma for each action, and `Mends.perform`; an action that locks ends a grab;
* `Mends.dispatch`, `Mends.drain`: an action with the Lua commands it runs.
-/

namespace Compositor

namespace Desk

theorem outline_update_tag_history (d : Desk) (i tags : ℕ) :
    (d.update_tag_history i tags).outline = d.outline :=
  outline_of_picture (picture_update_tag_history d i tags)

theorem outline_showTags (d : Desk) (mask : ℕ) : (Rwl.showTags d mask).outline = d.outline :=
  (outline_modifyMonitor _ _ _).trans (outline_update_tag_history d d.sel_mon mask)

theorem outline_reapplyRule (d : Desk) (i : ℕ) : (d.reapplyRule i).outline = d.outline := by
  unfold Desk.reapplyRule
  split
  · rfl
  · rename_i mon hm
    dsimp only
    exact outline_modifyMonitor d ((d.monitor_for_output mon.output).getD i) _

theorem outline_reapply_monitor_rules (d : Desk) : d.reapply_monitor_rules.outline = d.outline := by
  have hrounds := Recency.foldl_keeps outline reapplyRule outline_reapplyRule
    (List.range d.monitors.length) d
  exact hrounds

end Desk

namespace Rwl

variable {K L : Desk → Desk → Prop} {s₀ s : Rwl}

namespace Stirs

theorem fire (h : Stirs K L s₀ s) (c : HookCall) : Stirs K L s₀ (s.fire c) := h.same rfl

theorem emit (h : Stirs K L s₀ s) (e : Effect) : Stirs K L s₀ (s.emit e) := h.same rfl

theorem arrangedTop (h : Stirs K L s₀ s) : Mends K L s₀ s.arrange_all.focus_top :=
  h.arrange_all.focus_top

/-- A view switch slides, arranges and refocuses. -/
theorem slideTo (h : Stirs K L s₀ s) (old new : ℕ) (ow : ℚ) :
    Mends K L s₀ (s.slideTo old new ow) :=
  ((h.mark old new ow).arrange_all.slide old new ow).focus_top

theorem showTags (h : Stirs K L s₀ s) (mask : ℕ) :
    Stirs K L s₀ (s.modifyDesk (Rwl.showTags · mask)) :=
  h.loose (Desk.outline_showTags s.desk mask)

theorem sendTo (h : Stirs K L s₀ s) (w : WinId) (next : ℕ) :
    Stirs K L s₀ (s.modifyDesk (Rwl.sendTo · w next)) :=
  h.loose (Desk.outline_modifyWindow s.desk w fun _ => ⟨rfl, rfl⟩)

theorem set_fullscreen (h : Stirs K L s₀ s) (w : WinId) (fs : Bool) :
    Stirs K L s₀ (s.modifyDesk (Rwl.set_fullscreen · w fs)) :=
  h.window w fun _ => ⟨rfl, rfl⟩

end Stirs

namespace Mends

theorem warp_cursor_to_focused (h : Mends K L s₀ s) : Mends K L s₀ s.warp_cursor_to_focused :=
  h.same (ground_warp_cursor_to_focused s)

theorem spawn (h : Mends K L s₀ s) (cmd : List String) : Mends K L s₀ (s.spawn cmd) :=
  h.same (ground_spawn s cmd)

theorem kill_focused (h : Mends K L s₀ s) : Mends K L s₀ s.kill_focused := by
  unfold Rwl.kill_focused
  split
  · exact h.emit _
  · exact h

/-! ### Order and focus -/

theorem zoom (h : Mends K L s₀ s) : Mends K L s₀ s.zoom := by
  unfold Rwl.zoom
  split
  · exact h
  · rename_i w _
    split_ifs with hw
    · -- the same windows in another order
      have hroll : ({ s.desk with windows := Recency.toFront w s.desk.windows } : Desk).roll =
          s.desk.roll := by
        refine Roll.ext rfl (funext fun v => propext ?_) rfl rfl rfl rfl
        exact (Recency.mem_toFront).trans (or_iff_right_of_imp fun h => h ▸ hw)
      have hfront := h.stirs.loose (f := fun d => { d with windows := Recency.toFront w d.windows })
        (by unfold Desk.outline; rw [hroll]; rfl)
      exact (hfront.focus_window _).arrange_all
    · exact h

theorem focus_urgent (h : Mends K L s₀ s) : Mends K L s₀ s.focus_urgent := by
  unfold Rwl.focus_urgent
  split
  · exact h
  · rename_i w _
    have hsel := h.select (s.desk.st w).mon_idx
    dsimp only
    split_ifs
    · exact (hsel.stirs.monitor _ fun cfg m => m.view cfg _).arrange_all.focus_window _
    · exact hsel.arrange_all.focus_window _

theorem focus_stack_step (h : Mends K L s₀ s) (dir : ℤ) :
    Mends K L s₀ (s.focus_stack_step dir) := by
  unfold Rwl.focus_stack_step
  split
  · exact h.focus_window _
  · exact h

/-! ### Views and tags -/

theorem view (h : Mends K L s₀ s) (mask : ℕ) : Mends K L s₀ (s.view mask) :=
  (h.stirs.showTags mask).slideTo _ _ _

theorem view_next_occ_tag (h : Mends K L s₀ s) (dir : ℤ) :
    Mends K L s₀ (s.view_next_occ_tag dir) := by
  unfold Rwl.view_next_occ_tag
  split
  · exact h.view _
  · exact h

theorem view_prev (h : Mends K L s₀ s) : Mends K L s₀ s.view_prev := by
  unfold Rwl.view_prev
  dsimp only
  refine Stirs.slideTo (h.stirs.loose ?_) _ _ _
  exact (Desk.outline_modifyMonitor _ _ _).trans (Desk.outline_update_tag_history ..)

theorem toggle_view (h : Mends K L s₀ s) (mask : ℕ) : Mends K L s₀ (s.toggle_view mask) := by
  have hrecord (p : Prop) [Decidable p] (i tags : ℕ) : Mends K L s₀
      (if p then s.modifyDesk (Desk.update_tag_history · i tags) else s) := by
    split_ifs
    · exact h.aside (Desk.picture_update_tag_history ..)
    · exact h
  unfold Rwl.toggle_view
  dsimp only
  exact ((hrecord _ _ _).stirs.monitor _ fun cfg m => m.toggle_view cfg mask).arrangedTop

theorem view_tag_spawn (h : Mends K L s₀ s) (mask : ℕ) : Mends K L s₀ (s.view_tag_spawn mask) := by
  have hshow := h.stirs.showTags (mask &&& s.desk.cfg.tag_mask)
  unfold Rwl.view_tag_spawn
  dsimp only
  refine Stirs.slideTo ?_ _ _ _
  split_ifs
  · split
    · exact hshow.same (ground_spawn _ _)
    · exact hshow
  · exact hshow

theorem tag (h : Mends K L s₀ s) (mask : ℕ) : Mends K L s₀ (s.tag mask) := by
  have htag (w : WinId) (mask : ℕ) := h.stirs.set_window_tags w mask
  unfold Rwl.tag
  dsimp only
  split_ifs
  · exact h
  · refine Stirs.arrangedTop ?_
    split
    · exact (htag _ _).showTags _
    · exact h.stirs
  · refine Stirs.arrangedTop ?_
    split
    · exact htag _ _
    · exact h.stirs

theorem toggle_tag (h : Mends K L s₀ s) (mask : ℕ) : Mends K L s₀ (s.toggle_tag mask) := by
  unfold Rwl.toggle_tag
  dsimp only
  refine Stirs.arrange_all ?_
  split
  · split_ifs
    · exact h.stirs.set_window_tags _ _
    · exact h.stirs
  · exact h.stirs

/-! ### Monitors and layouts -/

theorem focus_mon (h : Mends K L s₀ s) (dir : ℤ) : Mends K L s₀ (s.focus_mon dir) := by
  unfold Rwl.focus_mon
  split
  · exact ((h.select _).focus_window _).arrange_all
  · exact h

theorem tag_mon (h : Mends K L s₀ s) (dir : ℤ) : Mends K L s₀ (s.tag_mon dir) := by
  unfold Rwl.tag_mon
  split
  · rename_i focused next _ _
    have hsent := h.stirs.sendTo focused next
    dsimp only
    split_ifs
    · have hsel := hsent.loose (f := fun d => { d with sel_mon := next }) rfl
      exact (hsel.focus_window _).arrange_all
    · exact hsent.arrange_all
  · exact h

theorem relayout (h : Mends K L s₀ s) (f : Config → Monitor → Monitor) :
    Mends K L s₀ (s.relayout f) :=
  (h.stirs.monitor _ f).arrange_all

theorem inc_nmaster (h : Mends K L s₀ s) (delta : ℤ) : Mends K L s₀ (s.inc_nmaster delta) := by
  unfold Rwl.inc_nmaster
  exact h.relayout _

theorem set_mfact (h : Mends K L s₀ s) (delta : ℚ) : Mends K L s₀ (s.set_mfact delta) := by
  unfold Rwl.set_mfact
  exact h.relayout _

theorem set_layout (h : Mends K L s₀ s) (idx : ℕ) : Mends K L s₀ (s.set_layout idx) := by
  unfold Rwl.set_layout
  exact h.relayout _

theorem reset_layout (h : Mends K L s₀ s) : Mends K L s₀ s.reset_layout := by
  unfold Rwl.reset_layout
  exact h.relayout _

theorem cycle_layout (h : Mends K L s₀ s) : Mends K L s₀ s.cycle_layout := by
  unfold Rwl.cycle_layout
  dsimp only
  split_ifs
  · exact h.arrange_all
  · exact h.set_layout _

theorem toggle_gaps (h : Mends K L s₀ s) : Mends K L s₀ s.toggle_gaps :=
  (h.aside (f := fun d => { d with gaps_enabled := !d.gaps_enabled }) rfl).arrange_all

theorem toggle_focused_floating (h : Mends K L s₀ s) : Mends K L s₀ s.toggle_focused_floating := by
  unfold Rwl.toggle_focused_floating
  split
  · exact Stirs.arrange_all (h.stirs.window _ fun _ => ⟨rfl, rfl⟩)
  · exact h

theorem toggle_focused_fullscreen (h : Mends K L s₀ s) :
    Mends K L s₀ s.toggle_focused_fullscreen := by
  unfold Rwl.toggle_focused_fullscreen
  split
  · exact ((h.stirs.set_fullscreen _ _).arrange_all.fire _).emit _
  · exact h

/-! ### Scratchpads -/

theorem hideScratch (h : Mends K L s₀ s) (w : WinId) : Mends K L s₀ (s.hideScratch w) := by
  have hlower : Stirs K L s₀ (s.modifyDesk fun d =>
      { d.set_window_tags w 0 with focus_stack := d.focus_stack.filter fun v => decide (v ≠ w) }) :=
    (h.stirs.set_window_tags w 0).loose (f := fun d =>
      { d with focus_stack := d.focus_stack.filter fun v => decide (v ≠ w) }) rfl
  exact hlower.focus_top.arrange_all.warp_cursor_to_focused

theorem showScratch (h : Mends K L s₀ s) (w : WinId) : Mends K L s₀ (s.showScratch w) :=
  ((h.stirs.set_window_tags w _).focus_window _).arrange_all.warp_cursor_to_focused

theorem toggle_scratch (h : Mends K L s₀ s) (cmd : ScratchCmd) :
    Mends K L s₀ (s.toggle_scratch cmd) := by
  unfold Rwl.toggle_scratch
  split
  · split_ifs
    · exact h.hideScratch _
    · exact h.showScratch _
  · exact h.spawn _

theorem focus_or_toggle_scratch (h : Mends K L s₀ s) (cmd : ScratchCmd) :
    Mends K L s₀ (s.focus_or_toggle_scratch cmd) := by
  unfold Rwl.focus_or_toggle_scratch
  split
  · split_ifs
    · exact h.hideScratch _
    · exact h.showScratch _
  · exact h.spawn _

theorem focus_or_toggle_matching_scratch (h : Mends K L s₀ s) (cmd : ScratchCmd) :
    Mends K L s₀ (s.focus_or_toggle_matching_scratch cmd) := by
  unfold Rwl.focus_or_toggle_matching_scratch
  dsimp only
  split
  · split_ifs
    · exact h.hideScratch _
    · exact h.showScratch _
  · exact h.spawn _

/-! ### The rest -/

theorem reload_config (h : Mends K L s₀ s) : Mends K L s₀ s.reload_config := by
  have hreload := h.stirs.update (f := fun d => { d with cfg := s.config_file }) (by
    rw [h.file]
    exact .stir (.reload _))
  have hrules := (hreload.loose (f := Desk.reapply_monitor_rules)
    (Desk.outline_reapply_monitor_rules _)).fire .monitor_layout
  refine Mends.emit (Stirs.arrange_all (hrules.loose ?_)) _
  unfold Desk.outline
  rw [List.length_map]
  rfl

/-- The native locker ends a grab; nothing happens on a locked session. -/
theorem lock (h : Mends K L s₀ s) : Mends K L s₀ s.lock := by
  refine h.trans ⟨congrArg Prod.snd (store_lock s), ?_, ?_⟩
  · rw [show s.lock.desk = s.desk from congrArg Prod.fst (store_lock s)]
    exact .refl
  · unfold Rwl.lock
    split_ifs with hl
    · exact .inl ⟨rfl, rfl⟩
    · rw [not_or, Bool.not_eq_true, Bool.not_eq_true, Option.isSome_eq_false_iff,
        Option.isNone_iff_eq_none] at hl
      exact .inr ⟨⟨hl.1, hl.2, rfl⟩, rfl⟩

/-- The body of every action mends what it stirs. -/
theorem perform (h : Mends K L s₀ s) (a : Action) : Mends K L s₀ (s.perform a) := by
  cases a with
  | Spawn cmd => exact h.spawn cmd
  | FocusStack dir => exact h.focus_stack_step dir
  | IncNmaster delta => exact h.inc_nmaster delta
  | SetMfact delta => exact h.set_mfact delta
  | Zoom => exact h.zoom
  | ViewPrev => exact h.view_prev
  | ViewNextOccTag dir => exact h.view_next_occ_tag dir
  | KillClient => exact h.kill_focused
  | SetLayout idx => exact h.set_layout idx
  | CycleLayout => exact h.cycle_layout
  | ResetLayout => exact h.reset_layout
  | ToggleFloating => exact h.toggle_focused_floating
  | ToggleFullscreen => exact h.toggle_focused_fullscreen
  | ToggleGaps => exact h.toggle_gaps
  | View mask => exact h.view mask
  | ViewTagSpawn mask => exact h.view_tag_spawn mask
  | ToggleView mask => exact h.toggle_view mask
  | Tag mask => exact h.tag mask
  | ToggleTag mask => exact h.toggle_tag mask
  | FocusMon dir => exact h.focus_mon dir
  | TagMon dir => exact h.tag_mon dir
  | ToggleScratch cmd => exact h.toggle_scratch cmd
  | FocusOrToggleScratch cmd => exact h.focus_or_toggle_scratch cmd
  | FocusOrToggleMatchingScratch cmd => exact h.focus_or_toggle_matching_scratch cmd
  | ReloadConfig => exact h.reload_config
  | ToggleBar => exact (h.emit _).toggle_gaps
  | ToggleOverview => exact h.same (ground_overview_toggle s false)
  | ToggleOverviewAll => exact h.same (ground_overview_toggle s true)
  | OverviewNav keysym => exact h.same (ground_handle_key s keysym)
  | TogglePip => exact h.same (ground_pip_toggle s)
  | Lock => exact h.lock
  | TogglePassthrough | Quit | Chvt | BarPrompt => exact h.same rfl
  | Move | Resize | MovePip | LockConsume | Consumed | CallLua | SendKeys => exact h

/-! ### Dispatch and Lua -/

theorem keptByParts : KeptByParts (Mends K L s₀) where
  perform _ a h := h.perform a
  notifyChanges before s h := h.same (ground_notifyChanges before s)
  call _ _ h := h.fire _
  text _ _ h := h.emit _
  kill_selected s h := h.same (ground_kill_selected s)
  force_close _ h := h.same rfl
  taken _ h := h.same rfl
  spawn _ argv h := h.spawn argv
  notify _ _ h := h.emit _
  close _ _ h := h.emit _
  set_tags _ w _ h := (h.stirs.set_window_tags w _).arrangedTop
  set_floating _ w _ h := Stirs.arrange_all (h.stirs.window w fun _ => ⟨rfl, rfl⟩)
  set_fullscreen _ w fs h := (h.stirs.set_fullscreen w fs).arrange_all
  send _ w _ next _ h := (h.stirs.sendTo w next).arrangedTop
  focus _ _ _ h := h.focus_window _
  warp _ _ _ h := (h.focus_window _).warp_cursor_to_focused
  set_scratch _ w _ h := h.window w fun _ => ⟨rfl, rfl, rfl⟩

theorem foldl {α : Type*} {f : Rwl → α → Rwl} (hf : ∀ s a, Mends K L s₀ s → Mends K L s₀ (f s a))
    (l : List α) (h : Mends K L s₀ s) : Mends K L s₀ (l.foldl f s) :=
  List.foldlRecOn l f h fun s h a _ => hf s a h

theorem drain (h : Mends K L s₀ s) : Mends K L s₀ s.drain := keptByParts.drain h

/-- **An action, with all the Lua it runs, mends what it stirs.** -/
theorem dispatch (h : Mends K L s₀ s) (a : Action) : Mends K L s₀ (s.dispatch a) :=
  keptByParts.dispatch h a

end Mends

end Rwl

end Compositor
