import Mathlib.Tactic.Common
import Rwl.Core.Shell
import Rwl.Theory.ActionActs

/-!
# Shell handlers are chains of changes

* interactive moves and resizes;
* window rules and swallowing;
* `Acts.toplevel_destroyed`, `Acts.commit` and the other shell handlers.

A handler that takes a window from where handles are kept asks for the environment's word on it;
one that removes windows asks that a clean change clears their keys.
-/

namespace Compositor

open Registry (Grant)

namespace Desk

/-! ### Interactive moves and resizes -/

theorem registry_apply_cfact (g : Grab) (w : WinId) (len : ℤ) (delta : ℚ) (d : Desk) :
    (grab.apply_cfact g w len delta d).registry = d.registry := by
  unfold grab.apply_cfact
  split_ifs
  · rfl
  · exact registry_modifyWindow d w fun _ => ⟨rfl, rfl⟩

theorem registry_dragSplit (g : Grab) (i : ℕ) (delta : ℚ) (area : Monitor → ℤ) (d : Desk) :
    (grab.dragSplit g i delta area d).registry = d.registry := by
  unfold grab.dragSplit
  refine registry_modifyMonitor d i fun m => ?_
  split_ifs <;> rfl

/-! ### Swallowing -/

theorem walk_mem {d : Desk} {cands : List (ℕ × WinId)} {fuel : ℕ} {pid : Option ℕ} {w : WinId}
    (h : swallow.walk d cands fuel pid = some w) : ∃ p, (p, w) ∈ cands := by
  induction fuel generalizing pid with
  | zero => simp [swallow.walk] at h
  | succ fuel ih =>
    cases pid with
    | none => simp [swallow.walk] at h
    | some p =>
      unfold swallow.walk at h
      split_ifs at h
      split at h
      · rename_i q term hfind
        obtain rfl := Option.some.inj h
        exact ⟨q, List.mem_of_find?_eq_some hfind⟩
      · exact ih h

/-- A terminal that may be hidden is a managed window. -/
theorem find_target_mem {d : Desk} {child term : WinId} {appid title : String}
    (h : swallow.find_target d child appid title = some term) : term ∈ d.windows := by
  unfold swallow.find_target at h
  split_ifs at h
  obtain ⟨_, _, h⟩ := Option.bind_eq_some_iff.1 h
  obtain ⟨p, h⟩ := walk_mem h
  obtain ⟨v, hv, h⟩ := List.mem_filterMap.1 h
  obtain ⟨_, _, h⟩ := Option.map_eq_some_iff.1 h
  obtain ⟨_, rfl⟩ := Prod.mk.inj h
  exact List.mem_of_mem_filter hv

theorem registry_do_swallow (d : Desk) (child term : WinId) :
    (swallow.do_swallow d child term).registry =
      { d.registry with
        slot := Function.update d.registry.slot child (d.st term).mon_idx } := by
  unfold swallow.do_swallow
  dsimp only
  rw [registry_modifyWindow _ term, registry_assign d child]
  · exact fun _ => rfl
  · exact fun _ => rfl
  · exact fun _ => ⟨rfl, rfl⟩

/-! ### Rules -/

theorem sound_target_monitor {g : Grant WinId} (d : Desk) (rule_monitor : ℤ) :
    Registry.Sound g d.registry (d.target_monitor_for_window rule_monitor) := by
  unfold target_monitor_for_window
  split_ifs
  · refine .inr (.inl ?_)
    unfold Registry.InRange
    rw [show d.registry.slots.length = d.monitors.length from List.length_map ..]
    omega
  · exact .inl rfl

theorem registry_pending_tag_transition (d : Desk) (p : Option (ℕ × ℕ × ℚ)) :
    ({ d with pending_tag_transition := p } : Desk).registry = d.registry := rfl

theorem registry_switchTo (d : Desk) (w : WinId) (i mask : ℕ) :
    (switchTo d w i mask).registry = d.registry := by
  unfold switchTo
  dsimp only
  split
  · exact registry_update_tag_history d i mask
  · split_ifs
    · exact registry_update_tag_history d i mask
    · refine (registry_pending_tag_transition _ _).trans ?_
      rw [registry_modifyWindow _ w, registry_view, registry_mark_slide_outs,
        registry_update_tag_history]
      exact fun _ => ⟨rfl, rfl⟩

theorem registry_settle (d : Desk) (w : WinId) (acc : RuleAccum) :
    (settle d w acc).registry =
      { d.registry with
        slot := Function.update d.registry.slot w (d.target_monitor_for_window acc.monitor) } := by
  unfold settle
  dsimp only
  rw [registry_assign _ w (i := d.target_monitor_for_window acc.monitor)]
  · split
    · split_ifs
      · rfl
      · rw [registry_switchTo]
    · rfl
  · exact fun _ => rfl
  · exact fun _ => rfl

/-- The managed window whose place a new dialog takes. -/
def adoptedFrom (d : Desk) (w : WinId) : Option WinId :=
  (d.client w).toplevel_parent.bind d.window_map

theorem registry_adoptParent (d : Desk) (w : WinId) (parent : SurfaceId) :
    (adoptParent d w parent).registry =
      { d.registry with
        slot := Function.update d.registry.slot w
          (match d.window_map parent with
            | some pw => (d.st pw).mon_idx
            | none => d.sel_mon) } := by
  unfold adoptParent
  cases d.window_map parent with
  | none =>
    dsimp only
    rw [registry_assign d w]
    · exact fun _ => rfl
    · exact fun _ => rfl
  | some pw =>
    dsimp only
    rw [registry_assign d w]
    · exact fun _ => rfl
    · exact fun _ => rfl

end Desk

namespace Rwl

/-! ### New and removed windows -/

theorem registry_insertWindow (d : Desk) (w : WinId) (c : Client) {f : WindowState → WindowState}
    (hf : ∀ st, Desk.SameSlot st (f st)) :
    (insertWindow d w c f).registry = d.registry.insert w c.wl_surface c.x11.isSome := by
  have hmap : (insertWindow d w c f).window_map =
      (d.registry.insert w c.wl_surface c.x11.isSome).byKey := by
    unfold insertWindow Registry.insert
    cases c.wl_surface <;> rfl
  let st : WindowState := { WindowState.new with tags := (newPlace d).2, mon_idx := d.sel_mon }
  have hforeign : (insertWindow d w c f).registry.foreign =
      Function.update d.registry.foreign w false := by
    change WindowState.is_override_redirect ∘ Function.update d.st w (f st) = _
    rw [Function.comp_update, (hf st).2]
    rfl
  have hslot : (insertWindow d w c f).registry.slot =
      Function.update d.registry.slot w d.sel_mon := by
    change WindowState.mon_idx ∘ Function.update d.st w (f st) = _
    rw [Function.comp_update, (hf st).1]
    rfl
  refine Registry.ext rfl rfl rfl hmap ?_ ?_ hforeign hslot rfl rfl rfl
  · exact Function.comp_update Client.wl_surface d.client w c
  · exact Function.comp_update (fun c => c.x11.isSome) d.client w c

theorem registry_dropToplevel (d : Desk) (f : SurfaceId) :
    (dropToplevel d f).registry =
      d.registry.remove (fun w => !isToplevel d f w) fun k => decide (k = f) := by
  have hmap : Function.update d.window_map f none =
      fun k => if decide (k = f) = true then none else d.window_map k := by
    funext k
    by_cases hk : k = f
    · subst hk
      rw [Function.update_self]
      simp
    · rw [Function.update_of_ne hk]
      simp [hk]
  exact Registry.ext rfl rfl rfl hmap rfl rfl rfl rfl rfl rfl rfl

namespace Acts

variable {g : Grant WinId} {s₀ s : Rwl}

/-! ### Interactive moves and resizes -/

theorem start_move (h : Acts g s₀ s) {w : WinId} (hw : Focusable g s.desk w) :
    Acts g s₀ (grab.start_move s w) := by
  have hgrab : Acts g s₀
      { s with grab := { s.grab with grab_was_floating := (s.desk.st w).is_floating } } := h.rest rfl
  have hfloat := hgrab.modifyWindow w (f := fun st => { st with is_floating := true })
    fun _ => ⟨rfl, rfl⟩
  unfold grab.start_move grab.begin
  refine Acts.focus_window (Acts.rest hfloat ?_) (hw.of_registry ?_)
  · rfl
  · exact Desk.registry_modifyWindow s.desk w fun _ => ⟨rfl, rfl⟩

theorem start_resize (h : Acts g s₀ s) {w : WinId} (hw : Focusable g s.desk w) :
    Acts g s₀ (grab.start_resize s w) := by
  unfold grab.start_resize grab.begin
  refine Acts.focus_window (Acts.rest h ?_) hw
  rfl

theorem handle_move (h : Acts g s₀ s) (loc : PointF) : Acts g s₀ (grab.handle_move s loc) := by
  unfold grab.handle_move
  split
  · exact h.quiet rfl
  · exact h

theorem handle_resize (h : Acts g s₀ s) (loc : PointF) : Acts g s₀ (grab.handle_resize s loc) := by
  have hdrag (g' : Grab) (w : WinId) (i : ℕ) (len : ℤ) (d₁ d₂ : ℚ) (area : Monitor → ℤ) :
      Acts g s₀ ((s.modifyDesk fun d =>
        grab.apply_cfact g' w len d₁ (grab.dragSplit g' i d₂ area d)).arrange i) := by
    refine Acts.arrange (h.quiet ?_) i
    rw [Desk.registry_apply_cfact, Desk.registry_dragSplit]
  unfold grab.handle_resize
  split
  · dsimp only
    split_ifs
    · exact h
    · split
      · exact h
      · split
        · exact hdrag ..
        · exact hdrag ..
        · exact hdrag ..
        · split
          · refine Acts.arrange (h.quiet ?_) _
            exact Desk.registry_modifyMonitor _ _ fun _ => rfl
          · exact h
        · split_ifs
          · exact Acts.arrange (h.quiet (Desk.registry_dragSplit ..)) _
          · exact h
        · split_ifs
          · exact Acts.arrange (h.quiet (Desk.registry_dragSplit ..)) _
          · exact h
        · exact h
        · exact h
  · exact h

theorem end_grab (h : Acts g s₀ s) : Acts g s₀ (grab.end_grab s) := by
  unfold grab.end_grab
  dsimp only
  split_ifs
  · split
    · rename_i w _
      refine Acts.arrange_all (Acts.rest (h.modifyWindow w (f := fun st =>
        { st with is_floating := false }) fun _ => ⟨rfl, rfl⟩) ?_)
      rfl
    · refine Acts.arrange_all (Acts.rest h ?_)
      rfl
  · split <;> exact h.rest rfl

/-! ### Rules and swallowing -/

theorem try_swallow (h : Acts g s₀ s) (w : WinId) :
    Acts g s₀ (s.modifyDesk (swallow.try_swallow · w)) := by
  refine h.desk ?_
  unfold swallow.try_swallow
  dsimp only
  split
  · rename_i term hterm
    rw [Desk.registry_do_swallow]
    exact .single (.assign _ w _ (.inr (.inr ⟨term, .inl (Desk.find_target_mem hterm), rfl⟩)))
  · exact .refl

/-- The terminal takes the place of the window that hid it. -/
theorem on_unmap (h : Acts g s₀ s) {w : WinId}
    (hw : Registry.Sound g s.desk.registry (s.desk.st w).mon_idx) :
    Acts g s₀ (s.modifyDesk (swallow.on_unmap · w)) := by
  have hforget (d : Desk) :
      ({ d with st := d.st.modifyAll d.windows fun _ s =>
        { s with swallowing := if s.swallowing = some w then none else s.swallowing } } :
          Desk).registry = d.registry :=
    Desk.registry_modifyAll d _ fun _ _ => ⟨rfl, rfl⟩
  refine h.desk ?_
  unfold swallow.on_unmap
  dsimp only
  split
  · rename_i term _
    have hassign : Registry.Steps g s.desk.registry
        (s.desk.modifyWindow term fun st => { st with
          is_swallowed := false
          tags := (s.desk.st w).tags
          mon_idx := (s.desk.st w).mon_idx }).registry := by
      rw [Desk.registry_assign s.desk term (i := (s.desk.st w).mon_idx)]
      · exact .single (.assign _ term _ hw)
      · exact fun _ => rfl
      · exact fun _ => rfl
    split_ifs
    · rw [hforget]
      exact hassign
    · exact hassign
  · split_ifs
    · rw [hforget]
    · exact .refl

/-- A window without a parent settles where its rules say; a dialog takes its parent's place. -/
theorem apply_rules (h : Acts g s₀ s) (w : WinId)
    (hp : ∀ pw, Desk.adoptedFrom s.desk w = some pw → pw ∈ s.desk.windows ∨ g.index pw) :
    Acts g s₀ (s.apply_rules w) := by
  have hsettle (d : Desk) (acc : RuleAccum) : Registry.Steps g d.registry (settle d w acc).registry := by
    rw [Desk.registry_settle]
    exact .single (.assign _ w _ (Desk.sound_target_monitor d acc.monitor))
  unfold Rwl.apply_rules
  split
  · rename_i parent hparent
    refine h.desk ?_
    rw [Desk.registry_adoptParent]
    refine .single (.assign _ w _ ?_)
    split
    · rename_i pw hpw
      refine .inr (.inr ⟨pw, hp pw ?_, rfl⟩)
      rw [Desk.adoptedFrom, hparent]
      exact hpw
    · exact .inl rfl
  · dsimp only
    split
    · rename_i ov _
      refine (h.fire _).desk ?_
      have hkeep := Desk.registry_modifyWindow s.desk w
        (f := fun st => { st with no_swallow := ov.no_swallow.getD st.no_swallow })
        fun _ => ⟨rfl, rfl⟩
      exact hkeep ▸ hsettle _ _
    · exact (h.fire _).desk (hsettle _ _)

/-! ### Toplevels -/

theorem new_toplevel (h : Acts g s₀ s) {w : WinId} (hw : w ∉ s.desk.created) (c : Client) :
    Acts g s₀ (s.new_toplevel w c) := by
  have hinsert : Acts g s₀ (s.modifyDesk fun d =>
      { insertWindow d w c id with focus_stack := Recency.toFront w d.focus_stack }) := by
    refine h.desk (.tail (.single (.insert _ w c.wl_surface c.x11.isSome hw)) ?_)
    rw [← registry_insertWindow s.desk w c (f := id) fun _ => ⟨rfl, rfl⟩]
    exact .touch _ w (.inl List.mem_cons_self)
  unfold Rwl.new_toplevel
  dsimp only
  refine Acts.emit ?_ rfl
  split_ifs
  · refine hinsert.followFocus _ (.inl ?_)
    simp [insertWindow, modifyDesk, Desk.registry]
  · exact hinsert

theorem tile_master_mem {d : Desk} {w : WinId} (h : tile_master_window d = some w) :
    w ∈ d.windows := by
  unfold tile_master_window at h
  split at h
  · cases h
  · split_ifs at h
    exact List.mem_of_find?_eq_some h

theorem auto_back_empty_tag (h : Acts g s₀ s) (i tags : ℕ) (prev : Option ℕ) :
    Acts g s₀ (auto_back_empty_tag.on_window_closed s i tags prev) := by
  have hhistory : Acts g s₀ (s.modifyDesk fun d =>
      { d with tag_history := d.tag_history.modify i fun h =>
        h.filter fun t => decide (t ≠ tags) }) := by
    refine h.quiet ?_
    simp only [Desk.registry, List.length_modify]
    rfl
  unfold auto_back_empty_tag.on_window_closed
  split_ifs
  · exact h
  · dsimp only
    split
    · exact hhistory
    · refine Acts.focus_top (Acts.quiet (Acts.arrange_all (Acts.cancelRepeat (Acts.quiet
        (Acts.quiet hhistory ?_) (Desk.registry_mark_slide_outs ..))))
          (Desk.registry_start_tag_transition ..))
      exact Desk.registry_modifyMonitor _ _ fun m => (Monitor.reviewed_apply _ _ _).sameOutput.1

theorem windowGone (h : Acts g s₀ s) (w : WinId) : Acts g s₀ (s.windowGone w) := by
  have hpip := (h.rest (core_pip_on_window_closed s w)).quiet
    (f := fun d => { d with space := Space.unmap_elem d.space w }) rfl
  unfold Rwl.windowGone
  dsimp only
  split_ifs
  · exact ((hpip.auto_back_empty_tag _ _ _).fire _).drain.emit rfl
  · exact (hpip.fire _).drain.emit rfl
  · exact hpip.auto_back_empty_tag _ _ _
  · exact hpip

theorem refocus (h : Acts g s₀ s) (was_visible : Bool) {restored : Option WinId}
    (hr : ∀ w, restored = some w → w ∈ s.desk.windows) :
    Acts g s₀ (s.refocus was_visible restored) := by
  have htop : ∀ w, restored.or (if was_visible then
      (tile_master_window s.desk).or s.desk.focused_window else s.desk.focused_window) = some w →
        Focusable g s.desk w := by
    intro w hw
    rcases Option.or_eq_some_iff.1 hw with hw | ⟨_, hw⟩
    · exact .of_mem (hr w hw)
    · split_ifs at hw
      · rcases Option.or_eq_some_iff.1 hw with hw | ⟨_, hw⟩
        · exact .of_mem (tile_master_mem hw)
        · exact .of_focused_window hw
      · exact .of_focused_window hw
  unfold Rwl.refocus
  dsimp only
  split_ifs at htop ⊢
  · exact Acts.rest (h.focus_option htop).arrange_all.warp_cursor_to_focused
      (core_overview_on_window_closed _)
  · exact (h.focus_option htop).arrange_all

/-- What follows once the window `w` is forgotten. -/
theorem settleGone (h : Acts g s₀ s) (w : WinId) (hi : g.index w) (was_visible : Bool) :
    Acts g s₀ (((s.windowGone w).modifyDesk (swallow.on_unmap · w)).refocus was_visible
      (swallow.restored (s.windowGone w).desk w)) := by
  have hrestored := (h.windowGone w).on_unmap (w := w) (.inr (.inr ⟨w, .inr hi, rfl⟩))
  refine hrestored.refocus _ fun term hterm => ?_
  obtain ⟨_, hmem⟩ := Option.filter_eq_some_iff.1 hterm
  have hwindows : (swallow.on_unmap (s.windowGone w).desk w).windows =
      (s.windowGone w).desk.windows := by
    unfold swallow.on_unmap
    dsimp only
    split <;> split_ifs <;> rfl
  change term ∈ (swallow.on_unmap _ w).windows
  rw [hwindows]
  exact of_decide_eq_true hmem

/-- **A destroyed toplevel is forgotten.** -/
theorem toplevel_destroyed (h : Acts g s₀ s) (f : SurfaceId) (hh : ∀ w, ¬ g.handle w)
    (hc : g.clean → ∀ k w, s.desk.window_map k = some w → w ∈ s.desk.windows →
      isToplevel s.desk f w = true → k = f)
    (hi : ∀ w, s.desk.window_map f = some w → g.index w) :
    Acts g s₀ (s.toplevel_destroyed f) := by
  have hdrop : Acts g s₀ (s.modifyDesk (dropToplevel · f)) := by
    refine h.desk ?_
    rw [registry_dropToplevel]
    refine .single (.remove _ _ _ (fun w hw => absurd hw (hh w)) fun hg k w hk hw ht => ?_)
    exact decide_eq_true (hc hg k w hk hw (Bool.not_inj (ht : (!isToplevel s.desk f w) = !true)))
  unfold Rwl.toplevel_destroyed
  dsimp only
  split
  · rename_i w hw
    exact hdrop.settleGone w (hi w hw) _
  · exact hdrop.refocus _ fun w hw => (Option.some_ne_none w hw.symm).elim

theorem fullscreen_request (h : Acts g s₀ s) (f : SurfaceId) (fs : Bool) :
    Acts g s₀ (s.fullscreen_request f fs) := by
  unfold Rwl.fullscreen_request
  split
  · rename_i w _
    dsimp only
    split_ifs
    · exact ((h.set_fullscreen w fs).arrange_all.fire _).emit rfl
    · exact (h.set_fullscreen w fs).arrange_all
  · exact h

theorem move_request (h : Acts g s₀ s) (f : SurfaceId)
    (hw : ∀ w, s.desk.window_map f = some w → Focusable g s.desk w) :
    Acts g s₀ (s.move_request f) := by
  unfold Rwl.move_request
  split
  · rename_i w hmap
    exact h.start_move (hw w hmap)
  · exact h

theorem resize_request (h : Acts g s₀ s) (f : SurfaceId)
    (hw : ∀ w, s.desk.window_map f = some w → Focusable g s.desk w) :
    Acts g s₀ (s.resize_request f) := by
  unfold Rwl.resize_request
  split
  · rename_i w hmap
    exact h.start_resize (hw w hmap)
  · exact h

theorem parent_changed (h : Acts g s₀ s) (f : SurfaceId) : Acts g s₀ (s.parent_changed f) := by
  unfold Rwl.parent_changed
  split
  · rename_i w _
    split_ifs
    · exact h.modifyWindow w fun _ => ⟨rfl, rfl⟩
    · exact h
  · exact h

/-! ### Commits -/

theorem firstCommit (h : Acts g s₀ s) (w : WinId)
    (hp : ∀ pw, Desk.adoptedFrom s.desk w = some pw → pw ∈ s.desk.windows ∨ g.index pw) :
    Acts g s₀ (s.firstCommit w) := by
  have hrules := (h.modifyWindow w (f := fun st => { st with rules_applied := true })
    fun _ => ⟨rfl, rfl⟩).apply_rules w hp
  exact ((hrules.try_swallow w).fire _).drain.arrange_all.focus_top.emit rfl

theorem firstBuffer (h : Acts g s₀ s) (w : WinId) : Acts g s₀ (s.firstBuffer w) := by
  have hmapped := h.modifyWindow w (f := fun st => { st with buffer_mapped := true })
    fun _ => ⟨rfl, rfl⟩
  have hwarp (s' : Rwl) (h' : Acts g s₀ s') : Acts g s₀
      (if s'.desk.focus_stack.head? = some w then s'.warp_cursor_to_focused else s') := by
    split_ifs
    · exact h'.warp_cursor_to_focused
    · exact h'
  unfold Rwl.firstBuffer
  dsimp only
  by_cases hb : (s.desk.st w).buffer_mapped = false ∧ 0 < (s.desk.client w).geometry.size.w ∧
      0 < (s.desk.client w).geometry.size.h
  · rw [if_pos hb]
    generalize hs' : (if (s.modifyDesk _).desk.focus_stack.head? = some w then _ else _) = s'
    have h' : Acts g s₀ s' := hs' ▸ hwarp _ hmapped
    split_ifs
    · exact Acts.arrange_all (h'.modifyWindow w fun _ => ⟨rfl, rfl⟩)
    · exact h'
  · rw [if_neg hb]
    exact h

theorem centre (h : Acts g s₀ s) (w : WinId) : Acts g s₀ (s.modifyDesk (Rwl.centre · w)) := by
  have hcentred (d : Desk) : (d.modifyWindow w fun st =>
      { st with needs_centering := false }).registry = d.registry :=
    Desk.registry_modifyWindow d w fun _ => ⟨rfl, rfl⟩
  refine h.quiet ?_
  unfold Rwl.centre
  dsimp only
  split_ifs
  · split
    · rfl
    · exact hcentred s.desk
  · split
    · rfl
    · rw [Desk.registry_modifyWindow _ w, hcentred]
      exact fun _ => ⟨rfl, rfl⟩
  · rfl

theorem refreshNames (h : Acts g s₀ s) (w : WinId) : Acts g s₀ (s.refreshNames w) := by
  unfold Rwl.refreshNames
  dsimp only
  split_ifs
  · refine Acts.emit (h.modifyWindow w ?_) rfl
    exact fun _ => ⟨rfl, rfl⟩
  · exact h

theorem commit_window (h : Acts g s₀ s) (w : WinId) (initial_sent : Bool)
    (hp : (s.desk.st w).rules_applied = false → ∀ pw, Desk.adoptedFrom s.desk w = some pw →
      pw ∈ s.desk.windows ∨ g.index pw) :
    Acts g s₀ (s.commit_window w initial_sent) := by
  unfold Rwl.commit_window
  dsimp only
  refine Acts.refreshNames (Acts.centre (Acts.firstBuffer ?_ w) w) w
  split_ifs with hrules
  · exact h.firstCommit w (hp hrules)
  · exact h.arrange_all
  · exact h

theorem commit_layer (h : Acts g s₀ s) (idx : ℕ) : Acts g s₀ (s.commit_layer idx) := by
  unfold Rwl.commit_layer
  dsimp only
  refine Acts.update_layer_focus ?_
  split
  · exact h
  · split_ifs
    · refine Acts.arrange (h.quiet ?_) idx
      exact Desk.registry_modifyMonitor _ _ fun _ => rfl
    · exact h

theorem commit (h : Acts g s₀ s) (f : SurfaceId) (initial_sent : Bool)
    (hp : ∀ w pw, s.desk.window_map f = some w → (s.desk.st w).rules_applied = false →
      Desk.adoptedFrom s.desk w = some pw → pw ∈ s.desk.windows ∨ g.index pw) :
    Acts g s₀ (s.commit f initial_sent) := by
  unfold Rwl.commit
  split
  · rename_i w hw
    exact h.commit_window w initial_sent fun hr pw => hp w pw hw hr
  · split
    · exact h.commit_layer _
    · exact h

theorem layer_destroyed (h : Acts g s₀ s) (f : SurfaceId) : Acts g s₀ (s.layer_destroyed f) := by
  unfold Rwl.layer_destroyed
  dsimp only
  refine Acts.update_layer_focus (Acts.arrange_all (h.quiet ?_))
  rfl

/-! ### Titles, dialogs and activation -/

theorem checkTitle (h : Acts g s₀ s) (w : WinId) : Acts g s₀ (s.checkTitle w) := by
  have hnames (title appid : Option String) := h.modifyWindow w
    (f := fun st => { st with last_title := title, last_appid := appid }) fun _ => ⟨rfl, rfl⟩
  unfold Rwl.checkTitle
  dsimp only
  split_ifs
  · exact hnames _ _
  · split
    · exact ((hnames _ _).fire _).emit rfl
    · exact (hnames _ _).emit rfl

theorem check_toplevel_titles (h : Acts g s₀ s) : Acts g s₀ s.check_toplevel_titles := by
  have hfold (l : List WinId) : ∀ {s}, Acts g s₀ s → Acts g s₀ (l.foldl Rwl.checkTitle s) := by
    induction l with
    | nil => exact fun h => h
    | cons w l ih => exact fun h => ih (h.checkTitle w)
  unfold Rwl.check_toplevel_titles
  split_ifs
  · exact h
  · exact (hfold _ h).emit rfl

theorem dialog_hint_changed (h : Acts g s₀ s) (f : SurfaceId) :
    Acts g s₀ (s.dialog_hint_changed f) := by
  unfold Rwl.dialog_hint_changed
  split
  · exact h
  · rename_i w _
    split_ifs
    · exact h
    · exact Acts.arrange_all (h.modifyWindow w fun _ => ⟨rfl, rfl⟩)

theorem request_activation (h : Acts g s₀ s) (f : SurfaceId)
    (hw : ∀ w, s.desk.window_map f = some w → ∀ v,
      urgentWindow (s.desk.modifyWindow w fun st => { st with is_urgent := true }) = some v →
        v ∈ s.desk.windows ∨ g.index v) :
    Acts g s₀ (s.request_activation f) := by
  unfold Rwl.request_activation
  split
  · exact h
  · rename_i w hmap
    dsimp only
    split_ifs
    · exact h
    · have hurgent := h.modifyWindow w (f := fun st => { st with is_urgent := true })
        fun _ => ⟨rfl, rfl⟩
      exact ((hurgent.fire _).emit rfl).focus_urgent (hw w hmap)

end Acts

end Rwl

end Compositor
