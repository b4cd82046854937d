import Mathlib.Tactic.Common
import Rwl.Theory.ActionChanges

/-!
# What shell handlers change on the desk

* interactive moves and resizes;
* rules: what a view jump leaves in the slots of its monitor, `Changes.settle`;
* leaving an empty view;
* closing a toplevel, up to the terminal it hid, and refocusing;
* commits, layers, titles, dialogs and activation.

A handler that makes or removes windows or links asks that `L` allows it.
-/

namespace Compositor

/-! ### Slots -/

namespace Monitor

theorem tagset_apply (cfg : Config) (mon : Monitor) (mask : ℕ) :
    (pertag_layouts.apply cfg mon mask).tagset = mon.tagset := by
  have set (idx : ℕ) : (pertag_layouts.set_monitor_layout cfg mon idx).tagset = mon.tagset := by
    unfold pertag_layouts.set_monitor_layout
    split_ifs <;> rfl
  unfold pertag_layouts.apply
  dsimp only
  split_ifs
  · rfl
  · split
    · exact set _
    · split
      · exact set _
      · rfl
      · rfl

/-- A view that is left stays in a slot. -/
theorem exists_slot_view (cfg : Config) (mon : Monitor) (mask : ℕ) :
    ∃ slot, (mon.view cfg mask).tagset slot = mon.tags := by
  unfold view
  dsimp only
  split_ifs
  · exact ⟨mon.sel_tags, rfl⟩
  · refine ⟨mon.sel_tags, ?_⟩
    rw [tagset_apply]
    simp [pushTags, tags]

end Monitor

namespace Desk

theorem cfg_update_tag_history (d : Desk) (i tags : ℕ) : (d.update_tag_history i tags).cfg = d.cfg := by
  unfold update_tag_history
  split
  · split_ifs <;> rfl
  · rfl

theorem monitors_update_tag_history (d : Desk) (i tags : ℕ) :
    (d.update_tag_history i tags).monitors = d.monitors := by
  unfold update_tag_history
  split
  · split_ifs <;> rfl
  · rfl

theorem cfg_mark_slide_outs (d : Desk) (old new : ℕ) (ow : ℚ) :
    (d.mark_slide_outs old new ow).cfg = d.cfg := by
  unfold mark_slide_outs
  dsimp only
  split_ifs <;> rfl

theorem monitors_mark_slide_outs (d : Desk) (old new : ℕ) (ow : ℚ) :
    (d.mark_slide_outs old new ow).monitors = d.monitors := by
  unfold mark_slide_outs
  dsimp only
  split_ifs <;> rfl

/-- After a view jump, what the monitor showed before is in one of its slots. -/
theorem exists_slot_switchTo (d : Desk) (w : WinId) {i : ℕ} (mask : ℕ) {m : Monitor}
    (hm : d.monitors[i]? = some m) :
    ∃ m' ∈ (switchTo d w i mask).monitors, ∃ slot, m'.tagset slot = m.tags := by
  have hmem : m ∈ d.monitors := List.mem_of_getElem? hm
  unfold switchTo
  dsimp only
  rw [monitors_update_tag_history, hm]
  dsimp only
  split_ifs
  · refine ⟨m, ?_, m.sel_tags, rfl⟩
    rwa [monitors_update_tag_history]
  · refine ⟨m.view d.cfg mask, ?_, m.exists_slot_view d.cfg mask⟩
    refine List.mem_of_getElem? (i := i) ?_
    change (List.modify _ i _)[i]? = _
    rw [monitors_mark_slide_outs, monitors_update_tag_history, List.getElem?_modify_eq, hm]
    rfl

namespace Changes

variable {file : Config} {L : Desk → Desk → Prop} {d₀ d : Desk}

/-! ### Sizes -/

theorem dragSplit (h : Changes file L d₀ d) (g : Grab) (i : ℕ) (delta : ℚ) (area : Monitor → ℤ) :
    Changes file L d₀ (grab.dragSplit g i delta area d) := by
  refine h.tail (.tune d i _ fun m => ?_)
  split_ifs <;> exact ⟨rfl, rfl⟩

theorem apply_cfact (h : Changes file L d₀ d) (g : Grab) (w : WinId) (len : ℤ) (delta : ℚ) :
    Changes file L d₀ (grab.apply_cfact g w len delta d) := by
  unfold grab.apply_cfact
  split_ifs
  · exact h
  · exact h.window w fun _ => ⟨⟨rfl, rfl⟩, rfl, rfl⟩

/-! ### Rules -/

/-- A dialog takes the tags of its parent, or those the selected monitor shows. -/
theorem adoptParent (h : Changes file L d₀ d) (w : WinId) (parent : SurfaceId) :
    Changes file L d₀ (adoptParent d w parent) := by
  have hshown : d.Origin ((d.sel_monitor.map Monitor.tags).getD 1) :=
    Rwl.Moves.origin_shown d d.sel_mon
  unfold Compositor.adoptParent
  cases d.window_map parent with
  | some pw => exact h.place w (.window pw) fun _ => ⟨⟨rfl, rfl⟩, rfl⟩
  | none => exact h.place w hshown fun _ => ⟨⟨rfl, rfl⟩, rfl⟩

/-- A view jump: the window remembers a view that its monitor still holds. `L` allows the slide
that waits for the next round of layout passes. -/
theorem switchTo (h : Changes file L d₀ d) (w : WinId) (i mask : ℕ)
    (hslide : ∀ (d : Desk) p, L d { d with pending_tag_transition := p }) :
    Changes file L d₀ (switchTo d w i mask) := by
  have hrecord : Changes file L d₀ (d.update_tag_history i mask) := h.tail (.history d i mask)
  unfold Compositor.switchTo
  dsimp only
  split
  · exact hrecord
  · rename_i m hm
    split_ifs
    · exact hrecord
    · have hmark := hrecord.mark_slide_outs m.tags (mask &&& d.cfg.tag_mask) m.w.size.w
      have hview := hmark.monitor i (.view mask) nofun
      rw [cfg_mark_slide_outs, cfg_update_tag_history] at hview
      refine Relation.ReflTransGen.tail (hview.tail (.window _ w (fun s =>
        { s with switch_to_tag := some m.tags }) (fun _ => ⟨rfl, rfl⟩) (.inl rfl) (.inr ?_)))
        (.life _ _ (hslide _ _))
      obtain ⟨slot, hslot⟩ := m.exists_slot_view d.cfg mask
      refine ⟨m.view d.cfg mask, List.mem_of_getElem? (i := i) ?_, slot, by rw [hslot]⟩
      change (List.modify _ i _)[i]? = _
      rw [monitors_mark_slide_outs, List.getElem?_modify_eq, hm]
      rfl

theorem cfg_switchTo (d : Desk) (w : WinId) (i mask : ℕ) : (Compositor.switchTo d w i mask).cfg = d.cfg := by
  unfold Compositor.switchTo
  dsimp only
  split
  · exact cfg_update_tag_history d i mask
  · split_ifs
    · exact cfg_update_tag_history d i mask
    · exact (cfg_mark_slide_outs _ _ _ _).trans (cfg_update_tag_history d i mask)

/-- **The end of `apply_rules`.** The tags are masked, or what the target monitor showed. -/
theorem settle (h : Changes file L d₀ d) (w : WinId) (acc : RuleAccum)
    (hslide : ∀ (d : Desk) p, L d { d with pending_tag_transition := p }) :
    Changes file L d₀ (settle d w acc) := by
  let i := d.target_monitor_for_window acc.monitor
  let tags := if acc.tags ≠ 0 then acc.tags &&& d.cfg.tag_mask
    else ((d.monitors[i]?).map Monitor.tags).getD 1
  have hplace {d' : Desk} (h' : Changes file L d₀ d') (ht : d'.Origin tags) :=
    h'.place w (f := fun s =>
      { s with
        tags := tags
        is_floating := acc.is_floating
        needs_centering := acc.is_floating && (d.client w).x11.isNone
        scratch_key := acc.scratch_key
        mon_idx := i
        last_appid := s.last_appid.or (some ((d.client w).app_id.getD ""))
        last_title := s.last_title.or (some ((d.client w).title.getD "")) })
      ht fun _ => ⟨⟨rfl, rfl⟩, rfl⟩
  have horigin : d.Origin tags := by
    dsimp only [tags]
    split_ifs
    · exact .masked _
    · exact Rwl.Moves.origin_shown d i
  have horigin' (mask : ℕ) : (Compositor.switchTo d w i mask).Origin tags := by
    dsimp only [tags]
    split_ifs
    · rw [← cfg_switchTo d w i mask]
      exact .masked _
    · cases hm : d.monitors[i]? with
      | none => exact .first
      | some m =>
        obtain ⟨m', hm', slot, hslot⟩ := exists_slot_switchTo d w mask hm
        change Origin _ m.tags
        exact hslot ▸ .shown m' slot hm'
  cases hjump : acc.switch_to_tag with
  | none =>
    simp only [Compositor.settle, hjump]
    exact hplace h horigin
  | some mask =>
    simp only [Compositor.settle, hjump]
    split
    · exact hplace h horigin
    · exact hplace (h.switchTo w i mask hslide) (horigin' mask)

/-! ### Centring -/

theorem centre (h : Changes file L d₀ d) (w : WinId) : Changes file L d₀ (Rwl.centre d w) := by
  unfold Rwl.centre
  dsimp only
  split_ifs
  · split
    · exact h
    · have hclear := h.window w (f := fun st => { st with needs_centering := false })
        fun _ => ⟨⟨rfl, rfl⟩, rfl, rfl⟩
      exact hclear.relaid rfl rfl rfl
  · split
    · exact h
    · have hclear := h.window w (f := fun st => { st with needs_centering := false })
        fun _ => ⟨⟨rfl, rfl⟩, rfl, rfl⟩
      exact hclear.window w fun _ => ⟨⟨rfl, rfl⟩, rfl, rfl⟩
  · exact h

end Changes

end Desk

namespace Rwl

/-- A resize in the column layout moves the boundary right of the grabbed column. -/
def grab.Dragged (g : Grab) (d d' : Desk) : Prop :=
  ∃ (area_w : ℤ) (dx : ℚ) (facts : List ℚ) (i : ℕ), grab.dragColumn g area_w dx = some facts ∧
    d' = d.modifyMonitor i fun m => { m with col_facts := facts }

namespace Moves

variable {L : Desk → Desk → Prop} {s₀ s : Rwl}

/-- The positions of the mapped windows change. -/
theorem space (h : Moves L s₀ s) (f : Desk → Space) :
    Moves L s₀ (s.modifyDesk fun d => { d with space := f d }) :=
  h.desk fun hc => hc.relaid rfl rfl rfl

theorem cancelRepeat (h : Moves L s₀ s) : Moves L s₀ s.cancelRepeat := h.same rfl

/-! ### Interactive moves and resizes -/

theorem start_move (h : Moves L s₀ s) (w : WinId) : Moves L s₀ (grab.start_move s w) := by
  have hgrab : Moves L s₀
      { s with grab := { s.grab with grab_was_floating := (s.desk.st w).is_floating } } :=
    h.same rfl
  have hfloat := hgrab.window w (f := fun st => { st with is_floating := true })
    fun _ => ⟨⟨rfl, rfl⟩, rfl, rfl⟩
  unfold grab.start_move grab.begin
  refine Moves.focus_window (hfloat.same ?_) _
  rfl

theorem start_resize (h : Moves L s₀ s) (w : WinId) : Moves L s₀ (grab.start_resize s w) := by
  unfold grab.start_resize grab.begin
  refine Moves.focus_window (h.same ?_) _
  rfl

theorem handle_move (h : Moves L s₀ s) (loc : PointF) : Moves L s₀ (grab.handle_move s loc) := by
  unfold grab.handle_move
  split
  · exact h.space _
  · exact h

theorem handle_resize (h : Moves L s₀ s) (loc : PointF)
    (hcol : ∀ d d', grab.Dragged s.grab d d' → L d d') :
    Moves L s₀ (grab.handle_resize s loc) := by
  have hdrag (g : Grab) (w : WinId) (i : ℕ) (len : ℤ) (d₁ d₂ : ℚ) (area : Monitor → ℤ) :
      Moves L s₀ ((s.modifyDesk fun d =>
        grab.apply_cfact g w len d₁ (grab.dragSplit g i d₂ area d)).arrange i) :=
    Moves.arrange (h.desk fun hc => (hc.dragSplit g i d₂ area).apply_cfact g w len d₁) i
  have hsplit (g : Grab) (i : ℕ) (delta : ℚ) (area : Monitor → ℤ) :
      Moves L s₀ ((s.modifyDesk (grab.dragSplit g i delta area)).arrange i) :=
    Moves.arrange (h.desk fun hc => hc.dragSplit g i delta area) i
  unfold grab.handle_resize
  split
  · dsimp only
    split_ifs
    · exact h
    · split
      · exact h
      · split
        · exact hdrag ..
        · exact hdrag ..
        · exact hdrag ..
        · split
          · rename_i facts hfacts
            exact Moves.arrange (h.desk fun hc =>
              hc.tail (.life _ _ (hcol _ _ ⟨_, _, _, _, hfacts, rfl⟩))) _
          · exact h
        · split_ifs
          · exact hsplit ..
          · exact h
        · split_ifs
          · exact hsplit ..
          · exact h
        · exact h
        · exact h
  · exact h

theorem end_grab (h : Moves L s₀ s) : Moves L s₀ (grab.end_grab s) := by
  unfold grab.end_grab
  dsimp only
  split_ifs
  · split
    · rename_i w _
      have htile := h.window w (f := fun st => { st with is_floating := false })
        fun _ => ⟨⟨rfl, rfl⟩, rfl, rfl⟩
      exact Moves.arrange_all (htile.same rfl)
    · exact Moves.arrange_all (h.same rfl)
  · split <;> exact h.same rfl

/-! ### Rules -/

theorem apply_rules (h : Moves L s₀ s) (w : WinId)
    (hslide : ∀ (d : Desk) p, L d { d with pending_tag_transition := p }) :
    Moves L s₀ (s.apply_rules w) := by
  unfold Rwl.apply_rules
  split
  · exact h.desk fun hc => hc.adoptParent w _
  · dsimp only
    split
    · rename_i ov _
      have hkeep := (h.fire (.window_rule w)).window w
        (f := fun st => { st with no_swallow := ov.no_swallow.getD st.no_swallow })
        fun _ => ⟨⟨rfl, rfl⟩, rfl, rfl⟩
      exact ⟨hkeep.file, hkeep.changes.settle w _ hslide⟩
    · exact (h.fire _).desk fun hc => hc.settle w _ hslide

/-! ### Closing -/

theorem auto_back_empty_tag (h : Moves L s₀ s) (i tags : ℕ) (w : WinId) :
    Moves L s₀ (auto_back_empty_tag.on_window_closed s i tags (s.desk.st w).switch_to_tag) := by
  have hforget : Moves L s₀ (s.modifyDesk fun d =>
      { d with tag_history := d.tag_history.modify i fun h =>
        h.filter fun t => decide (t ≠ tags) }) := h.desk fun hc => hc.tail (.forget _ i tags)
  unfold auto_back_empty_tag.on_window_closed
  split_ifs
  · exact h
  · dsimp only
    split
    · exact hforget
    · rename_i t ht
      have hback := hforget.desk (f := fun d => d.modifyMonitor i fun m =>
        (MonitorOp.retag t).run d.cfg m) fun hc => hc.tail (.back _ i tags w t ht)
      exact Moves.focus_top (Moves.desk (Moves.arrange_all (Moves.cancelRepeat
        (Moves.desk hback fun hc => hc.mark_slide_outs ..))) fun hc => hc.start_tag_transition ..)

theorem windowGone (h : Moves L s₀ s) (w : WinId) : Moves L s₀ (s.windowGone w) := by
  have hpip : Moves L s₀ ((pip.on_window_closed s w).modifyDesk fun d =>
      { d with space := Space.unmap_elem d.space w }) :=
    (h.same (store_of_ground (ground_pip_on_window_closed s w))).space _
  have hst : s.desk.st w = ((pip.on_window_closed s w).modifyDesk fun d =>
      { d with space := Space.unmap_elem d.space w }).desk.st w := by
    change _ = (pip.on_window_closed s w).desk.st w
    rw [(Prod.mk.inj (store_of_ground (ground_pip_on_window_closed s w))).1]
  unfold Rwl.windowGone
  dsimp only
  rw [hst]
  split_ifs
  · exact ((hpip.auto_back_empty_tag _ _ w).fire _).drain.emit _
  · exact (hpip.fire _).drain.emit _
  · exact hpip.auto_back_empty_tag _ _ w
  · exact hpip

theorem refocus (h : Moves L s₀ s) (was_visible : Bool) (restored : Option WinId) :
    Moves L s₀ (s.refocus was_visible restored) := by
  have hfocus (top : Option WinId) := (h.focus_window top).arrange_all
  unfold Rwl.refocus
  dsimp only
  split_ifs
  · exact (hfocus _).warp_cursor_to_focused.same (store_of_ground (ground_overview_on_window_closed _))
  · exact hfocus _

/-- **A destroyed toplevel.** `L` allows forgetting it and bringing back the terminal it hid. -/
theorem toplevel_destroyed (h : Moves L s₀ s) (f : SurfaceId)
    (hdrop : ∀ d, L d (dropToplevel d f))
    (hunmap : ∀ d w, L d (swallow.on_unmap d w)) : Moves L s₀ (s.toplevel_destroyed f) := by
  have hdropped : Moves L s₀ (s.modifyDesk (dropToplevel · f)) :=
    h.desk fun hc => hc.tail (.life _ _ (hdrop _))
  unfold Rwl.toplevel_destroyed
  dsimp only
  split
  · rename_i w _
    have hgone := hdropped.windowGone w
    exact Moves.refocus (hgone.desk fun hc => hc.tail (.life _ _ (hunmap _ w))) _ _
  · exact hdropped.refocus _ _

/-! ### Commits -/

/-- The first commit of a window. `L` allows hiding a terminal and a view jump. -/
theorem firstCommit (h : Moves L s₀ s) (w : WinId)
    (hslide : ∀ (d : Desk) p, L d { d with pending_tag_transition := p })
    (hswallow : ∀ d, L d (swallow.try_swallow d w)) : Moves L s₀ (s.firstCommit w) := by
  have hrules := (h.window w (f := fun st => { st with rules_applied := true })
    fun _ => ⟨⟨rfl, rfl⟩, rfl, rfl⟩).apply_rules w hslide
  have hswallowed := hrules.desk (f := (swallow.try_swallow · w))
    fun hc => hc.tail (.life _ _ (hswallow _))
  exact (hswallowed.fire _).drain.arrange_all.focus_top.emit _

theorem firstBuffer (h : Moves L s₀ s) (w : WinId) : Moves L s₀ (s.firstBuffer w) := by
  have hmapped := h.window w (f := fun st => { st with buffer_mapped := true })
    fun _ => ⟨⟨rfl, rfl⟩, rfl, rfl⟩
  have hfloat {s₁ : Rwl} (h₁ : Moves L s₀ s₁) := (h₁.window w
    (f := fun st => { st with is_floating := true, needs_centering := true })
    fun _ => ⟨⟨rfl, rfl⟩, rfl, rfl⟩).arrange_all
  unfold Rwl.firstBuffer
  dsimp only
  split_ifs
  · exact hfloat hmapped.warp_cursor_to_focused
  · exact hmapped.warp_cursor_to_focused
  · exact hfloat hmapped
  · exact hmapped
  · exact h

theorem centre (h : Moves L s₀ s) (w : WinId) : Moves L s₀ (s.modifyDesk (Rwl.centre · w)) :=
  h.desk fun hc => hc.centre w

theorem refreshNames (h : Moves L s₀ s) (w : WinId) : Moves L s₀ (s.refreshNames w) := by
  have hnames := h.window w (f := fun st =>
    { st with
      last_title := (namesNow (s.desk.client w)).1
      last_appid := (namesNow (s.desk.client w)).2 }) fun _ => ⟨⟨rfl, rfl⟩, rfl, rfl⟩
  unfold Rwl.refreshNames
  dsimp only
  split_ifs
  · exact hnames.emit _
  · exact h

theorem commit_window (h : Moves L s₀ s) (w : WinId) (initial_sent : Bool)
    (hslide : ∀ (d : Desk) p, L d { d with pending_tag_transition := p })
    (hswallow : ∀ d, L d (swallow.try_swallow d w)) :
    Moves L s₀ (s.commit_window w initial_sent) := by
  unfold Rwl.commit_window
  refine Moves.refreshNames (Moves.centre (Moves.firstBuffer ?_ w) w) w
  split_ifs
  · exact h.firstCommit w hslide hswallow
  · exact h.arrange_all
  · exact h

theorem commit_layer (h : Moves L s₀ s) (idx : ℕ) : Moves L s₀ (s.commit_layer idx) := by
  unfold Rwl.commit_layer
  refine Moves.update_layer_focus ?_
  split
  · exact h
  · rename_i mon _
    have harea := h.tune idx (f := fun m => { m with w := layerArea s.desk mon })
      fun _ => ⟨rfl, rfl⟩
    dsimp only
    split_ifs
    · exact harea.arrange idx
    · exact h

/-- **A commit.** -/
theorem commit (h : Moves L s₀ s) (f : SurfaceId) (initial_sent : Bool)
    (hslide : ∀ (d : Desk) p, L d { d with pending_tag_transition := p })
    (hswallow : ∀ d w, L d (swallow.try_swallow d w)) :
    Moves L s₀ (s.commit f initial_sent) := by
  unfold Rwl.commit
  split
  · exact h.commit_window _ initial_sent hslide fun d => hswallow d _
  · split
    · exact h.commit_layer _
    · exact h

theorem layer_destroyed (h : Moves L s₀ s) (f : SurfaceId) : Moves L s₀ (s.layer_destroyed f) :=
  Moves.update_layer_focus (Moves.arrange_all (h.desk fun hc => hc.tail (.outputs _ _ fun _ => rfl)))

/-! ### Requests -/

theorem fullscreen_request (h : Moves L s₀ s) (f : SurfaceId) (fs : Bool) :
    Moves L s₀ (s.fullscreen_request f fs) := by
  unfold Rwl.fullscreen_request
  split
  · rename_i w _
    have hset := (h.set_fullscreen w fs).arrange_all
    dsimp only
    split_ifs
    · exact (hset.fire _).emit _
    · exact hset
  · exact h

theorem move_request (h : Moves L s₀ s) (f : SurfaceId) : Moves L s₀ (s.move_request f) := by
  unfold Rwl.move_request
  split
  · exact h.start_move _
  · exact h

theorem resize_request (h : Moves L s₀ s) (f : SurfaceId) : Moves L s₀ (s.resize_request f) := by
  unfold Rwl.resize_request
  split
  · exact h.start_resize _
  · exact h

theorem parent_changed (h : Moves L s₀ s) (f : SurfaceId) : Moves L s₀ (s.parent_changed f) := by
  unfold Rwl.parent_changed
  split
  · split_ifs
    · exact h.window _ fun _ => ⟨⟨rfl, rfl⟩, rfl, rfl⟩
    · exact h
  · exact h

theorem checkTitle (h : Moves L s₀ s) (w : WinId) : Moves L s₀ (s.checkTitle w) := by
  have hnames := h.window w (f := fun st =>
    { st with
      last_title := (namesNow (s.desk.client w)).1
      last_appid := (namesNow (s.desk.client w)).2 }) fun _ => ⟨⟨rfl, rfl⟩, rfl, rfl⟩
  unfold Rwl.checkTitle
  dsimp only
  split_ifs
  · exact hnames
  · split
    · exact (hnames.fire _).emit _
    · exact hnames.emit _

theorem check_toplevel_titles (h : Moves L s₀ s) : Moves L s₀ s.check_toplevel_titles := by
  unfold Rwl.check_toplevel_titles
  split_ifs
  · exact h
  · exact (foldl (fun _ w h => h.checkTitle w) _ h).emit _

theorem dialog_hint_changed (h : Moves L s₀ s) (f : SurfaceId) :
    Moves L s₀ (s.dialog_hint_changed f) := by
  unfold Rwl.dialog_hint_changed
  split
  · exact h
  · split_ifs
    · exact h
    · exact Moves.arrange_all (h.window _ fun _ => ⟨⟨rfl, rfl⟩, rfl, rfl⟩)

theorem request_activation (h : Moves L s₀ s) (f : SurfaceId) :
    Moves L s₀ (s.request_activation f) := by
  unfold Rwl.request_activation
  split
  · exact h
  · rename_i w _
    have hurgent := h.window w (f := fun st => { st with is_urgent := true })
      fun _ => ⟨⟨rfl, rfl⟩, rfl, rfl⟩
    split_ifs
    · exact h
    · exact ((hurgent.fire _).emit _).focus_urgent

end Moves

end Rwl

end Compositor
