import Mathlib.Tactic.Common
import Rwl.Core.Step
import Rwl.Theory.Composites

/-!
# Who touches the mod-tap candidate and the overview

Most functions touch neither the candidate of the mod-tap gesture nor the overview. The others
leave the candidate alone, and the highlights of the overview within its cells.

* `margin`: the candidate and the overview;
* `OverviewState.InRange`, `Spares`: a state with the candidate of another, and with highlights in
  range if the other had them;
* one lemma for each function that only runs other functions, up to `spares_dispatch`.
-/

namespace Compositor

/-- The highlights of an overview are indices of its cells. -/
structure OverviewState.InRange (ov : OverviewState) : Prop where
  selected : ∀ i ∈ ov.selected, i < ov.cells.length
  hovered : ∀ i ∈ ov.hovered, i < ov.cells.length

namespace Rwl

/-- The candidate of the mod-tap gesture: its start and its modifiers. -/
def tap (s : Rwl) : Option (ℕ × ℕ) := s.keys.mod_tap

/-- The candidate of the mod-tap gesture, and the overview. -/
def margin (s : Rwl) : Option (ℕ × ℕ) × Option OverviewState := (s.tap, s.overview)

/-- The highlights of the overview, when there is one, are in range. -/
def OverviewInRange (s : Rwl) : Prop := ∀ ov ∈ s.overview, ov.InRange

/-- `s'` has the candidate of `s`, and its highlights are in range if those of `s` were. -/
structure Spares (s s' : Rwl) : Prop where
  tap : s'.tap = s.tap
  inRange : s.OverviewInRange → s'.OverviewInRange

namespace Spares

variable {s s' s'' : Rwl}

theorem same (h : s'.margin = s.margin) : Spares s s' := by
  have hov : s'.overview = s.overview := congrArg Prod.snd h
  refine ⟨congrArg Prod.fst h, fun hs ov hmem => hs ov ?_⟩
  rwa [← hov]

theorem refl (s : Rwl) : Spares s s := same rfl

theorem trans (h : Spares s s') (h' : Spares s' s'') : Spares s s'' :=
  ⟨h'.tap.trans h.tap, fun hs => h'.inRange (h.inRange hs)⟩

theorem after (h : Spares s' s'') (h' : Spares s s') : Spares s s'' := h'.trans h

theorem thenSame (h : Spares s s') (h' : s''.margin = s'.margin) : Spares s s'' :=
  h.trans (same h')

theorem afterSame (h : Spares s' s'') (h' : s'.margin = s.margin) : Spares s s'' :=
  (same h').trans h

/-- The overview is edited, and its highlights stay in range. -/
theorem modify (s : Rwl) {f : OverviewState → OverviewState}
    (hf : ∀ ov, ov.InRange → (f ov).InRange) : Spares s (overview.modify s f) := by
  refine ⟨rfl, fun hs ov hov => ?_⟩
  obtain ⟨ov₀, hov₀, rfl⟩ := Option.map_eq_some_iff.1 (Option.mem_def.1 hov)
  exact hf ov₀ (hs ov₀ hov₀)

end Spares

variable (s : Rwl)

/-! ### Focusing -/

theorem margin_refresh_pointer_focus : s.refresh_pointer_focus.margin = s.margin := by
  unfold refresh_pointer_focus
  split_ifs <;> rfl

theorem margin_arrange_all : s.arrange_all.margin = s.margin :=
  (margin_refresh_pointer_focus _).trans rfl

theorem margin_fireFocus (w : WinId) : (s.fireFocus w).margin = s.margin := by
  unfold fireFocus
  split_ifs <;> rfl

theorem margin_notifyFocus : s.notifyFocus.margin = s.margin := by
  unfold notifyFocus
  dsimp only
  split
  · exact (margin_fireFocus _ _).trans rfl
  · rfl

theorem margin_followFocus (w : WinId) (prev : Option WinId) :
    (s.followFocus w prev).margin = s.margin := by
  unfold followFocus
  dsimp only
  split
  · split_ifs <;> rfl
  · rfl

theorem margin_focusChanged (prev : Option WinId) : (s.focusChanged prev).margin = s.margin := by
  unfold focusChanged
  split
  · rw [margin_followFocus, margin_notifyFocus]
  · rw [margin_arrange_all, margin_notifyFocus]

theorem margin_focus_window (window : Option WinId) : (s.focus_window window).margin = s.margin := by
  have hfocus {s₁ : Rwl} (h₁ : s₁.margin = s.margin) (f : Option SurfaceId) (prev : Option WinId) :
      (if s₁.session.locked then s₁
        else if (s₁.kb_set_focus f).desk.focus_stack.head? = prev then s₁.kb_set_focus f
        else (s₁.kb_set_focus f).focusChanged prev).margin = s.margin := by
    split_ifs
    · exact h₁
    · exact h₁
    · exact (margin_focusChanged _ _).trans h₁
  cases window with
  | none => exact hfocus rfl _ _
  | some w =>
    have hraise : (s.modifyDesk (raise · w)).margin = s.margin := rfl
    exact hfocus hraise _ _

theorem margin_focus_top : s.focus_top.margin = s.margin := margin_focus_window s _

theorem margin_update_layer_focus : s.update_layer_focus.margin = s.margin := by
  unfold update_layer_focus
  split_ifs
  · rfl
  · split <;> rfl

/-! ### The overview -/

theorem spares_begin_close (sel : Selection) : Spares s (overview.begin_close s sel) :=
  .modify s fun _ h => ⟨h.selected, h.hovered⟩

theorem spares_choose (ov : OverviewState) (i : Option ℕ) : Spares s (overview.choose s ov i) := by
  unfold overview.choose
  split
  · exact spares_begin_close s _
  · exact .refl s

theorem spares_overview_toggle (all_tags : Bool) : Spares s (overview.toggle s all_tags) := by
  unfold overview.toggle
  split_ifs
  · exact spares_begin_close s _
  · split
    · exact .refl s
    · dsimp only
      split_ifs
      · exact .refl s
      · refine ⟨rfl, ?_⟩
        rintro _ _ ⟨⟩
        exact ⟨nofun, nofun⟩

theorem spares_force_close : Spares s (overview.force_close s) := ⟨rfl, fun _ => nofun⟩

theorem margin_kill_selected : (overview.kill_selected s).margin = s.margin := by
  unfold overview.kill_selected
  split
  · split_ifs <;> rfl
  · rfl

theorem spares_overview_on_window_closed : Spares s (overview.on_window_closed s) := by
  unfold overview.on_window_closed
  split
  · exact .refl s
  · split
    · exact spares_force_close s
    · dsimp only
      split_ifs with hempty
      · exact spares_force_close s
      · refine ⟨rfl, ?_⟩
        rintro _ _ ⟨⟩
        refine ⟨fun i hi => ?_, nofun⟩
        obtain ⟨j, _, rfl⟩ := Option.map_eq_some_iff.1 (Option.mem_def.1 hi)
        have hpos := List.length_pos_iff.2 (mt List.isEmpty_iff.2 hempty)
        exact lt_of_le_of_lt (Nat.min_le_right _ _) (Nat.sub_lt hpos Nat.one_pos)

theorem spares_type_char (c : Char) : Spares s (overview.type_char s c) := by
  unfold overview.type_char
  split
  · exact .refl s
  · dsimp only
    split_ifs
    · exact .refl s
    · refine (Spares.modify s (f := fun ov => { ov with typed := _ }) fun _ h => ?_).trans
        (spares_choose _ _ _)
      exact ⟨h.selected, h.hovered⟩

theorem spares_move_selected (forward : Bool) : Spares s (overview.move_selected s forward) := by
  refine .modify s fun ov h => ?_
  dsimp only
  by_cases hn : ov.cells.length = 0
  · rw [if_pos hn]
    exact h
  · rw [if_neg hn]
    refine ⟨?_, nofun⟩
    rintro _ ⟨⟩
    cases ov.selected with
    | none =>
      cases forward with
      | true => exact Nat.pos_of_ne_zero hn
      | false => exact Nat.sub_lt (Nat.pos_of_ne_zero hn) Nat.one_pos
    | some cur =>
      cases forward with
      | true => exact Nat.mod_lt _ (Nat.pos_of_ne_zero hn)
      | false => exact Nat.mod_lt _ (Nat.pos_of_ne_zero hn)

theorem spares_handle_key (keysym : ℕ) : Spares s (overview.handle_key s keysym) := by
  unfold overview.handle_key
  split_ifs
  · exact .refl s
  · exact spares_begin_close s _
  · unfold overview.select_best
    split
    · exact .refl s
    · exact spares_choose s _ _
  · exact spares_move_selected s false
  · exact spares_move_selected s true
  · exact .modify s fun _ h => ⟨h.selected, h.hovered⟩
  · split
    · exact spares_type_char s _
    · exact .refl s

theorem cellAt_lt {ov : OverviewState} {loc : PointF} {i : ℕ} (h : overview.cellAt ov loc = some i) :
    i < ov.cells.length :=
  (List.findIdx?_eq_some_iff_getElem.1 h).1

theorem spares_handle_pointer_motion (loc : PointF) :
    Spares s (overview.handle_pointer_motion s loc) := by
  refine .modify s fun ov h => ⟨fun i hi => ?_, fun i hi => cellAt_lt hi⟩
  cases hat : overview.cellAt ov loc with
  | none =>
    rw [hat] at hi
    exact h.selected i hi
  | some j =>
    rw [hat] at hi
    obtain rfl : j = i := Option.some.inj hi
    exact cellAt_lt hat

theorem spares_handle_pointer_click (loc : PointF) :
    Spares s (overview.handle_pointer_click s loc) := by
  unfold overview.handle_pointer_click
  split
  · exact .refl s
  · exact spares_choose s _ _

/-! ### Picture-in-Picture, warping and interactive grabs -/

theorem margin_warp_cursor_to_focused : s.warp_cursor_to_focused.margin = s.margin := by
  unfold warp_cursor_to_focused
  split_ifs
  · rfl
  · split <;> rfl

theorem margin_pip_toggle : (pip.toggle s).margin = s.margin := by
  unfold pip.toggle
  split_ifs
  · rfl
  · split <;> rfl

theorem margin_pip_on_window_closed (w : WinId) : (pip.on_window_closed s w).margin = s.margin := by
  unfold pip.on_window_closed
  split_ifs <;> rfl

theorem margin_start_move (w : WinId) : (grab.start_move s w).margin = s.margin :=
  (margin_focus_window _ _).trans rfl

theorem margin_start_resize (w : WinId) : (grab.start_resize s w).margin = s.margin :=
  (margin_focus_window _ _).trans rfl

theorem margin_handle_move (loc : PointF) : (grab.handle_move s loc).margin = s.margin := by
  unfold grab.handle_move
  split <;> rfl

theorem margin_handle_resize (loc : PointF) : (grab.handle_resize s loc).margin = s.margin := by
  unfold grab.handle_resize
  split
  · dsimp only
    split_ifs
    · rfl
    · split
      · rfl
      · split
        · rfl
        · rfl
        · rfl
        · split <;> rfl
        · split_ifs <;> rfl
        · split_ifs <;> rfl
        · rfl
        · rfl
  · rfl

theorem margin_end_grab : (grab.end_grab s).margin = s.margin := by
  unfold grab.end_grab
  dsimp only
  split_ifs
  · rw [margin_arrange_all]
    split <;> rfl
  · split <;> rfl

/-! ### Actions -/

theorem margin_spawn (cmd : List String) : (s.spawn cmd).margin = s.margin := by
  unfold spawn
  split_ifs <;> rfl

theorem margin_kill_focused : s.kill_focused.margin = s.margin := by
  unfold kill_focused
  split <;> rfl

theorem margin_zoom : s.zoom.margin = s.margin := by
  unfold zoom
  split
  · rfl
  · split_ifs
    · rw [margin_arrange_all, margin_focus_window]
      rfl
    · rfl

theorem margin_focus_urgent : s.focus_urgent.margin = s.margin := by
  unfold focus_urgent
  split
  · rfl
  · dsimp only
    rw [margin_focus_window, margin_arrange_all]
    split_ifs <;> rfl

theorem margin_focus_stack_step (dir : ℤ) : (s.focus_stack_step dir).margin = s.margin := by
  unfold focus_stack_step
  split
  · exact margin_focus_window s _
  · rfl

theorem margin_slideTo (old new : ℕ) (ow : ℚ) : (s.slideTo old new ow).margin = s.margin := by
  rw [slideTo, margin_focus_top]
  exact margin_arrange_all (s.modifyDesk (Desk.mark_slide_outs · old new ow))

theorem margin_view (mask : ℕ) : (s.view mask).margin = s.margin := (margin_slideTo _ _ _ _).trans rfl

theorem margin_view_next_occ_tag (dir : ℤ) : (s.view_next_occ_tag dir).margin = s.margin := by
  unfold view_next_occ_tag
  split
  · exact margin_view s _
  · rfl

theorem margin_view_prev : s.view_prev.margin = s.margin := (margin_slideTo _ _ _ _).trans rfl

theorem margin_toggle_view (mask : ℕ) : (s.toggle_view mask).margin = s.margin := by
  unfold toggle_view
  dsimp only
  rw [margin_focus_top, margin_arrange_all]
  split_ifs <;> rfl

theorem margin_view_tag_spawn (mask : ℕ) : (s.view_tag_spawn mask).margin = s.margin := by
  unfold view_tag_spawn
  dsimp only
  rw [margin_slideTo]
  split_ifs
  · split
    · exact (margin_spawn _ _).trans rfl
    · rfl
  · rfl

theorem margin_tag (mask : ℕ) : (s.tag mask).margin = s.margin := by
  unfold tag
  dsimp only
  split_ifs
  · rfl
  · rw [margin_focus_top, margin_arrange_all]
    split <;> rfl
  · rw [margin_focus_top, margin_arrange_all]
    split <;> rfl

theorem margin_toggle_tag (mask : ℕ) : (s.toggle_tag mask).margin = s.margin := by
  unfold toggle_tag
  dsimp only
  rw [margin_arrange_all]
  split
  · split_ifs <;> rfl
  · rfl

theorem margin_focus_mon (dir : ℤ) : (s.focus_mon dir).margin = s.margin := by
  unfold focus_mon
  split
  · dsimp only
    rw [margin_arrange_all, margin_focus_window]
    rfl
  · rfl

theorem margin_tag_mon (dir : ℤ) : (s.tag_mon dir).margin = s.margin := by
  unfold tag_mon
  split
  · dsimp only
    rw [margin_arrange_all]
    split_ifs
    · exact (margin_focus_window _ _).trans rfl
    · rfl
  · rfl

theorem margin_relayout (f : Config → Monitor → Monitor) : (s.relayout f).margin = s.margin :=
  (margin_arrange_all _).trans rfl

theorem margin_inc_nmaster (delta : ℤ) : (s.inc_nmaster delta).margin = s.margin := by
  rw [inc_nmaster, margin_relayout]

theorem margin_set_mfact (delta : ℚ) : (s.set_mfact delta).margin = s.margin := by
  rw [set_mfact, margin_relayout]

theorem margin_set_layout (idx : ℕ) : (s.set_layout idx).margin = s.margin := by
  rw [set_layout, margin_relayout]

theorem margin_reset_layout : s.reset_layout.margin = s.margin := by
  rw [reset_layout, margin_relayout]

theorem margin_cycle_layout : s.cycle_layout.margin = s.margin := by
  unfold cycle_layout
  dsimp only
  split_ifs
  · exact margin_arrange_all s
  · exact margin_set_layout s _

theorem margin_toggle_gaps : s.toggle_gaps.margin = s.margin := (margin_arrange_all _).trans rfl

theorem margin_toggle_focused_floating : s.toggle_focused_floating.margin = s.margin := by
  unfold toggle_focused_floating
  split
  · exact (margin_arrange_all _).trans rfl
  · rfl

theorem margin_toggle_focused_fullscreen : s.toggle_focused_fullscreen.margin = s.margin := by
  unfold toggle_focused_fullscreen
  split
  · exact (margin_arrange_all (s.modifyDesk (set_fullscreen · _ _))).trans rfl
  · rfl

theorem margin_hideScratch (w : WinId) : (s.hideScratch w).margin = s.margin := by
  rw [hideScratch, margin_warp_cursor_to_focused, margin_arrange_all, margin_focus_top]
  rfl

theorem margin_showScratch (w : WinId) : (s.showScratch w).margin = s.margin := by
  rw [showScratch, margin_warp_cursor_to_focused, margin_arrange_all, margin_focus_window]
  rfl

theorem margin_toggle_scratch (cmd : ScratchCmd) : (s.toggle_scratch cmd).margin = s.margin := by
  unfold toggle_scratch
  split
  · split_ifs
    · exact margin_hideScratch s _
    · exact margin_showScratch s _
  · exact margin_spawn s _

theorem margin_focus_or_toggle_scratch (cmd : ScratchCmd) :
    (s.focus_or_toggle_scratch cmd).margin = s.margin := by
  unfold focus_or_toggle_scratch
  split
  · split_ifs
    · exact margin_hideScratch s _
    · exact margin_showScratch s _
  · exact margin_spawn s _

theorem margin_focus_or_toggle_matching_scratch (cmd : ScratchCmd) :
    (s.focus_or_toggle_matching_scratch cmd).margin = s.margin := by
  unfold focus_or_toggle_matching_scratch
  dsimp only
  split
  · split_ifs
    · exact margin_hideScratch s _
    · exact margin_showScratch s _
  · exact margin_spawn s _

theorem margin_reload_config : s.reload_config.margin = s.margin := by
  unfold reload_config
  dsimp only
  rw [show ∀ (t : Rwl) (e : Effect), (t.emit e).margin = t.margin from fun _ _ => rfl, margin_arrange_all]
  rfl

theorem margin_lock : s.lock.margin = s.margin := by
  unfold lock
  split_ifs <;> rfl

theorem spares_perform (a : Action) : Spares s (s.perform a) := by
  cases a with
  | Spawn cmd => exact .same (margin_spawn s cmd)
  | FocusStack dir => exact .same (margin_focus_stack_step s dir)
  | IncNmaster delta => exact .same (margin_inc_nmaster s delta)
  | SetMfact delta => exact .same (margin_set_mfact s delta)
  | Zoom => exact .same (margin_zoom s)
  | ViewPrev => exact .same (margin_view_prev s)
  | ViewNextOccTag dir => exact .same (margin_view_next_occ_tag s dir)
  | KillClient => exact .same (margin_kill_focused s)
  | SetLayout idx => exact .same (margin_set_layout s idx)
  | CycleLayout => exact .same (margin_cycle_layout s)
  | ResetLayout => exact .same (margin_reset_layout s)
  | ToggleFloating => exact .same (margin_toggle_focused_floating s)
  | ToggleFullscreen => exact .same (margin_toggle_focused_fullscreen s)
  | ToggleGaps => exact .same (margin_toggle_gaps s)
  | View mask => exact .same (margin_view s mask)
  | ViewTagSpawn mask => exact .same (margin_view_tag_spawn s mask)
  | ToggleView mask => exact .same (margin_toggle_view s mask)
  | Tag mask => exact .same (margin_tag s mask)
  | ToggleTag mask => exact .same (margin_toggle_tag s mask)
  | FocusMon dir => exact .same (margin_focus_mon s dir)
  | TagMon dir => exact .same (margin_tag_mon s dir)
  | ToggleScratch cmd => exact .same (margin_toggle_scratch s cmd)
  | FocusOrToggleScratch cmd => exact .same (margin_focus_or_toggle_scratch s cmd)
  | FocusOrToggleMatchingScratch cmd => exact .same (margin_focus_or_toggle_matching_scratch s cmd)
  | ReloadConfig => exact .same (margin_reload_config s)
  | ToggleBar => exact .same ((margin_toggle_gaps _).trans rfl)
  | ToggleOverview => exact spares_overview_toggle s false
  | ToggleOverviewAll => exact spares_overview_toggle s true
  | OverviewNav keysym => exact spares_handle_key s keysym
  | TogglePip => exact .same (margin_pip_toggle s)
  | Lock => exact .same (margin_lock s)
  | TogglePassthrough | Quit | Move | Resize | MovePip | LockConsume | Consumed | CallLua
  | SendKeys | Chvt | BarPrompt => exact .same rfl

theorem margin_notifyChanges (before : Rwl) : (before.notifyChanges s).margin = s.margin := by
  unfold notifyChanges
  split
  · dsimp only
    split_ifs <;> rfl
  · rfl

/-! ### Dispatch and Lua -/

theorem spares_keptByParts : KeptByParts (Spares s) where
  perform t a h := h.trans (spares_perform t a)
  notifyChanges before t h := h.thenSame (margin_notifyChanges t before)
  call _ _ h := h.thenSame rfl
  text _ _ h := h.thenSame rfl
  kill_selected t h := h.thenSame (margin_kill_selected t)
  force_close t h := h.trans (spares_force_close t)
  taken _ h := h.thenSame rfl
  spawn t argv h := h.thenSame (margin_spawn t argv)
  notify _ _ h := h.thenSame rfl
  close _ _ h := h.thenSame rfl
  set_tags t _ _ h := h.thenSame (by rw [margin_focus_top, margin_arrange_all]; rfl)
  set_floating t _ _ h := h.thenSame ((margin_arrange_all _).trans rfl)
  set_fullscreen t _ _ h := h.thenSame ((margin_arrange_all _).trans rfl)
  send t _ _ _ _ h := h.thenSame (by rw [margin_focus_top, margin_arrange_all]; rfl)
  focus t _ _ h := h.thenSame (margin_focus_window t _)
  warp t _ _ h := h.thenSame (by rw [margin_warp_cursor_to_focused, margin_focus_window])
  set_scratch _ _ _ h := h.thenSame rfl

theorem spares_drain : Spares s s.drain := (spares_keptByParts s).drain (.refl s)

/-- **No action, with all the Lua it runs, touches the candidate or takes a highlight out of
range.** -/
theorem spares_dispatch (a : Action) : Spares s (s.dispatch a) :=
  (spares_keptByParts s).dispatch (.refl s) a

end Rwl

end Compositor
