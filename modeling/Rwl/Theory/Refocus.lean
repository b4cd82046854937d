import Mathlib.Tactic.Common
import Rwl.Theory.FocusRests

/-!
# What refocusing leaves in place

* `Scene`: where the windows are and what the monitors show; layout passes and focusing keep it;
* the selected monitor, the keyboard and the pointer after focusing a window;
* `Silent`: no Lua command waits and the callbacks enqueue none.
-/

namespace Compositor

/-! ### Scenes -/

/-- Where a window is, and what decides how it is shown. -/
structure Placement where
  tags : ℕ
  mon_idx : ℕ
  is_swallowed : Bool
  is_fullscreen : Bool
  is_floating : Bool
  rules_applied : Bool

/-- The placement of a window. -/
def WindowState.placement (s : WindowState) : Placement where
  tags := s.tags
  mon_idx := s.mon_idx
  is_swallowed := s.is_swallowed
  is_fullscreen := s.is_fullscreen
  is_floating := s.is_floating
  rules_applied := s.rules_applied

/-- The windows with their placements, and the views of the monitors. -/
@[ext] structure Scene where
  windows : List WinId
  placement : WinId → Placement
  views : List ℕ

namespace Desk

/-- The scene of a desk. -/
def scene (d : Desk) : Scene where
  windows := d.windows
  placement w := (d.st w).placement
  views := d.monitors.map Monitor.tags

theorem scene_bare (d : Desk) : d.bare.scene = d.scene := by
  refine Scene.ext rfl rfl ?_
  simp only [scene, bare, List.map_map]
  rfl

theorem scene_of_bare {d d' : Desk} (h : d'.bare = d.bare) : d'.scene = d.scene := by
  rw [← scene_bare d', h, scene_bare]

theorem scene_modifyWindow (d : Desk) (w : WinId) {f : WindowState → WindowState}
    (hf : ∀ st, (f st).placement = st.placement) : (d.modifyWindow w f).scene = d.scene :=
  Scene.ext rfl (funext fun v => Windows.modify_field WindowState.placement d.st w v f hf) rfl

theorem placement_of_scene {d d' : Desk} (h : d'.scene = d.scene) (w : WinId) :
    (d'.st w).placement = (d.st w).placement :=
  congrFun (congrArg Scene.placement h) w

theorem tags_of_scene {d d' : Desk} (h : d'.scene = d.scene) (w : WinId) :
    (d'.st w).tags = (d.st w).tags :=
  congrArg Placement.tags (placement_of_scene h w)

theorem mon_idx_of_scene {d d' : Desk} (h : d'.scene = d.scene) (w : WinId) :
    (d'.st w).mon_idx = (d.st w).mon_idx :=
  congrArg Placement.mon_idx (placement_of_scene h w)

theorem tagsOf_eq_views (d : Desk) (i : ℕ) : d.tagsOf i = (d.scene.views[i]?).getD 0 := by
  unfold tagsOf scene
  rw [List.getElem?_map]

theorem tagsOf_of_scene {d d' : Desk} (h : d'.scene = d.scene) (i : ℕ) :
    d'.tagsOf i = d.tagsOf i := by
  rw [tagsOf_eq_views, h, ← tagsOf_eq_views]

theorem all_visible_of_scene {d d' : Desk} (h : d'.scene = d.scene) :
    d'.all_visible = d.all_visible :=
  congrArg (fun sc : Scene => sc.views.foldl (· ||| ·) 0) h

/-- The focused window depends on the scene, the focus stack and the selected monitor. -/
theorem focused_window_of_scene {d d' : Desk} (h : d'.scene = d.scene)
    (hstack : d'.focus_stack = d.focus_stack) (hsel : d'.sel_mon = d.sel_mon) :
    d'.focused_window = d.focused_window :=
  Rwl.focused_window_congr hstack hsel (tagsOf_of_scene h _)
    fun w => ⟨tags_of_scene h w, mon_idx_of_scene h w⟩

end Desk

namespace Rwl

theorem scene_raise (d : Desk) (w : WinId) : (raise d w).scene = d.scene :=
  Desk.scene_modifyWindow { d with focus_stack := Recency.toFront w d.focus_stack } w fun _ => rfl

theorem lasting_scene : Desk.Lasting Desk.scene where
  bare := Desk.scene_of_bare
  raise := scene_raise
  select _ _ := rfl

variable (s : Rwl)

theorem scene_arrange_all : s.arrange_all.desk.scene = s.desk.scene := lasting_scene.arrange_all s

/-- Focusing keeps the scene. -/
theorem scene_focus_window (window : Option WinId) :
    (s.focus_window window).desk.scene = s.desk.scene := lasting_scene.focus_window s window

/-! ### The selected monitor -/

theorem sel_mon_arrange (i : ℕ) : (s.arrange i).desk.sel_mon = s.desk.sel_mon :=
  (congrArg Desk.sel_mon (Desk.bare_arrange s.desk i) :)

theorem sel_mon_arrange_all : s.arrange_all.desk.sel_mon = s.desk.sel_mon := by
  rw [desk_arrange_all]
  exact (congrArg Desk.sel_mon (Desk.bare_arrangePasses s.desk) :)

theorem focus_stack_arrange_all : s.arrange_all.desk.focus_stack = s.desk.focus_stack := by
  rw [desk_arrange_all]
  exact (congrArg Desk.focus_stack (Desk.bare_arrangePasses s.desk) :)

theorem sel_mon_followFocus (w : WinId) (prev : Option WinId) :
    (s.followFocus w prev).desk.sel_mon = (s.desk.st w).mon_idx := by
  have hsel : ((s.modifyDesk fun d => { d with sel_mon := (s.desk.st w).mon_idx }).arrange
      (s.desk.st w).mon_idx).desk.sel_mon = (s.desk.st w).mon_idx := sel_mon_arrange _ _
  unfold followFocus
  dsimp only
  split
  · split_ifs
    · exact (sel_mon_arrange _ _).trans hsel
    · exact hsel
  · exact hsel

/-- The selection follows a window that comes on top of the focus stack of an unlocked session. -/
theorem sel_mon_focus_window (w : WinId) : (s.focus_window (some w)).desk.sel_mon =
    if s.session.locked = true ∨ s.desk.focus_stack.head? = some w then s.desk.sel_mon
    else (s.desk.st w).mon_idx := by
  by_cases hlocked : s.session.locked = true
  · rw [if_pos (Or.inl hlocked)]
    unfold focus_window
    dsimp only
    rw [if_pos hlocked]
    rfl
  · by_cases hhead : s.desk.focus_stack.head? = some w
    · rw [focus_window_of_head hhead, if_neg hlocked, if_pos (Or.inr hhead)]
      rfl
    · have hnew : ¬((s.modifyDesk (raise · w)).kb_set_focus
          (s.desk.wl_surface w)).desk.focus_stack.head? = s.desk.focus_stack.head? :=
        fun heq => hhead heq.symm
      have hfocus : s.focus_window (some w) = ((s.modifyDesk (raise · w)).kb_set_focus
          (s.desk.wl_surface w)).notifyFocus.followFocus w s.desk.focus_stack.head? := by
        unfold focus_window
        dsimp only
        exact (if_neg hlocked).trans (if_neg hnew)
      rw [hfocus, sel_mon_followFocus, desk_notifyFocus, if_neg (not_or.2 ⟨hlocked, hhead⟩)]
      exact Desk.mon_idx_of_scene (scene_raise s.desk w) w

/-- Refocusing keeps the selection. -/
theorem sel_mon_focus_top : s.focus_top.desk.sel_mon = s.desk.sel_mon := by
  unfold focus_top
  cases hf : s.desk.focused_window with
  | none =>
    rw [focus_window_none]
    split_ifs <;> rfl
  | some w =>
    rw [sel_mon_focus_window]
    split_ifs
    · rfl
    · exact mon_idx_focused_window hf

/-! ### Sliding -/

/-- Recording a view changes the histories only. -/
theorem update_tag_history_eq (d : Desk) (i tags : ℕ) : d.update_tag_history i tags =
    { d with tag_history := (d.update_tag_history i tags).tag_history } := by
  unfold Desk.update_tag_history
  split
  · split_ifs <;> rfl
  · rfl

/-- Showing tags changes the histories and the selected monitor only. -/
theorem showTags_eq (d : Desk) (mask : ℕ) : showTags d mask =
    { d with
      tag_history := (d.update_tag_history d.sel_mon mask).tag_history
      monitors := d.monitors.modify d.sel_mon (Monitor.view d.cfg · mask) } := by
  unfold showTags
  rw [update_tag_history_eq]
  rfl

/-- Sliding from view to view keeps the scene. -/
theorem scene_slideTo (old new : ℕ) (ow : ℚ) :
    (s.slideTo old new ow).desk.scene = s.desk.scene := lasting_scene.slideTo s old new ow

theorem sel_mon_slideTo (old new : ℕ) (ow : ℚ) :
    (s.slideTo old new ow).desk.sel_mon = s.desk.sel_mon := by
  have hmark (d : Desk) : (d.mark_slide_outs old new ow).sel_mon = d.sel_mon :=
    (congrArg Desk.sel_mon (Desk.bare_mark_slide_outs d old new ow) :)
  have hstart (d : Desk) : (d.start_tag_transition old new ow).sel_mon = d.sel_mon :=
    (congrArg Desk.sel_mon (Desk.bare_start_tag_transition d old new ow) :)
  unfold slideTo
  dsimp only
  rw [sel_mon_focus_top]
  change (Desk.start_tag_transition _ old new ow).sel_mon = _
  rw [hstart, sel_mon_arrange_all]
  exact hmark s.desk

/-! ### The keyboard and the pointer -/

end Rwl

namespace Seat

/-- Who has the keyboard. -/
def keyboard (s : Seat) : Option SurfaceId × Option PopupGrab := (s.kb_focus, s.kb_grab)

/-- Motion leaves the keyboard alone when no grab has the pointer. -/
theorem keyboard_motion {s : Seat} (h : s.is_grabbed = false) (f : Option SurfaceId)
    (loc : PointF) : (s.motion f loc).keyboard = s.keyboard ∧ (s.motion f loc).location = loc := by
  have hgrab : s.ptr_grab = .default := by simpa [is_grabbed] using h
  unfold motion dropDeadGrab moveTo keyboard
  simp [hgrab]

/-- Motion leaves the keyboard alone when no popup has it. -/
theorem keyboard_motion_of_free {s : Seat} (h : s.kb_grab = none) (f : Option SurfaceId)
    (loc : PointF) : (s.motion f loc).keyboard = s.keyboard := by
  have hunset {s : Seat} (h : s.kb_grab = none) (g : PopupGrab) : s.unset_keyboard_grab g = s := by
    unfold unset_keyboard_grab
    rw [h]
  have hdrop {s : Seat} (h : s.kb_grab = none) : s.dropDeadGrab.keyboard = s.keyboard := by
    unfold dropDeadGrab
    split
    · rfl
    · rfl
    · split_ifs <;> rfl
    · split_ifs
      · rfl
      · rw [hunset h]
        rfl
  have hpending : ({ s with ptr_pending := f } : Seat).dropDeadGrab.keyboard = s.keyboard :=
    hdrop (s := { s with ptr_pending := f }) h
  have hfree : ({ s with ptr_pending := f } : Seat).dropDeadGrab.kb_grab = none :=
    (congrArg Prod.snd hpending).trans h
  unfold motion
  dsimp only
  split
  · exact hpending
  · exact hpending
  · split_ifs
    · unfold unsetPopup
      rw [hunset hfree]
      exact hpending
    · exact hpending

theorem set_focus_of_free {s : Seat} (h : s.kb_grab = none) (f : Option SurfaceId) :
    s.set_focus f = { s with kb_focus := f } := by
  unfold set_focus
  rw [h]

end Seat

namespace Rwl

variable (s : Rwl)

/-- Arranging leaves the keyboard alone, and the pointer where it is. -/
theorem seat_arrange_all : s.arrange_all.seat.keyboard = s.seat.keyboard ∧
    s.arrange_all.seat.location = s.seat.location := by
  unfold arrange_all refresh_pointer_focus
  split_ifs with hlocked hgrabbed
  · exact ⟨rfl, rfl⟩
  · exact ⟨rfl, rfl⟩
  · exact Seat.keyboard_motion (Bool.eq_false_iff.2 hgrabbed) _ _

theorem seat_followFocus (w : WinId) (prev : Option WinId) :
    (s.followFocus w prev).seat = s.seat := by
  unfold followFocus
  dsimp only
  split
  · split_ifs <;> rfl
  · rfl

theorem seat_notifyFocus : s.notifyFocus.seat = s.seat := by
  unfold notifyFocus fireFocus
  dsimp only
  split
  · split_ifs <;> rfl
  · rfl

theorem session_notifyFocus : s.notifyFocus.session = s.session := by
  unfold notifyFocus fireFocus
  dsimp only
  split
  · split_ifs <;> rfl
  · rfl

theorem session_followFocus (w : WinId) (prev : Option WinId) :
    (s.followFocus w prev).session = s.session := by
  unfold followFocus
  dsimp only
  split
  · split_ifs <;> rfl
  · rfl

/-- What focusing does to the seat: the keyboard goes to the window, unless the session is
locked. -/
theorem seat_focus_window (window : Option WinId) : (s.focus_window window).seat =
    if s.session.locked = true then s.seat
    else s.seat.set_focus (window.bind s.desk.wl_surface) := by
  cases window with
  | none =>
    rw [focus_window_none]
    split_ifs <;> rfl
  | some w =>
    unfold focus_window
    dsimp only
    split_ifs
    · rfl
    · rfl
    · exact (seat_followFocus _ w _).trans (seat_notifyFocus _)

theorem session_focus_window (window : Option WinId) :
    (s.focus_window window).session = s.session := by
  cases window with
  | none =>
    rw [focus_window_none]
    split_ifs <;> rfl
  | some w =>
    unfold focus_window
    dsimp only
    split_ifs
    · rfl
    · rfl
    · exact (session_followFocus _ w _).trans (session_notifyFocus _)

/-! ### Silence -/

variable {s}

/-- No Lua command waits, and the callbacks enqueue none. -/
structure Silent (s : Rwl) : Prop where
  queue : s.hooks.queue = []
  lua : ∀ n c, s.lua.callback n c = []

namespace Silent

theorem of_eq (h : Silent s) {s' : Rwl} (hs : (s'.hooks.queue, s'.lua) = (s.hooks.queue, s.lua)) :
    Silent s' := by
  obtain ⟨hq, hl⟩ := Prod.mk.inj hs
  exact ⟨hq.trans h.queue, fun n c => by rw [hl]; exact h.lua n c⟩

theorem fire (h : Silent s) (c : HookCall) : Silent (s.fire c) := by
  refine ⟨?_, h.lua⟩
  change s.hooks.queue ++ s.lua.callback s.hooks.calls c = []
  rw [h.queue, h.lua]
  rfl

theorem drain (h : Silent s) : s.drain = s := by
  change (if s.hooks.queue.isEmpty then s else _) = s
  rw [h.queue]
  rfl

theorem arrange_all (h : Silent s) : Silent s.arrange_all := by
  refine h.of_eq ?_
  unfold Rwl.arrange_all refresh_pointer_focus
  split_ifs <;> rfl

theorem followFocus (h : Silent s) (w : WinId) (prev : Option WinId) :
    Silent (s.followFocus w prev) := by
  refine h.of_eq ?_
  unfold Rwl.followFocus
  dsimp only
  split
  · split_ifs <;> rfl
  · rfl

theorem notifyFocus (h : Silent s) : Silent s.notifyFocus := by
  have hreport (s₁ : Rwl) (h₁ : Silent s₁) (e : Effect) : Silent (s₁.emit e) := h₁.of_eq rfl
  unfold Rwl.notifyFocus fireFocus
  dsimp only
  refine hreport _ ?_ _
  split
  · split_ifs
    · exact h.of_eq rfl
    · refine Silent.fire ?_ _
      exact h.of_eq rfl
  · exact h.of_eq rfl

theorem focus_window (h : Silent s) (window : Option WinId) : Silent (s.focus_window window) := by
  cases window with
  | none =>
    rw [focus_window_none]
    split_ifs
    · exact h
    · exact h.of_eq rfl
  | some w =>
    have hraised : Silent (s.modifyDesk (raise · w)) := h.of_eq rfl
    unfold Rwl.focus_window
    dsimp only
    split_ifs
    · exact hraised
    · exact hraised.of_eq rfl
    · refine Silent.followFocus (Silent.notifyFocus ?_) w _
      exact hraised.of_eq rfl

/-- Sliding from view to view calls nothing. -/
theorem slideTo (h : Silent s) (old new : ℕ) (ow : ℚ) : Silent (s.slideTo old new ow) := by
  have hmark : Silent (s.modifyDesk (Desk.mark_slide_outs · old new ow)) := h.of_eq rfl
  have hstart : Silent ((s.modifyDesk (Desk.mark_slide_outs · old new ow)).arrange_all.modifyDesk
      (Desk.start_tag_transition · old new ow)) := hmark.arrange_all.of_eq rfl
  exact hstart.focus_window _

end Silent

end Rwl

end Compositor
