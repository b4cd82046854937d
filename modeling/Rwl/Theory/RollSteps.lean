import Mathlib.Tactic.Common
import Rwl.Theory.RollShell

/-!
# Events mend what they stir

* `Calming`, `Stirring`: what one event does to the roll on its own, and whether passes follow;
* outputs, frames, the socket and input devices;
* `Mends.step`, `Passes.step`: every event but a new configuration file is a chain of such updates
  in which the passes follow every stir, and most leave the session and the grab alone.
-/

namespace Compositor

namespace Desk

/-- The window belongs on the screen: it is not hidden behind its child, and some monitor shows a
tag of it. -/
def belongs (d : Desk) (w : WinId) : Prop :=
  (d.st w).is_swallowed = false ∧ (d.st w).tags &&& d.all_visible ≠ 0

instance (d : Desk) (w : WinId) : Decidable (d.belongs w) := inferInstanceAs (Decidable (_ ∧ _))

variable {d d' : Desk} {w : WinId}

theorem belongs_of_scene (h : d'.scene = d.scene) : d'.belongs w ↔ d.belongs w := by
  have hswallowed := congrArg Placement.is_swallowed (placement_of_scene h w)
  change (d'.st w).is_swallowed = (d.st w).is_swallowed at hswallowed
  unfold belongs
  rw [hswallowed, tags_of_scene h, all_visible_of_scene h]

/-- A pass hides no window that belongs on the screen. -/
theorem onScreen_arrange_of_belongs (hbelongs : d.belongs w) (hon : d.onScreen w) (i : ℕ) :
    (d.arrange i).onScreen w := by
  cases hm : d.monitors[i]? with
  | none =>
    unfold arrange
    rw [hm]
    exact hon
  | some mon =>
    refine (onScreen_arrange hm).2 (.inl ⟨hon, fun hw => ?_⟩)
    have hdisplay := of_decide_eq_true (List.mem_filter.1 hw).2
    unfold display at hdisplay
    rw [if_neg (by simp [hbelongs.1]), if_neg hbelongs.2] at hdisplay
    split_ifs at hdisplay

end Desk

namespace Rwl

/-! ### What one event does -/

/-- A pointer motion takes the window `w` along. -/
def Drags (s : Rwl) (w : WinId) : Prop :=
  s.session.locked = false ∧ s.grab.cursor_mode = .Move ∧ s.grab.Holding w

instance (s : Rwl) (w : WinId) : Decidable (s.Drags w) := inferInstanceAs (Decidable (_ ∧ _))

/-- The updates of one event that no pass needs to follow. -/
inductive Calming (s : Rwl) : Event → Desk → Desk → Prop
  | toplevel (w : WinId) (c : Client) : w ∉ s.desk.created → Calming s (.new_toplevel w c) s.desk
      { insertWindow s.desk w c id with focus_stack := Recency.toFront w s.desk.focus_stack }
  | follow (d : Desk) (dx dy : ℚ) (w : WinId) (loc : Point) : s.Drags w →
      d.picture = s.desk.picture →
      Calming s (.motion dx dy) d { d with space := Space.map_element d.space w loc }
  | follow_abs (d : Desk) (fx fy : ℚ) (w : WinId) (loc : Point) : s.Drags w →
      d.picture = s.desk.picture →
      Calming s (.motion_abs fx fy) d { d with space := Space.map_element d.space w loc }
  /-- A move floats its window. -/
  | press (d : Desk) (btn serial : ℕ) (w : WinId) : (d.belongs w → d.onScreen w) →
      Calming s (.button btn true serial) d
        (d.modifyWindow w fun st => { st with is_floating := true })
  | move (f : SurfaceId) (w : WinId) : s.desk.window_map f = some w → Calming s (.move_request f)
      s.desk (s.desk.modifyWindow w fun st => { st with is_floating := true })
  | x11_move (xid : ℕ) (w : WinId) : s.desk.window_for_x11 xid = some w →
      Calming s (.x11_move_request xid) s.desk
        (s.desk.modifyWindow w fun st => { st with is_floating := true })
  | client (w : WinId) (c : Client) : Calming s (.client_update w c) s.desk
      { s.desk with client :=
          Function.update s.desk.client w (updateClient (s.desk.client w) c) }
  | centre (d : Desk) (f : SurfaceId) (b : Bool) (w : WinId) : s.desk.window_map f = some w →
      Calming s (.commit f b) d (centre d w)
  | wait (f : SurfaceId) (w : WinId) : s.desk.window_map f = some w →
      Calming s (.parent_changed f) s.desk
        (s.desk.modifyWindow w fun st => { st with rules_applied := false })
  | override (w : WinId) (c : Client) : w ∉ s.desk.created →
      Calming s (.x11_map_override w c) s.desk (s.desk.insertOverride w c)
  | popup_unmapped (xid : ℕ) (w : WinId) : s.desk.window_for_x11 xid = some w →
      (s.desk.st w).is_override_redirect = true →
      Calming s (.x11_unmapped xid) s.desk { s.desk with
        space := Space.unmap_elem s.desk.space w
        x11_or_windows := s.desk.x11_or_windows.filter fun v => decide (v ≠ w) }
  | popup_destroyed (xid : ℕ) (w : WinId) : s.desk.window_for_x11 xid = some w →
      (s.desk.st w).is_override_redirect = true →
      Calming s (.x11_destroyed xid) s.desk { s.desk with
        space := Space.unmap_elem s.desk.space w
        x11_or_windows := s.desk.x11_or_windows.filter fun v => decide (v ≠ w) }
  | unpaired (d : Desk) (xid : ℕ) : Calming s (.x11_unmapped xid) d (d.setX11Surface xid none)
  | paired (xid : ℕ) (f : SurfaceId) :
      Calming s (.x11_associated xid f) s.desk (s.desk.setX11Surface xid (some f))
  | keyed (d : Desk) (xid : ℕ) (f : SurfaceId) (w : WinId) : d.window_for_x11 xid = some w →
      Calming s (.x11_associated xid f) d
        { d with window_map := Function.update d.window_map f (some w) }
  | configure (xid : ℕ) (x y : Option ℤ) (w : WinId) (loc : Point) :
      s.desk.window_for_x11 xid = some w →
      (s.desk.st w).is_override_redirect = true ∨ (s.desk.st w).is_floating = true →
      Calming s (.x11_configure_request xid x y) s.desk
        { s.desk.modifyWindow w (fun st => { st with saved_loc := some loc }) with
          space := Space.map_element s.desk.space w loc }
  | configured (xid : ℕ) (loc : Point) (w : WinId) : s.desk.window_for_x11 xid = some w →
      Calming s (.x11_configure_notify xid loc) s.desk
        { s.desk with space := Space.map_element s.desk.space w loc }
  | refresh (d : Desk) (o : OutputId) (out : RenderOutcome) (p : WinId × Point → Bool) :
      Calming s (.vblank o out) d { d with space := d.space.filter p }
  | advance (d : Desk) (o : OutputId) (out : RenderOutcome) :
      Calming s (.vblank o out) d d.advance_tag_transitions
  | finalize (d : Desk) (o : OutputId) (out : RenderOutcome) :
      Calming s (.vblank o out) d d.finalize_slide_outs
  | winit_refresh (d : Desk) (o : OutputId) (out : RenderOutcome) (p : WinId × Point → Bool) :
      Calming s (.winit_frame o out) d { d with space := d.space.filter p }
  | winit_advance (d : Desk) (o : OutputId) (out : RenderOutcome) :
      Calming s (.winit_frame o out) d d.advance_tag_transitions
  | winit_finalize (d : Desk) (o : OutputId) (out : RenderOutcome) :
      Calming s (.winit_frame o out) d d.finalize_slide_outs

/-- The updates of one event that passes follow. -/
inductive Stirring (s : Rwl) : Event → Desk → Desk → Prop
  | drop (f : SurfaceId) : Stirring s (.toplevel_destroyed f) s.desk (dropToplevel s.desk f)
  | unmap (d : Desk) (f : SurfaceId) (w : WinId) : s.desk.window_map f = some w →
      Stirring s (.toplevel_destroyed f) d { d with space := Space.unmap_elem d.space w }
  | x11 (w : WinId) (c : Client) (float : Bool) : w ∉ s.desk.created → Stirring s (.x11_map w c)
      s.desk (insertWindow s.desk w c fun st => { st with is_floating := float })
  | centre (d : Desk) (w : WinId) (c : Client) : w ∉ s.desk.created →
      Stirring s (.x11_map w c) d (d.center_x11 w)
  | centre_hint (d : Desk) (xid : ℕ) (w : WinId) : s.desk.window_for_x11 xid = some w →
      Stirring s (.x11_property xid) d (d.center_x11 w)
  | unmapped (xid : ℕ) (w : WinId) : s.desk.window_for_x11 xid = some w →
      Stirring s (.x11_unmapped xid) s.desk (Desk.dismiss_x11_popups
        (Desk.removeX11 { s.desk with space := Space.unmap_elem s.desk.space w } w))
  | destroyed (xid : ℕ) (w : WinId) : s.desk.window_for_x11 xid = some w →
      Stirring s (.x11_destroyed xid) s.desk (Desk.dismiss_x11_popups
        (Desk.removeX11 { s.desk with space := Space.unmap_elem s.desk.space w } w))
  | disconnected : Stirring s .x11_disconnected s.desk s.desk.removeAllX11
  | monitor (o : OutputId) (info : OutputInfo) :
      Stirring s (.output_added o info) s.desk (s.desk.addMonitor o info)
  | unplugged (o : OutputId) (i : ℕ) : s.desk.monitor_for_output o = some i →
      Stirring s (.output_removed o) s.desk (s.desk.removeMonitor i)

/-! ### Frames and the overview -/

variable {K L : Desk → Desk → Prop} {s₀ s : Rwl}

namespace Mends

theorem finish_close (h : Mends K L s₀ s) : Mends K L s₀ (overview.finish_close s) := by
  unfold overview.finish_close
  split
  · exact h
  · have hclosed : Mends K L s₀ ({ s with overview := none } : Rwl) := h.same rfl
    dsimp only
    split
    · split_ifs
      · exact ((hclosed.dispatch _).focus_window _).warp_cursor_to_focused
      · exact (hclosed.focus_window _).warp_cursor_to_focused
    · exact hclosed
    · exact hclosed

theorem overview_advance (h : Mends K L s₀ s) : Mends K L s₀ (overview.advance s) := by
  unfold overview.advance
  split
  · exact h
  · split_ifs
    · exact h.finish_close
    · exact h

theorem afterSlides (h : Mends K L s₀ s) (transitioning : Bool) :
    Mends K L s₀ (s.afterSlides transitioning) :=
  afterSlides_kept (fun _ h => h.arrange_all.focus_top) (fun _ _ h => h.same rfl)
    (fun _ _ h => h.same rfl) h transitioning

theorem serveWith (h : Mends K L s₀ s) (f : PendingFrame → Effect) (o : OutputId) :
    Mends K L s₀ (Rwl.serveWith f s o) :=
  foldl (fun _ _ h => h.emit _) _ (h.same rfl)

theorem on_vblank (h : Mends K L s₀ s) (o : OutputId) (out : RenderOutcome)
    (hrefresh : ∀ (d : Desk) (p : WinId × Point → Bool), K d { d with space := d.space.filter p })
    (hadvance : ∀ d, K d (Desk.advance_tag_transitions d))
    (hfinalize : ∀ d, K d (Desk.finalize_slide_outs d)) : Mends K L s₀ (s.on_vblank o out) := by
  have hspace : Mends K L s₀ s.refreshSpace := h.own (hrefresh _ _)
  have hanimated : Mends K L s₀ s.refreshSpace.animateVblank := by
    unfold animateVblank advanceSlides
    exact Mends.afterSlides (Mends.own (Mends.overview_advance (hspace.own (hadvance _)))
      (hfinalize _)) _
  have hcomposed : Mends K L s₀ (s.refreshSpace.animateVblank.composite o) := hanimated.emit _
  unfold Rwl.on_vblank
  dsimp only
  split_ifs
  · exact hspace
  · exact hanimated
  · exact hcomposed
  · exact hcomposed.serveWith _ o
  · exact hcomposed.serveWith _ o

theorem render_frame (h : Mends K L s₀ s) (o : OutputId) (out : RenderOutcome)
    (hrefresh : ∀ (d : Desk) (p : WinId × Point → Bool), K d { d with space := d.space.filter p })
    (hadvance : ∀ d, K d (Desk.advance_tag_transitions d))
    (hfinalize : ∀ d, K d (Desk.finalize_slide_outs d)) : Mends K L s₀ (s.render_frame o out) := by
  have hanimated : Mends K L s₀ s.animateWinit := by
    unfold animateWinit advanceSlides
    exact Mends.overview_advance (Mends.afterSlides ((h.own (hadvance _)).own (hfinalize _)) _)
  have hspace : Mends K L s₀ s.animateWinit.refreshSpace := hanimated.own (hrefresh _ _)
  have hcomposed : Mends K L s₀ (s.animateWinit.refreshSpace.composite o) := hspace.emit _
  unfold Rwl.render_frame
  dsimp only
  split_ifs
  · exact h
  · exact hcomposed.serveWith _ o
  · exact hspace

/-! ### Outputs -/

theorem output_added (h : Mends K L s₀ s) (o : OutputId) (info : OutputInfo)
    (hadd : L s.desk (s.desk.addMonitor o info)) : Mends K L s₀ (s.output_added o info) := by
  have hadded := (h.stirs.own (f := (Desk.addMonitor · o info)) hadd).arrange_all
  exact output_added_kept (fun _ h => h.same rfl) (fun _ h => h.warp_cursor_to_focused)
    (fun _ h => h.same rfl) (fun _ c h => h.fire c) (fun _ h => h.emit _) hadded

theorem output_removed (h : Mends K L s₀ s) (o : OutputId)
    (hremove : ∀ i, s.desk.monitor_for_output o = some i → L s.desk (s.desk.removeMonitor i)) :
    Mends K L s₀ (s.output_removed o) := by
  unfold Rwl.output_removed
  refine Stirs.arrange_all ?_
  split
  · rename_i i hi
    exact (((h.stirs.own (f := (Desk.removeMonitor · i)) (hremove i hi)).fire _).fire _).emit _
  · exact h.stirs

end Mends

/-! ### The socket -/

end Rwl

theorem Desk.Stirred.ipcApply {file : Config} {K L : Desk → Desk → Prop} {d₀ d : Desk}
    (h : Desk.Stirred file K L d₀ d) (cmd : Rwl.IpcCmd) (val idx : ℕ) :
    Desk.Stirred file K L d₀ (Rwl.ipcApply cmd val d idx) := by
  have hrecord (mask : ℕ) :
      Desk.Stirred file K L d₀ (if idx = d.sel_mon then d.update_tag_history idx mask else d) := by
    split_ifs
    · exact h.loose (Desk.outline_update_tag_history ..)
    · exact h
  have hmonitor {d₁ : Desk} (h₁ : Desk.Stirred file K L d₀ d₁) (f : Monitor → Monitor) :
      Desk.Stirred file K L d₀ (d₁.modifyMonitor idx f) := h₁.loose (Desk.outline_modifyMonitor ..)
  cases cmd with
  | view =>
    unfold Rwl.ipcApply
    dsimp only
    split
    · exact h
    · exact ((hmonitor (hrecord _) _).mark _ _ _).loose rfl
  | toggleview =>
    unfold Rwl.ipcApply
    dsimp only
    split
    · exact h
    · exact hmonitor (hrecord _) _
  | setlayout => exact hmonitor h _

namespace Rwl

variable {K L : Desk → Desk → Prop} {s₀ s : Rwl}

namespace Mends

theorem ipc_command (h : Mends K L s₀ s) (cmd : IpcCmd) (which : Option ℕ) (val : ℕ) :
    Mends K L s₀ (s.ipc_command cmd which val) := by
  have hfold (l : List ℕ) {d : Desk} (hd : Desk.Stirred s₀.config_file K L s.desk d) :
      Desk.Stirred s₀.config_file K L s.desk (l.foldl (ipcApply cmd val) d) := by
    induction l generalizing d with
    | nil => exact hd
    | cons idx l ih => exact ih (hd.ipcApply cmd val idx)
  have happlied := (h.stirs.desk (f := fun d => (ipcOutputs s.desk which).foldl (ipcApply cmd val) d)
    (hfold _ .refl)).arrange_all
  have htop (p : Prop) [Decidable p] {s₁ : Rwl} (h₁ : Mends K L s₀ s₁) :
      Mends K L s₀ (if p then s₁.focus_top else s₁) := by
    split_ifs
    · exact h₁.focus_top
    · exact h₁
  unfold Rwl.ipc_command
  dsimp only
  split
  · exact htop _ happlied
  · exact foldl (fun _ _ h => h.emit _) _ (htop _ happlied)

/-! ### Keys -/

theorem runAction (h : Mends K L s₀ s) (a : Action) : Mends K L s₀ (s.runAction a) := by
  unfold Rwl.runAction
  split_ifs
  · refine (h.dispatch a).same ?_
    unfold start_key_repeat
    dsimp only
    split_ifs <;> rfl
  · exact (h.dispatch a).same rfl

theorem afterFilter (h : Mends K L s₀ s) (code : ℕ) (pressed : Bool) (act : Option Action) :
    Mends K L s₀ (s.afterFilter code pressed act) := by
  unfold Rwl.afterFilter
  cases pressed with
  | true =>
    cases act with
    | none => exact h
    | some a => exact Mends.runAction (h.same (rfl : (s.rememberKey code).ground = s.ground)) a
  | false =>
    have hcancel : Mends K L s₀ s.cancelRepeat := h.same rfl
    cases act with
    | none => exact hcancel
    | some a => exact hcancel.runAction a

theorem update_mod_tap (h : Mends K L s₀ s) (pressed : Bool) (before after : ℕ) :
    Mends K L s₀ (s.update_mod_tap pressed before after) := by
  unfold Rwl.update_mod_tap
  split_ifs
  · exact h.same rfl
  · split
    · exact Mends.dispatch (h.same (rfl : (s.setModTap none).ground = s.ground)) _
    · exact h.same rfl
  · exact h

theorem key_repeat_tick (h : Mends K L s₀ s) : Mends K L s₀ s.key_repeat_tick := by
  unfold Rwl.key_repeat_tick
  split_ifs
  · split
    · exact h.dispatch _
    · exact h
  · exact h

/-! ### The pointer -/

theorem mouseFocus (h : Mends K L s₀ s) (loc : PointF) : Mends K L s₀ (s.mouseFocus loc) := by
  unfold Rwl.mouseFocus
  split_ifs
  · split
    · split_ifs
      · exact h.focus_window _
      · exact h
    · exact h
  · exact h

theorem pointerTo (h : Mends K L s₀ s) (hovers : Bool) (loc : PointF)
    (hmap : ∀ (d : Desk) w loc, s.Drags w → d.picture = s.desk.picture →
      K d { d with space := Space.map_element d.space w loc }) :
    Mends K L s₀ (Rwl.pointerTo hovers s loc) := by
  have hselect := h.select ((s.desk.monitor_at loc).getD s.desk.sel_mon)
  have hmove (hl : s.session.locked = false) (hm : s.grab.cursor_mode = .Move) :=
    hselect.handle_move loc fun w loc hw => hmap _ w loc ⟨hl, hm, hw⟩ rfl
  unfold Rwl.pointerTo
  dsimp only
  split_ifs with hl
  · exact hselect.ptr_motion _ loc
  · have hfree : s.session.locked = false := Bool.eq_false_iff.2 hl
    split
    · rename_i hm
      exact (hmove hfree hm).ptr_motion _ loc
    · exact (hselect.handle_resize loc).ptr_motion _ loc
    · exact hselect.same rfl
    · exact hselect.same rfl
  · have hfree : s.session.locked = false := Bool.eq_false_iff.2 hl
    split
    · rename_i hm
      exact (hmove hfree hm).ptr_motion _ loc
    · exact (hselect.handle_resize loc).ptr_motion _ loc
    · exact (hselect.mouseFocus loc).ptr_motion _ loc
    · exact (hselect.mouseFocus loc).ptr_motion _ loc

end Mends

/-- A window that belongs on the screen stays there while another one is focused. -/
theorem onScreen_focus_window {w : WinId} (hon : s.desk.onScreen w) (v : WinId)
    (hbelongs : (s.focus_window (some v)).desk.belongs w) :
    (s.focus_window (some v)).desk.onScreen w := by
  have hshown : s.desk.belongs w :=
    (Desk.belongs_of_scene (scene_focus_window s (some v))).1 hbelongs
  have hraised : (raise s.desk v).belongs w :=
    (Desk.belongs_of_scene (scene_raise s.desk v)).2 hshown
  have hpass {d : Desk} (i : ℕ) (hd : d.belongs w ∧ d.onScreen w) :
      (d.arrange i).belongs w ∧ (d.arrange i).onScreen w :=
    ⟨(Desk.belongs_of_scene (Desk.scene_of_bare (Desk.bare_arrange d i))).2 hd.1,
      Desk.onScreen_arrange_of_belongs hd.1 hd.2 i⟩
  have hfollow {s₁ : Rwl} (prev : Option WinId) (h₁ : s₁.desk.belongs w ∧ s₁.desk.onScreen w) :
      (s₁.followFocus v prev).desk.onScreen w := by
    have hfirst := hpass (d := { s₁.desk with sel_mon := (s₁.desk.st v).mon_idx })
      (s₁.desk.st v).mon_idx h₁
    unfold followFocus
    dsimp only
    split
    · split_ifs
      · exact (hpass _ hfirst).2
      · exact hfirst.2
    · exact hfirst.2
  unfold focus_window
  dsimp only
  split_ifs
  · exact hon
  · exact hon
  · refine hfollow _ ?_
    rw [desk_notifyFocus]
    exact ⟨hraised, hon⟩

/-! ### Buttons -/

theorem Passes.pressFocus (h : Passes K L s₀ s) (under : Option WinId) :
    Passes K L s₀ (s.pressFocus under) := by
  have hmode : Passes K L s₀ (s.setCursorMode .Pressed) := h.same rfl
  unfold Rwl.pressFocus
  split
  · split_ifs
    · exact hmode
    · exact hmode.andThen ((Mends.refl _).focus_window _)
  · exact hmode

/-- The window under the press stays on the screen. -/
theorem onScreen_pressFocus {w : WinId} (hon : s.desk.onScreen w) (under : Option WinId)
    (hbelongs : (s.pressFocus under).desk.belongs w) : (s.pressFocus under).desk.onScreen w := by
  unfold pressFocus at hbelongs ⊢
  cases under with
  | none => exact hon
  | some v =>
    dsimp only at hbelongs ⊢
    split_ifs at hbelongs ⊢
    · exact hon
    · exact onScreen_focus_window (s := s.setCursorMode .Pressed) hon v hbelongs

theorem onScreen_of_element_under {d : Desk} {p : PointF} {w : WinId}
    (h : d.element_under p = some w) : d.onScreen w := by
  obtain ⟨e, he, rfl⟩ := Option.map_eq_some_iff.1 h
  exact List.mem_map_of_mem (List.mem_reverse.1 (List.mem_of_find?_eq_some he))

theorem Passes.runButton (h : Passes K L s₀ s) (under : Option WinId) (a : Action)
    (hfloat : ∀ w, under = some w →
      K s.desk (s.desk.modifyWindow w fun st => { st with is_floating := true })) :
    Passes K L s₀ (s.runButton under a) := by
  unfold Rwl.runButton
  split
  · split
    · exact h.start_move _ (hfloat _ rfl)
    · exact h
  · split
    · exact h.start_resize _
    · exact h
  · exact h.andThen ((Mends.refl _).dispatch a)

theorem Passes.releaseGrab (h : Passes K L s₀ s) : Passes K L s₀ s.releaseGrab := by
  unfold Rwl.releaseGrab
  split_ifs
  · exact h.end_grab
  · exact h.same rfl

theorem Passes.button (s : Rwl) (btn : ℕ) (pressed : Bool) (serial : ℕ) :
    Passes (Calming s (.button btn pressed serial)) L s
      (s.process_pointer_button btn pressed serial) := by
  have htap : Passes (Calming s (.button btn pressed serial)) L s (s.setModTap none) :=
    (Passes.refl s).same rfl
  have hdeliver {s₁ : Rwl} (h₁ : Passes (Calming s (.button btn pressed serial)) L s s₁) (b : Bool) :
      Passes (Calming s (.button btn pressed serial)) L s (s₁.deliverButton btn b serial) :=
    h₁.same rfl
  unfold process_pointer_button
  dsimp only
  split_ifs with hl hov hp hpress
  · exact hdeliver (.refl s) _
  · exact (htap.same (store_of_ground (ground_handle_pointer_click _ _))).same rfl
  · exact htap.same rfl
  · subst hpress
    split
    · refine (Passes.runButton (htap.pressFocus _) _ _ fun w hw => ?_).same rfl
      refine .press _ btn serial w fun hbelongs => ?_
      exact onScreen_pressFocus (onScreen_of_element_under hw) _ hbelongs
    · exact hdeliver (htap.pressFocus _) _
  · exact hdeliver htap.releaseGrab _

/-! ### Events -/

/-- The events that change neither the session nor the grab, unless the native locker engages. -/
def Event.isTame : Event → Bool
  | .config_written .. | .key .. | .button .. | .auth .. | .flash | .ipc_resume => false
  | .ext_lock .. | .ext_unlock .. | .ext_destroy .. | .ext_get_surface .. => false
  | .client_disconnected .. => false
  | .move_request .. | .resize_request .. | .x11_move_request .. | .x11_resize_request .. => false
  | _ => true

/-- **A tame event is a chain of updates in which the passes follow every stir.** -/
theorem Mends.step (s : Rwl) (e : Event) (he : e.isTame = true) :
    Mends (Calming s e) (Stirring s e) s (Rwl.step s e) := by
  have h : Mends (Calming s e) (Stirring s e) s s := .refl s
  have hguard (p : Prop) [Decidable p] {s' : Rwl}
      (h' : ¬p → Mends (Calming s e) (Stirring s e) s s') :
      Mends (Calming s e) (Stirring s e) s (if p then s else s') := by
    split_ifs with hp
    · exact .refl s
    · exact h' hp
  cases e with
  | tick ms => exact h.aside (f := fun d => { d with now := d.now + ms }) rfl
  | idle => exact h.drain
  | titles => exact h.check_toplevel_titles
  | processes p => exact h.aside (f := fun d => { d with parent_pid := p }) rfl
  | repeat_tick => exact h.key_repeat_tick
  | motion dx dy => exact h.pointerTo _ _ fun d w loc hw hd => .follow d dx dy w loc hw hd
  | motion_abs fx fy => exact h.pointerTo _ _ fun d w loc hw hd => .follow_abs d fx fy w loc hw hd
  | axis source hor ver =>
    refine h.same ?_
    change (s.process_pointer_axis source hor ver).ground = _
    unfold process_pointer_axis
    dsimp only
    split_ifs <;> rfl
  | ipc a =>
    change Mends _ _ s (if ipcAction a then s.dispatch a else s)
    split_ifs
    · exact h.dispatch a
    · exact h
  | ipc_outputs cmd which val => exact h.ipc_command cmd which val
  | ipc_focusurgent => exact h.focus_urgent
  | new_toplevel w c =>
    refine hguard _ fun hfresh => Mends.emit ?_ _
    have hinsert := h.own (f := fun d =>
      { insertWindow d w c id with focus_stack := Recency.toFront w d.focus_stack })
      (.toplevel w c fun hmem => hfresh (.inl hmem))
    split_ifs
    · exact hinsert.followFocus _ _
    · exact hinsert
  | toplevel_destroyed f =>
    exact h.toplevel_destroyed f (.drop f) fun w hw d => .unmap d f w hw
  | client_update w c =>
    exact h.own (f := fun d =>
      { d with client := Function.update d.client w (updateClient (d.client w) c) })
      (.client w c)
  | commit f b => exact h.commit f b fun w hw d => .centre d f b w hw
  | fullscreen_request f fs => exact h.fullscreen_request f fs
  | parent_changed f => exact h.parent_changed f fun w hw => .wait f w hw
  | dialog_hint_changed f => exact h.dialog_hint_changed f
  | popup_grab root popup parent serial => exact h.same rfl
  | request_activation f => exact h.request_activation f
  | x11_map w c =>
    refine hguard _ fun hfresh => h.map_x11_window w c (fun b => ?_) fun d => ?_
    · exact .x11 w c b fun hmem => hfresh (.inl hmem)
    · exact .centre d w c fun hmem => hfresh (.inl hmem)
  | x11_map_override w c =>
    refine hguard _ fun hfresh => ?_
    exact h.own (f := (Desk.insertOverride · w c)) (.override w c fun hmem => hfresh (.inl hmem))
  | x11_unmapped xid =>
    have hunmap := h.unmap_x11_window xid (fun w hw hor => .popup_unmapped xid w hw hor)
      fun w hw => .unmapped xid w hw
    exact hunmap.own (f := (Desk.setX11Surface · xid none)) (.unpaired _ xid)
  | x11_destroyed xid =>
    exact h.unmap_x11_window xid (fun w hw hor => .popup_destroyed xid w hw hor)
      fun w hw => .destroyed xid w hw
  | x11_associated xid f =>
    have hpaired := h.own (f := (Desk.setX11Surface · xid (some f))) (.paired xid f)
    refine ⟨rfl, ?_, .inl ⟨rfl, rfl⟩⟩
    change Desk.Mended _ _ _ s.desk (s.surface_associated xid f).desk
    dsimp only [surface_associated, modifyDesk]
    split
    · rename_i w hw
      exact .calm hpaired.chain (.own _ _ (.keyed _ xid f w hw))
    · exact hpaired.chain
  | x11_property xid =>
    change Mends _ _ s (s.x11_property_notify xid)
    unfold x11_property_notify
    split
    · exact h
    · rename_i w hw
      dsimp only
      split_ifs
      · exact h
      · have hfloat := h.stirs.window w (f := fun st => { st with is_floating := true })
          fun _ => ⟨rfl, rfl⟩
        exact ((hfloat.own (f := fun d => d.center_x11 w)
          (.centre_hint _ xid w hw)).arrange_all).emit _
  | x11_configure_request xid x y =>
    exact h.x11_configure_request xid x y fun w loc hw hfree => .configure xid x y w loc hw hfree
  | x11_configure_notify xid loc =>
    exact h.x11_configure_notify xid loc fun w hw => .configured xid loc w hw
  | x11_fullscreen_request xid fs => exact h.x11_fullscreen_request xid fs
  | x11_disconnected => exact h.x11_disconnected .disconnected
  | surface_destroyed f => exact h.same rfl
  | layers_changed o layers zone exclusive =>
    exact h.aside (f := (setLayers · o layers zone exclusive)) rfl
  | layer_destroyed f => exact h.layer_destroyed f
  | output_added o info => exact hguard _ fun _ => h.output_added o info (.monitor o info)
  | output_removed o => exact h.output_removed o fun i hi => .unplugged o i hi
  | capture_output frame output =>
    refine h.same ?_
    change (s.capture_output frame output).ground = _
    unfold Rwl.capture_output
    split_ifs
    · rfl
    · split <;> rfl
  | copy frame =>
    refine h.same ?_
    change (s.copy frame).ground = _
    unfold Rwl.copy
    split
    · rfl
    · dsimp only
      split
      · rfl
      · split
        · rfl
        · split <;> rfl
  | frame_destroyed frame => exact h.same rfl
  | vblank o out =>
    exact h.on_vblank o out (fun d p => .refresh d o out p) (fun d => .advance d o out)
      fun d => .finalize d o out
  | winit_frame o out =>
    exact h.render_frame o out (fun d p => .winit_refresh d o out p)
      (fun d => .winit_advance d o out) fun d => .winit_finalize d o out
  | config_written | key | button | auth | flash | ipc_resume | ext_lock | ext_unlock | ext_destroy
  | ext_get_surface | client_disconnected | move_request | resize_request | x11_move_request
  | x11_resize_request => cases he

/-- **Every event but a new configuration file is a chain of updates in which the passes follow
every stir.** -/
theorem Passes.step (s : Rwl) (e : Event) (he : ∀ cfg, e ≠ .config_written cfg) :
    Passes (Calming s e) (Stirring s e) s (Rwl.step s e) := by
  have h : Passes (Calming s e) (Stirring s e) s s := .refl s
  cases htame : e.isTame with
  | true => exact (Mends.step s e htame).passes
  | false =>
    cases e with
    | config_written cfg => exact absurd rfl (he cfg)
    | key code pressed =>
      have hinput := h.same (store_of_base (base_keyInput s code pressed))
      exact hinput.andThen (Mends.update_mod_tap ((Mends.refl _).afterFilter ..) ..)
    | button btn pressed serial => exact Passes.button s btn pressed serial
    | auth i ok => exact h.same (store_of_base (base_worker_done s i ok))
    | flash => exact h.same (store_of_base (base_flash_expired s))
    | ext_lock obj client => exact h.same (store_of_base (base_ext_lock s obj client))
    | ext_unlock obj => exact h.same (store_of_base (base_ext_unlock s obj))
    | ext_destroy obj => exact h.same (store_of_base (base_ext_destroy s obj))
    | ext_get_surface obj f o => exact h.same (store_of_base (base_ext_get_surface s obj f o))
    | ipc_resume => exact h.same (store_of_base (base_release_all_pressed_keys s))
    | client_disconnected client => exact h.same rfl
    | move_request f =>
      change Passes _ _ s (s.move_request f)
      unfold move_request
      split
      · rename_i w hw
        exact h.start_move w (.move f w hw)
      · exact h
    | resize_request f =>
      change Passes _ _ s (s.resize_request f)
      unfold resize_request
      split
      · exact h.start_resize _
      · exact h
    | x11_move_request xid =>
      change Passes _ _ s (s.x11_move_request xid)
      unfold x11_move_request
      split
      · rename_i w hw
        exact h.start_move w (.x11_move xid w hw)
      · exact h
    | x11_resize_request xid =>
      change Passes _ _ s (s.x11_resize_request xid)
      unfold x11_resize_request
      split
      · exact h.start_resize _
      · exact h
    | _ => cases htame

end Rwl

end Compositor
