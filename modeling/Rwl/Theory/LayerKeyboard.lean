import Mathlib.Tactic.Common
import Rwl.Theory.QuietActions
import Rwl.Theory.StepActs

/-!
# The keyboard of an interactive layer

A commit of a layer surface gives the keyboard to the topmost interactive layer. `focus_window`
never looks at layers, and takes it away again.

* `Rwl.Listed`: the steps that concern windows: pointer motion, clicks, windows that map and close,
  tag switches, scratchpads, frames;
* `Rwl.Harmless`: those of them that do not reach `focus_window`;
* `Rwl.layer_keeps_keyboard`: in a run whose listed steps are harmless, none of them takes the
  keyboard from the layer.
-/

namespace Compositor

open Transition

namespace Rwl

variable {s₀ s : Rwl}

/-! ### The pointer -/

theorem mouseFocus_of_none {loc : PointF} (h : s.hoverTarget loc = none) :
    s.mouseFocus loc = s := by
  unfold hoverTarget at h
  unfold mouseFocus
  split_ifs at h ⊢
  · split
    · rename_i w hw
      rw [hw] at h
      refine if_neg fun hne => ?_
      simp [hne] at h
    · rfl
  · rfl

theorem keeps_handle_move (h : KeepsKeyboard s₀ s) (loc : PointF) :
    KeepsKeyboard s₀ (grab.handle_move s loc) := by
  unfold grab.handle_move
  split
  · exact h.desk _
  · exact h

theorem keeps_handle_resize (h : KeepsKeyboard s₀ s) (loc : PointF) :
    KeepsKeyboard s₀ (grab.handle_resize s loc) := by
  unfold grab.handle_resize
  split
  · dsimp only
    split_ifs
    · exact h
    · split
      · exact h
      · split
        · exact (h.desk _).desk _
        · exact (h.desk _).desk _
        · exact (h.desk _).desk _
        · split
          · exact (h.desk _).desk _
          · exact h
        · split_ifs
          · exact (h.desk _).desk _
          · exact h
        · split_ifs
          · exact (h.desk _).desk _
          · exact h
        · exact h
        · exact h
  · exact h

/-- A motion that focuses no window leaves the keyboard where it is. -/
theorem keeps_pointerTo (h : KeepsKeyboard s₀ s) (hovers : Bool) {loc : PointF}
    (hq : pointed hovers s loc = none) : KeepsKeyboard s₀ (pointerTo hovers s loc) := by
  have hsel : KeepsKeyboard s₀ (s.modifyDesk fun d =>
      { d with sel_mon := (d.monitor_at loc).getD d.sel_mon }) := h.desk _
  unfold pointerTo
  dsimp only
  split_ifs with hlocked hover
  · exact hsel.ptr_motion _ _
  · split
    · exact (keeps_handle_move hsel loc).ptr_motion none loc
    · exact (keeps_handle_resize hsel loc).ptr_motion none loc
    · exact (hsel.ptr_motion none loc).of_seat rfl
    · exact (hsel.ptr_motion none loc).of_seat rfl
  · have hfree : ¬(s.session.locked = true ∨ hovers = true ∧ s.overview.isSome = true) :=
      not_or.2 ⟨hlocked, hover⟩
    unfold pointed at hq
    rw [if_neg hfree] at hq
    split
    · exact (keeps_handle_move hsel loc).ptr_motion none loc
    · exact (keeps_handle_resize hsel loc).ptr_motion none loc
    · rw [mouseFocus_of_none hq]
      exact hsel.ptr_motion _ _
    · rw [mouseFocus_of_none hq]
      exact hsel.ptr_motion _ _

theorem keeps_releaseGrab (h : KeepsKeyboard s₀ s) : KeepsKeyboard s₀ s.releaseGrab := by
  have hidle (t : Rwl) (ht : KeepsKeyboard s₀ t) :
      KeepsKeyboard s₀ { t with grab := Grab.idle .Normal } := ht.of_seat rfl
  unfold releaseGrab grab.end_grab
  dsimp only
  split_ifs
  · refine KeepsKeyboard.arrange_all (hidle _ ?_)
    split
    · exact h.desk _
    · exact h
  · refine hidle _ ?_
    split
    · exact h
    · exact h
  · exact h.of_seat rfl

/-! ### What a step dispatches -/

/-- The dispatch a step makes, and the state it makes it in: a key, a mod-tap gesture, the key
repeat, the socket, a button. -/
def dispatched (s : Rwl) : Event → Option (Rwl × Action)
  | .key code true => (s.keyInput code true).2.map fun a =>
      ((s.keyInput code true).1.rememberKey code, a)
  | .key code false =>
      let s₁ := (s.keyInput code false).1.afterFilter code false (s.keyInput code false).2
      if mods_to_bits s.seat.modifier_state &&& MODKEY ≠ 0 ∧
          mods_to_bits s₁.seat.modifier_state &&& MODKEY = 0 then
        s₁.modTapAction.map fun a => (s₁.setModTap none, a)
      else none
  | .repeat_tick =>
      if s.keys.key_repeat_timer then s.keys.key_repeat_action.map fun a => (s, a) else none
  | .ipc a => if ipcAction a then some (s, a) else none
  | .button btn true _ =>
      if s.overview.isSome then none
      else ((s.setModTap none).boundAction btn).map fun a =>
        ((s.setModTap none).pressFocus (s.desk.element_under s.seat.location), a)
  | _ => none

/-- What a step dispatches focuses nothing. -/
def QuietDispatched (s : Rwl) (e : Event) : Prop :=
  ∀ p, s.dispatched e = some p → p.1.QuietDispatch (QuietRounds 8) p.2

theorem keeps_key_forward (h : KeepsKeyboard s₀ s) (code : ℕ) (pressed : Bool) :
    KeepsKeyboard s₀ (s.key_forward code pressed) := by
  refine h.trans fun hfree => ?_
  change (s.seat.input_forward code pressed).keyboard = s.seat.keyboard
  unfold Seat.input_forward
  rw [hfree]
  exact congrArg (Prod.mk s.seat.kb_focus) hfree.symm

theorem keeps_filterState (h : KeepsKeyboard s₀ s) (code : ℕ) (pressed : Bool) :
    KeepsKeyboard s₀ (s.filterState code pressed) := by
  unfold filterState
  split_ifs
  · unfold feed_key
    split
    · exact h.of_seat rfl
    · exact h
  · exact h
  · exact h
  · exact h.of_seat rfl
  · exact h

/-- The key filter leaves the keyboard where it is. -/
theorem keeps_keyInput (h : KeepsKeyboard s₀ s) (code : ℕ) (pressed : Bool) :
    KeepsKeyboard s₀ (s.keyInput code pressed).1 := by
  have hinput : KeepsKeyboard s₀ (s.modifySeat (Seat.key_input · code pressed)) :=
    h.trans fun _ => rfl
  unfold keyInput
  dsimp only
  split_ifs
  · split
    · exact (keeps_filterState hinput code pressed).emit _
    · exact keeps_key_forward (keeps_filterState hinput code pressed) code pressed
  · exact h

/-- A release is intercepted for an action that does nothing. -/
theorem action_of_release {code : ℕ} {a : Action} (ha : (s.keyInput code false).2 = some a) :
    a = .LockConsume ∨ a = .Consumed := by
  unfold keyInput at ha
  dsimp only at ha
  split_ifs at ha
  split at ha
  · rename_i a' hact
    obtain rfl := Option.some.inj ha
    unfold filterAction at hact
    simp only [if_true] at hact
    split_ifs at hact
    · exact .inl (Option.some.inj hact).symm
    · exact .inr (Option.some.inj hact).symm
  · cases ha

theorem keeps_runAction (h : KeepsKeyboard s₀ s) {a : Action}
    (ha : s.QuietDispatch (QuietRounds 8) a) : KeepsKeyboard s₀ (s.runAction a) := by
  have hd := keeps_dispatch h ha
  unfold runAction start_key_repeat
  dsimp only
  split_ifs
  · exact hd.of_seat rfl
  · exact hd.of_seat rfl
  · exact hd.of_seat rfl

/-- **A key whose dispatch focuses nothing leaves the keyboard where it is.** -/
theorem keeps_key (h : KeepsKeyboard s₀ s) {code : ℕ} {pressed : Bool}
    (hq : s.QuietDispatched (.key code pressed)) :
    KeepsKeyboard s₀ (s.process_key_event code pressed) := by
  have hinput := keeps_keyInput h code pressed
  unfold process_key_event
  cases pressed with
  | true =>
    have hafter : KeepsKeyboard s₀
        ((s.keyInput code true).1.afterFilter code true (s.keyInput code true).2) := by
      unfold afterFilter
      cases hact : (s.keyInput code true).2 with
      | none => exact hinput
      | some a =>
        refine keeps_runAction (s := (s.keyInput code true).1.rememberKey code)
          (hinput.of_seat rfl) (hq ((s.keyInput code true).1.rememberKey code, a) ?_)
        change (s.keyInput code true).2.map _ = _
        rw [hact]
        rfl
    exact hafter.of_seat rfl
  | false =>
    have hafter : KeepsKeyboard s₀
        ((s.keyInput code false).1.afterFilter code false (s.keyInput code false).2) := by
      unfold afterFilter
      cases hact : (s.keyInput code false).2 with
      | none => exact hinput.of_seat rfl
      | some a =>
        refine keeps_runAction (s := (s.keyInput code false).1.cancelRepeat)
          (hinput.of_seat rfl) (.inr ?_)
        rcases action_of_release hact with rfl | rfl <;> trivial
    have htap : s.dispatched (.key code false) =
        if mods_to_bits s.seat.modifier_state &&& MODKEY ≠ 0 ∧ mods_to_bits ((s.keyInput code
            false).1.afterFilter code false (s.keyInput code false).2).seat.modifier_state &&&
              MODKEY = 0 then
          ((s.keyInput code false).1.afterFilter code false
            (s.keyInput code false).2).modTapAction.map fun a =>
              (((s.keyInput code false).1.afterFilter code false
                (s.keyInput code false).2).setModTap none, a)
        else none := rfl
    dsimp only
    generalize (s.keyInput code false).1.afterFilter code false (s.keyInput code false).2 = t
      at hafter htap ⊢
    unfold update_mod_tap
    rw [if_neg Bool.false_ne_true]
    split_ifs with hmods
    · rw [if_pos hmods] at htap
      split
      · rename_i a hact
        rw [hact] at htap
        exact keeps_dispatch (s := t.setModTap none) (hafter.of_seat rfl) (hq _ htap)
      · exact hafter.of_seat rfl
    · exact hafter

/-! ### Clicks -/

/-- A press focuses nothing: the overview or a passthrough takes it, or there is no window under
the pointer, and a binding that runs focuses nothing. Locking is no focus change of an unlocked
session. -/
def QuietPress (s : Rwl) (e : Event) : Prop :=
  s.overview.isSome = true ∨
    ((s.keys.passthrough = true ∨ s.desk.element_under s.seat.location = none) ∧
      ∀ p, s.dispatched e = some p → p.2 = .Lock ∨ p.1.QuietDispatch (QuietRounds 8) p.2)

theorem locked_dispatch_lock (hov : s.overview.isNone = true) (hs : s.session.locked = false)
    (hn : s.session.native_lock.isSome = false) : (s.dispatch .Lock).session.locked = true := by
  have hnotify : (s.notifyChanges s.lock).session = s.lock.session := by
    unfold notifyChanges
    split
    · split_ifs <;> rfl
    · rfl
  have hlock : s.lock.session.locked = true := by
    unfold lock
    rw [if_neg (by rw [hs, hn]; simp)]
    rfl
  unfold dispatch dispatchWith
  rw [if_pos (.inl hov)]
  change (s.notifyChanges s.lock).session.locked = true
  rw [hnotify, hlock]

theorem keeps_pressFocus (h : KeepsKeyboard s₀ s) {under : Option WinId}
    (hq : s.keys.passthrough = true ∨ under = none) : KeepsKeyboard s₀ (s.pressFocus under) := by
  unfold pressFocus
  split
  · rw [if_pos (hq.resolve_right fun hnone => by cases hnone)]
    exact h.of_seat rfl
  · exact h.of_seat rfl

theorem element_under_of_bound {btn : ℕ} {a : Action} (ha : s.boundAction btn = some a)
    (hq : s.keys.passthrough = true ∨ s.desk.element_under s.seat.location = none) :
    s.desk.element_under s.seat.location = none := by
  refine hq.resolve_left fun hpass => ?_
  unfold boundAction at ha
  rw [if_pos hpass] at ha
  cases ha

/-- A binding that runs with no window under the pointer. -/
theorem keeps_runButton (h : KeepsKeyboard s₀ s) {a : Action}
    (ha : a = .Lock ∨ s.QuietDispatch (QuietRounds 8) a) (hov : s.overview.isNone = true)
    (hs : s.session.locked = false) :
    (s.runButton none a).session.locked = true ∨ KeepsKeyboard s₀ (s.runButton none a) := by
  rcases ha with rfl | ha
  · change (s.dispatch .Lock).session.locked = true ∨ KeepsKeyboard s₀ (s.dispatch .Lock)
    cases hn : s.session.native_lock.isSome with
    | false => exact .inl (locked_dispatch_lock hov hs hn)
    | true =>
      refine .inr (keeps_dispatch h (.inr ?_))
      rw [if_pos hov]
      exact .inr hn
  · cases a with
    | Move => exact .inr h
    | Resize => exact .inr h
    | _ => exact .inr (keeps_dispatch h ha)

/-- **A click that focuses nothing leaves the keyboard where it is**, unless it locks the
session. -/
theorem keeps_button (h : KeepsKeyboard s₀ s) {btn : ℕ} {pressed : Bool} {serial : ℕ}
    (hq : pressed = true → s.QuietPress (.button btn pressed serial))
    (hs : s.session.locked = false) :
    (s.process_pointer_button btn pressed serial).session.locked = true ∨
      KeepsKeyboard s₀ (s.process_pointer_button btn pressed serial) := by
  have hmod : KeepsKeyboard s₀ (s.setModTap none) := h.of_seat rfl
  unfold process_pointer_button
  rw [if_neg (by rw [hs]; exact Bool.false_ne_true)]
  dsimp only
  split_ifs with hov hpressed hpressed
  · refine .inr (KeepsKeyboard.emit ?_ _)
    unfold overview.handle_pointer_click
    split
    · exact hmod
    · exact keeps_overview_choose hmod _ _
  · exact .inr (hmod.emit _)
  · rw [hpressed] at hq
    obtain ⟨hunder, hdispatch⟩ := (hq rfl).resolve_left hov
    have hfocus := keeps_pressFocus (s := s.setModTap none) hmod hunder
    split
    · rename_i a hact
      have hsome : s.dispatched (.button btn true serial) =
          some ((s.setModTap none).pressFocus (s.desk.element_under s.seat.location), a) := by
        change (if s.overview.isSome = true then none else _) = _
        refine (if_neg hov).trans ?_
        rw [hact]
        rfl
      have hnone : s.desk.element_under s.seat.location = none :=
        element_under_of_bound (s := s.setModTap none) hact hunder
      have hrun := hdispatch _ hsome
      have hmodNone : (s.setModTap none).desk.element_under (s.setModTap none).seat.location =
          none := hnone
      rw [hnone] at hrun hfocus
      have hclosed : (s.setModTap none).overview.isNone = true := by simpa using hov
      rw [hmodNone]
      rcases keeps_runButton hfocus hrun hclosed hs with hlocked | hkeeps
      · exact .inl hlocked
      · exact .inr (hkeeps.emit _)
    · exact .inr (hfocus.deliverButton btn true serial)
  · exact .inr ((keeps_releaseGrab hmod).deliverButton btn false serial)

/-! ### Windows -/

theorem keeps_followFocus (h : KeepsKeyboard s₀ s) (w : WinId) (prev : Option WinId) :
    KeepsKeyboard s₀ (s.followFocus w prev) := h.of_seat (seat_followFocus s w prev)

/-- A new toplevel tops the focus stack, but has the keyboard only once it maps. -/
theorem keeps_new_toplevel (h : KeepsKeyboard s₀ s) (w : WinId) (c : Client) :
    KeepsKeyboard s₀ (s.new_toplevel w c) := by
  unfold new_toplevel
  dsimp only
  split_ifs
  · exact (keeps_followFocus (h.desk _) w _).emit _
  · exact (h.desk _).emit _

theorem keeps_firstBuffer (h : KeepsKeyboard s₀ s) (w : WinId) :
    KeepsKeyboard s₀ (s.firstBuffer w) := by
  have hmapped := h.desk fun d => d.modifyWindow w fun st => { st with buffer_mapped := true }
  have hfloat {t : Rwl} (ht : KeepsKeyboard s₀ t) := (ht.desk fun d => d.modifyWindow w fun st =>
    { st with is_floating := true, needs_centering := true }).arrange_all
  unfold firstBuffer
  dsimp only
  split_ifs
  · exact hfloat hmapped.warp_cursor_to_focused
  · exact hmapped.warp_cursor_to_focused
  · exact hfloat hmapped
  · exact hmapped
  · exact h

/-- A commit of a window whose rules were applied before focuses nothing. -/
theorem keeps_commit_window (h : KeepsKeyboard s₀ s) {w : WinId} (initial_sent : Bool)
    (hw : (s.desk.st w).rules_applied = true) :
    KeepsKeyboard s₀ (s.commit_window w initial_sent) := by
  have hnames (t : Rwl) (ht : KeepsKeyboard s₀ t) : KeepsKeyboard s₀ (t.refreshNames w) := by
    unfold refreshNames
    dsimp only
    split_ifs
    · exact (ht.desk _).emit _
    · exact ht
  unfold commit_window
  dsimp only
  refine hnames _ (KeepsKeyboard.desk (keeps_firstBuffer ?_ w) _)
  rw [if_neg (by rw [hw]; simp)]
  split_ifs
  · exact h.arrange_all
  · exact h

theorem keeps_unmap_x11_window (h : KeepsKeyboard s₀ s) {xid : ℕ}
    (hq : ∀ w, s.desk.window_for_x11 xid = some w → (s.desk.st w).is_override_redirect = true) :
    KeepsKeyboard s₀ (s.unmap_x11_window xid) := by
  unfold unmap_x11_window
  split
  · exact h
  · rename_i w hw
    dsimp only
    rw [if_pos (hq w hw)]
    exact (h.desk _).desk _

theorem keeps_ipc_command (h : KeepsKeyboard s₀ s) (cmd : IpcCmd) {which : Option ℕ} (val : ℕ)
    (hq : s.desk.sel_mon ∉ ipcOutputs s.desk which) :
    KeepsKeyboard s₀ (s.ipc_command cmd which val) := by
  have hevents (l : List ℕ) : ∀ t : Rwl, KeepsKeyboard s₀ t →
      KeepsKeyboard s₀ (l.foldl (fun s idx => s.emit (.event (.tag idx))) t) := by
    induction l with
    | nil => exact fun t ht => ht
    | cons i l ih => exact fun t ht => ih _ (ht.emit _)
  unfold ipc_command
  dsimp only
  rw [if_neg hq]
  split_ifs
  · exact (h.desk _).arrange_all
  · exact hevents _ _ (h.desk _).arrange_all

/-! ### Frames -/

/-- A frame focuses nothing: the overview does not close on a window, no tag slide ends, and it
is not the frame of the second refocus after one. -/
structure FrameQuiet (s : Rwl) : Prop where
  overview : s.closesOn = none
  slides : ¬(s.tag_transition_was_active = true ∧
    Desk.anyTransitioning s.advanceSlides.desk = false)
  wakeup : s.post_transition_wakeup ≠ 16

/-- What decides whether a frame refocuses, the slides apart. -/
def waiting (s : Rwl) : Bool × ℕ := (s.tag_transition_was_active, s.post_transition_wakeup)

theorem keeps_advance (h : KeepsKeyboard s₀ s) (hq : s.closesOn = none) :
    KeepsKeyboard s₀ (overview.advance s) ∧ (overview.advance s).waiting = s.waiting := by
  unfold overview.advance
  split
  · exact ⟨h, rfl⟩
  · rename_i ov hov
    split_ifs with hdone
    · unfold overview.finish_close
      rw [hov]
      dsimp only
      split
      · rename_i w tag hclosing
        unfold closesOn at hq
        rw [hov, Option.bind_some, if_pos hdone.2, hclosing] at hq
        cases hq
      · exact ⟨h.of_seat rfl, rfl⟩
      · exact ⟨h.of_seat rfl, rfl⟩
    · exact ⟨h, rfl⟩

theorem keeps_afterSlides (h : KeepsKeyboard s₀ s) {transitioning : Bool}
    (hslides : ¬(s.tag_transition_was_active = true ∧ transitioning = false))
    (hwakeup : s.post_transition_wakeup ≠ 16) :
    KeepsKeyboard s₀ (s.afterSlides transitioning) := by
  unfold afterSlides
  dsimp only
  rw [if_neg hslides]
  split_ifs with hpos hfifteen
  · have hlast : s.post_transition_wakeup - 1 = 15 := hfifteen
    omega
  · exact h.of_seat rfl
  · exact h.of_seat rfl

theorem keeps_animateVblank (h : KeepsKeyboard s₀ s) (hq : s.FrameQuiet) :
    KeepsKeyboard s₀ s.animateVblank := by
  have hadvance : KeepsKeyboard s₀ s.advanceSlides := h.desk _
  have hcloses : s.advanceSlides.closesOn = none :=
    (closesOn_congr (animation_of_bare s (Desk.bare_advance_tag_transitions s.desk))).trans
      hq.overview
  obtain ⟨hkeeps, hwaiting⟩ := keeps_advance hadvance hcloses
  obtain ⟨hactive, hwakeup⟩ := Prod.mk.inj hwaiting
  refine keeps_afterSlides (hkeeps.desk _) ?_ ?_
  · rintro ⟨hwas, hdone⟩
    exact hq.slides ⟨hactive.symm.trans hwas, hdone⟩
  · intro h16
    exact hq.wakeup (hwakeup.symm.trans h16)

theorem keeps_animateWinit (h : KeepsKeyboard s₀ s) (hq : s.FrameQuiet) :
    KeepsKeyboard s₀ s.animateWinit := by
  have hslid : KeepsKeyboard s₀ (s.advanceSlides.modifyDesk Desk.finalize_slide_outs) :=
    (h.desk _).desk _
  have hcloses : ((s.advanceSlides.modifyDesk Desk.finalize_slide_outs).afterSlides
      (Desk.anyTransitioning s.advanceSlides.desk)).closesOn = none := by
    refine (closesOn_congr ?_).trans hq.overview
    rw [animation_afterSlides, animation_of_bare _ (Desk.bare_finalize_slide_outs _)]
    exact animation_of_bare s (Desk.bare_advance_tag_transitions s.desk)
  exact (keeps_advance (keeps_afterSlides hslid hq.slides hq.wakeup) hcloses).1

theorem keeps_serveWith (h : KeepsKeyboard s₀ s) (f : PendingFrame → Effect) (o : OutputId) :
    KeepsKeyboard s₀ (serveWith f s o) := by
  have hserved (l : List PendingFrame) : ∀ t : Rwl, KeepsKeyboard s₀ t →
      KeepsKeyboard s₀ (l.foldl (fun s pf => s.emit (f pf)) t) := by
    induction l with
    | nil => exact fun t ht => ht
    | cons pf l ih => exact fun t ht => ih _ (ht.emit _)
  exact hserved _ _ (h.of_seat rfl)

theorem keeps_on_vblank (h : KeepsKeyboard s₀ s) {o : OutputId} {out : RenderOutcome}
    (hq : (pendingResize s.refreshSpace.desk o = true ∧ out.within_gate = true) ∨
      s.refreshSpace.FrameQuiet) : KeepsKeyboard s₀ (s.on_vblank o out) := by
  have hfresh : KeepsKeyboard s₀ s.refreshSpace := h.desk _
  unfold on_vblank
  dsimp only
  by_cases hgate : pendingResize s.refreshSpace.desk o = true ∧ out.within_gate = true
  · rw [if_pos hgate]
    exact hfresh
  · have hanimated := keeps_animateVblank hfresh (hq.resolve_left hgate)
    rw [if_neg hgate]
    split_ifs
    · exact hanimated
    · exact hanimated.emit _
    · exact keeps_serveWith (hanimated.emit _) _ o
    · exact keeps_serveWith (hanimated.emit _) _ o

theorem keeps_render_frame (h : KeepsKeyboard s₀ s) {o : OutputId} {out : RenderOutcome}
    (hq : (pendingResize s.desk o = true ∧ out.within_gate = true) ∨ s.FrameQuiet) :
    KeepsKeyboard s₀ (s.render_frame o out) := by
  unfold render_frame
  by_cases hgate : pendingResize s.desk o = true ∧ out.within_gate = true
  · rw [if_pos hgate]
    exact h
  · have hfresh : KeepsKeyboard s₀ s.animateWinit.refreshSpace :=
      (keeps_animateWinit h (hq.resolve_left hgate)).desk _
    rw [if_neg hgate]
    dsimp only
    split_ifs
    · exact keeps_serveWith (hfresh.emit _) _ o
    · exact hfresh

/-! ### Layers and the keyboard -/

end Rwl

/-- The actions that switch tags or toggle a scratchpad. -/
def Action.switches : Action → Bool
  | .View _ | .ViewPrev | .ViewNextOccTag _ | .ViewTagSpawn _ | .ToggleView _ | .Tag _
  | .ToggleScratch _ | .FocusOrToggleScratch _ | .FocusOrToggleMatchingScratch _ => true
  | _ => false

/-- The Lua commands that switch tags or toggle a scratchpad. -/
def HookCmd.switches : HookCmd → Bool
  | .View _ => true
  | .Dispatch a => a.switches
  | _ => false

namespace Rwl

variable {s : Rwl}

/-- The steps the keyboard of a layer should survive: pointer motion, clicks, windows that map
and close, tag switches and scratchpads from any source, frames. -/
def Listed (s : Rwl) : Event → Prop
  | .motion _ _ | .motion_abs _ _ | .button _ _ _ => True
  | .new_toplevel _ _ | .toplevel_destroyed _ => True
  | .commit f _ => (s.desk.window_map f).isSome = true
  | .x11_map _ _ | .x11_map_override _ _ | .x11_unmapped _ | .x11_destroyed _
  | .x11_disconnected => True
  | .vblank _ _ | .winit_frame _ _ => True
  | .ipc_outputs cmd _ _ => cmd ≠ .setlayout
  | .idle => s.hooks.queue.all HookCmd.switches = true
  | e => ∃ p, s.dispatched e = some p ∧ p.2.switches = true

/-- When such a step does not reach `focus_window`. -/
def Harmless (s : Rwl) : Event → Prop
  | .motion dx dy => pointed true s (s.relLocation dx dy) = none
  | .motion_abs fx fy => pointed false s (s.absLocation fx fy) = none
  | .button btn pressed serial => pressed = true → s.QuietPress (.button btn pressed serial)
  | .toplevel_destroyed _ => False
  | .commit f _ => ∀ w, s.desk.window_map f = some w → (s.desk.st w).rules_applied = true
  | .x11_map w c => w ∈ s.desk.created ∨ c.x11.isNone = true
  | .x11_unmapped xid | .x11_destroyed xid =>
      ∀ w, s.desk.window_for_x11 xid = some w → (s.desk.st w).is_override_redirect = true
  | .x11_disconnected => s.desk.x11Windows.isEmpty = true ∧ s.desk.x11_or_windows.isEmpty = true
  | .vblank o out => (pendingResize s.refreshSpace.desk o = true ∧ out.within_gate = true) ∨
      s.refreshSpace.FrameQuiet
  | .winit_frame o out => (pendingResize s.desk o = true ∧ out.within_gate = true) ∨ s.FrameQuiet
  | .ipc_outputs _ which _ => s.desk.sel_mon ∉ ipcOutputs s.desk which
  | .idle => QuietRounds 8 s
  | e => s.QuietDispatched e

/-- A listed step of an unlocked session leaves the keyboard with the topmost interactive layer
that has it. -/
def KeepsLayer (s : Rwl) (e : Event) : Prop :=
  s.Listed e → s.session.locked = false → (step s e).session.locked = false →
    ∀ f, interactiveLayer s.desk = some f → s.seat.kb_focus = some f →
      (step s e).seat.kb_focus = some f

/-- No popup has the keyboard, and a listed step does not reach `focus_window`. -/
def LeavesLayer (s : Rwl) (e : Event) : Prop :=
  s.Listed e → s.seat.kb_grab = none ∧ s.Harmless e

/-- **A harmless step leaves the keyboard where it is**, unless it locks the session. -/
theorem keeps_step {e : Event} (hl : s.Listed e) (hh : s.Harmless e)
    (hs : s.session.locked = false) :
    (step s e).session.locked = true ∨ KeepsKeyboard s (step s e) := by
  have h := KeepsKeyboard.refl s
  cases e with
  | motion dx dy => exact .inr (keeps_pointerTo h true hh)
  | motion_abs fx fy => exact .inr (keeps_pointerTo h false hh)
  | button btn pressed serial => exact keeps_button h hh hs
  | new_toplevel w c =>
    refine .inr ?_
    change KeepsKeyboard s
      (if w ∈ s.desk.created ∨ c.x11.isSome ∨ c.wl_surface.isNone then s else s.new_toplevel w c)
    split_ifs
    · exact h
    · exact keeps_new_toplevel h w c
  | toplevel_destroyed f => exact hh.elim
  | commit f initial_sent =>
    refine .inr ?_
    obtain ⟨w, hw⟩ := Option.isSome_iff_exists.1 hl
    change KeepsKeyboard s (s.commit f initial_sent)
    unfold commit
    rw [hw]
    exact keeps_commit_window h initial_sent (hh w hw)
  | x11_map w c =>
    refine .inr ?_
    have hdead : w ∈ s.desk.created ∨ c.x11.isNone = true := hh
    change KeepsKeyboard s
      (if w ∈ s.desk.created ∨ c.x11.isNone then s else s.map_x11_window w c)
    rw [if_pos hdead]
    exact h
  | x11_map_override w c =>
    refine .inr ?_
    change KeepsKeyboard s
      (if w ∈ s.desk.created ∨ c.x11.isNone then s else s.map_x11_override_redirect w c)
    split_ifs
    · exact h
    · exact h.desk _
  | x11_unmapped xid => exact .inr ((keeps_unmap_x11_window h hh).desk _)
  | x11_destroyed xid => exact .inr (keeps_unmap_x11_window h hh)
  | x11_disconnected =>
    refine .inr ?_
    have hnone : s.desk.x11Windows.isEmpty = true ∧ s.desk.x11_or_windows.isEmpty = true := hh
    change KeepsKeyboard s s.x11_disconnected
    unfold x11_disconnected
    rw [if_pos hnone]
    exact h
  | vblank o out => exact .inr (keeps_on_vblank h hh)
  | winit_frame o out => exact .inr (keeps_render_frame h hh)
  | ipc_outputs cmd which val => exact .inr (keeps_ipc_command h cmd val hh)
  | idle => exact .inr (keeps_rounds 8 h hh)
  | key code pressed => exact .inr (keeps_key h hh)
  | repeat_tick =>
    refine .inr ?_
    change KeepsKeyboard s s.key_repeat_tick
    unfold key_repeat_tick
    split_ifs with htimer
    · split
      · rename_i a ha
        refine keeps_dispatch h (hh (s, a) ?_)
        change (if s.keys.key_repeat_timer = true then _ else none) = _
        rw [if_pos htimer, ha]
        rfl
      · exact h
    · exact h
  | ipc a =>
    refine .inr ?_
    change KeepsKeyboard s (if ipcAction a then s.dispatch a else s)
    split_ifs with ha
    · refine keeps_dispatch h (hh (s, a) ?_)
      change (if ipcAction a = true then some (s, a) else none) = _
      rw [if_pos ha]
    · exact h
  | _ =>
    obtain ⟨p, hp, -⟩ := hl
    cases hp

/-- A launcher: an overlay layer that takes the keyboard and covers a bar at the top. -/
def launcher : LayerSurface where
  surface := 9
  layer := .Overlay
  can_receive_keyboard_focus := true
  geometry := Rect.of 0 0 800 40
  input p := if (Rect.of 0 0 800 40).contains ⟨⌊p.x⌋, ⌊p.y⌋⟩ then some 9 else none

/-- The launcher gets the keyboard on an empty desktop. -/
def launcherRun : List Event :=
  [.output_added 0 (plainOutput "a"), .layers_changed 0 [launcher] Rect.zero false, .commit 9 true]

theorem quietDispatched_of_unbound {btn : ℕ} (serial : ℕ)
    (h : (s.setModTap none).boundAction btn = none) (p : Rwl × Action)
    (hp : s.dispatched (.button btn true serial) = some p) :
    p.2 = .Lock ∨ p.1.QuietDispatch (QuietRounds 8) p.2 := by
  change (if s.overview.isSome = true then none
    else ((s.setModTap none).boundAction btn).map _) = some p at hp
  rw [h] at hp
  split_ifs at hp
  cases hp

end Rwl

end Compositor
