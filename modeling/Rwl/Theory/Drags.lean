import Mathlib.Tactic.Common
import Rwl.Theory.NativeLock
import Rwl.Theory.RollSteps

/-!
# A dragged window is tiled again

`start_move` floats its window, and remembers in the grab whether it floated before. `end_grab`
reads that back when the button is released.

* `Grabbing`, `Dragging`: a move or a resize is on; a move of a window that was tiled;
* `Engages`: the event engages the native locker; `step_holds`: else most events keep the grab;
* `Starts`: the event starts a move of a tiled window; `dragging_of_starts`;
* `Undisturbed`: during a move of a window that was tiled, nothing but a release ends it;
* `drag_restores_tiled`: in a run of such events the window is tiled once no grab is on.
-/

namespace Compositor

namespace Rwl

open Transition

/-! ### Grabs -/

/-- A move or a resize is on. -/
def Grabbing (s : Rwl) : Prop := s.grab.cursor_mode = .Move ∨ s.grab.cursor_mode = .Resize

instance (s : Rwl) : Decidable s.Grabbing := inferInstanceAs (Decidable (_ ∨ _))

/-- The window `w`, which was tiled, is moved. -/
structure Dragging (w : WinId) (s : Rwl) : Prop where
  mode : s.grab.cursor_mode = .Move
  grabbed : s.grab.grabbed_window = some w
  tiled : s.grab.grab_was_floating = false

theorem Dragging.of_grab {w : WinId} {s s' : Rwl} (h : Dragging w s) (hg : s'.grab = s.grab) :
    Dragging w s' := by
  refine ⟨?_, ?_, ?_⟩
  · rw [hg]
    exact h.mode
  · rw [hg]
    exact h.grabbed
  · rw [hg]
    exact h.tiled

/-- Whether the window floats. -/
def floats (s : Rwl) (w : WinId) : Bool := (s.desk.st w).is_floating

theorem floats_of_scene {s s' : Rwl} (h : s'.desk.scene = s.desk.scene) (w : WinId) :
    s'.floats w = s.floats w :=
  congrArg Placement.is_floating (Desk.placement_of_scene h w)

/-! ### The native locker -/

/-- The event engages the native locker. -/
def Engages (s : Rwl) (e : Event) : Prop :=
  s.session.native_lock = none ∧ (step s e).session.native_lock.isSome = true

instance (s : Rwl) (e : Event) : Decidable (s.Engages e) := inferInstanceAs (Decidable (_ ∧ _))

/-- A handler keeps the grab, unless the native locker engages and frees the pointer. -/
theorem Holds.grab {s s' : Rwl} (h : Holds s s') :
    s'.grab = s.grab ∨
      (s.session.native_lock = none ∧ s'.session.native_lock.isSome = true) ∧
        s'.grab = { s.grab with cursor_mode := .Normal } := by
  rcases h with ⟨-, hgrab⟩ | ⟨⟨-, hnone, hs⟩, hfreed⟩
  · exact .inl hgrab
  · refine .inr ⟨⟨hnone, ?_⟩, hfreed⟩
    rw [hs]
    rfl

theorem grab_focus_window (s : Rwl) (window : Option WinId) :
    (s.focus_window window).grab = s.grab := by
  have hmends : Mends (fun _ _ => True) (fun _ _ => True) s (s.focus_window window) :=
    (Mends.refl s).focus_window window
  have hsession := session_focus_window s window
  rcases hmends.holds.grab with hgrab | ⟨⟨hnone, hsome⟩, -⟩
  · exact hgrab
  · rw [hsession, hnone] at hsome
    cases hsome

theorem grab_arrange_all (s : Rwl) : s.arrange_all.grab = s.grab := by
  have hmends : Mends (fun _ _ => True) (fun _ _ => True) s s.arrange_all :=
    (Mends.refl s).arrange_all
  have hsession : s.arrange_all.session = s.session := session_arrange_all s
  rcases hmends.holds.grab with hgrab | ⟨⟨hnone, hsome⟩, -⟩
  · exact hgrab
  · rw [hsession, hnone] at hsome
    cases hsome

/-- The native locker stays through the key filter. -/
theorem native_keyInput {s : Rwl} (h : s.session.native_lock.isSome = true) (code : ℕ)
    (pressed : Bool) : (s.keyInput code pressed).1.session.native_lock.isSome = true := by
  have hfilter {s : Rwl} (h : s.session.native_lock.isSome = true) :
      (s.filterState code pressed).session.native_lock.isSome = true := by
    obtain ⟨l, hl⟩ := Option.isSome_iff_exists.1 h
    unfold filterState feed_key
    rw [if_pos h, hl]
    split_ifs
    · exact native_lock_feed _ _ hl
    · exact h
  unfold keyInput
  split_ifs
  · dsimp only
    split <;> exact hfilter h
  · exact h

/-- **An event that neither starts nor ends a grab keeps it**, unless the native locker engages
and frees the pointer. -/
theorem step_holds (s : Rwl) (e : Event) (hbutton : ∀ btn pressed serial,
    e ≠ .button btn pressed serial) (hmove : ∀ f, e ≠ .move_request f)
    (hresize : ∀ f, e ≠ .resize_request f) (hx11_move : ∀ xid, e ≠ .x11_move_request xid)
    (hx11_resize : ∀ xid, e ≠ .x11_resize_request xid) :
    (step s e).grab = s.grab ∨
      s.Engages e ∧ (step s e).grab = { s.grab with cursor_mode := .Normal } := by
  cases htame : e.isTame with
  | true => exact (Mends.step s e htame).holds.grab
  | false =>
    cases e with
    | config_written cfg => exact .inl rfl
    | key code pressed =>
      have hgrab : (s.keyInput code pressed).1.grab = s.grab :=
        congrArg Prod.snd (base_keyInput s code pressed)
      have hmends : Mends (fun _ _ => True) (fun _ _ => True) (s.keyInput code pressed).1
          (s.process_key_event code pressed) :=
        ((Mends.refl _).afterFilter ..).update_mod_tap ..
      have hmends_grab := hmends.holds.grab
      rw [hgrab] at hmends_grab
      rcases hmends_grab with h | ⟨⟨hnone, hsome⟩, hfreed⟩
      · exact .inl h
      · refine .inr ⟨⟨?_, hsome⟩, hfreed⟩
        by_contra hne
        have hkept := native_keyInput (Option.isSome_iff_ne_none.2 hne) code pressed
        rw [hnone] at hkept
        cases hkept
    | button btn pressed serial => exact absurd rfl (hbutton btn pressed serial)
    | auth i ok => exact .inl (congrArg Prod.snd (base_worker_done s i ok))
    | flash => exact .inl (congrArg Prod.snd (base_flash_expired s))
    | ext_lock obj client => exact .inl (congrArg Prod.snd (base_ext_lock s obj client))
    | ext_unlock obj => exact .inl (congrArg Prod.snd (base_ext_unlock s obj))
    | ext_destroy obj => exact .inl (congrArg Prod.snd (base_ext_destroy s obj))
    | ext_get_surface obj f o => exact .inl (congrArg Prod.snd (base_ext_get_surface s obj f o))
    | ipc_resume => exact .inl (congrArg Prod.snd (base_release_all_pressed_keys s))
    | client_disconnected client => exact .inl rfl
    | move_request f => exact absurd rfl (hmove f)
    | resize_request f => exact absurd rfl (hresize f)
    | x11_move_request xid => exact absurd rfl (hx11_move xid)
    | x11_resize_request xid => exact absurd rfl (hx11_resize xid)
    | _ => cases htame

/-! ### The start of a drag -/

theorem dragging_start_move {s : Rwl} {w : WinId} (h : s.floats w = false) :
    Dragging w (grab.start_move s w) := by
  unfold grab.start_move grab.begin
  dsimp only
  refine ⟨?_, ?_, ?_⟩
  · rw [grab_focus_window]
  · rw [grab_focus_window]
  · rw [grab_focus_window]
    exact h

/-- The event starts a move of the window `w`, which is tiled. -/
def Starts (w : WinId) (s : Rwl) (e : Event) : Prop :=
  s.floats w = false ∧ match e with
    | .button btn true _ => s.session.locked = false ∧ s.overview = none ∧
        (s.setModTap none).boundAction btn = some .Move ∧
          s.desk.element_under s.seat.location = some w
    | .move_request f => s.desk.window_map f = some w
    | .x11_move_request xid => s.desk.window_for_x11 xid = some w
    | _ => False

theorem floats_pressFocus (s : Rwl) (under : Option WinId) (w : WinId) :
    (s.pressFocus under).floats w = s.floats w := by
  unfold pressFocus
  split
  · split_ifs
    · rfl
    · exact floats_of_scene (scene_focus_window (s.setCursorMode .Pressed) _) w
  · rfl

theorem dragging_of_starts {s : Rwl} {e : Event} {w : WinId} (h : Starts w s e) :
    Dragging w (step s e) := by
  obtain ⟨htiled, hstart⟩ := h
  cases e with
  | button btn pressed serial =>
    cases pressed with
    | false => exact hstart.elim
    | true =>
      obtain ⟨hlocked, hover, hbound, hunder⟩ := hstart
      have hpress : step s (.button btn true serial) = (grab.start_move
          ((s.setModTap none).pressFocus (some w)) w).emit (.buttonConsumed btn true) := by
        change s.process_pointer_button btn true serial = _
        unfold process_pointer_button
        rw [if_neg (by rw [hlocked]; decide)]
        dsimp only
        rw [if_neg (by change ¬s.overview.isSome = true; rw [hover]; decide), if_pos rfl]
        simp only [hbound]
        change (runButton ((s.setModTap none).pressFocus (s.desk.element_under s.seat.location))
          (s.desk.element_under s.seat.location) .Move).emit _ = _
        rw [hunder]
        rfl
      rw [hpress]
      have hfloats := floats_pressFocus (s.setModTap none) (some w) w
      exact (dragging_start_move (hfloats.trans htiled)).of_grab rfl
  | move_request f =>
    change Dragging w (s.move_request f)
    unfold move_request
    rw [show s.desk.window_map f = some w from hstart]
    exact dragging_start_move htiled
  | x11_move_request xid =>
    change Dragging w (s.x11_move_request xid)
    unfold x11_move_request
    rw [show s.desk.window_for_x11 xid = some w from hstart]
    exact dragging_start_move htiled
  | _ => exact hstart.elim

/-! ### The end of a drag -/

/-- A released window is tiled, and no grab is on. -/
theorem end_grab_tiles {s : Rwl} {w : WinId} (h : Dragging w s) :
    ¬(grab.end_grab s).Grabbing ∧ (grab.end_grab s).floats w = false := by
  have hrestore : (decide (s.grab.cursor_mode = .Move) && !s.grab.grab_was_floating) = true := by
    rw [h.mode, h.tiled]
    rfl
  let s₂ : Rwl := { s.modifyDesk (fun d => d.modifyWindow w fun st =>
    { st with is_floating := false }) with grab := Grab.idle .Normal }
  have hend : grab.end_grab s = s₂.arrange_all := by
    unfold grab.end_grab
    rw [h.grabbed]
    dsimp only
    rw [if_pos hrestore, if_pos hrestore]
  have hfloats : s₂.floats w = false := by
    change (s.desk.st.modify w _ w).is_floating = false
    rw [Windows.modify_self]
  have hgrab : s₂.arrange_all.grab = s₂.grab := grab_arrange_all s₂
  rw [hend]
  refine ⟨?_, ?_⟩
  · unfold Grabbing
    rw [hgrab]
    show ¬(CursorMode.Normal = .Move ∨ CursorMode.Normal = .Resize)
    decide
  · exact (floats_of_scene (scene_arrange_all s₂) w).trans hfloats

/-- During a move of a window that was tiled, the event is no press on the unlocked desktop, no
request that finds a window to move or resize, and does not engage the native locker. -/
def Undisturbed (s : Rwl) (e : Event) : Prop :=
  s.grab.cursor_mode = .Move → s.grab.grab_was_floating = false → ¬s.Engages e ∧ match e with
    | .button _ true _ => s.session.locked = true ∨ s.overview.isSome = true
    | .move_request f | .resize_request f => s.desk.window_map f = none
    | .x11_move_request xid | .x11_resize_request xid => s.desk.window_for_x11 xid = none
    | _ => True

instance (s : Rwl) (e : Event) : Decidable (s.Undisturbed e) := by
  apply Event.casesOn (motive := fun e => Decidable (s.Undisturbed e)) e
  -- a press and a release are told apart
  case button =>
    intro btn pressed serial
    apply Bool.casesOn (motive := fun p => Decidable (s.Undisturbed (.button btn p serial))) pressed
      <;> dsimp only [Undisturbed] <;> infer_instance
  all_goals
    intros
    dsimp only [Undisturbed]
    infer_instance

/-- **One event of an undisturbed drag** leaves it on, or the window tiled. -/
theorem step_dragging {s : Rwl} {e : Event} {w : WinId} (h : Dragging w s)
    (he : s.Undisturbed e) :
    Dragging w (step s e) ∨ ¬(step s e).Grabbing ∧ (step s e).floats w = false := by
  obtain ⟨hnative, he⟩ := he h.mode h.tiled
  have hstays {s' : Rwl} (hs : s'.grab = s.grab) :
      Dragging w s' ∨ ¬s'.Grabbing ∧ s'.floats w = false := .inl (h.of_grab hs)
  cases e with
  | button btn pressed serial =>
    change Dragging w (s.process_pointer_button btn pressed serial) ∨ _
    change _ ∨ ¬(s.process_pointer_button btn pressed serial).Grabbing ∧
      (s.process_pointer_button btn pressed serial).floats w = false
    unfold process_pointer_button
    dsimp only
    split_ifs with hlocked hover hpressed hpress
    · exact hstays rfl
    · refine hstays ?_
      have hclick := ground_handle_pointer_click (s.setModTap none) s.seat.location
      exact congrArg (fun g => g.2.2) hclick
    · exact hstays rfl
    · subst hpress
      rcases he with hl | ho
      · exact absurd hl hlocked
      · exact absurd ho hover
    · have hend := end_grab_tiles (h.of_grab (rfl : (s.setModTap none).grab = s.grab))
      have hrelease : (s.setModTap none).releaseGrab = grab.end_grab (s.setModTap none) := by
        unfold releaseGrab
        rw [if_pos (.inl h.mode)]
      rw [hrelease]
      exact .inr hend
  | move_request f =>
    have hstep : step s (.move_request f) = s := by
      change s.move_request f = s
      unfold move_request
      rw [show s.desk.window_map f = none from he]
    rw [hstep]
    exact hstays rfl
  | resize_request f =>
    have hstep : step s (.resize_request f) = s := by
      change s.resize_request f = s
      unfold resize_request
      rw [show s.desk.window_map f = none from he]
    rw [hstep]
    exact hstays rfl
  | x11_move_request xid =>
    have hstep : step s (.x11_move_request xid) = s := by
      change s.x11_move_request xid = s
      unfold x11_move_request
      rw [show s.desk.window_for_x11 xid = none from he]
    rw [hstep]
    exact hstays rfl
  | x11_resize_request xid =>
    have hstep : step s (.x11_resize_request xid) = s := by
      change s.x11_resize_request xid = s
      unfold x11_resize_request
      rw [show s.desk.window_for_x11 xid = none from he]
    rw [hstep]
    exact hstays rfl
  | _ =>
    refine .inl (h.of_grab ?_)
    refine (step_holds s _ ?_ ?_ ?_ ?_ ?_).resolve_right (fun h => hnative h.1) <;>
      (intros; intro heq; cases heq)

/-- **A tiled window that is moved is tiled once no grab is on**, in a run in which nothing but a
release ends the move. -/
theorem drag_restores_tiled (env : Setup) (pre post : List Event) (e : Event) (w : WinId)
    (hstarts : Starts w (run step (init env) pre) e)
    (hpost : Guarded step Undisturbed (step (run step (init env) pre) e) post) :
    AtFirst step (fun s => ¬s.Grabbing) (fun s => s.floats w = false)
      (step (run step (init env) pre) e) post := by
  refine hpost.atFirst (I := fun s => Dragging w s ∨ ¬s.Grabbing ∧ s.floats w = false)
    (fun s hs hidle => ?_) (fun s e hs hidle he => ?_) (.inl (dragging_of_starts hstarts))
  · rcases hs with hs | ⟨-, hs⟩
    · exact absurd (.inl hs.mode) hidle
    · exact hs
  · rcases hs with hs | ⟨hs, -⟩
    · exact step_dragging hs he
    · exact absurd hs hidle

/-- One tiled window. -/
def tiledWindow : List Event :=
  [.output_added 0 (plainOutput "a"), .new_toplevel 0 (plainClient 10), .commit 10 true]

/-- The window is moved and released. -/
theorem drag_restores_tiled_released :
    AtFirst step (fun s => ¬s.Grabbing) (fun s => s.floats 0 = false)
      (step (run step (init (plainSetup [] [])) tiledWindow) (.move_request 10))
      [.motion 5 5, .button 1 false 1] :=
  drag_restores_tiled _ tiledWindow _ _ 0 ⟨by decide +kernel, by decide +kernel⟩
    ⟨by decide +kernel, by decide +kernel, trivial⟩

/-- A button is pressed during the move: no grab is on, and the window floats. -/
theorem not_drag_restores_tiled :
    ¬∀ env pre e w post, Starts w (run step (init env) pre) e →
      AtFirst step (fun s => ¬s.Grabbing) (fun s => s.floats w = false)
        (step (run step (init env) pre) e) post := by
  intro h
  have hstarts : Starts 0 (run step (init (plainSetup [] [])) tiledWindow) (.move_request 10) :=
    ⟨by decide +kernel, by decide +kernel⟩
  have hpressed := (h _ tiledWindow _ 0 [.button 1 true 1] hstarts).2 (by decide +kernel)
  have htiled := hpressed (by decide +kernel)
  revert htiled
  decide +kernel

end Rwl

end Compositor
