import Mathlib.Tactic.Common
import Rwl.Theory.StepActs

/-!
# The footprint of an event

* `Event.answers`: the answers to devices and protocol objects an event may give;
* `Seat.keyPart`: what only the keyboard writes of the seat;
* `Ignores`: a quantity of the core reads nothing an event writes;
* `Ignores.step`: the event then leaves it as it is.
-/

namespace Compositor

/-- The part of the seat that only the keyboard writes. -/
structure KeyPart where
  keymap : Keymap
  transitions : List (ℕ × Bool)
  pressed_keys : List ℕ
  forwarded_pressed_keys : List ℕ

namespace Seat

/-- What the keyboard holds of the seat. -/
def keyPart (s : Seat) : KeyPart where
  keymap := s.keymap
  transitions := s.transitions
  pressed_keys := s.pressed_keys
  forwarded_pressed_keys := s.forwarded_pressed_keys

theorem keyPart_of_held {s s' : Seat} (h : s'.held = s.held) : s'.keyPart = s.keyPart := by
  have hkeys := congrArg (fun k : Held =>
    (⟨k.keymap, k.transitions, k.pressed_keys, k.forwarded_pressed_keys⟩ : KeyPart)) h
  exact hkeys

theorem keyPart_unsetPopup (s : Seat) (g : PopupGrab) : (s.unsetPopup g).keyPart = s.keyPart :=
  keyPart_of_held (held_unsetPopup s g)

theorem keyPart_button (s : Seat) (btn : ℕ) (pressed : Bool) (serial : ℕ) :
    (s.button btn pressed serial).2.keyPart = s.keyPart := by
  unfold button startClick
  extract_lets s'
  have hs' : s'.keyPart = s.keyPart := (keyPart_of_held (held_dropDeadGrab _)).trans rfl
  clear_value s'
  split
  · split_ifs <;> exact hs'
  · split_ifs <;> exact hs'
  · split_ifs
    · exact (keyPart_unsetPopup s' _).trans hs'
    · exact (keyPart_unsetPopup _ _).trans hs'
    · exact hs'

theorem keyPart_grab (s : Seat) (root popup parent : SurfaceId) (serial : ℕ) :
    (s.grab root popup parent serial).keyPart = s.keyPart := by
  have hpopup {p : Option ℕ} {s' : Seat} (h : s.grab_popup popup parent serial = some (p, s')) :
      s'.keyPart = s.keyPart := by
    unfold grab_popup at h
    dsimp only at h
    split_ifs at h
    obtain ⟨-, rfl⟩ := Prod.mk.inj (Option.some.inj h)
    rfl
  unfold grab
  split
  · rfl
  · rename_i previous_serial s' h
    have hs' := hpopup h
    have hfocus (f : Option SurfaceId) : (s'.set_focus f).keyPart = s.keyPart :=
      (keyPart_of_held (held_set_focus s' f)).trans hs'
    dsimp only
    split_ifs
    · exact hs'
    · split
      · exact hfocus _
      · split_ifs <;> exact hfocus _
      · split_ifs
        · exact hfocus _
        · exact (keyPart_of_held (held_unset_keyboard_grab _ _)).trans (hfocus _)

end Seat

namespace Rwl

/-- The answers an event may give. -/
def Event.answers : Event → Effect → Bool
  | .key .., .key .. | .key .., .keyIntercepted .. => true
  | .auth .., .key .. | .ipc_resume, .key .. => true
  | .button .., .button .. | .button .., .buttonConsumed .. => true
  | .axis .., .axis .. => true
  | .ext_lock .., .lockConfirmed .. | .ext_lock .., .lockFinished .. => true
  | .capture_output .., .frameFailed .. | .copy .., .frameFailed .. => true
  | .vblank .., .composited .. | .vblank .., .frameReady .. | .vblank .., .frameFailed .. => true
  | .winit_frame .., .composited .. | .winit_frame .., .frameReady .. => true
  | .winit_frame .., .frameFailed .. => true
  | _, _ => false

/-- The events that press or release keys. -/
def Event.isKeyboard : Event → Bool
  | .key .. | .auth .. | .ipc_resume => true
  | _ => false

/-- The events that touch the screencopy state. -/
def Event.isScreencopy : Event → Bool
  | .capture_output .. | .copy .. | .frame_destroyed .. | .vblank .. | .winit_frame .. => true
  | _ => false

/-- The quantity `f` of the core reads nothing that the event `e` writes, but for the desk, the
session, the focus and the reports, which it does not read at all. -/
structure Ignores {α : Type*} (e : Event) (f : Core → α) : Prop where
  desk : ∀ c d, f { c with desk := d } = f c
  session : ∀ c ss, f { c with session := ss } = f c
  seat : ∀ c se, (e.isKeyboard = false → se.keyPart = c.seat.keyPart) →
    f { c with seat := se } = f c
  keys : e.isKeyboard = true → ∀ c ks, f { c with intercepted_keys := ks } = f c
  screencopy : e.isScreencopy = true → ∀ c sc, f { c with screencopy := sc } = f c
  out : ∀ c x, x.isAnswer = false ∨ e.answers x = true → f { c with out := x :: c.out } = f c

namespace Ignores

variable {α : Type*} {e : Event} {f : Core → α}

theorem acts (h : Ignores e f) {g : Registry.Grant WinId} {s s' : Rwl} (ha : Acts g s s') :
    f s'.core = f s.core :=
  ha.keeps f h.desk (fun c x hx => h.out c x (.inl hx))
    (fun c se hse => h.seat c se fun _ => Seat.keyPart_of_held hse) fun c _ => h.session c _

theorem emit (h : Ignores e f) (s : Rwl) {x : Effect}
    (hx : x.isAnswer = false ∨ e.answers x = true) : f (s.emit x).core = f s.core :=
  h.out s.core x hx

theorem modifySeat (h : Ignores e f) (s : Rwl) {u : Seat → Seat}
    (hu : e.isKeyboard = false → (u s.seat).keyPart = s.seat.keyPart) :
    f (s.modifySeat u).core = f s.core :=
  h.seat s.core _ hu

theorem modifySession (h : Ignores e f) (s : Rwl) (u : Session → Session) :
    f (s.modifySession u).core = f s.core :=
  h.session s.core _

theorem fire (_ : Ignores e f) (s : Rwl) (c : HookCall) : f (s.fire c).core = f s.core := rfl

theorem kb_set_focus (h : Ignores e f) (s : Rwl) (fo : Option SurfaceId) :
    f (s.kb_set_focus fo).core = f s.core :=
  h.modifySeat s fun _ => Seat.keyPart_of_held (Seat.held_set_focus s.seat fo)

theorem ptr_motion (h : Ignores e f) (s : Rwl) (fo : Option SurfaceId) (loc : PointF) :
    f (s.ptr_motion fo loc).core = f s.core :=
  (h.emit _ (.inl rfl)).trans
    (h.modifySeat s fun _ => Seat.keyPart_of_held (Seat.held_motion s.seat fo loc))

theorem reevaluate_pointer (h : Ignores e f) (s : Rwl) : f s.reevaluate_pointer.core = f s.core :=
  h.ptr_motion s _ _

/-- A keyboard event writes any of the keyboard's own. -/
theorem keyboard (h : Ignores e f) (he : e.isKeyboard = true) (s : Rwl) (u : Seat → Seat) :
    f (s.modifySeat u).core = f s.core :=
  h.modifySeat s fun hf => absurd (he.symm.trans hf) (by decide)

theorem key_forward (h : Ignores e f) (he : e.isKeyboard = true)
    (hkey : ∀ code pressed fo, e.answers (.key code pressed fo) = true) (s : Rwl) (code : ℕ)
    (pressed : Bool) : f (s.key_forward code pressed).core = f s.core :=
  (h.emit _ (.inr (hkey ..))).trans (h.keyboard he s _)

theorem release_all_pressed_keys (h : Ignores e f) (he : e.isKeyboard = true)
    (hkey : ∀ code pressed fo, e.answers (.key code pressed fo) = true) (s : Rwl) :
    f s.release_all_pressed_keys.core = f s.core := by
  refine Recency.foldl_keeps (fun s => f s.core) releaseKey (fun s code => ?_) _ s
  unfold releaseKey
  split_ifs
  · exact (h.key_forward he hkey _ _ _).trans (h.keyboard he s _)
  · rfl

theorem filterState (h : Ignores e f) (he : e.isKeyboard = true) (s : Rwl) (code : ℕ)
    (pressed : Bool) : f (s.filterState code pressed).core = f s.core := by
  unfold Rwl.filterState feed_key
  split_ifs
  · split
    · exact h.modifySession s _
    · rfl
  · rfl
  · rfl
  · exact h.keys he s.core _
  · rfl

theorem afterKey {code : ℕ} {pressed : Bool} (h : Ignores (.key code pressed) f) (s : Rwl) :
    f (s.afterKey code pressed).core = f s.core := by
  have hinput : f (s.keyInput code pressed).1.core = f s.core := by
    unfold keyInput
    split_ifs
    · have hfilter := (h.filterState rfl (s.modifySeat (Seat.key_input · code pressed)) code
        pressed).trans (h.keyboard rfl s _)
      dsimp only
      split
      · exact (h.emit _ (.inr rfl)).trans hfilter
      · exact (h.key_forward rfl (fun _ _ _ => rfl) _ code pressed).trans hfilter
    · rfl
  unfold Rwl.afterKey
  split_ifs
  · exact (h.keys rfl (s.keyInput code pressed).1.core _).trans hinput
  · exact hinput

theorem serveWith (h : Ignores e f) (he : e.isScreencopy = true) {ans : PendingFrame → Effect}
    (hans : ∀ pf, e.answers (ans pf) = true) (s : Rwl) (o : OutputId) :
    f (serveWith ans s o).core = f s.core := by
  unfold Rwl.serveWith
  refine (Recency.foldl_keeps (fun s => f s.core) (fun s pf => s.emit (ans pf))
    (fun s pf => h.emit s (.inr (hans pf))) _ _).trans ?_
  exact h.screencopy he s.core _

theorem submit_screencopy_frames (h : Ignores e f) (he : e.isScreencopy = true)
    (hready : ∀ i, e.answers (.frameReady i) = true)
    (hfailed : ∀ i, e.answers (.frameFailed i) = true) (copied : ℕ → Bool) (s : Rwl)
    (o : OutputId) : f (submit_screencopy_frames copied s o).core = f s.core := by
  refine h.serveWith he (fun pf => ?_) s o
  split_ifs
  · exact hready _
  · exact hfailed _

/-- **An event leaves alone what reads nothing it writes.** -/
theorem step (h : Ignores e f) (s : Rwl) : f (step s e).core = f s.core := by
  cases ho : e.isOrdinary with
  | true => exact h.acts (acts_step s e ho)
  | false =>
    cases e with
    | key code pressed =>
      exact (h.acts (acts_key (s.grant (.key code pressed)) s code pressed)).trans (h.afterKey s)
    | button btn pressed serial =>
      obtain ⟨s', hacts, hstep⟩ := acts_button s btn pressed serial
      simp only [Rwl.step, hstep]
      refine Eq.trans ?_ (h.acts hacts)
      split_ifs
      · exact h.emit s' (.inr rfl)
      · exact (h.emit _ (.inr rfl)).trans
          (h.modifySeat s' fun _ => Seat.keyPart_button s'.seat btn pressed serial)
    | axis source horizontal vertical =>
      simp only [Rwl.step, process_pointer_axis]
      refine (h.emit _ (.inr rfl)).trans ((h.modifySeat _ fun _ =>
        Seat.keyPart_of_held (Seat.held_dropDeadGrab _)).trans ?_)
      split_ifs
      · exact h.reevaluate_pointer s
      · rfl
    | auth i ok =>
      simp only [Rwl.step, worker_done, on_auth_result]
      split
      · rfl
      · split_ifs
        · exact (h.reevaluate_pointer _).trans ((h.kb_set_focus _ _).trans
            ((h.release_all_pressed_keys rfl (fun _ _ _ => rfl) _).trans
              ((h.fire _ _).trans ((h.modifySession _ _).trans (h.modifySession s _)))))
        · exact (h.modifySession _ _).trans (h.modifySession s _)
        · exact h.modifySession s _
    | flash =>
      simp only [Rwl.step, flash_expired]
      split_ifs
      · rfl
      · exact h.modifySession s _
    | ext_lock obj client =>
      simp only [Rwl.step, Rwl.ext_lock]
      split_ifs
      · rfl
      · exact (h.emit _ (.inr rfl)).trans (h.modifySession s _)
      · exact (h.reevaluate_pointer _).trans ((h.fire _ _).trans
          ((h.emit _ (.inr rfl)).trans (h.modifySession s _)))
    | ext_unlock obj =>
      simp only [Rwl.step, Rwl.ext_unlock, session_unlock]
      split_ifs
      · rfl
      · exact h.modifySession s _
      · exact (h.modifySession _ _).trans ((h.reevaluate_pointer _).trans
          ((h.kb_set_focus _ _).trans ((h.fire _ _).trans (h.modifySession s _))))
    | ext_destroy obj =>
      simp only [Rwl.step, Rwl.ext_destroy]
      split_ifs
      · rfl
      · exact h.modifySession s _
    | ext_get_surface obj fo output =>
      simp only [Rwl.step, Rwl.ext_get_surface, new_surface]
      split_ifs
      · rfl
      · rfl
      · refine (h.kb_set_focus _ _).trans ?_
        split
        · exact h.modifySession s _
        · rfl
    | ipc_resume => exact h.release_all_pressed_keys rfl (fun _ _ _ => rfl) s
    | popup_grab root popup parent serial =>
      exact h.modifySeat s fun _ => Seat.keyPart_grab s.seat root popup parent serial
    | surface_destroyed fo => exact h.modifySeat s fun _ => rfl
    | client_disconnected client =>
      exact (h.modifySeat _ fun _ => rfl).trans (h.modifySession s _)
    | capture_output frame output =>
      simp only [Rwl.step, Rwl.capture_output]
      split_ifs
      · rfl
      · split
        · exact h.screencopy rfl s.core _
        · exact (h.emit _ (.inr rfl)).trans (h.screencopy rfl s.core _)
    | copy frame =>
      simp only [Rwl.step, Rwl.copy]
      split
      · rfl
      · rename_i fr _
        have hused := h.screencopy rfl s.core (setFrame s.screencopy frame { fr with used := true })
        split_ifs
        · rfl
        · split
          · exact (h.emit _ (.inr rfl)).trans hused
          · exact (h.emit _ (.inr rfl)).trans hused
        · split
          · exact (h.emit _ (.inr rfl)).trans hused
          · exact (h.screencopy rfl (Core.mk ..) _).trans hused
    | frame_destroyed frame => exact h.screencopy rfl s.core _
    | vblank o out =>
      simp only [Rwl.step, on_vblank]
      split_ifs with hgate
      · exact h.acts (acts_refreshSpace (s.grant (.vblank o out)) s)
      all_goals have hacts := h.acts (acts_vblank s o out hgate)
      · exact hacts
      · exact (h.emit _ (.inr rfl)).trans hacts
      · exact (h.submit_screencopy_frames rfl (fun _ => rfl) (fun _ => rfl) _ _ _).trans
          ((h.emit _ (.inr rfl)).trans hacts)
      · exact (h.serveWith rfl (fun _ => rfl) _ _).trans ((h.emit _ (.inr rfl)).trans hacts)
    | winit_frame o out =>
      simp only [Rwl.step, render_frame]
      split_ifs with hgate
      · rfl
      all_goals have hacts := h.acts (acts_winit_frame s o out hgate)
      · exact (h.submit_screencopy_frames rfl (fun _ => rfl) (fun _ => rfl) _ _ _).trans
          ((h.emit _ (.inr rfl)).trans hacts)
      · exact hacts
    | _ => cases ho

end Ignores

end Rwl

end Compositor
