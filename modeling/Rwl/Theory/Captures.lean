import Mathlib.Tactic.Common
import Rwl.Theory.Footprint
import Rwl.Theory.Sessions

/-!
# Screen captures

A copy is refused while the session is locked, but its pixels are taken when the output is next
rendered.

* `Capture`, `ReadyUnlocked`: what the log says of framebuffers, and that every frame that was
  ready was copied from one composed while the session was not locked;
* `CaptureSafe`: that, and no frame waits in the queue while the session is locked;
* `captures_unlocked`: this holds all along a run that never locks while a frame is queued.
-/

namespace Compositor

namespace Rwl

open Transition

/-! ### The log of framebuffers -/

/-- A framebuffer is composed, or a client gets a copy of the last one. -/
inductive Capture
  | composited (locked : Bool)
  | ready
  deriving DecidableEq

/-- What an effect says of framebuffers. -/
def capture : Effect → Option Capture
  | .composited _ locked => some (.composited locked)
  | .frameReady _ => some .ready
  | _ => none

/-- The framebuffers and copies so far, the newest first. -/
def captures (s : Rwl) : List Capture := s.out.filterMap capture

/-- Whether the session was locked when the last framebuffer was composed. -/
def lastComposited : List Capture → Option Bool
  | [] => none
  | .composited locked :: _ => some locked
  | .ready :: cs => lastComposited cs

/-- Every copy is of a framebuffer composed while the session was not locked. -/
def ReadyUnlocked : List Capture → Prop
  | [] => True
  | .composited _ :: cs => ReadyUnlocked cs
  | .ready :: cs => lastComposited cs = some false ∧ ReadyUnlocked cs

/-- No copy is of a locked screen, and no frame waits for one while the session is locked. -/
structure CaptureSafe (s : Rwl) : Prop where
  ready : ReadyUnlocked s.captures
  queue : s.session.locked = true → s.screencopy.pending_screencopy_frames = []

/-- The event does not lock the session while a frame is queued. -/
def NoQueue (s : Rwl) (e : Event) : Prop :=
  s.Locks e → s.screencopy.pending_screencopy_frames = []

instance (s : Rwl) (e : Event) : Decidable (s.NoQueue e) := inferInstanceAs (Decidable (_ → _))

/-! ### The other events -/

/-- An event that is no screencopy event leaves the queue and the log of framebuffers alone. -/
theorem ignores_captures {e : Event} (he : e.isScreencopy = false) :
    Ignores e fun c => (c.screencopy, c.out.filterMap capture) := by
  refine ⟨fun _ _ => rfl, fun _ _ => rfl, fun _ _ _ => rfl, fun _ _ _ => rfl,
    fun h => absurd (he.symm.trans h) (by decide), fun c x hx => ?_⟩
  have hnone : capture x = none := by
    cases x with
    | composited | frameReady =>
      rcases hx with hx | hx
      · cases hx
      · cases e <;>
          first | exact absurd hx Bool.false_ne_true | exact absurd he.symm Bool.false_ne_true
    | _ => rfl
  rw [List.filterMap_cons_none hnone]

theorem captures_acts {g : Registry.Grant WinId} {s s' : Rwl} (h : Acts g s s') :
    s'.captures = s.captures :=
  h.filterMap_out capture fun x hx => by cases x <;> first | rfl | cases hx

/-! ### Serving the queue -/

/-- An empty queue is served by doing nothing. -/
theorem serveWith_nil (f : PendingFrame → Effect) {s : Rwl} (o : OutputId)
    (hq : s.screencopy.pending_screencopy_frames = []) :
    (serveWith f s o).captures = s.captures ∧
      (serveWith f s o).screencopy.pending_screencopy_frames = [] := by
  unfold serveWith
  rw [hq]
  exact ⟨rfl, rfl⟩

/-- Frames copied from an unlocked framebuffer. -/
theorem captures_submit {s : Rwl} (copied : ℕ → Bool) (o : OutputId)
    (hr : ReadyUnlocked s.captures) (hl : lastComposited s.captures = some false) :
    ReadyUnlocked (submit_screencopy_frames copied s o).captures := by
  unfold submit_screencopy_frames serveWith
  refine (List.foldlRecOn (motive := fun s : Rwl =>
    ReadyUnlocked s.captures ∧ lastComposited s.captures = some false) _ _ ?_ ?_).1
  · exact ⟨hr, hl⟩
  · rintro s ⟨hr, hl⟩ pf _
    dsimp only
    split_ifs
    · exact ⟨⟨hl, hr⟩, hl⟩
    · exact ⟨hr, hl⟩

theorem captures_fail (s : Rwl) (o : OutputId) :
    (fail_screencopy_frames s o).captures = s.captures :=
  Recency.foldl_keeps captures (fun s (pf : PendingFrame) => s.emit (.frameFailed pf.frame))
    (fun _ _ => rfl) _ _

namespace CaptureSafe

variable {s : Rwl}

/-- A state with the log and the queue of a safe one, whose queue is empty when it is locked. -/
theorem congr (h : CaptureSafe s) {s' : Rwl} (hout : s'.captures = s.captures)
    (hq : s'.session.locked = true → s'.screencopy.pending_screencopy_frames = []) :
    CaptureSafe s' :=
  ⟨hout ▸ h.ready, hq⟩

theorem acts (h : CaptureSafe s) {g : Registry.Grant WinId} {s' : Rwl} (ha : Acts g s s')
    (hq : s'.session.locked = true → s.screencopy.pending_screencopy_frames = []) :
    CaptureSafe s' :=
  h.congr (captures_acts ha) fun hl => by rw [ha.screencopy, hq hl]

theorem composite (h : CaptureSafe s) (o : OutputId) : CaptureSafe (s.composite o) :=
  ⟨h.ready, h.queue⟩

/-- The frames are served from a framebuffer that was just composed. -/
theorem submit (h : CaptureSafe s) (o : OutputId) (copied : ℕ → Bool) :
    CaptureSafe (submit_screencopy_frames copied (s.composite o) o) := by
  cases hl : s.session.locked with
  | true =>
    obtain ⟨hout, hq⟩ := serveWith_nil
      (fun pf => if copied pf.frame then .frameReady pf.frame else .frameFailed pf.frame) o
      ((h.composite o).queue hl)
    exact (h.composite o).congr hout fun _ => hq
  | false =>
    refine ⟨captures_submit copied o h.ready ?_, fun hl' => ?_⟩
    · change some s.session.locked = some false
      rw [hl]
    · rw [submit_screencopy_frames, session_serveWith] at hl'
      exact absurd (hl.symm.trans hl') (by decide)

theorem fail (h : CaptureSafe s) (o : OutputId) : CaptureSafe (fail_screencopy_frames s o) := by
  refine h.congr (captures_fail s o) fun hl => ?_
  rw [fail_screencopy_frames, session_serveWith] at hl
  exact (serveWith_nil _ o (h.queue hl)).2

end CaptureSafe

/-- **Every event that meets the guard keeps captures safe.** -/
theorem step_captureSafe {s : Rwl} {e : Event} (hs : CaptureSafe s) (hg : NoQueue s e) :
    CaptureSafe (step s e) := by
  -- what is queued before the event is served unlocked
  have hq : (step s e).session.locked = true → s.screencopy.pending_screencopy_frames = [] := by
    cases hl : s.session.locked with
    | true => exact fun _ => hs.queue hl
    | false => exact fun hl' => hg ⟨hl, hl'⟩
  cases he : e.isScreencopy with
  | false =>
    have h := (ignores_captures he).step s
    obtain ⟨hsc, hout⟩ := Prod.mk.inj h
    refine hs.congr hout fun hl => ?_
    have hq := hq hl
    rw [← hq]
    exact congrArg Screencopy.pending_screencopy_frames hsc
  | true =>
    cases e with
    | capture_output frame output =>
      simp only [step, capture_output] at hq ⊢
      split_ifs at hq ⊢
      · exact hs
      · split <;> exact hs.congr rfl hs.queue
    | copy frame =>
      simp only [step, copy]
      split
      · exact hs
      · split_ifs with hused hl
        · exact hs
        · split <;> exact hs.congr rfl hs.queue
        · split
          · exact hs.congr rfl hs.queue
          · exact hs.congr rfl fun hl' => absurd hl' hl
    | frame_destroyed frame =>
      refine hs.congr rfl fun hl => ?_
      change List.filter _ s.screencopy.pending_screencopy_frames = []
      rw [hs.queue hl, List.filter_nil]
    | vblank o out =>
      generalize hs' : step s (.vblank o out) = s' at hq ⊢
      simp only [step, on_vblank] at hs'
      split_ifs at hs' with hgate
      · subst hs'
        exact hs.acts (acts_refreshSpace (s.grant (.vblank o out)) s) hq
      all_goals have hacts := acts_vblank s o out hgate
      · subst hs'
        exact hs.acts hacts hq
      · subst hs'
        exact (hs.acts hacts hq).composite o
      · subst hs'
        rw [submit_screencopy_frames, session_serveWith] at hq
        exact (hs.acts hacts hq).submit o _
      · subst hs'
        rw [fail_screencopy_frames, session_serveWith] at hq
        exact ((hs.acts hacts hq).composite o).fail o
    | winit_frame o out =>
      generalize hs' : step s (.winit_frame o out) = s' at hq ⊢
      simp only [step, render_frame] at hs'
      split_ifs at hs' with hgate
      · subst hs'
        exact hs
      all_goals have hacts := acts_winit_frame s o out hgate
      · subst hs'
        rw [submit_screencopy_frames, session_serveWith] at hq
        exact (hs.acts hacts hq).submit o _
      · subst hs'
        exact hs.acts hacts hq
    | _ => cases he

/-! ### Runs -/

/-- **No copy is of a locked screen, in a run that never locks while a frame is queued.** -/
theorem captures_unlocked (env : Setup) (es : List Event)
    (h : Guarded step NoQueue (init env) es) : Always step CaptureSafe (init env) es :=
  h.always (fun _ _ => step_captureSafe)
    ⟨trivial, fun hl => absurd hl Bool.false_ne_true⟩

/-- A copy of the desktop; then one request under the lock, and one after it. -/
theorem captures_unlocked_around_lock :
    Always step CaptureSafe (init (plainSetup [] []))
      [.output_added 0 (plainOutput "a"), .capture_output 0 (some 0), .copy 0,
        .vblank 0 plainFrame, .ext_lock 0 1, .capture_output 1 (some 0), .copy 1,
        .winit_frame 0 plainFrame, .ext_unlock 0, .capture_output 2 (some 0), .copy 2,
        .vblank 0 plainFrame] :=
  captures_unlocked _ _ (by decide +kernel)

/-- A copy is requested, a client locks, and the frame after that is copied. -/
theorem not_captures_unlocked : ¬∀ env es, Always step CaptureSafe (init env) es := by
  intro h
  have hend := (h (plainSetup [] []) [.output_added 0 (plainOutput "a"), .capture_output 0 (some 0),
    .copy 0, .ext_lock 0 1, .vblank 0 plainFrame]).last.ready
  have hlog : (run step (init (plainSetup [] [])) [.output_added 0 (plainOutput "a"),
      .capture_output 0 (some 0), .copy 0, .ext_lock 0 1, .vblank 0 plainFrame]).captures =
    [.ready, .composited true] := by decide +kernel
  rw [hlog] at hend
  exact absurd hend.1 (by decide)

end Rwl

end Compositor
