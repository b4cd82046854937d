import Mathlib.Tactic.Common
import Rwl.Core.Actions

/-!
# Rendering and screencopy

* the screencopy requests: `capture_output`, `copy`, `frame_destroyed`;
* `serve`: how a queue is served for one output; `submit_screencopy_frames` and
  `fail_screencopy_frames`;
* `on_vblank` (the DRM backend) and `render_frame` (the nested one), up to the point where the
  client frames are served.
-/

namespace Compositor

/-- What the renderer makes of a frame: whether it is held back while windows resize, whether
compositing and the readback of the buffer succeed, and which client frames are copied. -/
structure RenderOutcome where
  within_gate : Bool
  rendered : Bool
  readback : Bool
  copied : ℕ → Bool

namespace Rwl

/-! ### Requests -/

/-- Change the screencopy state. -/
def modifyScreencopy (s : Rwl) (f : Screencopy → Screencopy) : Rwl :=
  { s with screencopy := f s.screencopy }

/-- Record a frame object. -/
def setFrame (sc : Screencopy) (frame : ℕ) (f : ScreencopyFrame) : Screencopy :=
  { sc with frames := Function.update sc.frames frame (some f) }

/-- `capture_output` and `capture_output_region` for the new object `frame`; an output that is
gone, or has no mode, fails the frame at once. -/
def capture_output (s : Rwl) (frame : ℕ) (output : Option OutputId) : Rwl :=
  if (s.screencopy.frames frame).isSome then s
  else match output.filter fun o => (s.desk.output o).mode.isSome with
    | some o => s.modifyScreencopy (setFrame · frame ⟨some o, false⟩)
    | none => (s.modifyScreencopy (setFrame · frame ⟨none, false⟩)).emit (.frameFailed frame)

/-- `copy` and `copy_with_damage`: once for each object, and refused while the session is
locked. -/
def copy (s : Rwl) (frame : ℕ) : Rwl :=
  match s.screencopy.frames frame with
  | none => s
  | some f =>
      if f.used then s
      else
        let s₁ := s.modifyScreencopy (setFrame · frame { f with used := true })
        match f.capture with
        | none => s₁.emit (.frameFailed frame)
        | some o =>
            if s.session.locked then s₁.emit (.frameFailed frame)
            else s₁.modifyScreencopy fun sc =>
              { sc with pending_screencopy_frames := sc.pending_screencopy_frames ++ [⟨frame, o⟩] }

/-- The client destroys a frame object. -/
def frame_destroyed (s : Rwl) (frame : ℕ) : Rwl :=
  s.modifyScreencopy fun sc =>
    { frames := Function.update sc.frames frame none
      pending_screencopy_frames :=
        sc.pending_screencopy_frames.filter fun pf => decide (pf.frame ≠ frame) }

/-! ### Serving the queue -/

/-- Remove position `i`, the last entry taking its place. -/
def swap_remove (l : List PendingFrame) (i : ℕ) : List PendingFrame :=
  match l.getLast? with
  | some last => (l.set i last).dropLast
  | none => l

/-- The loop that serves a queue for one output: the entries served, in order, and the rest. -/
def serve (output : OutputId) : ℕ → ℕ → List PendingFrame → List PendingFrame × List PendingFrame
  | 0, _, pending => ([], pending)
  | fuel + 1, i, pending =>
      match pending[i]? with
      | none => ([], pending)
      | some pf =>
          if pf.output ≠ output then serve output fuel (i + 1) pending
          else
            let (served, rest) := serve output fuel i (swap_remove pending i)
            (pf :: served, rest)

/-- The entries of the queue for `output`, in the order they are served. -/
def servedFor (pending : List PendingFrame) (output : OutputId) : List PendingFrame :=
  (serve output pending.length 0 pending).1

/-- Serve the queue for one output, each frame completed by `f`. -/
def serveWith (f : PendingFrame → Effect) (s : Rwl) (output : OutputId) : Rwl :=
  let pending := s.screencopy.pending_screencopy_frames
  (servedFor pending output).foldl (fun s pf => s.emit (f pf))
    (s.modifyScreencopy fun sc =>
      { sc with pending_screencopy_frames := (serve output pending.length 0 pending).2 })

/-- `submit_screencopy_frames`: each frame is copied, or fails on its own. -/
def submit_screencopy_frames (copied : ℕ → Bool) : Rwl → OutputId → Rwl :=
  serveWith fun pf => if copied pf.frame then .frameReady pf.frame else .frameFailed pf.frame

/-- `fail_screencopy_frames`. -/
def fail_screencopy_frames : Rwl → OutputId → Rwl := serveWith fun pf => .frameFailed pf.frame

/-! ### Frames -/

/-- `space.refresh`: dead toplevels leave the space; X11 windows leave when they are unmapped. -/
def refreshSpace (s : Rwl) : Rwl :=
  s.modifyDesk fun d =>
    { d with space := d.space.filter fun e =>
        (d.client e.1).x11.isSome || (d.wl_surface e.1).any s.seat.alive }

/-- A tiled window of the output has not taken its size yet. -/
def pendingResize (d : Desk) (o : OutputId) : Bool :=
  let tags := ((d.monitors.find? fun m => decide (m.output = o)).map Monitor.tags).getD 0
  d.windows.any fun w =>
    let s := d.st w
    !s.is_floating && !s.is_fullscreen && s.visible_on tags &&
      s.pending_geom.any fun g => decide (g.size ≠ (d.client w).geometry.size)

/-- The end of a tag slide arranges and refocuses, and once more 15 frames later. -/
def afterSlides (s : Rwl) (transitioning : Bool) : Rwl :=
  let s₁ : Rwl := if s.tag_transition_was_active ∧ transitioning = false then
      { s.arrange_all.focus_top with post_transition_wakeup := 30 }
    else s
  let s₂ : Rwl := { s₁ with tag_transition_was_active := transitioning }
  if 0 < s₂.post_transition_wakeup then
    let s₃ : Rwl := { s₂ with post_transition_wakeup := s₂.post_transition_wakeup - 1 }
    if s₃.post_transition_wakeup = 15 then s₃.arrange_all.focus_top else s₃
  else s₂

/-- Advance the tag slides by one frame. -/
def advanceSlides (s : Rwl) : Rwl := s.modifyDesk Desk.advance_tag_transitions

/-- Compose the output: while the session is locked, the lock surfaces and nothing else. -/
def composite (s : Rwl) (o : OutputId) : Rwl := s.emit (.composited o s.session.locked)

/-- What `on_vblank` advances before it composes: the slides, the overview, the work that waits
for the end of a slide. -/
def animateVblank (s : Rwl) : Rwl :=
  let s₁ := s.advanceSlides
  let transitioning := Desk.anyTransitioning s₁.desk
  ((overview.advance s₁).modifyDesk Desk.finalize_slide_outs).afterSlides transitioning

/-- `on_vblank`. -/
def on_vblank (s : Rwl) (o : OutputId) (out : RenderOutcome) : Rwl :=
  let s₁ := s.refreshSpace
  if pendingResize s₁.desk o ∧ out.within_gate then s₁
  else if out.rendered = false then s₁.animateVblank
  else
    let s₂ := s₁.animateVblank.composite o
    if s₂.screencopy.pending_screencopy_frames.isEmpty then s₂
    else if out.readback then submit_screencopy_frames out.copied s₂ o
    else fail_screencopy_frames s₂ o

/-- What `render_frame` advances before it composes, the overview last. -/
def animateWinit (s : Rwl) : Rwl :=
  let s₁ := s.advanceSlides
  let transitioning := Desk.anyTransitioning s₁.desk
  overview.advance ((s₁.modifyDesk Desk.finalize_slide_outs).afterSlides transitioning)

/-- `render_frame`. -/
def render_frame (s : Rwl) (o : OutputId) (out : RenderOutcome) : Rwl :=
  if pendingResize s.desk o ∧ out.within_gate then s
  else
    let s₁ := s.animateWinit.refreshSpace
    if out.rendered then submit_screencopy_frames out.copied (s₁.composite o) o else s₁

end Rwl

end Compositor
