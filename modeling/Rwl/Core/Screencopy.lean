import Mathlib.Tactic.Common
import Rwl.Core.Numbers
import Rwl.Core.Geometry
import Rwl.Core.Desk
import Rwl.Lib.Blit
import Rwl.Lib.Drain

/-!
# Screen captures

`zwlr_screencopy_v1`: a client asks for a region of an output, attaches a buffer of shared memory,
and is answered after the next render of the output.

* `WireRect`, `ModeSize`, `Rect.intersection`, `capture_region`: what a frame captures;
* `BufferSpec`, `BufferSpec.Accepted`: a buffer, and what is checked when it is created;
* `copy_from_slice`, `copy_row`, `copy_rows`: the loop that writes a buffer, which gives `none`
  where a slice index is out of range;
* `Screencopy`: the frames, those that wait for a render, the memory, and what was sent;
* `submit_one`, `submit_screencopy_frames`, `fail_screencopy_frames`, `ScreencopyEvent`, `step`.
-/

namespace Compositor

/-! ### Regions -/

/-- A rectangle of a request: four numbers of 32 bits. -/
structure WireRect where
  rect : Rect
  x_range : InI32 rect.loc.x
  y_range : InI32 rect.loc.y
  w_range : InI32 rect.size.w
  h_range : InI32 rect.size.h

/-- The size of a mode. -/
structure ModeSize where
  size : Size
  w_nonneg : 0 ≤ size.w
  h_nonneg : 0 ≤ size.h
  w_range : InI32 size.w
  h_range : InI32 size.h

/-- `saturating_add` and `saturating_sub`, from the exact result. -/
def saturate (z : ℤ) : ℤ := clampZ z (-2 ^ 31) (2 ^ 31 - 1)

namespace Rect

/-- `Rectangle::overlaps`. -/
def overlaps (r other : Rect) : Bool :=
  decide (r.loc.x < saturate (other.loc.x + other.size.w) ∧
    other.loc.x < saturate (r.loc.x + r.size.w) ∧
    r.loc.y < saturate (other.loc.y + other.size.h) ∧
    other.loc.y < saturate (r.loc.y + r.size.h))

/-- `Rectangle::from_extremities`. -/
def from_extremities (topleft bottomright : Point) : Rect :=
  ⟨topleft, ⟨saturate (bottomright.x - topleft.x), saturate (bottomright.y - topleft.y)⟩⟩

/-- `Rectangle::intersection`. -/
def intersection (r other : Rect) : Option Rect :=
  if r.overlaps other then
    some (from_extremities ⟨max r.loc.x other.loc.x, max r.loc.y other.loc.y⟩
      ⟨min (saturate (r.loc.x + r.size.w)) (saturate (other.loc.x + other.size.w)),
        min (saturate (r.loc.y + r.size.h)) (saturate (other.loc.y + other.size.h))⟩)
  else none

end Rect

/-- The whole output. -/
def ModeSize.full (mode : ModeSize) : Rect := ⟨⟨0, 0⟩, mode.size⟩

/-- The region of a frame. -/
def capture_region (mode : ModeSize) (region_opt : Option WireRect) : Rect :=
  (region_opt.map fun r => (r.rect.intersection mode.full).getD mode.full).getD mode.full

namespace Shm

/-! ### Buffers -/

/-- The formats of shared memory; the compositor takes the two that are mandatory. -/
inductive ShmFormat
  | Argb8888
  | Xrgb8888
  | other (bytes_per_pixel : ℕ)
  deriving DecidableEq

/-- `wl_bytes_per_pixel`. -/
def ShmFormat.bytes_per_pixel : ShmFormat → ℤ
  | .Argb8888 => 4
  | .Xrgb8888 => 4
  | .other n => n

/-- `BufferData`. -/
structure BufferSpec where
  offset : ℤ
  width : ℤ
  height : ℤ
  stride : ℤ
  format : ShmFormat
  deriving DecidableEq

/-- What `create_buffer` checks before it makes a buffer in a pool. -/
def BufferSpec.Accepted (b : BufferSpec) (pool_size : ℕ) : Prop :=
  0 ≤ b.offset ∧ 0 < b.width ∧ 0 < b.height ∧
    b.width ≤ b.stride / b.format.bytes_per_pixel ∧ b.height ≤ (2 ^ 31 - 1) / b.stride ∧
    b.offset ≤ pool_size - b.stride * b.height ∧
    (b.format = .Argb8888 ∨ b.format = .Xrgb8888)

instance decidableAccepted (b : BufferSpec) (pool_size : ℕ) :
    Decidable (b.Accepted pool_size) := by
  unfold BufferSpec.Accepted
  infer_instance

/-- A buffer: a part of a pool, or one that is no shared memory. -/
inductive WlBuffer
  | shm (pool : ℕ) (spec : BufferSpec)
  | unmanaged

/-! ### The copy -/

/-- `&l[a..b]`. -/
def slice (l : List UInt8) (a b : ℕ) : Option (List UInt8) :=
  if a ≤ b ∧ b ≤ l.length then some ((l.drop a).take (b - a)) else none

/-- `l[a..b].copy_from_slice(src)`. -/
def copy_from_slice (l : List UInt8) (a b : ℕ) (src : List UInt8) : Option (List UInt8) :=
  if a ≤ b ∧ b ≤ l.length ∧ src.length = b - a then some (Blit.put l a src) else none

/-- One round of the loop over the rows. -/
def copy_row (region : Rect) (spec : BufferSpec) (pixels data : List UInt8) (row : ℕ) :
    Option (List UInt8) :=
  let offset := (max spec.offset 0).toNat
  let src_stride := region.size.w.toNat * 4
  let dst_stride := spec.stride.toNat
  let src_start := row * src_stride
  let dst_start := offset + row * dst_stride
  let copy_len := min (min src_stride (pixels.length - src_start)) (data.length - dst_start)
  if 0 < copy_len then
    (slice pixels src_start (src_start + copy_len)).bind
      (copy_from_slice data dst_start (dst_start + copy_len))
  else some data

/-- The closure that writes the memory of a buffer. -/
def copy_rows (region : Rect) (spec : BufferSpec) (pixels data : List UInt8) :
    Option (List UInt8) :=
  (List.range (min region.size.h.toNat spec.height.toNat)).foldlM
    (copy_row region spec pixels) data

/-- What the renderer and the memory do when frames are served at a time. `gl` is what the
framebuffer holds of a region, if it can be read; `bad_map` says that the memory of a buffer is
gone. -/
structure Readback where
  gl : Rect → Option (ℕ → UInt8)
  bad_map : ℕ → Bool
  secs : ℕ
  nanos : ℕ

/-- `copy_framebuffer` and `map_texture`: four bytes for each pixel of the region. Reading a
region of negative size is an error of the renderer. -/
def Readback.read (r : Readback) (region : Rect) : Option (List UInt8) :=
  if region.size.w < 0 ∨ region.size.h < 0 then none
  else (r.gl region).map fun pixel =>
    (List.range (region.size.h.toNat * (region.size.w.toNat * 4))).map pixel

/-! ### Frames -/

/-- What a frame object is told. -/
inductive FrameEvent
  | buffer (width height stride : ℕ)
  | buffer_done
  | failed
  | ready (tv_sec_hi tv_sec_lo tv_nsec : ℕ)
  | already_used
  deriving DecidableEq

namespace FrameEvent

/-- The frame is answered. -/
def isAnswer : FrameEvent → Bool
  | failed => true
  | ready _ _ _ => true
  | _ => false

def isReady : FrameEvent → Bool
  | ready _ _ _ => true
  | _ => false

end FrameEvent

structure CaptureInfo where
  output : OutputId
  region : Rect
  deriving DecidableEq

/-- `ScreencopyFrameData`, with whether the object exists. -/
structure FrameData where
  capture : Option CaptureInfo
  used : Bool
  alive : Bool
  deriving DecidableEq

structure PendingFrame where
  frame : ℕ
  buffer : ℕ
  output : OutputId
  region : Rect
  deriving DecidableEq

/-- One write of a buffer that went through, with the memory before and after it. -/
structure Shot where
  frame : ℕ
  region : Rect
  spec : BufferSpec
  pixels : List UInt8
  before : List UInt8
  after : List UInt8

/-- The frames, pools and buffers by their numbers, and all that was sent and written. -/
structure Screencopy where
  frames : List FrameData
  pending : List PendingFrame
  pools : List (List UInt8)
  buffers : List WlBuffer
  locked : Bool
  panicked : Bool
  sent : List (ℕ × FrameEvent)
  shots : List Shot

namespace Screencopy

def init : Screencopy := ⟨[], [], [], [], false, false, [], []⟩

variable (s : Screencopy)

/-- Send an event to a frame. -/
def tell (f : ℕ) (e : FrameEvent) : Screencopy := { s with sent := s.sent ++ [(f, e)] }

def is_alive (f : ℕ) : Bool := (s.frames[f]?).any FrameData.alive

/-- The manager's `capture_output` and `capture_output_region`. `target` is the output of the
`wl_output`, if it is known, with its mode, if it has one. -/
def capture (target : Option (OutputId × Option ModeSize)) (region_opt : Option WireRect)
    (version : ℕ) : Screencopy :=
  match target with
  | some (output, some mode) =>
      let region := capture_region mode region_opt
      let width := (max region.size.w 0).toNat
      let height := (max region.size.h 0).toNat
      let stride := width * 4 % 2 ^ 32
      let s₁ : Screencopy :=
        { s with frames := s.frames ++ [⟨some ⟨output, region⟩, false, true⟩] }
      let s₂ := s₁.tell s.frames.length (.buffer width height stride)
      if 3 ≤ version then s₂.tell s.frames.length .buffer_done else s₂
  | _ =>
      let s₁ : Screencopy := { s with frames := s.frames ++ [⟨none, false, true⟩] }
      s₁.tell s.frames.length .failed

/-- A frame's `copy` and `copy_with_damage`. -/
def copy (f buffer : ℕ) : Screencopy :=
  match s.frames[f]? with
  | none => s
  | some fd =>
      if !fd.alive then s
      else if fd.used then s.tell f .already_used
      else
        let s₁ : Screencopy := { s with frames := s.frames.set f { fd with used := true } }
        match fd.capture with
        | none => s₁.tell f .failed
        | some info =>
            -- a locked session is not shown
            if s.locked then s₁.tell f .failed
            else { s₁ with pending := s.pending ++ [⟨f, buffer, info.output, info.region⟩] }

/-- `destroyed`. -/
def destroy (f : ℕ) : Screencopy :=
  { s with
    frames := s.frames.modify f fun fd => { fd with alive := false }
    pending := s.pending.filter fun pf => decide (pf.frame ≠ f) }

/-- `submit_one`. -/
def submit_one (r : Readback) (pf : PendingFrame) : Screencopy :=
  if !s.is_alive pf.frame then s
  else match r.read pf.region with
    | none => s.tell pf.frame .failed
    | some pixels =>
        match s.buffers[pf.buffer]? with
        | some (.shm pool spec) =>
            let data := s.pools.getD pool []
            match copy_rows pf.region spec pixels data with
            | none => { s with panicked := true }
            | some written =>
                if r.bad_map pf.buffer then s.tell pf.frame .failed
                else
                  let shot : Shot := ⟨pf.frame, pf.region, spec, pixels, data, written⟩
                  let s₁ : Screencopy := { s with
                    pools := s.pools.set pool written
                    shots := s.shots ++ [shot] }
                  s₁.tell pf.frame (.ready (r.secs / 2 ^ 32) (r.secs % 2 ^ 32) r.nanos)
        | _ => s.tell pf.frame .failed

/-- What `fail_screencopy_frames` does with a frame it has taken. -/
def fail_one (pf : PendingFrame) : Screencopy :=
  if s.is_alive pf.frame then s.tell pf.frame .failed else s

/-- The loop over the frames of an output that takes them out of the list. -/
def serve (output : OutputId) (f : Screencopy → PendingFrame → Screencopy) : Screencopy :=
  let (kept, served) := Drain.drain (fun pf => decide (pf.output = output)) f s.pending.length 0
    s.pending s
  { served with pending := kept }

/-- `submit_screencopy_frames`. -/
def submit_screencopy_frames (r : Readback) (output : OutputId) : Screencopy :=
  s.serve output fun s pf => s.submit_one r pf

/-- `fail_screencopy_frames`. -/
def fail_screencopy_frames (output : OutputId) : Screencopy := s.serve output fail_one

end Screencopy

/-- What the clients, the backends and the session do. -/
inductive ScreencopyEvent
  | create_pool (data : List UInt8)
  | resize_pool (pool : ℕ) (more : List UInt8)
  | write_pool (pool k : ℕ) (b : UInt8)
  | create_buffer (pool : ℕ) (spec : BufferSpec)
  | unmanaged_buffer
  | capture (target : Option (OutputId × Option ModeSize)) (region_opt : Option WireRect)
      (version : ℕ)
  | copy (f buffer : ℕ)
  | destroy (f : ℕ)
  | set_locked (locked : Bool)
  | output_removed (output : OutputId)
  | rendered (output : OutputId) (r : Readback)
  | unreadable (output : OutputId)

namespace Screencopy

variable (s : Screencopy)

def step : ScreencopyEvent → Screencopy
  | .create_pool data => { s with pools := s.pools ++ [data] }
  | .resize_pool pool more => { s with pools := s.pools.modify pool fun data => data ++ more }
  | .write_pool pool k b => { s with pools := s.pools.modify pool fun data => data.set k b }
  | .create_buffer pool spec =>
      match s.pools[pool]? with
      | none => s
      | some data =>
          if spec.Accepted data.length then { s with buffers := s.buffers ++ [.shm pool spec] }
          else s
  | .unmanaged_buffer => { s with buffers := s.buffers ++ [.unmanaged] }
  | .capture target region_opt version => s.capture target region_opt version
  | .copy f buffer => s.copy f buffer
  | .destroy f => s.destroy f
  | .set_locked locked => { s with locked }
  -- `output_removed` does not look at the frames
  | .output_removed _ => s
  | .rendered output r => s.submit_screencopy_frames r output
  | .unreadable output => s.fail_screencopy_frames output

end Screencopy

end Shm

end Compositor
