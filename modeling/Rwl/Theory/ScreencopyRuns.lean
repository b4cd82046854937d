import Mathlib.Tactic.Common
import Mathlib.Data.List.Nodup
import Rwl.Core.Screencopy
import Rwl.Core.Render
import Rwl.Lib.Run

/-!
# Screen captures over whole runs

* `contains_capture_region`: what a frame captures;
* `Shot.rows`, `Shot.Sound`: where a buffer is written, and with what; `copy_rows_copied`;
* `Screencopy.Base`, `Tracked`: what holds of the memory, the frames and the answers;
* `served`: serving the frames of an output answers each of them once;
* `serve_forget`: the queue of the whole compositor is served in the same order;
* `screencopy_sound`: all of it, in every run.
-/

namespace Compositor

open Transition

/-! ### Regions -/

theorem saturate_eq (z : ℤ) : saturate z = max (-2 ^ 31) (min z (2 ^ 31 - 1)) := by
  unfold saturate clampZ
  split_ifs <;> omega

theorem contains_iff (r : Rect) (p : Point) : r.contains p = true ↔
    (r.loc.x ≤ p.x ∧ p.x < r.loc.x + r.size.w) ∧ r.loc.y ≤ p.y ∧ p.y < r.loc.y + r.size.h := by
  simp [Rect.contains, and_assoc]

theorem contains_full_iff (mode : ModeSize) (p : Point) : mode.full.contains p = true ↔
    (0 ≤ p.x ∧ p.x < mode.size.w) ∧ 0 ≤ p.y ∧ p.y < mode.size.h := by
  simp [contains_iff, ModeSize.full]

/-- Along one side: numbers of 32 bits that overlap the output are cut to it. -/
theorem cut_side {x w m : ℤ} (hx : InI32 x) (hm : InI32 m) (hx' : x < m) (hw' : 0 < x + w) (q : ℤ) :
    (max x 0 ≤ q ∧ q < max x 0 + saturate (min (saturate (x + w)) (saturate (0 + m)) - max x 0)) ↔
      (x ≤ q ∧ q < x + w) ∧ 0 ≤ q ∧ q < m := by
  unfold InI32 at hx hm
  have hsum : saturate (x + w) = min (x + w) (2 ^ 31 - 1) := by
    rw [saturate_eq]
    omega
  have hmode : saturate (0 + m) = m := by
    rw [saturate_eq]
    omega
  have hsize : saturate (min (min (x + w) (2 ^ 31 - 1)) m - max x 0) =
      min (x + w) m - max x 0 := by
    rw [saturate_eq]
    omega
  rw [hsum, hmode, hsize]
  omega

/-- A request that overlaps the output is cut to it, exactly; any other one gets the output. -/
theorem contains_capture_region (mode : ModeSize) (r : WireRect) (p : Point) :
    if r.rect.overlaps mode.full then
      (capture_region mode (some r)).contains p = (r.rect.contains p && mode.full.contains p)
    else capture_region mode (some r) = mode.full ∧
      (r.rect.contains p && mode.full.contains p) = false := by
  have hx := r.x_range
  have hy := r.y_range
  have hw := mode.w_range
  have hh := mode.h_range
  have hiff : r.rect.overlaps mode.full = true ↔
      (r.rect.loc.x < mode.size.w ∧ 0 < r.rect.loc.x + r.rect.size.w) ∧
        r.rect.loc.y < mode.size.h ∧ 0 < r.rect.loc.y + r.rect.size.h := by
    unfold InI32 at hw hh
    simp only [Rect.overlaps, ModeSize.full, saturate_eq, decide_eq_true_eq]
    omega
  by_cases hover : r.rect.overlaps mode.full = true
  · obtain ⟨⟨hxm, hxw⟩, hym, hyh⟩ := hiff.1 hover
    have hregion : capture_region mode (some r) = Rect.from_extremities
        ⟨max r.rect.loc.x 0, max r.rect.loc.y 0⟩
        ⟨min (saturate (r.rect.loc.x + r.rect.size.w)) (saturate (0 + mode.size.w)),
          min (saturate (r.rect.loc.y + r.rect.size.h)) (saturate (0 + mode.size.h))⟩ := by
      simp only [capture_region, Rect.intersection, Option.map_some, if_pos hover,
        Option.getD_some]
      rfl
    rw [if_pos hover, hregion, Bool.eq_iff_iff, Bool.and_eq_true, contains_iff, contains_iff,
      contains_full_iff]
    have hcut := cut_side hx hw hxm hxw p.x
    have hcut' := cut_side hy hh hym hyh p.y
    simp only [Rect.from_extremities]
    rw [hcut, hcut']
    tauto
  · have hbounds := mt hiff.2 hover
    rw [if_neg hover]
    refine ⟨?_, ?_⟩
    · simp [capture_region, Rect.intersection, hover]
    · rw [Bool.eq_false_iff, ne_eq, Bool.and_eq_true, contains_iff, contains_full_iff]
      intro hp
      omega

namespace Shm

/-! ### Writing a buffer -/

theorem BufferSpec.Accepted.mono {b : BufferSpec} {n m : ℕ} (h : b.Accepted n) (hnm : n ≤ m) :
    b.Accepted m := by
  obtain ⟨hoffset, hwidth, hheight, hstride, hrows, hfit, hformat⟩ := h
  exact ⟨hoffset, hwidth, hheight, hstride, hrows, by omega, hformat⟩

/-- A buffer that was accepted lies in its pool. -/
theorem BufferSpec.Accepted.fits {b : BufferSpec} {n : ℕ} (h : b.Accepted n) :
    (max b.offset 0).toNat + b.height.toNat * b.stride.toNat ≤ n := by
  obtain ⟨hoffset, hwidth, hheight, hstride, -, hfit, hformat⟩ := h
  have hbpp : b.format.bytes_per_pixel = 4 := by
    rcases hformat with hf | hf <;> rw [hf] <;> rfl
  rw [hbpp] at hstride
  have hpos : 0 ≤ b.stride := by omega
  have harea : ((b.height.toNat * b.stride.toNat : ℕ) : ℤ) = b.stride * b.height := by
    rw [Nat.cast_mul, Int.toNat_of_nonneg hheight.le, Int.toNat_of_nonneg hpos, Int.mul_comm]
  omega

namespace Shot

/-- Where the buffer is written: for each row of the region that the buffer has, from the start of
the buffer's row, as many bytes as the region is wide. -/
def rows (x : Shot) : Blit.Rows where
  start := (max x.spec.offset 0).toNat
  stride := x.spec.stride.toNat
  width := x.region.size.w.toNat * 4
  count := min x.region.size.h.toNat x.spec.height.toNat

/-- The buffer lies in its pool; its rows hold those of the region, in full if they have the room;
and nothing else in the pool was written. -/
structure Sound (x : Shot) : Prop where
  accepted : x.spec.Accepted x.before.length
  pixels : x.pixels.length = x.region.size.h.toNat * (x.region.size.w.toNat * 4)
  copied : Blit.Copied x.rows x.pixels x.before x.after

end Shot

/-- One round of the loop copies one more row. -/
theorem copy_row_copied {region : Rect} {spec : BufferSpec} {pixels before data : List UInt8}
    {row : ℕ} (hbefore : spec.Accepted before.length)
    (hpixels : pixels.length = region.size.h.toNat * (region.size.w.toNat * 4))
    (hrow : row < min region.size.h.toNat spec.height.toNat)
    (h : Blit.Copied ⟨(max spec.offset 0).toNat, spec.stride.toNat, region.size.w.toNat * 4, row⟩
      pixels before data) :
    ∃ data', copy_row region spec pixels data row = some data' ∧
      Blit.Copied ⟨(max spec.offset 0).toNat, spec.stride.toNat, region.size.w.toNat * 4, row + 1⟩
        pixels before data' := by
  have hfits := hbefore.fits
  have hlen := h.length
  generalize hoffset : (max spec.offset 0).toNat = offset at h hfits ⊢
  generalize hstride : spec.stride.toNat = stride at h hfits ⊢
  generalize hwidth : region.size.w.toNat * 4 = width at h hpixels ⊢
  -- the row lies in the source, and the buffer's row in the pool
  have hsrc : (row + 1) * width ≤ pixels.length := by
    rw [hpixels]
    exact Nat.mul_le_mul_right width (by omega)
  have hdst : (row + 1) * stride ≤ spec.height.toNat * stride :=
    Nat.mul_le_mul_right stride (by omega)
  rw [Nat.succ_mul] at hsrc hdst
  have hleft : min width (pixels.length - row * width) = width := by omega
  have hcopy := h.row (min width (data.length - (offset + row * stride))) (by omega) (by omega)
    (by omega) (by omega)
  refine ⟨_, ?_, hcopy⟩
  unfold copy_row
  simp only [hoffset, hstride, hwidth, hleft]
  by_cases hpos : 0 < min width (data.length - (offset + row * stride))
  · rw [if_pos hpos, slice, if_pos (by omega), Option.bind_some, copy_from_slice, if_pos]
    · simp
    · simp
      omega
  · have hzero : min width (data.length - (offset + row * stride)) = 0 := by omega
    rw [if_neg hpos, hzero, List.take_zero, Blit.put_nil]

/-- The closure finds every slice in range and copies every row. -/
theorem copy_rows_copied {region : Rect} {spec : BufferSpec} {pixels before : List UInt8}
    (hbefore : spec.Accepted before.length)
    (hpixels : pixels.length = region.size.h.toNat * (region.size.w.toNat * 4)) :
    ∃ after, copy_rows region spec pixels before = some after ∧
      Blit.Copied ⟨(max spec.offset 0).toNat, spec.stride.toNat, region.size.w.toNat * 4,
        min region.size.h.toNat spec.height.toNat⟩ pixels before after := by
  have hloop (n : ℕ) (hn : n ≤ min region.size.h.toNat spec.height.toNat) :
      ∃ after, (List.range n).foldlM (copy_row region spec pixels) before = some after ∧
        Blit.Copied ⟨(max spec.offset 0).toNat, spec.stride.toNat, region.size.w.toNat * 4, n⟩
          pixels before after := by
    induction n with
    | zero => exact ⟨before, rfl, Blit.copied_zero _ _ _ _ _⟩
    | succ n ih =>
      obtain ⟨data, hdata, hcopied⟩ := ih (by omega)
      obtain ⟨data', hdata', hcopied'⟩ := copy_row_copied hbefore hpixels (by omega) hcopied
      refine ⟨data', ?_, hcopied'⟩
      rw [List.range_succ, List.foldlM_append, hdata]
      simp [hdata']
  exact hloop _ (Nat.le_refl _)

theorem Readback.length_read {r : Readback} {region : Rect} {pixels : List UInt8}
    (h : r.read region = some pixels) :
    pixels.length = region.size.h.toNat * (region.size.w.toNat * 4) := by
  unfold Readback.read at h
  split_ifs at h
  obtain ⟨pixel, _, rfl⟩ := Option.map_eq_some_iff.1 h
  simp

/-! ### What holds of the memory -/

namespace Screencopy

/-- How often a frame was answered. -/
def answers (s : Screencopy) (f : ℕ) : ℕ :=
  s.sent.countP fun e => decide (e.1 = f) && e.2.isAnswer

theorem answers_tell (s : Screencopy) (f g : ℕ) (e : FrameEvent) :
    (s.tell f e).answers g = s.answers g + if g = f ∧ e.isAnswer then 1 else 0 := by
  have hiff : (decide (f = g) && e.isAnswer) = true ↔ g = f ∧ e.isAnswer = true := by
    rw [Bool.and_eq_true, decide_eq_true_eq, eq_comm]
  simp only [answers, tell, List.countP_append, List.countP_singleton, hiff]

/-- The buffers lie in their pools, every write was sound and is the answer to a frame, and no
slice was out of range. -/
structure Base (s : Screencopy) : Prop where
  memory : ∀ (b pool : ℕ) (spec : BufferSpec), s.buffers[b]? = some (WlBuffer.shm pool spec) →
    ∃ data, s.pools[pool]? = some data ∧ spec.Accepted data.length
  shots : ∀ x ∈ s.shots, x.Sound
  ready : (s.sent.filter fun e => e.2.isReady).map Prod.fst = s.shots.map Shot.frame
  fresh : ∀ e ∈ s.sent, e.1 < s.frames.length
  calm : s.panicked = false

/-- What serving one frame does. -/
structure Served (s s' : Screencopy) (f : ℕ) : Prop where
  frames : s'.frames = s.frames
  pending : s'.pending = s.pending
  base : s'.Base
  answers : ∀ g, s'.answers g = s.answers g + if g = f then 1 else 0

theorem Base.tell {s : Screencopy} (h : s.Base) {f : ℕ} (hf : f < s.frames.length)
    {e : FrameEvent} (he : e.isReady = false) : (s.tell f e).Base where
  memory := h.memory
  shots := h.shots
  ready := by
    show ((s.sent ++ [(f, e)]).filter fun e => e.2.isReady).map Prod.fst = _
    rw [List.filter_append, List.map_append, h.ready]
    simp [he, Screencopy.tell]
  fresh e he := by
    rcases List.mem_append.1 he with he | he
    · exact h.fresh e he
    · obtain rfl := List.mem_singleton.1 he
      exact hf
  calm := h.calm

theorem served_failed {s : Screencopy} (h : s.Base) {f : ℕ} (hf : f < s.frames.length) :
    Served s (s.tell f .failed) f where
  frames := rfl
  pending := rfl
  base := h.tell hf rfl
  answers g := by simp [answers_tell, FrameEvent.isAnswer]

theorem lt_of_is_alive {s : Screencopy} {f : ℕ} (h : s.is_alive f = true) :
    f < s.frames.length := by
  unfold is_alive at h
  by_contra hout
  rw [List.getElem?_eq_none (by omega)] at h
  cases h

theorem served_fail_one {s : Screencopy} (h : s.Base) {pf : PendingFrame}
    (ha : s.is_alive pf.frame = true) : Served s (s.fail_one pf) pf.frame := by
  rw [fail_one, if_pos ha]
  exact served_failed h (lt_of_is_alive ha)

/-- Serving a frame that exists answers it, once. -/
theorem served_submit_one {s : Screencopy} (h : s.Base) (r : Readback) {pf : PendingFrame}
    (ha : s.is_alive pf.frame = true) : Served s (s.submit_one r pf) pf.frame := by
  have hlt := lt_of_is_alive ha
  have hfailed := served_failed h hlt
  unfold submit_one
  rw [if_neg (by simp [ha])]
  cases hread : r.read pf.region with
  | none => exact hfailed
  | some pixels =>
    cases hbuffer : s.buffers[pf.buffer]? with
    | none => exact hfailed
    | some buffer =>
      cases buffer with
      | unmanaged => exact hfailed
      | shm pool spec =>
        obtain ⟨data, hdata, haccepted⟩ := h.memory _ _ _ hbuffer
        have hget : s.pools.getD pool [] = data := by
          rw [List.getD_eq_getElem?_getD, hdata, Option.getD_some]
        have hpixels := Readback.length_read hread
        obtain ⟨after, hafter, hcopied⟩ := copy_rows_copied haccepted hpixels
        have hlength : after.length = data.length := hcopied.length
        simp only [hget, hafter]
        by_cases hbad : r.bad_map pf.buffer = true
        · rw [if_pos hbad]
          exact hfailed
        · rw [if_neg hbad]
          refine ⟨rfl, rfl, ⟨fun b pool' spec' hb => ?_, fun x hx => ?_, ?_, fun e he => ?_, h.calm⟩,
            fun g => ?_⟩
          · -- the write leaves the sizes of the pools as they are
            obtain ⟨data', hdata', haccepted'⟩ := h.memory b pool' spec' hb
            show ∃ d, (s.pools.set pool after)[pool']? = some d ∧ _
            by_cases hsame : pool = pool'
            · subst hsame
              obtain rfl := Option.some.inj (hdata.symm.trans hdata')
              refine ⟨after, ?_, by rw [hlength]; exact haccepted'⟩
              have hin := (List.getElem?_eq_some_iff.1 hdata).1
              rw [List.getElem?_set_self hin]
            · exact ⟨data', by rw [List.getElem?_set_ne hsame, hdata'], haccepted'⟩
          · rcases List.mem_append.1 hx with hx | hx
            · exact h.shots x hx
            · obtain rfl := List.mem_singleton.1 hx
              exact ⟨haccepted, hpixels, hcopied⟩
          · show ((s.sent ++ [(pf.frame, _)]).filter
              fun e : ℕ × FrameEvent => e.2.isReady).map Prod.fst = _
            rw [List.filter_append, List.map_append, h.ready]
            show _ = (s.shots ++ [_]).map Shot.frame
            rw [List.map_append]
            rfl
          · rcases List.mem_append.1 he with he | he
            · exact h.fresh e he
            · obtain rfl := List.mem_singleton.1 he
              exact hlt
          · simp [answers, tell, List.countP_append, List.countP_singleton, FrameEvent.isAnswer,
              eq_comm]

/-- Serving some frames answers each of them as often as it is among them. -/
theorem served_all {f : Screencopy → PendingFrame → Screencopy}
    (hf : ∀ s pf, Base s → s.is_alive pf.frame = true → Served s (f s pf) pf.frame)
    (taken : List PendingFrame) {s : Screencopy} (h : s.Base)
    (ha : ∀ pf ∈ taken, s.is_alive pf.frame = true) :
    (taken.foldl f s).frames = s.frames ∧ (taken.foldl f s).pending = s.pending ∧
      (taken.foldl f s).Base ∧
      ∀ g, (taken.foldl f s).answers g =
        s.answers g + (taken.map PendingFrame.frame).count g := by
  induction taken generalizing s with
  | nil => exact ⟨rfl, rfl, h, fun g => by simp⟩
  | cons pf taken ih =>
    have hone := hf s pf h (ha pf List.mem_cons_self)
    have halive : ∀ pf' ∈ taken, (f s pf).is_alive pf'.frame = true := fun pf' hpf' => by
      have hbefore := ha pf' (List.mem_cons_of_mem _ hpf')
      unfold is_alive at hbefore ⊢
      rw [hone.frames]
      exact hbefore
    obtain ⟨hframes, hpending, hbase, hanswers⟩ := ih hone.base halive
    refine ⟨hframes.trans hone.frames, hpending.trans hone.pending, hbase, fun g => ?_⟩
    rw [List.foldl_cons, hanswers, hone.answers, List.map_cons, List.count_cons]
    by_cases hg : g = pf.frame
    · subst hg
      simp
      omega
    · simp [hg, Ne.symm hg]

/-! ### What holds of the frames -/

/-- A frame is queued at most once, while it exists, was copied and is not answered; a frame that
captures something is answered at most once, only after its copy, and then is not queued any more;
and as long as a copied frame exists it is queued or answered. -/
structure Tracked (s : Screencopy) : Prop extends s.Base where
  pending_nodup : (s.pending.map PendingFrame.frame).Nodup
  pending_frame : ∀ pf ∈ s.pending,
    s.frames[pf.frame]? = some ⟨some ⟨pf.output, pf.region⟩, true, true⟩ ∧
      s.answers pf.frame = 0
  answered : ∀ (f : ℕ) (fd : FrameData), s.frames[f]? = some fd → fd.capture.isSome = true →
    s.answers f ≤ 1 ∧ (fd.used = false → s.answers f = 0) ∧
      (fd.used = true → fd.alive = true → s.answers f = 0 →
        f ∈ s.pending.map PendingFrame.frame)

theorem tracked_init : init.Tracked where
  memory b pool spec h := by cases h
  shots x h := by cases h
  ready := rfl
  fresh e h := by cases h
  calm := rfl
  pending_nodup := List.nodup_nil
  pending_frame pf h := by cases h
  answered f fd h := by cases h

variable {s : Screencopy}

/-- What does not touch the frames. -/
theorem Tracked.congr (h : s.Tracked) {s' : Screencopy} (hb : s'.Base)
    (hframes : s'.frames = s.frames) (hpending : s'.pending = s.pending)
    (hsent : s'.sent = s.sent) : s'.Tracked := by
  have hanswers (f : ℕ) : s'.answers f = s.answers f := by simp only [answers, hsent]
  refine ⟨hb, ?_, fun pf hpf => ?_, fun f fd hfd => ?_⟩
  · rw [hpending]
    exact h.pending_nodup
  · rw [hpending] at hpf
    rw [hframes, hanswers]
    exact h.pending_frame pf hpf
  · rw [hframes] at hfd
    rw [hanswers, hpending]
    exact h.answered f fd hfd

/-- A frame that does not exist yet was not answered. -/
theorem Base.answers_fresh (h : s.Base) : s.answers s.frames.length = 0 := by
  refine List.countP_eq_zero.2 fun e he => ?_
  have hlt := h.fresh e he
  simp
  omega

theorem Base.grow (h : s.Base) (fd : FrameData) :
    Base { s with frames := s.frames ++ [fd] } where
  memory := h.memory
  shots := h.shots
  ready := h.ready
  fresh e he := by
    have hlt := h.fresh e he
    show e.1 < (s.frames ++ [fd]).length
    rw [List.length_append]
    omega
  calm := h.calm

theorem Base.reframe (h : s.Base) {frames : List FrameData}
    (hlen : frames.length = s.frames.length) (pending : List PendingFrame) :
    Base { s with frames := frames, pending := pending } where
  memory := h.memory
  shots := h.shots
  ready := h.ready
  fresh e he := by
    show e.1 < frames.length
    rw [hlen]
    exact h.fresh e he
  calm := h.calm

/-- A new frame, with what it is told when it is made. -/
theorem Tracked.grow (h : s.Tracked) {s' : Screencopy} {fd : FrameData} (hb : s'.Base)
    (hframes : s'.frames = s.frames ++ [fd]) (hpending : s'.pending = s.pending)
    (hold : ∀ g < s.frames.length, s'.answers g = s.answers g) (hused : fd.used = false)
    (hnew : fd.capture.isSome = true → s'.answers s.frames.length = 0) : s'.Tracked := by
  refine ⟨hb, ?_, fun pf hpf => ?_, fun f fd' hfd' hsome => ?_⟩
  · rw [hpending]
    exact h.pending_nodup
  · rw [hpending] at hpf
    obtain ⟨hget, hnone⟩ := h.pending_frame pf hpf
    have hlt := (List.getElem?_eq_some_iff.1 hget).1
    rw [hframes, List.getElem?_append_left hlt, hold _ hlt]
    exact ⟨hget, hnone⟩
  · rw [hframes] at hfd'
    rw [hpending]
    by_cases hlt : f < s.frames.length
    · rw [List.getElem?_append_left hlt] at hfd'
      rw [hold f hlt]
      exact h.answered f fd' hfd' hsome
    · have hin := (List.getElem?_eq_some_iff.1 hfd').1
      rw [List.length_append, List.length_singleton] at hin
      obtain rfl : f = s.frames.length := by omega
      rw [List.getElem?_concat_length] at hfd'
      obtain rfl := Option.some.inj hfd'
      have hzero := hnew hsome
      refine ⟨by omega, fun _ => hzero, fun htrue => ?_⟩
      rw [hused] at htrue
      cases htrue

theorem tracked_capture (h : s.Tracked) (target : Option (OutputId × Option ModeSize))
    (region_opt : Option WireRect) (version : ℕ) :
    (s.capture target region_opt version).Tracked := by
  have hgrow (fd : FrameData) := h.toBase.grow fd
  have hlast (fd : FrameData) : s.frames.length < (s.frames ++ [fd]).length := by simp
  have hfailed : Tracked (tell { s with frames := s.frames ++ [⟨none, false, true⟩] }
      s.frames.length .failed) := by
    refine h.grow ((hgrow _).tell (hlast _) rfl) rfl rfl (fun g hg => ?_) rfl (by simp)
    rw [answers_tell, if_neg (by omega)]
    rfl
  unfold capture
  split
  · rename_i output mode
    have hbuffer (width height stride : ℕ) (info : CaptureInfo) :
        Tracked (tell { s with frames := s.frames ++ [⟨some info, false, true⟩] }
          s.frames.length (.buffer width height stride)) := by
      refine h.grow ((hgrow _).tell (hlast _) rfl) rfl rfl (fun g hg => ?_) rfl fun _ => ?_
      · rw [answers_tell, if_neg (by omega)]
        rfl
      · rw [answers_tell, if_neg (by simp [FrameEvent.isAnswer])]
        exact h.answers_fresh
    dsimp only
    split_ifs
    · -- `buffer_done` is no answer either
      have hb := hbuffer (max (capture_region mode region_opt).size.w 0).toNat
        (max (capture_region mode region_opt).size.h 0).toNat
        ((max (capture_region mode region_opt).size.w 0).toNat * 4 % 2 ^ 32)
        ⟨output, capture_region mode region_opt⟩
      refine h.grow (hb.toBase.tell (hlast _) rfl) rfl rfl (fun g hg => ?_) rfl fun _ => ?_
      · rw [answers_tell, answers_tell, if_neg (by omega), if_neg (by omega)]
        rfl
      · rw [answers_tell, answers_tell, if_neg (by simp [FrameEvent.isAnswer]),
          if_neg (by simp [FrameEvent.isAnswer])]
        exact h.answers_fresh
    · exact hbuffer _ _ _ _
  · exact hfailed

/-- A frame that was not copied before is not queued. -/
theorem Tracked.notMem_pending (h : s.Tracked) {f : ℕ} {fd : FrameData}
    (hfd : s.frames[f]? = some fd) (hused : fd.used = false) :
    f ∉ s.pending.map PendingFrame.frame := by
  intro hmem
  obtain ⟨pf, hpf, rfl⟩ := List.mem_map.1 hmem
  have hget := (h.pending_frame pf hpf).1
  rw [hfd] at hget
  obtain rfl := Option.some.inj hget
  cases hused

/-- The first copy of a frame, which is answered at once or queued. -/
theorem Tracked.use (h : s.Tracked) {f : ℕ} {fd : FrameData} (hfd : s.frames[f]? = some fd)
    (hused : fd.used = false) {s' : Screencopy} (hb : s'.Base)
    (hframes : s'.frames = s.frames.set f { fd with used := true })
    (hold : ∀ g, g ≠ f → s'.answers g = s.answers g)
    (hnow : s'.pending = s.pending ∧ (fd.capture.isSome = true → s'.answers f = 1) ∨
      s'.answers f = 0 ∧ ∃ buffer info, fd = ⟨some info, false, true⟩ ∧
        s'.pending = s.pending ++ [⟨f, buffer, info.output, info.region⟩]) : s'.Tracked := by
  have hlt := (List.getElem?_eq_some_iff.1 hfd).1
  have hnot := h.notMem_pending hfd hused
  have hself : s'.frames[f]? = some { fd with used := true } := by
    rw [hframes, List.getElem?_set_self hlt]
  have hother (g : ℕ) (hg : g ≠ f) : s'.frames[g]? = s.frames[g]? := by
    rw [hframes, List.getElem?_set_ne (Ne.symm hg)]
  have hkept (pf : PendingFrame) (hpf : pf ∈ s.pending) :
      s'.frames[pf.frame]? = some ⟨some ⟨pf.output, pf.region⟩, true, true⟩ ∧
        s'.answers pf.frame = 0 := by
    have hne : pf.frame ≠ f := fun heq => hnot (List.mem_map.2 ⟨pf, hpf, heq⟩)
    rw [hother _ hne, hold _ hne]
    exact h.pending_frame pf hpf
  rcases hnow with ⟨hpending, hone⟩ | ⟨hzero, buffer, info, rfl, hpending⟩
  · refine ⟨hb, by rw [hpending]; exact h.pending_nodup, fun pf hpf => ?_,
      fun g gd hgd hsome => ?_⟩
    · rw [hpending] at hpf
      exact hkept pf hpf
    · rw [hpending]
      by_cases hg : g = f
      · subst hg
        rw [hself] at hgd
        obtain rfl := Option.some.inj hgd
        have hone := hone hsome
        refine ⟨by omega, ?_, ?_⟩
        · intro hfalse
          exact absurd hfalse (by simp)
        · intro _ _ hzero
          omega
      · rw [hother g hg] at hgd
        rw [hold g hg]
        exact h.answered g gd hgd hsome
  · refine ⟨hb, ?_, fun pf hpf => ?_, fun g gd hgd hsome => ?_⟩
    · rw [hpending, List.map_append, List.map_singleton]
      refine List.nodup_append.2 ⟨h.pending_nodup, by simp, fun g hg g' hg' heq => ?_⟩
      rw [heq, List.mem_singleton.1 hg'] at hg
      exact hnot hg
    · rw [hpending] at hpf
      rcases List.mem_append.1 hpf with hpf | hpf
      · exact hkept pf hpf
      · obtain rfl := List.mem_singleton.1 hpf
        exact ⟨hself, hzero⟩
    · rw [hpending, List.map_append, List.mem_append]
      by_cases hg : g = f
      · subst hg
        exact ⟨by omega, fun _ => hzero, fun _ _ _ => Or.inr (by simp)⟩
      · rw [hother g hg] at hgd
        rw [hold g hg]
        obtain ⟨hle, hunused, hqueued⟩ := h.answered g gd hgd hsome
        exact ⟨hle, hunused, fun hu ha hz => Or.inl (hqueued hu ha hz)⟩

theorem tracked_copy (h : s.Tracked) (f buffer : ℕ) : (s.copy f buffer).Tracked := by
  cases hfd : s.frames[f]? with
  | none =>
    simp only [copy, hfd]
    exact h
  | some fd =>
    obtain ⟨capture, used, alive⟩ := fd
    have hlt := (List.getElem?_eq_some_iff.1 hfd).1
    simp only [copy, hfd]
    by_cases halive : alive = true
    · subst halive
      by_cases hused : used = true
      · subst hused
        have hb := h.toBase.tell (e := .already_used) hlt rfl
        refine ⟨hb, h.pending_nodup, fun pf hpf => ?_, fun g gd hgd => ?_⟩
        · show s.frames[pf.frame]? = _ ∧ (s.tell f .already_used).answers pf.frame = 0
          rw [answers_tell, if_neg (by simp [FrameEvent.isAnswer])]
          exact h.pending_frame pf hpf
        · show _ → (s.tell f .already_used).answers g ≤ 1 ∧
            (_ → (s.tell f .already_used).answers g = 0) ∧
              (_ → _ → (s.tell f .already_used).answers g = 0 → _)
          rw [answers_tell, if_neg (by simp [FrameEvent.isAnswer])]
          exact h.answered g gd hgd
      · obtain rfl : used = false := Bool.eq_false_iff.2 hused
        have hlen : (s.frames.set f ⟨capture, true, true⟩).length = s.frames.length :=
          List.length_set
        have hbase (pending : List PendingFrame) := h.toBase.reframe hlen pending
        have hfailed : Tracked (tell { s with frames := s.frames.set f ⟨capture, true, true⟩ } f
            .failed) := by
          refine h.use hfd rfl ((hbase s.pending).tell (by rw [hlen]; exact hlt) rfl) rfl
            (fun g hg => ?_) (Or.inl ⟨rfl, fun hsome => ?_⟩)
          · rw [answers_tell, if_neg (by simp [hg])]
            rfl
          · have hzero := (h.answered f _ hfd hsome).2.1 rfl
            rw [answers_tell, if_pos ⟨rfl, rfl⟩]
            show s.answers f + 1 = 1
            omega
        cases capture with
        | none => exact hfailed
        | some info =>
          by_cases hlocked : s.locked = true
          · simp only [if_pos hlocked]
            exact hfailed
          · simp only [if_neg hlocked]
            have hzero := (h.answered f _ hfd rfl).2.1 rfl
            exact h.use hfd rfl (hbase _) rfl (fun g _ => rfl)
              (Or.inr ⟨hzero, buffer, info, rfl, rfl⟩)
    · obtain rfl : alive = false := Bool.eq_false_iff.2 halive
      exact h

theorem tracked_destroy (h : s.Tracked) (f : ℕ) : (s.destroy f).Tracked := by
  have hlen : (s.frames.modify f fun fd => { fd with alive := false }).length =
      s.frames.length := List.length_modify _ _ _
  refine ⟨h.toBase.reframe hlen _, ?_, fun pf hpf => ?_, fun g gd hgd hsome => ?_⟩
  · exact h.pending_nodup.sublist (List.filter_sublist.map _)
  · obtain ⟨hpf, hne⟩ := List.mem_filter.1 hpf
    have hne : pf.frame ≠ f := of_decide_eq_true hne
    show (s.frames.modify f _)[pf.frame]? = _ ∧ s.answers pf.frame = 0
    rw [List.getElem?_modify_ne _ _ (Ne.symm hne)]
    exact h.pending_frame pf hpf
  · have hgd : (s.frames.modify f fun fd => { fd with alive := false })[g]? = some gd := hgd
    show s.answers g ≤ 1 ∧ _
    by_cases hg : g = f
    · subst hg
      rw [List.getElem?_modify_eq] at hgd
      obtain ⟨fd, hfd, rfl⟩ := Option.map_eq_some_iff.1 hgd
      obtain ⟨hle, hunused, _⟩ := h.answered g fd hfd hsome
      exact ⟨hle, hunused, fun _ halive => by cases halive⟩
    · rw [List.getElem?_modify_ne _ _ (Ne.symm hg)] at hgd
      obtain ⟨hle, hunused, hqueued⟩ := h.answered g gd hgd hsome
      refine ⟨hle, hunused, fun hu ha hz => ?_⟩
      obtain ⟨pf, hpf, hframe⟩ := List.mem_map.1 (hqueued hu ha hz)
      refine List.mem_map.2 ⟨pf, List.mem_filter.2 ⟨hpf, decide_eq_true ?_⟩, hframe⟩
      rw [hframe]
      exact hg

/-- Serving an output answers the frames that are queued for it and leaves none. -/
theorem tracked_serve (h : s.Tracked) {f : Screencopy → PendingFrame → Screencopy}
    (hf : ∀ s pf, Base s → s.is_alive pf.frame = true → Served s (f s pf) pf.frame)
    (output : OutputId) :
    (s.serve output f).Tracked ∧ ∀ pf ∈ (s.serve output f).pending, pf.output ≠ output := by
  obtain ⟨kept, taken, hd, hrun⟩ := Drain.drain_spec (f := f)
    (p := fun pf => decide (pf.output = output)) s.pending s
  have hserve : s.serve output f = { taken.foldl f s with pending := kept } := by
    simp only [serve, hrun]
  have htaken (pf : PendingFrame) (hpf : pf ∈ taken) : pf ∈ s.pending :=
    hd.perm.subset (List.mem_append_left _ hpf)
  have hkept (pf : PendingFrame) (hpf : pf ∈ kept) : pf ∈ s.pending :=
    hd.perm.subset (List.mem_append_right _ hpf)
  have halive (pf : PendingFrame) (hpf : pf ∈ taken) : s.is_alive pf.frame = true := by
    rw [is_alive, (h.pending_frame pf (htaken pf hpf)).1]
    rfl
  obtain ⟨hframes, -, hbase, hanswers⟩ := served_all hf taken h.toBase halive
  -- no frame is queued twice, so none is both taken and kept
  have hnodup : (taken.map PendingFrame.frame ++ kept.map PendingFrame.frame).Nodup := by
    rw [← List.map_append]
    exact (hd.perm.map _).nodup_iff.2 h.pending_nodup
  obtain ⟨hnodup₁, hnodup₂, hapart⟩ := List.nodup_append.1 hnodup
  have hcount (g : ℕ) : (s.serve output f).answers g =
      s.answers g + (taken.map PendingFrame.frame).count g := by
    rw [hserve]
    exact hanswers g
  have hframes' : (s.serve output f).frames = s.frames := by
    rw [hserve]
    exact hframes
  have hpending : (s.serve output f).pending = kept := by rw [hserve]
  refine ⟨⟨?_, ?_, fun pf hpf => ?_, fun g gd hgd hsome => ?_⟩, fun pf hpf => ?_⟩
  · rw [hserve]
    exact hbase.reframe rfl kept
  · rw [hpending]
    exact hnodup₂
  · rw [hpending] at hpf
    have hnot : pf.frame ∉ taken.map PendingFrame.frame := fun hmem =>
      hapart _ hmem _ (List.mem_map.2 ⟨pf, hpf, rfl⟩) rfl
    rw [hframes', hcount, List.count_eq_zero_of_not_mem hnot]
    exact h.pending_frame pf (hkept pf hpf)
  · rw [hframes'] at hgd
    obtain ⟨hle, hunused, hqueued⟩ := h.answered g gd hgd hsome
    rw [hpending, hcount]
    by_cases hmem : g ∈ taken.map PendingFrame.frame
    · obtain ⟨pf, hpf, rfl⟩ := List.mem_map.1 hmem
      obtain ⟨hget, hzero⟩ := h.pending_frame pf (htaken pf hpf)
      rw [hgd] at hget
      obtain rfl := Option.some.inj hget
      rw [List.count_eq_one_of_mem hnodup₁ hmem, hzero]
      exact ⟨by omega, fun hfalse => absurd hfalse (by simp), fun _ _ hzero' => by omega⟩
    · rw [List.count_eq_zero_of_not_mem hmem]
      refine ⟨hle, hunused, fun hu ha hz => ?_⟩
      obtain ⟨pf, hpf, rfl⟩ := List.mem_map.1 (hqueued hu ha hz)
      rcases List.mem_append.1 (hd.perm.symm.subset hpf) with htook | hleft
      · exact absurd (List.mem_map.2 ⟨pf, htook, rfl⟩) hmem
      · exact List.mem_map.2 ⟨pf, hleft, rfl⟩
  · rw [hpending] at hpf
    exact of_decide_eq_false (hd.kept pf hpf)

theorem tracked_rendered (h : s.Tracked) (output : OutputId) (r : Readback) :
    (s.step (.rendered output r)).Tracked ∧
      ∀ pf ∈ (s.step (.rendered output r)).pending, pf.output ≠ output :=
  tracked_serve h (fun _ _ hb ha => served_submit_one hb r ha) output

theorem tracked_unreadable (h : s.Tracked) (output : OutputId) :
    (s.step (.unreadable output)).Tracked ∧
      ∀ pf ∈ (s.step (.unreadable output)).pending, pf.output ≠ output :=
  tracked_serve h (fun _ _ hb ha => served_fail_one hb ha) output

/-- Changes of the pools that do not shrink one. -/
theorem Base.repool (h : s.Base) {pools : List (List UInt8)} {buffers : List WlBuffer}
    (hpools : ∀ (pool : ℕ) (data : List UInt8), s.pools[pool]? = some data →
      ∃ data', pools[pool]? = some data' ∧ data.length ≤ data'.length)
    (hbuffers : ∀ (b pool : ℕ) (spec : BufferSpec), buffers[b]? = some (WlBuffer.shm pool spec) →
      s.buffers[b]? = some (WlBuffer.shm pool spec) ∨
        ∃ data, s.pools[pool]? = some data ∧ spec.Accepted data.length) :
    Base { s with pools := pools, buffers := buffers } where
  memory b pool spec hb := by
    have hold : ∃ data, s.pools[pool]? = some data ∧ spec.Accepted data.length := by
      rcases hbuffers b pool spec hb with hold | hnew
      · exact h.memory b pool spec hold
      · exact hnew
    obtain ⟨data, hdata, haccepted⟩ := hold
    obtain ⟨data', hdata', hle⟩ := hpools pool data hdata
    exact ⟨data', hdata', haccepted.mono hle⟩
  shots := h.shots
  ready := h.ready
  fresh := h.fresh
  calm := h.calm

theorem tracked_step (h : s.Tracked) (e : ScreencopyEvent) : (s.step e).Tracked := by
  cases e with
  | create_pool data =>
    refine h.congr (h.toBase.repool (fun pool old hold => ⟨old, ?_, Nat.le_refl _⟩)
      fun _ _ _ hb => Or.inl hb) rfl rfl rfl
    rw [List.getElem?_append_left (List.getElem?_eq_some_iff.1 hold).1]
    exact hold
  | resize_pool pool more =>
    refine h.congr (h.toBase.repool (fun pool' old hold => ?_) fun _ _ _ hb => Or.inl hb)
      rfl rfl rfl
    rw [List.getElem?_modify, hold]
    by_cases hsame : pool = pool'
    · exact ⟨old ++ more, by simp [hsame], by simp⟩
    · exact ⟨old, by simp [hsame], Nat.le_refl _⟩
  | write_pool pool k b =>
    refine h.congr (h.toBase.repool (fun pool' old hold => ?_) fun _ _ _ hb => Or.inl hb)
      rfl rfl rfl
    rw [List.getElem?_modify, hold]
    by_cases hsame : pool = pool'
    · exact ⟨old.set k b, by simp [hsame], by simp⟩
    · exact ⟨old, by simp [hsame], Nat.le_refl _⟩
  | create_buffer pool spec =>
    cases hdata : s.pools[pool]? with
    | none =>
      simp only [step, hdata]
      exact h
    | some data =>
      simp only [step, hdata]
      by_cases haccepted : spec.Accepted data.length
      · rw [if_pos haccepted]
        refine h.congr (h.toBase.repool (fun _ old hold => ⟨old, hold, Nat.le_refl _⟩)
          fun b pool' spec' hb => ?_) rfl rfl rfl
        rcases Recency.getElem?_concat hb with hold | ⟨-, hnew⟩
        · exact Or.inl hold
        · cases hnew
          exact Or.inr ⟨data, hdata, haccepted⟩
      · rw [if_neg haccepted]
        exact h
  | unmanaged_buffer =>
    refine h.congr (h.toBase.repool (fun _ old hold => ⟨old, hold, Nat.le_refl _⟩)
      fun b pool' spec' hb => ?_) rfl rfl rfl
    rcases Recency.getElem?_concat hb with hold | ⟨-, hnew⟩
    · exact Or.inl hold
    · cases hnew
  | capture target region_opt version => exact tracked_capture h target region_opt version
  | copy f buffer => exact tracked_copy h f buffer
  | destroy f => exact tracked_destroy h f
  | set_locked locked =>
    exact h.congr ⟨h.memory, h.shots, h.ready, h.fresh, h.calm⟩ rfl rfl rfl
  | output_removed output => exact h
  | rendered output r => exact (tracked_rendered h output r).1
  | unreadable output => exact (tracked_unreadable h output).1

theorem tracked_run (es : List ScreencopyEvent) : (run step init es).Tracked := by
  induction es using List.reverseRecOn with
  | nil => exact tracked_init
  | append_singleton es e ih =>
    rw [run_concat]
    exact tracked_step ih e

end Screencopy

/-! ### The queue of the compositor -/

/-- A queued frame as the model of the whole compositor has it. -/
def PendingFrame.forget (pf : PendingFrame) : Compositor.PendingFrame := ⟨pf.frame, pf.output⟩

theorem swap_remove_forget (l : List PendingFrame) (i : ℕ) :
    Rwl.swap_remove (l.map PendingFrame.forget) i =
      (Drain.swapRemove l i).map PendingFrame.forget := by
  unfold Rwl.swap_remove Drain.swapRemove
  rw [List.getLast?_map]
  cases l.getLast? with
  | none => rfl
  | some last =>
    show ((l.map PendingFrame.forget).set i last.forget).dropLast = _
    rw [← List.map_set, List.map_dropLast]

/-- Both loops take the same frames, in the same order, and leave the same ones. -/
theorem serve_forget (output : OutputId) (n i : ℕ) (l taken : List PendingFrame) :
    ∃ served kept, Drain.drain (fun pf => decide (pf.output = output)) (fun acc pf => acc ++ [pf])
        n i l taken = (kept, taken ++ served) ∧
      Rwl.serve output n i (l.map PendingFrame.forget) =
        (served.map PendingFrame.forget, kept.map PendingFrame.forget) := by
  induction n generalizing i l taken with
  | zero => exact ⟨[], l, by simp [Drain.drain], rfl⟩
  | succ n ih =>
    cases hget : l[i]? with
    | none => exact ⟨[], l, by simp [Drain.drain, hget], by simp [Rwl.serve, hget]⟩
    | some pf =>
      by_cases ho : pf.output = output
      · obtain ⟨served, kept, hdrain, hserve⟩ := ih i (Drain.swapRemove l i) (taken ++ [pf])
        have ho' : pf.forget.output = output := ho
        refine ⟨pf :: served, kept, ?_, ?_⟩
        · simp [Drain.drain, hget, ho, hdrain]
        · simp [Rwl.serve, hget, ho', swap_remove_forget, hserve]
      · obtain ⟨served, kept, hdrain, hserve⟩ := ih (i + 1) l taken
        have ho' : ¬pf.forget.output = output := ho
        refine ⟨served, kept, ?_, ?_⟩
        · simp [Drain.drain, hget, ho, hdrain]
        · simp [Rwl.serve, hget, ho', hserve]

/-- What a frame captures; and in every run: no slice of a copy is out of range, a buffer is
written only where it may be and holds its rows in full if they have the room, `ready` is sent for
each such write and for nothing else, the frames are queued and answered as they should be, and
serving an output leaves none of its frames in the queue. -/
theorem screencopy_sound (es : List ScreencopyEvent) :
    (run Screencopy.step .init es).Tracked ∧
      (∀ (output : OutputId) (r : Readback),
        (∀ pf ∈ ((run Screencopy.step .init es).step (.rendered output r)).pending,
          pf.output ≠ output) ∧
        ∀ pf ∈ ((run Screencopy.step .init es).step (.unreadable output)).pending,
          pf.output ≠ output) ∧
      ∀ (mode : ModeSize) (r : WireRect) (p : Point),
        if r.rect.overlaps mode.full then
          (capture_region mode (some r)).contains p = (r.rect.contains p && mode.full.contains p)
        else capture_region mode (some r) = mode.full ∧
          (r.rect.contains p && mode.full.contains p) = false := by
  have hrun := Screencopy.tracked_run es
  exact ⟨hrun, fun output r => ⟨(Screencopy.tracked_rendered hrun output r).2,
    (Screencopy.tracked_unreadable hrun output).2⟩, contains_capture_region⟩

/-- An output of two pixels. -/
def twoPixels : ModeSize where
  size := ⟨2, 1⟩
  w_nonneg := by decide
  h_nonneg := by decide
  w_range := by decide
  h_range := by decide

/-- A pixel far away from the output. -/
def farPixel : WireRect where
  rect := ⟨⟨9, 0⟩, ⟨1, 1⟩⟩
  x_range := by decide
  y_range := by decide
  w_range := by decide
  h_range := by decide

/-- A framebuffer of ones. -/
def brightScreen : Readback := ⟨fun _ => some fun _ => 1, fun _ => false, 0, 0⟩

/-- A region next to the output does not fail and gets all of it; a buffer of one pixel for a region
of two is answered with `ready`; and a frame of an output that was removed stays in the queue. -/
theorem not_screencopy_sound :
    (¬∀ (mode : ModeSize) (r : WireRect),
      (∀ p, (r.rect.contains p && mode.full.contains p) = false) →
        (Screencopy.init.capture (some (0, some mode)) (some r) 3).sent = [(0, .failed)]) ∧
    (¬∀ es : List ScreencopyEvent, (run Screencopy.step .init es).shots.all fun x =>
      decide (x.spec.width = x.region.size.w ∧ x.spec.stride = x.region.size.w * 4)) ∧
    ¬∀ (es : List ScreencopyEvent) (output : OutputId),
      (run Screencopy.step .init (es ++ [.output_removed output])).pending.all fun pf =>
        decide (pf.output ≠ output) := by
  refine ⟨fun h => ?_, fun h => ?_, fun h => ?_⟩
  · have hlaw := contains_capture_region twoPixels farPixel
    have hover : farPixel.rect.overlaps twoPixels.full = false := by decide
    have hempty : ∀ p, (farPixel.rect.contains p && twoPixels.full.contains p) = false :=
      fun p => by
        have hp := hlaw p
        rw [hover] at hp
        exact hp.2
    exact absurd (h twoPixels farPixel hempty) (by decide)
  · have hsmall := h [.create_pool [0, 0, 0, 0], .create_buffer 0 ⟨0, 1, 1, 4, .Argb8888⟩,
      .capture (some (0, some twoPixels)) none 3, .copy 0 0, .rendered 0 brightScreen]
    exact absurd hsmall (by decide +kernel)
  · have hgone := h [.capture (some (0, some twoPixels)) none 3, .copy 0 0] 0
    exact absurd hgone (by decide +kernel)

end Shm

end Compositor
