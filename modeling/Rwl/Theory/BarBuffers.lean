import Mathlib.Tactic.Common
import Rwl.Core.Panel
import Rwl.Lib.Run

/-!
# The double buffer of the bar

A bar draws into the two slots of one memory file, and keeps the file while the number of bytes of
a frame stays the same.

* `Canvas.Sound`: a buffer in the hands of the compositor, or on its way back, is the one of a busy
  slot;
* `sound_step`: every event keeps that;
* `WritesSafe`: a draw writes to a slot the compositor does not hold, and stays inside it;
* `AttachesFit`, `DrawsStale`: the buffer it attaches has the size of the bar, unless the pool was
  made for a frame of as many bytes and another shape;
* `bar_double_buffer`: both, for every run.
-/

namespace Compositor

open Transition

/-! ### One bar -/

namespace Panel

/-- The pool of a bar and its two buffers go together. -/
structure Pooled (p : Panel) : Prop where
  fd : p.shm_fd = p.shm_pool
  empty : p.shm_pool = none → ∀ slot, p.buffers slot = none
  full : ∀ file, p.shm_pool = some file → ∀ slot, (p.buffers slot).isSome = true
  buffer : ∀ slot b, p.buffers slot = some b → p.shm_pool = some b.file ∧ b.slot = slot
  map : ∀ len, p.shm_map = some len → len = p.pool_bufsize * 2
  alike : ∀ slot slot' b b', p.buffers slot = some b → p.buffers slot' = some b' →
    (b.width, b.height, b.stride) = (b'.width, b'.height, b'.stride)

/-- The bar `q` has the shared memory of `p`, or none. -/
structure Under (q p : Panel) : Prop where
  pooled : p.Pooled → q.Pooled
  same : ∀ file, q.shm_pool = some file →
    p.shm_pool = some file ∧ q.buffers = p.buffers ∧ q.buffer_busy = p.buffer_busy

theorem pooled_destroy_shm (p : Panel) : p.destroy_shm.Pooled where
  fd := rfl
  empty _ _ := rfl
  full _ h := by cases h
  buffer _ _ h := by cases h
  map _ h := by cases h
  alike _ _ _ _ h := by cases h

theorem under_destroy_shm (p : Panel) : p.destroy_shm.Under p where
  pooled _ := p.pooled_destroy_shm
  same _ h := by cases h

/-- Changes that leave the shared memory alone. -/
theorem Under.of_same {p q : Panel} (h : (q.shm_fd, q.shm_map, q.shm_pool, q.buffers,
    q.buffer_busy, q.pool_bufsize) = (p.shm_fd, p.shm_map, p.shm_pool, p.buffers, p.buffer_busy,
    p.pool_bufsize)) : q.Under p := by
  simp only [Prod.mk.injEq] at h
  obtain ⟨hfd, hmap, hpool, hbuffers, hbusy, hsize⟩ := h
  refine ⟨fun hp => ⟨?_, ?_, ?_, ?_, ?_, ?_⟩, fun file hfile => ⟨hpool ▸ hfile, hbuffers, hbusy⟩⟩
  · rw [hfd, hpool]
    exact hp.fd
  · rw [hpool, hbuffers]
    exact hp.empty
  · rw [hpool, hbuffers]
    exact hp.full
  · rw [hpool, hbuffers]
    exact hp.buffer
  · rw [hmap, hsize]
    exact hp.map
  · rw [hbuffers]
    exact hp.alike

theorem Under.refl (p : Panel) : p.Under p := .of_same rfl

theorem under_hide_bar (p : Panel) : p.hide_bar.Under p := by
  unfold hide_bar
  split_ifs
  · exact ⟨fun hp => ⟨rfl, fun _ _ => rfl, fun _ h => (by cases h), fun _ _ h => (by cases h),
      fun _ h => (by cases h), fun _ _ _ _ h => (by cases h)⟩, fun _ h => by cases h⟩
  · exact .refl p

theorem under_configure (p : Panel) (buffer_scale : ℕ) (current : Bool) (width height : ℕ) :
    (p.configure buffer_scale current width height).Under p := by
  unfold configure
  dsimp only
  split_ifs <;> exact .of_same rfl

end Panel

/-! ### The buffers in flight -/

namespace Canvas

/-- The buffers the compositor holds and those whose release is on its way. -/
def out (c : Canvas) : List Buffer := c.held ++ c.inflight

/-- A buffer that is out and of the file of a bar is the one of a busy slot, and files are not
shared between bars. -/
structure Sound (c : Canvas) : Prop where
  pooled : ∀ (i : ℕ) (p : Panel), c.panels[i]? = some p → p.Pooled
  busy : ∀ (i : ℕ) (p : Panel), c.panels[i]? = some p → ∀ b ∈ c.out, p.shm_pool = some b.file →
    p.buffers b.slot = some b ∧ p.buffer_busy b.slot = true
  below : ∀ b ∈ c.out, b.file < c.next
  file : ∀ (i : ℕ) (p : Panel), c.panels[i]? = some p → ∀ f, p.shm_pool = some f → f < c.next
  apart : ∀ (i j : ℕ) (p q : Panel), c.panels[i]? = some p → c.panels[j]? = some q → i ≠ j → ∀ f,
    p.shm_pool = some f → q.shm_pool ≠ some f
  nodup : c.out.Nodup

/-- A step that gives no bar any memory and takes out no buffer. -/
theorem Sound.under {c c' : Canvas} (h : c.Sound)
    (hpanels : ∀ (i : ℕ) (q : Panel), c'.panels[i]? = some q → ∃ p, c.panels[i]? = some p ∧ q.Under p)
    (hnext : c.next ≤ c'.next) (hout : ∀ b ∈ c'.out, b ∈ c.out) (hnodup : c'.out.Nodup) :
    c'.Sound where
  pooled i q hq := by
    obtain ⟨p, hp, hqp⟩ := hpanels i q hq
    exact hqp.pooled (h.pooled i p hp)
  busy i q hq b hb hfile := by
    obtain ⟨p, hp, hqp⟩ := hpanels i q hq
    obtain ⟨hfile', hbuffers, hbusy⟩ := hqp.same _ hfile
    rw [hbuffers, hbusy]
    exact h.busy i p hp b (hout b hb) hfile'
  below b hb := (h.below b (hout b hb)).trans_le hnext
  file i q hq f hf := by
    obtain ⟨p, hp, hqp⟩ := hpanels i q hq
    exact (h.file i p hp f (hqp.same f hf).1).trans_le hnext
  apart i j q q' hq hq' hij f hf hf' := by
    obtain ⟨p, hp, hqp⟩ := hpanels i q hq
    obtain ⟨p', hp', hqp'⟩ := hpanels j q' hq'
    exact h.apart i j p p' hp hp' hij f (hqp.same f hf).1 (hqp'.same f hf').1
  nodup := hnodup

/-- A change of bar `i` that gives it no memory. -/
theorem Sound.modify {c : Canvas} (h : c.Sound) (i : ℕ) {f : Panel → Panel}
    (hf : ∀ p, (f p).Under p) : Sound { c with panels := c.panels.modify i f } := by
  refine h.under (fun j q hq => ?_) le_rfl (fun _ hb => hb) h.nodup
  rw [List.getElem?_modify] at hq
  obtain ⟨p, hp, rfl⟩ := Option.map_eq_some_iff.mp hq
  refine ⟨p, hp, ?_⟩
  by_cases hij : i = j
  · rw [if_pos hij]
    exact hf p
  · rw [if_neg hij]
    exact .refl p

/-- Bar `i` takes a state of its own: nothing of it is out, or it has the memory it had. -/
theorem Sound.set {c : Canvas} (h : c.Sound) {i : ℕ} {p q : Panel} (hp : c.panels[i]? = some p)
    {next : ℕ} (hnext : c.next ≤ next) (hq : q.Pooled)
    (hbusy : ∀ b ∈ c.out, q.shm_pool = some b.file →
      q.buffers b.slot = some b ∧ q.buffer_busy b.slot = true)
    (hfile : ∀ f, q.shm_pool = some f → p.shm_pool = some f ∨ c.next ≤ f ∧ f < next) :
    Sound { c with panels := c.panels.set i q, next := next } := by
  have hget : ∀ j r, (c.panels.set i q)[j]? = some r →
      j = i ∧ r = q ∨ j ≠ i ∧ c.panels[j]? = some r := by
    intro j r hr
    rw [List.getElem?_set] at hr
    split_ifs at hr with hij hlt
    · exact .inl ⟨hij.symm, (Option.some.inj hr).symm⟩
    · exact .inr ⟨fun hji => hij hji.symm, hr⟩
  have hapart : ∀ j r, c.panels[j]? = some r → j ≠ i → ∀ f, q.shm_pool = some f →
      r.shm_pool ≠ some f := by
    intro j r hr hij f hf hf'
    rcases hfile f hf with hf | ⟨hf, -⟩
    · exact h.apart i j p r hp hr (Ne.symm hij) f hf hf'
    · exact absurd (h.file j r hr f hf') (by omega)
  refine ⟨fun j r hr => ?_, fun j r hr => ?_, fun b hb => (h.below b hb).trans_le hnext,
    fun j r hr f hf => ?_, fun j k r r' hr hr' hjk f hf hf' => ?_, h.nodup⟩
  · rcases hget j r hr with ⟨-, rfl⟩ | ⟨-, hr⟩
    · exact hq
    · exact h.pooled j r hr
  · rcases hget j r hr with ⟨-, rfl⟩ | ⟨-, hr⟩
    · exact hbusy
    · exact h.busy j r hr
  · rcases hget j r hr with ⟨-, rfl⟩ | ⟨-, hr⟩
    · rcases hfile f hf with hf | ⟨-, hf⟩
      · exact (h.file i p hp f hf).trans_le hnext
      · exact hf
    · exact (h.file j r hr f hf).trans_le hnext
  · rcases hget j r hr with ⟨rfl, rfl⟩ | ⟨hj, hrc⟩ <;>
      rcases hget k r' hr' with ⟨hk, rfl⟩ | ⟨hk, hrc'⟩
    · exact hjk hk.symm
    · exact hapart k r' hrc' hk f hf hf'
    · exact hapart j r hrc hj f hf' hf
    · exact h.apart j k r r' hrc hrc' hjk f hf hf'

end Canvas

/-! ### A draw -/

namespace Panel

/-- What `ensure_bar_shm` leaves: no pool, the pool there was, or a new one of a new file. -/
inductive Ensured (p : Panel) (next : ℕ) : Bool × Panel × ℕ → Prop
  | empty : p.bufsize = 0 → Ensured p next (false, p, next)
  | kept : p.bufsize ≠ 0 → p.pool_bufsize = p.bufsize → p.shm_pool.isSome = true →
      Ensured p next (true, p, next)
  | lost : Ensured p next (false, p.destroy_shm, next)
  | built (q : Panel) : q.Pooled → q.shm_pool = some next → q.pool_bufsize = p.bufsize →
      (q.bufsize, q.width, q.height, q.stride) = (p.bufsize, p.width, p.height, p.stride) →
      (∀ slot b, q.buffers slot = some b →
        (b.width, b.height, b.stride) = (q.width, q.height, q.stride)) →
      p.bufsize ≠ 0 → Ensured p next (true, q, next + 1)

theorem ensured (p : Panel) (next : ℕ) (g : Grants) : p.Ensured next (p.ensure_bar_shm next g) := by
  by_cases hzero : p.bufsize = 0
  · rw [ensure_bar_shm, if_pos hzero]
    exact .empty hzero
  by_cases hkept : p.pool_bufsize = p.bufsize ∧ p.shm_pool.isSome = true
  · rw [ensure_bar_shm, if_neg hzero, if_pos hkept]
    exact .kept hzero hkept.1 hkept.2
  rw [ensure_bar_shm, if_neg hzero, if_neg hkept]
  dsimp only
  by_cases hover : 2 ^ 64 ≤ p.destroy_shm.bufsize * 2
  · rw [if_pos hover]
    exact .lost
  by_cases hfile : g.file = false
  · rw [if_neg hover, if_pos hfile]
    exact .lost
  rw [if_neg hover, if_neg hfile]
  refine .built _ ⟨rfl, ?_, fun _ _ _ => rfl, ?_, ?_, ?_⟩ rfl rfl rfl ?_ hzero
  · exact fun h => absurd h (Option.some_ne_none next)
  · rintro slot b hb
    obtain rfl := Option.some.inj hb
    exact ⟨rfl, rfl⟩
  · intro len hlen
    cases hmap : g.map
    · rw [hmap] at hlen
      cases hlen
    · rw [hmap] at hlen
      exact (Option.some.inj hlen).symm
  · intro slot slot' b b' hb hb'
    obtain rfl := Option.some.inj hb
    obtain rfl := Option.some.inj hb'
    rfl
  · intro slot b hb
    obtain rfl := Option.some.inj hb
    rfl

/-- The bytes of a frame can be written: through the mapping, or by `pwrite`. -/
def Writes (p : Panel) (g : Grants) : Prop := p.shm_map.isSome = true ∨ g.pwrite = none

/-- What a draw does once there is a pool: it fills a free slot and attaches its buffer, it fails to
fill it, it makes a buffer for this frame alone, or it does nothing. -/
inductive Painted (p : Panel) (next : ℕ) (g : Grants) : Drawn → Prop
  | slot (s : Fin 2) (file : ℕ) (b : Buffer) : p.shm_pool = some file → p.buffer_busy s = false →
      p.buffers s = some b → p.Writes g →
      Painted p next g ⟨{ p with buffer_busy := Function.update p.buffer_busy s true }, next,
        ⟨some ⟨file, s * p.bufsize, p.bufsize / 4 * 4⟩, some b⟩⟩
  | failed (s : Fin 2) (file n : ℕ) : p.shm_pool = some file → p.buffer_busy s = false →
      n ≤ p.bufsize / 4 * 4 → ¬p.Writes g →
      Painted p next g ⟨p, next, ⟨some ⟨file, s * p.bufsize, n⟩, none⟩⟩
  | throwaway : (∀ s, p.buffer_busy s = true) →
      Painted p next g ⟨p, next + 1, ⟨some ⟨next, 0, p.bufsize / 4 * 4⟩,
        some ⟨next, 0, 0, p.width, p.height, p.stride⟩⟩⟩
  | dropped : (∀ s, p.buffer_busy s = true) → Painted p next g ⟨p, next, ⟨none, none⟩⟩

theorem free_slot_some {p : Panel} {s : Fin 2} (h : p.free_slot = some s) :
    p.buffer_busy s = false := by
  unfold free_slot at h
  split_ifs at h with h0 h1
  · exact Option.some.inj h ▸ h0
  · exact Option.some.inj h ▸ h1

theorem free_slot_none {p : Panel} (h : p.free_slot = none) (s : Fin 2) :
    p.buffer_busy s = true := by
  unfold free_slot at h
  split_ifs at h with h0 h1
  revert s
  rw [Fin.forall_fin_two]
  exact ⟨by simpa using h0, by simpa using h1⟩

/-- A slot lies inside the mapping. -/
theorem fill_slot {p : Panel} (hp : p.Pooled) (hsize : p.pool_bufsize = p.bufsize) (g : Grants)
    (s : Fin 2) :
    (p.Writes g ∧ p.fill g (s * p.bufsize) (p.bufsize / 4 * 4) = (p.bufsize / 4 * 4, true)) ∨
      ¬p.Writes g ∧ ∃ n ≤ p.bufsize / 4 * 4,
        p.fill g (s * p.bufsize) (p.bufsize / 4 * 4) = (n, false) := by
  unfold Writes fill
  cases hmap : p.shm_map with
  | some len =>
    have hlen := hp.map len hmap
    have hfit : ¬len < s * p.bufsize + p.bufsize / 4 * 4 := by
      rw [hlen, hsize]
      have hbytes := Nat.div_mul_le_self p.bufsize 4
      have hslot : (s : ℕ) * p.bufsize ≤ 1 * p.bufsize := Nat.mul_le_mul_right _ (by omega)
      omega
    exact .inl ⟨.inl rfl, if_neg hfit⟩
  | none =>
    cases hpwrite : g.pwrite with
    | none => exact .inl ⟨.inr rfl, rfl⟩
    | some n => exact .inr ⟨by simp, _, Nat.min_le_right _ _, rfl⟩

theorem painted {p : Panel} (hp : p.Pooled) (hsize : p.pool_bufsize = p.bufsize) {file : ℕ}
    (hfile : p.shm_pool = some file) (next : ℕ) (g : Grants) :
    p.Painted next g (p.draw_into next g) := by
  unfold draw_into
  cases hslot : p.free_slot with
  | none =>
    have hbusy := free_slot_none hslot
    cases g.throwaway
    · exact .dropped hbusy
    · exact .throwaway hbusy
  | some s =>
    have hfree := free_slot_some hslot
    obtain ⟨b, hb⟩ := Option.isSome_iff_exists.mp (hp.full file hfile s)
    have hwrite (n : ℕ) : (p.shm_fd.map fun f => (⟨f, s * p.bufsize, n⟩ : Write)) =
        some ⟨file, s * p.bufsize, n⟩ := by
      rw [hp.fd, hfile]
      rfl
    dsimp only
    rcases fill_slot hp hsize g s with ⟨hw, hfill⟩ | ⟨hw, n, hn, hfill⟩
    · rw [hfill, hwrite, hb]
      exact .slot s file b hfile hfree hb hw
    · rw [hfill, hwrite]
      exact .failed s file n hfile hfree hn hw

end Panel

open scoped List

namespace Canvas

/-- The buffer `b` is attached. -/
def attach (c : Canvas) (b : Option Buffer) : Canvas := { c with held := c.held ++ b.toList }

theorem attach_none (c : Canvas) : c.attach none = c := by
  simp only [attach, Option.toList_none, List.append_nil]

theorem mem_out_attach {c : Canvas} {b x : Buffer} :
    x ∈ (c.attach (some b)).out ↔ x = b ∨ x ∈ c.out := by
  simp only [out, attach, Option.toList_some, List.mem_append, List.mem_singleton]
  tauto

/-- A buffer that was not out, of the busy slot it is for, is attached. -/
theorem Sound.attach {c : Canvas} (h : c.Sound) {b : Buffer} (hb : b ∉ c.out)
    (hbelow : b.file < c.next)
    (hbusy : ∀ (i : ℕ) (p : Panel), c.panels[i]? = some p → p.shm_pool = some b.file →
      p.buffers b.slot = some b ∧ p.buffer_busy b.slot = true) :
    (c.attach (some b)).Sound where
  pooled := h.pooled
  busy i p hp x hx hfile := by
    rcases mem_out_attach.mp hx with rfl | hx
    · exact hbusy i p hp hfile
    · exact h.busy i p hp x hx hfile
  below x hx := by
    rcases mem_out_attach.mp hx with rfl | hx
    · exact hbelow
    · exact h.below x hx
  file := h.file
  apart := h.apart
  nodup := by
    have hperm : (c.attach (some b)).out.Perm (b :: c.out) := by
      simp only [out, Canvas.attach, Option.toList_some, List.append_assoc, List.singleton_append]
      exact List.perm_middle
    exact hperm.nodup_iff.mpr (List.nodup_cons.mpr ⟨hb, h.nodup⟩)

/-- A bar changes, and keeps its memory. -/
theorem Sound.set_same {c : Canvas} (h : c.Sound) {i : ℕ} {p q : Panel} (hp : c.panels[i]? = some p)
    (hq : q.Under p) : Sound { c with panels := c.panels.set i q } := by
  refine h.set hp le_rfl (hq.pooled (h.pooled i p hp)) (fun b hb hfile => ?_)
    fun f hf => .inl (hq.same f hf).1
  obtain ⟨hfile', hbuffers, hbusy⟩ := hq.same _ hfile
  rw [hbuffers, hbusy]
  exact h.busy i p hp b hb hfile'

/-- A slot that is not busy is not out. -/
theorem Sound.not_out {c : Canvas} (h : c.Sound) {i : ℕ} {p : Panel} (hp : c.panels[i]? = some p)
    {s : Fin 2} (hfree : p.buffer_busy s = false) {b : Buffer} (hb : b ∈ c.out)
    (hfile : p.shm_pool = some b.file) : b.slot ≠ s := by
  rintro rfl
  have := (h.busy i p hp b hb hfile).2
  rw [hfree] at this
  cases this

theorem Sound.paint {c : Canvas} (h : c.Sound) {i : ℕ} {p : Panel} (hp : c.panels[i]? = some p)
    {g : Panel.Grants} {d : Panel.Drawn} (hd : p.Painted c.next g d) :
    (Canvas.attach { c with panels := c.panels.set i d.panel, next := d.next }
      d.frame.attached).Sound := by
  have hself : c.panels.set i p = c.panels := by
    obtain ⟨hlt, rfl⟩ := List.getElem?_eq_some_iff.mp hp
    exact List.set_getElem_self hlt
  have hpooled := h.pooled i p hp
  cases hd with
  | slot s file b hfile hfree hb hw =>
    obtain ⟨hbfile, rfl⟩ := hpooled.buffer s b hb
    have hset : Sound { c with panels := (c.panels.set i
        { p with buffer_busy := Function.update p.buffer_busy b.slot true }) } := by
      refine h.set hp le_rfl ⟨hpooled.1, hpooled.2, hpooled.3, hpooled.4, hpooled.5, hpooled.6⟩
        (fun x hx hxfile => ?_) fun f hf => .inl hf
      obtain ⟨hbuffer, hbusy⟩ := h.busy i p hp x hx hxfile
      refine ⟨hbuffer, ?_⟩
      show Function.update p.buffer_busy b.slot true x.slot = true
      rw [Function.update_of_ne (h.not_out hp hfree hx hxfile)]
      exact hbusy
    refine hset.attach (fun hout => h.not_out hp hfree hout hbfile rfl) (h.file i p hp _ hbfile) ?_
    intro j q hq hqfile
    rw [List.getElem?_set] at hq
    split_ifs at hq with hij hlt
    · obtain rfl := Option.some.inj hq
      exact ⟨hb, Function.update_self _ _ _⟩
    · exact absurd hqfile (h.apart i j p q hp hq hij _ hbfile)
  | failed s file n hfile hfree hn hw =>
    rw [hself]
    show (Canvas.attach c none).Sound
    rw [attach_none]
    exact h
  | throwaway hbusy =>
    rw [hself]
    have hnext : Sound { c with next := c.next + 1 } :=
      h.under (fun j q hq => ⟨q, hq, .refl q⟩) (Nat.le_succ _) (fun _ hb => hb) h.nodup
    refine hnext.attach (fun hout => ?_) (Nat.lt_succ_self _) fun j q hq hfile => ?_
    · exact absurd (h.below _ hout) (lt_irrefl _)
    · exact absurd (h.file j q hq _ hfile) (lt_irrefl _)
  | dropped hbusy =>
    rw [hself]
    show (Canvas.attach c none).Sound
    rw [attach_none]
    exact h

/-! ### Events -/

/-- After `ensure_bar_shm` the buffers are as they should be. -/
theorem Sound.ensure {c : Canvas} (h : c.Sound) {i : ℕ} {p : Panel} (hp : c.panels[i]? = some p)
    {r : Bool × Panel × ℕ} (hr : p.Ensured c.next r) :
    Sound { c with panels := c.panels.set i r.2.1, next := r.2.2 } := by
  cases hr with
  | empty hzero => exact h.set_same hp (.refl p)
  | kept hne hsize hpool => exact h.set_same hp (.refl p)
  | lost => exact h.set_same hp p.under_destroy_shm
  | built q hq hfile hsize hdims hbuffers hne =>
    refine h.set hp (Nat.le_succ _) hq (fun b hb hbfile => ?_) fun f hf => ?_
    · have := h.below b hb
      rw [hfile] at hbfile
      have := Option.some.inj hbfile
      omega
    · obtain rfl := Option.some.inj (hfile.symm.trans hf)
      exact .inr ⟨le_rfl, Nat.lt_succ_self _⟩

theorem getElem?_set {c : Canvas} {i : ℕ} {p : Panel} (hp : c.panels[i]? = some p) (q : Panel) :
    (c.panels.set i q)[i]? = some q := by
  obtain ⟨hlt, -⟩ := List.getElem?_eq_some_iff.mp hp
  rw [List.getElem?_set_self hlt]

end Canvas

namespace Panel

/-- A pool that can be drawn into has the size of the bar. -/
theorem Ensured.ready {p q : Panel} {next n : ℕ} (h : p.Ensured next (true, q, n)) :
    q.pool_bufsize = q.bufsize ∧ ∃ file, q.shm_pool = some file := by
  cases h with
  | kept hne hsize hpool => exact ⟨hsize, Option.isSome_iff_exists.mp hpool⟩
  | built _ hq hfile hsize hdims hbuffers hne =>
    simp only [Prod.mk.injEq] at hdims
    exact ⟨hsize.trans hdims.1.symm, next, hfile⟩

/-- A bar that is shown and configured draws when it has a pool. -/
theorem draw_frame_ready {p : Panel} (h : p.bar.shown = true ∧ p.configured = true) (next : ℕ)
    (g : Grants) : p.draw_frame next g =
      if (p.ensure_bar_shm next g).1 = true then
        (p.ensure_bar_shm next g).2.1.draw_into (p.ensure_bar_shm next g).2.2 g
      else ⟨(p.ensure_bar_shm next g).2.1, (p.ensure_bar_shm next g).2.2, ⟨none, none⟩⟩ := by
  rw [draw_frame, if_neg (not_not.mpr h)]
  rcases p.ensure_bar_shm next g with ⟨_ | _, q, n⟩ <;> rfl

theorem draw_frame_idle {p : Panel} (h : ¬(p.bar.shown = true ∧ p.configured = true)) (next : ℕ)
    (g : Grants) : p.draw_frame next g = ⟨p, next, ⟨none, none⟩⟩ := if_pos h

end Panel

namespace Canvas

theorem Sound.drawn {c : Canvas} (h : c.Sound) {i : ℕ} {p : Panel} (hp : c.panels[i]? = some p)
    (g : Panel.Grants) :
    (Canvas.attach { c with panels := c.panels.set i (p.draw_frame c.next g).panel,
                            next := (p.draw_frame c.next g).next }
      (p.draw_frame c.next g).frame.attached).Sound := by
  by_cases hshown : p.bar.shown = true ∧ p.configured = true
  · have hr := p.ensured c.next g
    rw [Panel.draw_frame_ready hshown]
    generalize p.ensure_bar_shm c.next g = r at hr ⊢
    obtain ⟨ok, q, n⟩ := r
    have hs := h.ensure hp hr
    cases ok with
    | false =>
      rw [if_neg Bool.false_ne_true]
      show (Canvas.attach { c with panels := c.panels.set i q, next := n } none).Sound
      rw [attach_none]
      exact hs
    | true =>
      rw [if_pos rfl]
      obtain ⟨hsize, file, hfile⟩ := hr.ready
      have hq := getElem?_set hp q
      have hpaint := hs.paint hq (Panel.painted (hs.pooled i q hq) hsize hfile n g)
      simpa only [List.set_set] using hpaint
  · rw [Panel.draw_frame_idle hshown]
    show (Canvas.attach { c with panels := c.panels.set i p } none).Sound
    rw [attach_none]
    exact h.set_same hp (.refl p)

theorem drawn_eq_some {c : Canvas} {i : ℕ} {g : Panel.Grants} {d : Panel.Drawn} :
    c.drawn i g = some d ↔ ∃ p, c.panels[i]? = some p ∧ p.bar.redraw = true ∧
      p.bar.shown = true ∧ p.draw_frame c.next g = d := by
  unfold drawn
  cases hp : c.panels[i]? with
  | none => simp
  | some p => simp [and_assoc]

theorem Sound.draw {c : Canvas} (h : c.Sound) (i : ℕ) (g : Panel.Grants) : (c.draw i g).Sound := by
  unfold Canvas.draw
  cases hd : c.drawn i g with
  | none => exact h
  | some d =>
    obtain ⟨p, hp, -, -, rfl⟩ := drawn_eq_some.mp hd
    have hdraw := (h.drawn hp g).set_same (getElem?_set hp _)
      (q := { (p.draw_frame c.next g).panel with
        bar := { (p.draw_frame c.next g).panel.bar with redraw := false } }) (.of_same rfl)
    simpa only [Canvas.attach, List.set_set] using hdraw

theorem Sound.release {c : Canvas} (h : c.Sound) (b : Buffer) : (c.step (.release b)).Sound := by
  show (if b ∈ c.held then _ else c).Sound
  by_cases hb : b ∈ c.held
  · rw [if_pos hb]
    have hperm : (c.held.erase b ++ (c.inflight ++ [b])).Perm c.out := by
      calc c.held.erase b ++ (c.inflight ++ [b])
          _ ~ c.held.erase b ++ b :: c.inflight :=
            List.Perm.append_left _ (List.perm_append_singleton b c.inflight)
          _ ~ b :: c.held.erase b ++ c.inflight := List.perm_middle
          _ ~ c.held ++ c.inflight := (List.perm_cons_erase hb).symm.append_right _
    exact h.under (fun j q hq => ⟨q, hq, .refl q⟩) le_rfl (fun x hx => hperm.mem_iff.mp hx)
      (hperm.nodup_iff.mpr h.nodup)
  · rw [if_neg hb]
    exact h

/-- A slot that is found for a buffer is its slot. -/
theorem slot_of_some {p : Panel} {b : Buffer} {s : Fin 2} (h : p.slot_of b = some s) :
    p.buffers s = some b := by
  unfold Panel.slot_of at h
  split_ifs at h with h0 h1
  · exact Option.some.inj h ▸ h0
  · exact Option.some.inj h ▸ h1

theorem Sound.released {c : Canvas} (h : c.Sound) (b : Buffer) : (c.step (.released b)).Sound := by
  show (if b ∈ c.inflight then _ else c).Sound
  by_cases hb : b ∈ c.inflight
  · rw [if_pos hb]
    have hperm : (b :: (c.held ++ c.inflight.erase b)).Perm c.out :=
      calc b :: (c.held ++ c.inflight.erase b)
          _ ~ c.held ++ b :: c.inflight.erase b := List.perm_middle.symm
          _ ~ c.held ++ c.inflight := (List.perm_cons_erase hb).symm.append_left _
    obtain ⟨hout, hnodup⟩ := List.nodup_cons.mp (hperm.nodup_iff.mpr h.nodup)
    have hback : Sound { c with inflight := c.inflight.erase b } :=
      h.under (fun j q hq => ⟨q, hq, .refl q⟩) le_rfl
        (fun x hx => hperm.mem_iff.mp (List.mem_cons_of_mem _ hx)) hnodup
    generalize c.panels.findIdx (fun p => (p.slot_of b).isSome) = k
    cases hk : c.panels[k]? with
    | none =>
      have hsame : c.panels.modify k (Panel.released · b) = c.panels := by
        rw [List.modify_eq_self (List.getElem?_eq_none_iff.mp hk)]
      rw [hsame]
      exact hback
    | some p =>
      have hset : c.panels.modify k (Panel.released · b) = c.panels.set k (p.released b) := by
        rw [List.modify_eq_set_getElem?, hk]
        rfl
      rw [hset]
      unfold Panel.released
      cases hslot : p.slot_of b with
      | none => exact hback.set_same hk (.refl p)
      | some s =>
        have hpooled := h.pooled k p hk
        refine hback.set hk le_rfl ⟨hpooled.1, hpooled.2, hpooled.3, hpooled.4, hpooled.5,
          hpooled.6⟩ (fun x hx hfile => ?_) fun f hf => .inl hf
        obtain ⟨hbuffer, hbusy⟩ := hback.busy k p hk x hx hfile
        have hne : x.slot ≠ s := by
          rintro rfl
          have hxb : x = b := Option.some.inj (hbuffer.symm.trans (slot_of_some hslot))
          exact hout (hxb ▸ hx)
        refine ⟨hbuffer, ?_⟩
        show Function.update p.buffer_busy s false x.slot = true
        rw [Function.update_of_ne hne]
        exact hbusy
  · rw [if_neg hb]
    exact h

/-- Every event keeps the buffers as they should be. -/
theorem sound_step {c : Canvas} (e : CanvasEvent) (h : c.Sound) : (c.step e).Sound := by
  cases e with
  | configure i current width height => exact h.modify i fun p => p.under_configure _ _ _ _
  | draw i g => exact h.draw i g
  | show_bar i => exact h.modify i fun p => .of_same rfl
  | hide_bar i => exact h.modify i Panel.under_hide_bar
  | redraw i => exact h.modify i fun p => .of_same rfl
  | reload buffer_scale height textpadding =>
    refine h.under (fun j q hq => ?_) le_rfl (fun _ hb => hb) h.nodup
    obtain ⟨p, hp, rfl⟩ := Option.map_eq_some_iff.mp (List.getElem?_map.symm.trans hq)
    exact ⟨p, hp, .of_same rfl⟩
  | release b => exact h.release b
  | released b => exact h.released b

/-! ### The law -/

/-- What bar `i` writes on a draw lies in one slot of its file and inside it, and no buffer of that
slot is held; or it lies in a file of its own, which no bar has. -/
def WritesSafe (c : Canvas) : CanvasEvent → Prop
  | .draw i g => ∀ d ∈ c.drawn i g, ∀ w ∈ d.frame.wrote,
      (∃ s : Fin 2, d.panel.shm_fd = some w.file ∧ s * d.panel.bufsize ≤ w.offset ∧
        w.offset + w.length ≤ (s + 1) * d.panel.bufsize ∧
        ∀ b ∈ c.held, b.file = w.file → b.slot ≠ s) ∨
      (∀ p ∈ c.panels, p.shm_fd ≠ some w.file) ∧ (∀ b ∈ c.held, b.file ≠ w.file) ∧
        w.offset = 0 ∧ w.length ≤ d.panel.bufsize
  | _ => True

/-- A buffer that bar `i` attaches was created with the width, the height and the stride of the
bar. -/
def AttachesFit (c : Canvas) : CanvasEvent → Prop
  | .draw i g => ∀ p ∈ c.panels[i]?, ∀ d ∈ c.drawn i g, ∀ b ∈ d.frame.attached,
      (b.width, b.height, b.stride) = (p.width, p.height, p.stride)
  | _ => True

end Canvas

/-- The pool has as many bytes as the bar needs, and was made for another shape. -/
def Panel.Stale (p : Panel) : Prop :=
  p.bufsize ≠ 0 ∧ p.pool_bufsize = p.bufsize ∧ p.shm_pool.isSome = true ∧
    ∃ s, ∃ b ∈ p.buffers s, (b.width, b.height, b.stride) ≠ (p.width, p.height, p.stride)

namespace Canvas

/-- Bar `i` draws into a free slot of such a pool. -/
def DrawsStale (c : Canvas) : CanvasEvent → Prop
  | .draw i g => ∃ p ∈ c.panels[i]?, p.bar.redraw = true ∧ p.bar.shown = true ∧
      p.configured = true ∧ p.Stale ∧ (∃ s, p.buffer_busy s = false) ∧ p.Writes g
  | _ => False

end Canvas

namespace Panel

/-- A draw changes neither the size of the bar nor that of its frames. -/
theorem Ensured.size {p q : Panel} {next n : ℕ} {ok : Bool} (h : p.Ensured next (ok, q, n)) :
    (q.bufsize, q.width, q.height, q.stride) = (p.bufsize, p.width, p.height, p.stride) := by
  cases h with
  | empty => rfl
  | kept => rfl
  | lost => rfl
  | built _ _ _ _ hdims => exact hdims

theorem Ensured.le {p q : Panel} {next n : ℕ} {ok : Bool} (h : p.Ensured next (ok, q, n)) :
    next ≤ n := by
  cases h <;> omega

theorem Painted.keeps {p : Panel} {next : ℕ} {g : Grants} {d : Drawn} (h : p.Painted next g d) :
    d.panel.bufsize = p.bufsize ∧ d.panel.shm_fd = p.shm_fd := by
  cases h <;> exact ⟨rfl, rfl⟩

/-- A free slot that can be filled is attached. -/
theorem Painted.slot_of_free {p : Panel} {next : ℕ} {g : Grants} {d : Drawn}
    (h : p.Painted next g d) {s : Fin 2} (hfree : p.buffer_busy s = false) (hw : p.Writes g) :
    ∃ t b, p.buffers t = some b ∧ d.frame.attached = some b := by
  cases h with
  | slot t file b hfile hbusy hb hwrites => exact ⟨t, b, hb, rfl⟩
  | failed t file n hfile hbusy hn hwrites => exact absurd hw hwrites
  | throwaway hbusy => exact absurd (hbusy s) (by simp [hfree])
  | dropped hbusy => exact absurd (hbusy s) (by simp [hfree])

/-- A pool of as many bytes as the bar needs is drawn into as it is. -/
theorem draw_frame_kept {p : Panel} (hshown : p.bar.shown = true ∧ p.configured = true)
    (hne : p.bufsize ≠ 0) (hsize : p.pool_bufsize = p.bufsize) (hpool : p.shm_pool.isSome = true)
    (next : ℕ) (g : Grants) : p.draw_frame next g = p.draw_into next g := by
  have hr : p.ensure_bar_shm next g = (true, p, next) := by
    rw [ensure_bar_shm, if_neg hne, if_pos ⟨hsize, hpool⟩]
  rw [draw_frame_ready hshown, hr]
  rfl

theorem inside_slot (s : Fin 2) {n bufsize : ℕ} (hn : n ≤ bufsize / 4 * 4) :
    (s : ℕ) * bufsize + n ≤ (s + 1) * bufsize := by
  have := Nat.div_mul_le_self bufsize 4
  rw [Nat.add_mul, Nat.one_mul]
  omega

end Panel

namespace Canvas

/-- What is written once there is a pool. -/
theorem Sound.paint_safe {c : Canvas} (h : c.Sound) {i : ℕ} {p : Panel} (hp : c.panels[i]? = some p)
    {g : Panel.Grants} {d : Panel.Drawn} (hd : p.Painted c.next g d) {w : Panel.Write}
    (hw : w ∈ d.frame.wrote) :
    (∃ s : Fin 2, p.shm_fd = some w.file ∧ s * p.bufsize ≤ w.offset ∧
        w.offset + w.length ≤ (s + 1) * p.bufsize ∧
        ∀ b ∈ c.held, b.file = w.file → b.slot ≠ s) ∨
      w.file = c.next ∧ w.offset = 0 ∧ w.length ≤ p.bufsize := by
  have hfd := (h.pooled i p hp).fd
  have hheld {s : Fin 2} {file : ℕ} (hfile : p.shm_pool = some file)
      (hfree : p.buffer_busy s = false) : ∀ b ∈ c.held, b.file = file → b.slot ≠ s := by
    rintro b hb rfl
    exact h.not_out hp hfree (List.mem_append_left _ hb) hfile
  cases hd with
  | slot s file b hfile hfree hb hwrites =>
    obtain rfl := Option.some.inj hw
    exact .inl ⟨s, hfd.trans hfile, le_rfl, Panel.inside_slot s le_rfl, hheld hfile hfree⟩
  | failed s file n hfile hfree hn hwrites =>
    obtain rfl := Option.some.inj hw
    exact .inl ⟨s, hfd.trans hfile, le_rfl, Panel.inside_slot s hn, hheld hfile hfree⟩
  | throwaway hbusy =>
    obtain rfl := Option.some.inj hw
    exact .inr ⟨rfl, rfl, Nat.div_mul_le_self _ _⟩
  | dropped hbusy => cases hw

theorem Sound.writesSafe {c : Canvas} (h : c.Sound) (e : CanvasEvent) : c.WritesSafe e := by
  cases e with
  | draw i g =>
    intro d hd w hw
    obtain ⟨p, hp, -, -, rfl⟩ := drawn_eq_some.mp hd
    by_cases hshown : p.bar.shown = true ∧ p.configured = true
    · have hr := p.ensured c.next g
      rw [Panel.draw_frame_ready hshown] at hw ⊢
      generalize p.ensure_bar_shm c.next g = r at hr hw ⊢
      obtain ⟨ok, q, n⟩ := r
      cases ok with
      | false => cases hw
      | true =>
        rw [if_pos rfl] at hw ⊢
        have hs := h.ensure hp hr
        have hq := getElem?_set hp q
        obtain ⟨hsize, file, hfile⟩ := hr.ready
        have hpaint := Panel.painted (hs.pooled i q hq) hsize hfile n g
        obtain ⟨hbufsize, hfd⟩ := hpaint.keeps
        rw [hbufsize, hfd]
        rcases hs.paint_safe hq hpaint hw with hslot | ⟨hnew, hoffset, hlength⟩
        · exact .inl hslot
        · have hle : c.next ≤ w.file := hnew ▸ hr.le
          refine .inr ⟨fun p' hp' hfd' => ?_, fun b hb hfile' => ?_, hoffset, hlength⟩
          · obtain ⟨j, hj⟩ := List.mem_iff_getElem?.mp hp'
            have := h.file j p' hj w.file ((h.pooled j p' hj).fd.symm.trans hfd')
            omega
          · have := h.below b (List.mem_append_left _ hb)
            omega
    · rw [Panel.draw_frame_idle hshown] at hw
      cases hw
  | _ => trivial

/-- A draw attaches a buffer of another shape exactly when it finds a pool of one. -/
theorem Sound.attachesFit_iff {c : Canvas} (h : c.Sound) (e : CanvasEvent) :
    c.AttachesFit e ↔ ¬c.DrawsStale e := by
  cases e with
  | draw i g =>
    constructor
    · rintro hfit ⟨p, hp, hredraw, hshown, hconf, hstale, ⟨t, hfree⟩, hwrites⟩
      obtain ⟨hne, hsize, hpool, s, b, hb, hdims⟩ := hstale
      have hpooled := h.pooled i p hp
      obtain ⟨file, hfile⟩ := Option.isSome_iff_exists.mp hpool
      have hd : c.drawn i g = some (p.draw_into c.next g) := drawn_eq_some.mpr
        ⟨p, hp, hredraw, hshown, Panel.draw_frame_kept ⟨hshown, hconf⟩ hne hsize hpool _ g⟩
      obtain ⟨s', b', hb', hattached⟩ :=
        (Panel.painted hpooled hsize hfile c.next g).slot_of_free hfree hwrites
      exact hdims ((hpooled.alike s s' b b' hb hb').trans (hfit p hp _ hd b' hattached))
    · intro hfresh p hp d hd b hb
      obtain ⟨p', hp', hredraw, hshown, rfl⟩ := drawn_eq_some.mp hd
      obtain rfl := Option.some.inj (hp.symm.trans hp')
      by_cases hconf : p.configured = true
      · have hr := p.ensured c.next g
        rw [Panel.draw_frame_ready ⟨hshown, hconf⟩] at hb
        generalize p.ensure_bar_shm c.next g = r at hr hb
        obtain ⟨ok, q, n⟩ := r
        cases ok with
        | false => cases hb
        | true =>
          rw [if_pos rfl] at hb
          have hs := h.ensure hp hr
          obtain ⟨hsize, file, hfile⟩ := hr.ready
          have hpaint := Panel.painted (hs.pooled i q (getElem?_set hp q)) hsize hfile n g
          have hdims : (q.width, q.height, q.stride) = (p.width, p.height, p.stride) :=
            congrArg Prod.snd hr.size
          generalize q.draw_into n g = d at hpaint hb
          cases hpaint with
          | slot s file b' hfile' hfree hb' hwrites =>
            obtain rfl := Option.some.inj hb
            cases hr with
            | kept hne hsize' hpool =>
              by_contra hstale
              exact hfresh ⟨p, hp, hredraw, hshown, hconf,
                ⟨hne, hsize', hpool, s, b', hb', hstale⟩, ⟨s, hfree⟩, hwrites⟩
            | built _ _ _ _ _ hbuffers => exact (hbuffers s b' hb').trans hdims
          | failed => cases hb
          | throwaway =>
            obtain rfl := Option.some.inj hb
            exact hdims
          | dropped => cases hb
      · rw [Panel.draw_frame_idle fun hboth => hconf hboth.2] at hb
        cases hb
  | _ => exact ⟨fun _ hstale => hstale, fun _ => trivial⟩

theorem sound_init (outputs : List (Text × Bool × ℕ)) (textpadding buffer_scale : ℕ) :
    (init outputs textpadding buffer_scale).Sound := by
  have hnew : ∀ (i : ℕ) (p : Panel), (init outputs textpadding buffer_scale).panels[i]? = some p →
      p.Pooled ∧ p.shm_pool = none := by
    intro i p hp
    obtain ⟨o, -, rfl⟩ : ∃ o, outputs[i]? = some o ∧ Panel.new o.1 o.2.1 o.2.2 textpadding = p := by
      simpa [init, BarThread.init] using hp
    exact ⟨⟨rfl, fun _ _ => rfl, fun _ h => (by cases h), fun _ _ h => (by cases h),
      fun _ h => (by cases h), fun _ _ _ _ h => (by cases h)⟩, rfl⟩
  refine ⟨fun i p hp => (hnew i p hp).1, fun i p hp b hb => ?_, fun b hb => ?_,
    fun i p hp f hf => ?_, fun i j p q hp _ _ f hf => ?_, List.nodup_nil⟩
  · cases hb
  · cases hb
  · rw [(hnew i p hp).2] at hf
    cases hf
  · rw [(hnew i p hp).2] at hf
    cases hf

end Canvas

/-- In every run a draw writes only to slots the compositor does not hold and stays inside them; and
every attached buffer has the size of its bar exactly if no draw finds a pool of as many bytes that
was made for another shape. -/
theorem bar_double_buffer (outputs : List (Text × Bool × ℕ)) (textpadding buffer_scale : ℕ)
    (es : List CanvasEvent) :
    Guarded Canvas.step Canvas.WritesSafe (.init outputs textpadding buffer_scale) es ∧
      (Guarded Canvas.step Canvas.AttachesFit (.init outputs textpadding buffer_scale) es ↔
        Guarded Canvas.step (fun c e => ¬c.DrawsStale e) (.init outputs textpadding buffer_scale)
          es) := by
  have hinit := Canvas.sound_init outputs textpadding buffer_scale
  have hall : Guarded Canvas.step (fun _ _ => True) (.init outputs textpadding buffer_scale) es :=
    guarded_of_forall (fun _ _ => trivial) _ es
  refine ⟨hall.of_inv (fun c e h _ => Canvas.sound_step e h) (fun c e h _ => h.writesSafe e) hinit,
    fun h => ?_, fun h => ?_⟩
  · exact h.of_inv (fun c e hc _ => Canvas.sound_step e hc)
      (fun c e hc hfit => (hc.attachesFit_iff e).mp hfit) hinit
  · exact h.of_inv (fun c e hc _ => Canvas.sound_step e hc)
      (fun c e hc hfresh => (hc.attachesFit_iff e).mpr hfresh) hinit

instance decidableAttachesFit (c : Canvas) (e : CanvasEvent) : Decidable (c.AttachesFit e) := by
  cases e <;> unfold Canvas.AttachesFit <;> infer_instance

/-- A bar that goes from 200 by 10 to 100 by 20 attaches a buffer of 200 by 10. -/
theorem not_bar_double_buffer : ¬∀ (outputs : List (Text × Bool × ℕ)) (textpadding buffer_scale : ℕ)
    (es : List CanvasEvent),
    Guarded Canvas.step (fun c e => c.WritesSafe e ∧ c.AttachesFit e)
      (.init outputs textpadding buffer_scale) es := by
  intro h
  let g : Panel.Grants := ⟨true, true, none, true⟩
  have hrun := h [("DP-1".toList, false, 24)] 8 1
    [.configure 0 true 200 10, .draw 0 g, .configure 0 true 100 20, .draw 0 g]
  exact absurd hrun.2.2.2.1.2 (by decide +kernel)

end Compositor
