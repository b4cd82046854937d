import Mathlib.Tactic.Common
import Rwl.Core.Blocks
import Rwl.Lib.Run

/-!
# Blocks refreshed by a signal

The signal numbers of the blocks are bits of a `u32`, and the settings take any `u8` for one.

* `Exact`: the refreshed blocks are those whose registered signal came, and no shift is by 32 or
  more;
* `mem_register_new_of_accepts`: numbers below 32 get the handlers the system takes;
* `refreshed_iff`: which blocks a round refreshes, whatever their numbers are;
* `InRange`: all numbers a round deals with are below 32;
* `signals_exact_iff`: exactly in the runs of such rounds every round is exact.
-/

namespace Compositor

open Transition WrappedMask

namespace BlocksThread

/-- Every number of a block has its handler, if the system took it. -/
def Registered (s : BlocksThread) : Prop :=
  ∀ b ∈ s.blocks, b.signal ≠ 0 → s.accepts b.signal = true → b.signal ∈ s.flags

/-- In the last round the blocks refreshed by a signal were those whose own registered number was
received, and no shift was by 32 or more. -/
def Exact (s : BlocksThread) : Prop :=
  s.Registered ∧ ∀ t ∈ s.last,
    (∀ (k : ℕ) (b : Block), s.blocks[k]? = some b → ∃ refreshed, t.refreshed[k]? = some refreshed ∧
      (refreshed = true ↔ b.signal ≠ 0 ∧ b.signal ∈ s.flags ∧ b.signal ∈ t.received)) ∧
    ∀ n ∈ t.shifts, n < 32

/-- The numbers of the blocks, and those with a handler, are below 32 in this round. -/
def InRange (s : BlocksThread) (e : BlocksEvent) : Prop :=
  (∀ b ∈ (s.ready e).blocks, b.signal < 32) ∧ ∀ n ∈ s.flags, n < 32

instance decidableInRange (s : BlocksThread) (e : BlocksEvent) : Decidable (s.InRange e) :=
  inferInstanceAs (Decidable (_ ∧ _))

/-! ### Handlers -/

theorem registered_start (bs : List Block) (delim : Text) (accepts : UInt8 → Bool)
    (printed : ℕ → Option Text) : (start bs delim accepts printed).Registered := by
  intro b hb hne hacc
  show b.signal ∈ blocks.register_first accepts bs
  unfold blocks.register_first
  rw [List.mem_filter, List.mem_eraseDups, List.mem_filter]
  refine ⟨⟨List.mem_map_of_mem hb, ?_⟩, hacc⟩
  exact decide_eq_true (UInt8.pos_iff_ne_zero.2 hne)

/-- A reload keeps the handlers there are. -/
theorem subset_register_new (accepts : UInt8 → Bool) (registered new_sigs : UInt32)
    (flags : List UInt8) (bs : List Block) :
    flags ⊆ blocks.register_new accepts registered new_sigs flags bs := by
  induction bs generalizing new_sigs flags with
  | nil => exact List.Subset.refl _
  | cons b bs ih =>
    unfold blocks.register_new
    simp only
    split_ifs with h hacc
    · exact List.Subset.trans (List.subset_append_left _ _) (ih _ _)
    · exact ih _ _
    · exact ih _ _

/-- A reload adds numbers of blocks only. -/
theorem mem_register_new {accepts : UInt8 → Bool} {registered new_sigs : UInt32}
    {flags : List UInt8} {bs : List Block} {n : UInt8}
    (h : n ∈ blocks.register_new accepts registered new_sigs flags bs) :
    n ∈ flags ∨ ∃ b ∈ bs, b.signal = n := by
  induction bs generalizing new_sigs flags with
  | nil => exact .inl h
  | cons b bs ih =>
    unfold blocks.register_new at h
    simp only at h
    have hlater (hb : ∃ b ∈ bs, b.signal = n) : ∃ b' ∈ b :: bs, b'.signal = n := by
      obtain ⟨b', hb', hn⟩ := hb
      exact ⟨b', List.mem_cons_of_mem _ hb', hn⟩
    split_ifs at h
    · rcases ih h with hf | hb
      · rcases List.mem_append.1 hf with hf | hf
        · exact .inl hf
        · exact .inr ⟨b, List.mem_cons_self, (List.mem_singleton.1 hf).symm⟩
      · exact .inr (hlater hb)
    · exact (ih h).imp_right hlater
    · exact (ih h).imp_right hlater

/-- Every number tried so far has its handler, if the system took it. -/
def Tried (accepts : UInt8 → Bool) (registered new_sigs : UInt32) (flags : List UInt8) : Prop :=
  ∀ n : UInt8, n < 32 → accepts n = true →
    registered.toNat.testBit (place n) = true ∨ new_sigs.toNat.testBit (place n) = true → n ∈ flags

theorem eq_of_place_eq {m n : UInt8} (hm : m < 32) (hn : n < 32) (h : place m = place n) :
    m = n := by
  rw [place_of_lt hm, place_of_lt hn] at h
  exact UInt8.toNat_inj.1 h

/-- Trying a number that was not tried. -/
theorem Tried.push {accepts : UInt8 → Bool} {registered new_sigs : UInt32} {flags : List UInt8}
    (h : Tried accepts registered new_sigs flags) {sig : UInt8} (hsig : sig < 32) :
    Tried accepts registered (new_sigs ||| bit sig)
      (if accepts sig then flags ++ [sig] else flags) := by
  have hkeep : flags ⊆ if accepts sig then flags ++ [sig] else flags := by
    split_ifs
    · exact List.subset_append_left _ _
    · exact List.Subset.refl _
  intro n hn hacc hbit
  rw [UInt32.toNat_or, Nat.testBit_or, Bool.or_eq_true, testBit_bit, decide_eq_true_eq] at hbit
  rcases hbit with hreg | hnew | hplace
  · exact hkeep (h n hn hacc (.inl hreg))
  · exact hkeep (h n hn hacc (.inr hnew))
  · obtain rfl := eq_of_place_eq hsig hn hplace
    rw [if_pos hacc]
    exact List.mem_append_right _ (List.mem_singleton_self _)

/-- Numbers below 32 get the handlers the system takes. -/
theorem mem_register_new_of_accepts {accepts : UInt8 → Bool} {registered new_sigs : UInt32}
    {flags : List UInt8} {bs : List Block} (hbelow : ∀ b ∈ bs, b.signal < 32)
    (h : Tried accepts registered new_sigs flags) {b : Block} (hb : b ∈ bs) (hne : b.signal ≠ 0)
    (hacc : accepts b.signal = true) :
    b.signal ∈ blocks.register_new accepts registered new_sigs flags bs := by
  induction bs generalizing new_sigs flags with
  | nil => cases hb
  | cons b' bs ih =>
    have hrest : ∀ b ∈ bs, b.signal < 32 := fun b hb => hbelow b (List.mem_cons_of_mem _ hb)
    have hb' : b'.signal < 32 := hbelow b' List.mem_cons_self
    unfold blocks.register_new
    simp only
    split_ifs with hcond hacc'
    · have hpush := h.push hb'
      rw [if_pos hacc'] at hpush
      rcases List.mem_cons.1 hb with rfl | hb
      · exact subset_register_new _ _ _ _ _ (List.mem_append_right _ (List.mem_singleton_self _))
      · exact ih hrest hpush hb
    · have hpush := h.push hb'
      rw [if_neg hacc'] at hpush
      rcases List.mem_cons.1 hb with rfl | hb
      · exact absurd hacc hacc'
      · exact ih hrest hpush hb
    · rcases List.mem_cons.1 hb with rfl | hb
      · -- the number was tried before, so it has its handler already
        have hpos : 0 < b.signal := UInt8.pos_iff_ne_zero.2 hne
        have hbit : registered.toNat.testBit (place b.signal) = true ∨
            new_sigs.toNat.testBit (place b.signal) = true := by
          by_contra hno
          rw [not_or, Bool.not_eq_true, Bool.not_eq_true] at hno
          exact hcond ⟨hpos, (meets_bits_iff _ _).2 hno.1, (meets_bits_iff _ _).2 hno.2⟩
        exact subset_register_new _ _ _ _ _ (h _ hb' hacc hbit)
      · exact ih hrest h hb

theorem registered_reload {s : BlocksThread} {r : BlocksReload} (hflags : ∀ n ∈ s.flags, n < 32)
    (hbelow : ∀ b ∈ r.blocks, b.signal < 32) : (s.reload r).Registered := by
  intro b hb hne hacc
  have htried : Tried r.accepts (bits s.flags) 0 s.flags := by
    intro n hn _ hbit
    rcases hbit with hbit | hbit
    · exact (exists_place_iff hflags hn).1 ((testBit_bits _ _).1 hbit)
    · rw [UInt32.toNat_zero, Nat.zero_testBit] at hbit
      cases hbit
  exact mem_register_new_of_accepts hbelow htried hb hne hacc

/-! ### One round -/

/-- Which blocks are refreshed by a signal: those with the bit of a received number. -/
theorem refreshed_iff (flags received : List UInt8) (b : Block) :
    blocks.by_signal (bits (flags.filter fun n => decide (n ∈ received))) b = true ↔
      b.signal ≠ 0 ∧ ∃ n ∈ flags, n ∈ received ∧ place n = place b.signal := by
  unfold blocks.by_signal
  rw [Bool.and_eq_true, bne_iff_ne, has_bits_iff]
  simp only [List.mem_filter, decide_eq_true_eq, and_assoc]

theorem ready_flags {s : BlocksThread} {e : BlocksEvent} {n : UInt8} (h : n ∈ (s.ready e).flags) :
    n ∈ s.flags ∨ ∃ b ∈ (s.ready e).blocks, b.signal = n := by
  cases hr : e.reload with
  | none =>
    simp only [ready, hr] at h
    exact .inl h
  | some r =>
    simp only [ready, hr] at h ⊢
    exact mem_register_new h

theorem subset_ready_flags (s : BlocksThread) (e : BlocksEvent) :
    s.flags ⊆ (s.ready e).flags := by
  cases hr : e.reload with
  | none =>
    simp only [ready, hr]
    exact List.Subset.refl _
  | some r =>
    simp only [ready, hr]
    exact subset_register_new _ _ _ _ _

variable {fast_hash : Text → ℕ} {s : BlocksThread} {e : BlocksEvent}

/-- The shifts of a round. -/
def shifts (s : BlocksThread) (e : BlocksEvent) : List UInt32 :=
  (e.reload.map s.reload_shifts).getD [] ++ (s.ready e).flags.map UInt8.toUInt32 ++
    ((s.ready e).blocks.filter fun b => b.signal != 0).map fun b => b.signal.toUInt32

theorem last_step : (s.step fast_hash e).last = some
    { received := e.received
      refreshed := (s.ready e).blocks.map
        (blocks.by_signal (bits ((s.ready e).flags.filter fun n => decide (n ∈ e.received))))
      shifts := s.shifts e } :=
  rfl

theorem toUInt32_lt_iff (n : UInt8) : n.toUInt32 < 32 ↔ n < 32 := by
  rw [UInt32.lt_iff_toNat_lt, UInt8.lt_iff_toNat_lt, UInt8.toNat_toUInt32]
  rfl

/-- All shifts of a round are below 32 exactly if its numbers are. -/
theorem shifts_lt_iff : (∀ n ∈ s.shifts e, n < 32) ↔ s.InRange e := by
  constructor
  · intro h
    constructor
    · intro b hb
      by_cases hz : b.signal = 0
      · rw [hz]
        decide
      · refine (toUInt32_lt_iff _).1 (h _ (List.mem_append_right _ ?_))
        exact List.mem_map_of_mem (List.mem_filter.2 ⟨hb, bne_iff_ne.2 hz⟩)
    · intro n hn
      refine (toUInt32_lt_iff _).1 (h _ (List.mem_append_left _ (List.mem_append_right _ ?_)))
      exact List.mem_map_of_mem (subset_ready_flags s e hn)
  · rintro ⟨hblocks, hflags⟩ n hn
    have hall (k : UInt8) (hk : k ∈ (s.ready e).flags) : k < 32 := by
      rcases ready_flags hk with hk | ⟨b, hb, rfl⟩
      · exact hflags k hk
      · exact hblocks b hb
    rcases List.mem_append.1 hn with hn | hn
    · rcases List.mem_append.1 hn with hn | hn
      · cases hr : e.reload with
        | none =>
          rw [hr] at hn
          cases hn
        | some r =>
          simp only [ready, hr, Option.map_some, Option.getD_some] at hblocks
          simp only [hr, Option.map_some, Option.getD_some, reload_shifts, List.mem_append,
            List.mem_map] at hn
          rcases hn with ⟨k, hk, rfl⟩ | ⟨b, hb, rfl⟩
          · exact (toUInt32_lt_iff k).2 (hflags k hk)
          · exact (toUInt32_lt_iff _).2 (hblocks b hb)
      · obtain ⟨k, hk, rfl⟩ := List.mem_map.1 hn
        exact (toUInt32_lt_iff k).2 (hall k hk)
    · obtain ⟨b, hb, rfl⟩ := List.mem_map.1 hn
      exact (toUInt32_lt_iff _).2 (hblocks b (List.mem_filter.1 hb).1)

theorem registered_step (hs : s.Registered) (h : s.InRange e) :
    (s.step fast_hash e).Registered := by
  show (s.ready e).Registered
  cases hr : e.reload with
  | none =>
    simp only [ready, hr]
    exact hs
  | some r =>
    obtain ⟨hblocks, hflags⟩ := h
    simp only [ready, hr] at hblocks ⊢
    exact registered_reload hflags hblocks

theorem exact_step (hs : s.Exact) (h : s.InRange e) : (s.step fast_hash e).Exact := by
  refine ⟨registered_step hs.1 h, fun t ht => ?_⟩
  rw [last_step] at ht
  cases ht
  refine ⟨fun k b hb => ?_, shifts_lt_iff.2 h⟩
  have hb : (s.ready e).blocks[k]? = some b := hb
  refine ⟨_, by rw [List.getElem?_map, hb, Option.map_some], ?_⟩
  have hmem : b ∈ (s.ready e).blocks := List.mem_of_getElem? hb
  have hflags : ∀ n ∈ (s.ready e).flags, n < 32 := fun n hn =>
    (ready_flags hn).elim (h.2 n) fun ⟨b', hb', hn⟩ => hn ▸ h.1 b' hb'
  rw [refreshed_iff]
  refine and_congr_right fun _ => ?_
  have hplace := exists_place_iff (l := (s.ready e).flags.filter fun n => decide (n ∈ e.received))
    (fun n hn => hflags n (List.mem_filter.1 hn).1) (h.1 b hmem)
  simp only [List.mem_filter, decide_eq_true_eq, and_assoc] at hplace
  exact hplace

/-- In an exact round all numbers were below 32. -/
theorem inRange_of_exact (h : (s.step fast_hash e).Exact) : s.InRange e :=
  shifts_lt_iff.1 (h.2 _ last_step).2

theorem exact_start (bs : List Block) (delim : Text) (accepts : UInt8 → Bool)
    (printed : ℕ → Option Text) : (start bs delim accepts printed).Exact :=
  ⟨registered_start bs delim accepts printed, fun _ ht => nomatch ht⟩

/-- Every round of a run refreshes the blocks whose own registered signals came, with shifts below
32, exactly if in each round the numbers of the blocks and of the handlers are below 32. -/
theorem signals_exact_iff (fast_hash : Text → ℕ) (bs : List Block) (delim : Text)
    (accepts : UInt8 → Bool) (printed : ℕ → Option Text) (es : List BlocksEvent) :
    Always (step fast_hash) Exact (start bs delim accepts printed) es ↔
      Guarded (step fast_hash) InRange (start bs delim accepts printed) es :=
  always_iff_guarded (I := fun _ => True) (fun _ _ _ _ => trivial)
    (fun _ _ _ hs => ⟨inRange_of_exact, exact_step hs⟩) trivial (exact_start _ _ _ _)

/-! ### A block with the signal 40 -/

/-- Two blocks, refreshed by the signals 40 and 8 only. -/
def fortyAndEight : List Block := [⟨[], [], 0, 40⟩, ⟨[], [], 0, 8⟩]

/-- A round in which only signal 8 came. -/
def eight : BlocksEvent := ⟨none, [8], fun _ => none⟩

/-- The system takes handlers up to `SIGRTMIN+30`; signal 8 refreshes the block of signal 40. -/
theorem not_signals_exact : ¬ ∀ es : List BlocksEvent,
    Always (step List.length) Exact
      (start fortyAndEight [] (fun n => decide (n ≤ 30)) fun _ => none) es := by
  intro h
  have hlast := (h [eight]).last.2 _ rfl
  obtain ⟨refreshed, hk, hiff⟩ := hlast.1 0 _ rfl
  obtain rfl : refreshed = true := (Option.some.inj hk).symm
  exact absurd (hiff.1 rfl).2.2 (by decide)

end BlocksThread

end Compositor
