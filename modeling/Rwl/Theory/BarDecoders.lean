import Mathlib.Tactic.Common
import Mathlib.Data.Nat.Bitwise
import Rwl.Theory.StatusStream

/-!
# The two decoders of the bar

The masks of a bar come from the `tags` line of the status stream or from the `Tag` events of
`zdwl_ipc`. `draw_bar` takes `mtags` for the active tags and `ctags` for the occupied ones; the
line fills them so, the events the other way round.

* `TagSource`: how a compositor encodes a tag in a `Tag` event, and `tagFrame`, the events of one
  frame;
* `Flushed`: no event is pending, as after every frame;
* `DecodersAgree`: the bar shows the same from both sources.
-/

namespace Compositor

/-! ### Tag events -/

theorem zdwl_tag_pending (bar : Bar) (e : TagEvent) (i : ℕ) :
    (zdwl_tag bar e).pending_ctags.testBit i =
        (bar.pending_ctags.testBit i || decide (e.tag = i ∧ e.state = TagState.Active)) ∧
      (zdwl_tag bar e).pending_mtags.testBit i =
        (bar.pending_mtags.testBit i || decide (e.tag = i ∧ 0 < e.clients)) ∧
      (zdwl_tag bar e).pending_urg.testBit i =
        (bar.pending_urg.testBit i || decide (e.tag = i ∧ e.state = TagState.Urgent)) := by
  have hne : TagState.Urgent ≠ TagState.Active := by decide
  unfold zdwl_tag
  by_cases hactive : e.state = TagState.Active <;> by_cases hurgent : e.state = TagState.Urgent <;>
    by_cases hclients : 0 < e.clients <;>
    simp_all [Nat.testBit_or, Nat.testBit_two_pow]

/-- The pending masks after some events. -/
theorem foldl_zdwl_tag (es : List TagEvent) (bar : Bar) (i : ℕ) :
    (es.foldl zdwl_tag bar).pending_ctags.testBit i =
        (bar.pending_ctags.testBit i || es.any fun e => decide (e.tag = i ∧ e.state = TagState.Active)) ∧
      (es.foldl zdwl_tag bar).pending_mtags.testBit i =
        (bar.pending_mtags.testBit i || es.any fun e => decide (e.tag = i ∧ 0 < e.clients)) ∧
      (es.foldl zdwl_tag bar).pending_urg.testBit i =
        (bar.pending_urg.testBit i || es.any fun e => decide (e.tag = i ∧ e.state = TagState.Urgent)) := by
  induction es generalizing bar with
  | nil => simp
  | cons e es ih =>
    obtain ⟨hc, hm, hu⟩ := ih (zdwl_tag bar e)
    obtain ⟨hc', hm', hu'⟩ := zdwl_tag_pending bar e i
    rw [List.foldl_cons, hc, hm, hu, hc', hm', hu']
    simp only [List.any_cons, Bool.or_assoc, and_self]

/-! ### Frames -/

/-- How the compositor at the other end writes the state of a tag, by whether it is active and
whether it is urgent. The protocol fixes the value unless it is both. -/
structure TagSource where
  state : Bool → Bool → ℕ
  active : state true false = TagState.Active
  urgent : state false true = TagState.Urgent
  plain : state false false ≠ TagState.Active ∧ state false false ≠ TagState.Urgent

/-- The `Tag` events for the `n` tags of a monitor; `clients` counts the clients of a tag. -/
def TagSource.events (src : TagSource) (n : ℕ) (clients : ℕ → ℕ) (m : MonStatus) :
    List TagEvent :=
  (List.range n).map fun i => ⟨i, src.state (m.selected.testBit i) (m.urgent.testBit i), clients i⟩

/-- One frame: its events, then `Frame`. -/
def take_frame (bar : Bar) (es : List TagEvent) : Bar := zdwl_frame (es.foldl zdwl_tag bar)

/-- Nothing is pending. -/
structure Flushed (bar : Bar) : Prop where
  ctags : bar.pending_ctags = 0
  mtags : bar.pending_mtags = 0
  urg : bar.pending_urg = 0

theorem flushed_new (name : Text) : Flushed (Bar.new name) := ⟨rfl, rfl, rfl⟩

theorem flushed_take_frame (bar : Bar) (es : List TagEvent) : Flushed (take_frame bar es) :=
  ⟨rfl, rfl, rfl⟩

/-- Nothing is pending after any number of frames. -/
theorem flushed_frames (name : Text) (fs : List (List TagEvent)) :
    Flushed (fs.foldl take_frame (Bar.new name)) := by
  rcases List.eq_nil_or_concat fs with rfl | ⟨gs, es, rfl⟩
  · exact flushed_new name
  · rw [List.concat_eq_append, List.foldl_append]
    exact flushed_take_frame _ es

/-- The masks a frame leaves. -/
theorem take_frame_masks {bar : Bar} (h : Flushed bar) (es : List TagEvent) (i : ℕ) :
    (take_frame bar es).ctags.testBit i =
        es.any (fun e => decide (e.tag = i ∧ e.state = TagState.Active)) ∧
      (take_frame bar es).mtags.testBit i = es.any (fun e => decide (e.tag = i ∧ 0 < e.clients)) ∧
      (take_frame bar es).urg.testBit i =
        es.any (fun e => decide (e.tag = i ∧ e.state = TagState.Urgent)) := by
  obtain ⟨hc, hm, hu⟩ := foldl_zdwl_tag es bar i
  rw [h.ctags, Nat.zero_testBit, Bool.false_or] at hc
  rw [h.mtags, Nat.zero_testBit, Bool.false_or] at hm
  rw [h.urg, Nat.zero_testBit, Bool.false_or] at hu
  exact ⟨hc, hm, hu⟩

/-- One event of a frame speaks of tag `i`, when there is such a tag. -/
theorem any_events (src : TagSource) (n : ℕ) (clients : ℕ → ℕ) (m : MonStatus) (i : ℕ)
    (P : TagEvent → Prop) [DecidablePred P] :
    ((src.events n clients m).any fun e => decide (e.tag = i ∧ P e)) =
      decide (i < n ∧ P ⟨i, src.state (m.selected.testBit i) (m.urgent.testBit i), clients i⟩) := by
  unfold TagSource.events
  rw [Bool.eq_iff_iff, decide_eq_true_eq, List.any_map, List.any_eq_true]
  constructor
  · rintro ⟨j, hj, hP⟩
    simp only [Function.comp_apply, decide_eq_true_eq] at hP
    obtain ⟨rfl, hP⟩ := hP
    exact ⟨List.mem_range.1 hj, hP⟩
  · rintro ⟨hi, hP⟩
    exact ⟨i, List.mem_range.2 hi, by simpa using hP⟩

/-! ### Agreement -/

/-- The masks of a monitor with `n` tags, and the number of clients of each tag. -/
structure TagsOf (n : ℕ) (clients : ℕ → ℕ) (m : MonStatus) : Prop where
  occupied : m.occupied < 2 ^ n
  selected : m.selected < 2 ^ n
  urgent : m.urgent < 2 ^ n
  clients : ∀ i < n, 0 < clients i ↔ m.occupied.testBit i = true

/-- Two bars have the same masks, so `draw_bar` shows the same tags. -/
structure SameTags (a b : Bar) : Prop where
  ctags : a.ctags = b.ctags
  mtags : a.mtags = b.mtags
  urg : a.urg = b.urg
  look : ∀ i, tag_look a.mtags a.ctags a.urg i = tag_look b.mtags b.ctags b.urg i

theorem sameTags_iff {a b : Bar} :
    SameTags a b ↔ a.ctags = b.ctags ∧ a.mtags = b.mtags ∧ a.urg = b.urg := by
  constructor
  · rintro ⟨hc, hm, hu, -⟩
    exact ⟨hc, hm, hu⟩
  · rintro ⟨hc, hm, hu⟩
    exact ⟨hc, hm, hu, fun i => by rw [hc, hm, hu]⟩

/-- A mask below `2 ^ n` is told by its first `n` bits. -/
theorem eq_iff_testBit {n a b : ℕ} (ha : ∀ i, n ≤ i → a.testBit i = false) (hb : b < 2 ^ n) :
    a = b ↔ ∀ i < n, a.testBit i = b.testBit i := by
  constructor
  · rintro rfl i -
    rfl
  · intro h
    refine Nat.eq_of_testBit_eq fun i => ?_
    by_cases hi : i < n
    · exact h i hi
    · rw [ha i (not_lt.1 hi), Nat.testBit_lt_two_pow
        (lt_of_lt_of_le hb (Nat.pow_le_pow_right (by decide) (not_lt.1 hi)))]

/-- What a frame makes of the masks, tag by tag. -/
theorem take_frame_events {bar : Bar} (h : Flushed bar) (src : TagSource) (n : ℕ)
    (clients : ℕ → ℕ) (m : MonStatus) (i : ℕ) :
    (take_frame bar (src.events n clients m)).ctags.testBit i =
        decide (i < n ∧ src.state (m.selected.testBit i) (m.urgent.testBit i) = TagState.Active) ∧
      (take_frame bar (src.events n clients m)).mtags.testBit i =
        decide (i < n ∧ 0 < clients i) ∧
      (take_frame bar (src.events n clients m)).urg.testBit i =
        decide (i < n ∧ src.state (m.selected.testBit i) (m.urgent.testBit i) =
          TagState.Urgent) := by
  obtain ⟨hc, hm, hu⟩ := take_frame_masks h (src.events n clients m) i
  refine ⟨hc.trans ?_, hm.trans ?_, hu.trans ?_⟩
  · exact any_events src n clients m i fun e => e.state = TagState.Active
  · exact any_events src n clients m i fun e => 0 < e.clients
  · exact any_events src n clients m i fun e => e.state = TagState.Urgent

/-- The masks of a frame agree with those of the status line, tag by tag. -/
theorem sameTags_iff_bits {bar : Bar} (h : Flushed bar) (src : TagSource) {n : ℕ}
    {clients : ℕ → ℕ} {m : MonStatus} (hm : TagsOf n clients m) (hrange : m.InRange) (bar' : Bar) :
    SameTags (take_frame bar (src.events n clients m)) (bar'.apply "tags".toList m.masks) ↔
      ∀ i < n, (src.state (m.selected.testBit i) (m.urgent.testBit i) = TagState.Active ↔
          m.occupied.testBit i = true) ∧
        (m.occupied.testBit i = true ↔ m.selected.testBit i = true) ∧
        (src.state (m.selected.testBit i) (m.urgent.testBit i) = TagState.Urgent ↔
          m.urgent.testBit i = true) := by
  have hstatus : bar'.apply "tags".toList m.masks = bar'.set_tags m.masks := rfl
  have hbits := take_frame_events h src n clients m
  rw [sameTags_iff, hstatus, set_tags_masks bar' hrange]
  have hhigh {b : Prop} [Decidable b] (i : ℕ) (hi : n ≤ i) : decide (i < n ∧ b) = false := by
    rw [decide_eq_false_iff_not]
    exact fun hb => absurd hb.1 (not_lt.2 hi)
  rw [eq_iff_testBit (fun i hi => ((hbits i).1).trans (hhigh i hi)) hm.occupied,
    eq_iff_testBit (fun i hi => ((hbits i).2.1).trans (hhigh i hi)) hm.selected,
    eq_iff_testBit (fun i hi => ((hbits i).2.2).trans (hhigh i hi)) hm.urgent,
    ← forall₂_and, ← forall₂_and]
  refine forall₂_congr fun i hi => ?_
  rw [(hbits i).1, (hbits i).2.1, (hbits i).2.2]
  have hiff (b : Prop) [Decidable b] (c : Bool) : decide (i < n ∧ b) = c ↔ (b ↔ c = true) := by
    simp only [hi, true_and]
    cases c <;> simp
  rw [hiff, hiff, hiff, hm.clients i hi]

/-- **The two decoders agree exactly when the occupied tags are the selected ones and none of them
is urgent.** -/
theorem decoders_agree (src : TagSource) (n : ℕ) (clients : ℕ → ℕ) (m : MonStatus)
    (hn : n ≤ 32) (hm : TagsOf n clients m) (hfocused : m.focused < u32) (name : Text)
    (fs : List (List TagEvent)) (bar : Bar) :
    SameTags (take_frame (fs.foldl take_frame (Bar.new name)) (src.events n clients m))
        (bar.apply "tags".toList m.masks) ↔
      m.occupied = m.selected ∧ m.selected &&& m.urgent = 0 := by
  have hpow : 2 ^ n ≤ u32 := Nat.pow_le_pow_right (by decide) hn
  have hrange : m.InRange := ⟨lt_of_lt_of_le hm.occupied hpow, lt_of_lt_of_le hm.selected hpow,
    hfocused, lt_of_lt_of_le hm.urgent hpow⟩
  have hne : TagState.Active ≠ TagState.Urgent := by decide
  rw [sameTags_iff_bits (flushed_frames name fs) src hm hrange]
  constructor
  · intro h
    have hocc : m.occupied = m.selected := by
      refine (eq_iff_testBit (fun i hi => ?_) hm.selected).2 fun i hi => ?_
      · exact Nat.testBit_lt_two_pow
          (lt_of_lt_of_le hm.occupied (Nat.pow_le_pow_right (by decide) hi))
      · exact Bool.eq_iff_iff.2 (h i hi).2.1
    refine ⟨hocc, Nat.eq_of_testBit_eq fun i => ?_⟩
    rw [Nat.testBit_and, Nat.zero_testBit, Bool.and_eq_false_iff]
    by_contra hboth
    rw [not_or, Bool.not_eq_false, Bool.not_eq_false] at hboth
    obtain ⟨hsel, hurg⟩ := hboth
    have hi : i < n := by
      by_contra hi
      have hlow := Nat.testBit_lt_two_pow
        (lt_of_lt_of_le hm.selected (Nat.pow_le_pow_right (by decide) (not_lt.1 hi)))
      rw [hlow] at hsel
      cases hsel
    obtain ⟨hactive, hmtags, hurgent⟩ := h i hi
    exact hne ((hactive.2 (hmtags.2 hsel)).symm.trans (hurgent.2 hurg))
  · rintro ⟨hocc, hdisjoint⟩ i hi
    have hbit : (m.selected.testBit i && m.urgent.testBit i) = false := by
      rw [← Nat.testBit_and, hdisjoint, Nat.zero_testBit]
    rw [hocc]
    cases hsel : m.selected.testBit i <;> cases hurg : m.urgent.testBit i
    · simp [src.plain.1, src.plain.2]
    · simp [src.urgent, hne.symm]
    · simp [src.active, hne]
    · rw [hsel, hurg] at hbit
      cases hbit

/-- A compositor that writes both states of a tag into one value. -/
def bitSource : TagSource where
  state active urgent := active.toNat + 2 * urgent.toNat
  active := rfl
  urgent := rfl
  plain := by decide

/-- A monitor with the given masks. -/
def maskStatus (occupied selected urgent : ℕ) : MonStatus :=
  ⟨['A'], false, [], [], false, false, true, occupied, selected, 0, urgent, []⟩

/-- Tags 1 and 3 are both viewed and occupied. -/
theorem decoders_agree_viewed :
    SameTags (take_frame (Bar.new ['A']) (bitSource.events 9 (fun i => (maskStatus 5 5 0).occupied / 2 ^ i % 2)
        (maskStatus 5 5 0)))
      ((Bar.new ['A']).apply "tags".toList (maskStatus 5 5 0).masks) :=
  (decoders_agree bitSource 9 (fun i => (maskStatus 5 5 0).occupied / 2 ^ i % 2) (maskStatus 5 5 0) (by decide)
    ⟨by decide, by decide, by decide, by decide⟩ (by decide) ['A'] [] (Bar.new ['A'])).2
      ⟨rfl, rfl⟩

/-- Tag 1 is viewed and a window is on tag 2: the events show tag 2 as the active one. -/
theorem not_decoders_agree :
    ¬∀ (src : TagSource) (n : ℕ) (clients : ℕ → ℕ) (m : MonStatus) (name : Text)
        (fs : List (List TagEvent)) (bar : Bar),
      n ≤ 32 → TagsOf n clients m → m.focused < u32 →
      SameTags (take_frame (fs.foldl take_frame (Bar.new name)) (src.events n clients m))
        (bar.apply "tags".toList m.masks) := by
  intro h
  have hsame := h bitSource 9 (fun i => if i = 1 then 1 else 0) (maskStatus 2 1 0) ['A'] []
    (Bar.new ['A']) (by decide) ⟨by decide, by decide, by decide, by decide⟩ (by decide)
  exact absurd hsame.mtags (by decide)

end Compositor
