import Mathlib.Tactic.Common
import Mathlib.Data.List.Basic
import Rwl.Core.Bar

/-!
# The pipe of the status stream

The reader of the pipe validates every read by itself and keeps the line that is not complete for
the next time. A read that ends inside a character is dropped whole.

* `rcut_append`, `deliver_append`: where a text is cut does not depend on how it arrives;
* `kept`: the text of the reads that are valid; `poll_all`: the state after any number of reads;
* `Intact`: the bars are those of the whole stream and no text is lost;
  `intact_iff`: that is so exactly when every read is valid.
-/

namespace Compositor

/-! ### Whole lines -/

/-- The text ends its last line. -/
abbrev Ended (t : Text) : Prop := t.getLast? = some '\n'

/-- The cut after the last end of line. -/
theorem rcut_append {w r : Text} (hw : Ended w) (hr : '\n' ∉ r) : rcut (w ++ r) = some (w, r) := by
  obtain ⟨v, rfl⟩ : ∃ v, w = v ++ ['\n'] := by
    refine ⟨w.dropLast, ?_⟩
    exact (List.dropLast_append_getLast? '\n' hw).symm
  have hrev : (v ++ ['\n'] ++ r).reverse = r.reverse ++ '\n' :: v.reverse := by simp
  unfold rcut
  rw [hrev, Split.cut_append (by simpa using hr)]
  simp

theorem rcut_of_not_mem {t : Text} (h : '\n' ∉ t) : rcut t = none := by
  unfold rcut
  rw [Split.cut_of_not_mem (by simpa using h)]
  rfl

/-- Every text is whole lines and a rest. -/
theorem exists_rcut (t : Text) :
    (rcut t = none ∧ '\n' ∉ t) ∨
      ∃ w r, t = w ++ r ∧ Ended w ∧ '\n' ∉ r ∧ rcut t = some (w, r) := by
  by_cases h : '\n' ∈ t
  · right
    obtain ⟨r, v, ht, hr⟩ := List.eq_append_cons_of_mem (List.mem_reverse.2 h)
    have hsplit : t = v.reverse ++ ['\n'] ++ r.reverse := by
      rw [← List.reverse_reverse t, ht]
      simp
    have hw : Ended (v.reverse ++ ['\n']) := by simp [Ended]
    have hr' : '\n' ∉ r.reverse := by simpa using hr
    exact ⟨_, _, hsplit, hw, hr', hsplit ▸ rcut_append hw hr'⟩
  · exact .inl ⟨rcut_of_not_mem h, h⟩

theorem process_stdin_buf_append {w : Text} (hw : Ended w) (u : Text) (bars : List Bar) :
    process_stdin_buf (w ++ u) bars = process_stdin_buf u (process_stdin_buf w bars) := by
  unfold process_stdin_buf Text.lines
  rw [Split.lines_append (.inr hw), List.foldl_append]

/-- Delivering a text in two parts. -/
theorem deliver_append (t u : Text) (bars : List Bar) :
    Pipe.deliver ⟨(Pipe.deliver ⟨t, bars⟩).stdin_buf ++ u, (Pipe.deliver ⟨t, bars⟩).bars⟩ =
      Pipe.deliver ⟨t ++ u, bars⟩ := by
  rcases exists_rcut t with ⟨hcut, -⟩ | ⟨w, r, rfl, hw, -, hcut⟩
  · have hfirst : Pipe.deliver ⟨t, bars⟩ = ⟨t, bars⟩ := by
      unfold Pipe.deliver
      rw [hcut]
    rw [hfirst]
  · have hfirst : Pipe.deliver ⟨w ++ r, bars⟩ = ⟨r, process_stdin_buf w bars⟩ := by
      unfold Pipe.deliver
      rw [hcut]
    rw [hfirst, List.append_assoc]
    dsimp only
    rcases exists_rcut (r ++ u) with ⟨hcut', hnone⟩ | ⟨w', r', hsplit, hw', hr', hcut'⟩
    · unfold Pipe.deliver
      dsimp only
      rw [hcut', rcut_append hw hnone]
    · have hended : Ended (w ++ w') := by
        unfold Ended at *
        rw [List.getLast?_append, hw', Option.some_or]
      unfold Pipe.deliver
      dsimp only
      rw [hcut', hsplit, ← List.append_assoc, rcut_append hended hr']
      dsimp only
      rw [process_stdin_buf_append hw]

/-! ### Reads -/

/-- The text of the valid reads. -/
def kept (reads : List (List UInt8)) : Text := (reads.filterMap Text.from_utf8).flatten

theorem kept_append (rs us : List (List UInt8)) : kept (rs ++ us) = kept rs ++ kept us := by
  simp [kept]

theorem foldl_read (reads : List (List UInt8)) (s : Pipe) :
    reads.foldl Pipe.read s = ⟨s.stdin_buf ++ kept reads, s.bars⟩ := by
  induction reads generalizing s with
  | nil => simp [kept]
  | cons r reads ih =>
    rw [List.foldl_cons, ih]
    unfold Pipe.read
    cases hr : Text.from_utf8 r with
    | none => simp [kept, hr]
    | some t => simp [kept, hr]

/-- **The state after any number of polls is that of the kept text.** -/
theorem poll_all (polls : List (List (List UInt8))) (t : Text) (bars : List Bar) :
    polls.foldl Pipe.poll (Pipe.deliver ⟨t, bars⟩) =
      Pipe.deliver ⟨t ++ kept polls.flatten, bars⟩ := by
  induction polls generalizing t with
  | nil => simp [kept]
  | cons reads polls ih =>
    have hpoll : (Pipe.deliver ⟨t, bars⟩).poll reads = Pipe.deliver ⟨t ++ kept reads, bars⟩ := by
      unfold Pipe.poll
      rw [foldl_read, deliver_append]
    rw [List.foldl_cons, hpoll, ih, List.flatten_cons, kept_append, List.append_assoc]

/-! ### What is lost -/

/-- The text a poll hands to `process_stdin_buf`. -/
def Pipe.handed (s : Pipe) (reads : List (List UInt8)) : Text :=
  ((rcut (reads.foldl Pipe.read s).stdin_buf).map Prod.fst).getD []

/-- The text all polls hand over, and what is left at the end. -/
def Pipe.seen (s : Pipe) : List (List (List UInt8)) → Text
  | [] => s.stdin_buf
  | reads :: polls => s.handed reads ++ (s.poll reads).seen polls

theorem handed_append (s : Pipe) (reads : List (List UInt8)) :
    s.handed reads ++ (s.poll reads).stdin_buf = s.stdin_buf ++ kept reads := by
  unfold Pipe.handed Pipe.poll
  rw [foldl_read]
  dsimp only
  rcases exists_rcut (s.stdin_buf ++ kept reads) with ⟨hcut, -⟩ | ⟨w, r, hsplit, -, -, hcut⟩
  · unfold Pipe.deliver
    rw [hcut]
    rfl
  · unfold Pipe.deliver
    rw [hcut, hsplit]
    rfl

/-- What was carried over and what was kept is handed over or left. -/
theorem seen_eq (polls : List (List (List UInt8))) (s : Pipe) :
    s.seen polls = s.stdin_buf ++ kept polls.flatten := by
  induction polls generalizing s with
  | nil => simp [Pipe.seen, kept]
  | cons reads polls ih =>
    rw [Pipe.seen, ih, List.flatten_cons, kept_append, ← List.append_assoc, ← List.append_assoc,
      handed_append]

/-- The bytes that are kept. -/
theorem bytes_kept (reads : List (List UInt8)) :
    Text.bytes (kept reads) = (reads.filter fun r => (Text.from_utf8 r).isSome).flatten := by
  induction reads with
  | nil => rfl
  | cons r reads ih =>
    have hcons : kept (r :: reads) = (Text.from_utf8 r).getD [] ++ kept reads := by
      cases hr : Text.from_utf8 r <;> simp [kept, hr]
    rw [hcons, Text.bytes_append, ih]
    cases hr : Text.from_utf8 r with
    | none => simp [hr]
    | some t => simp [hr, Text.bytes_of_from_utf8 hr]

/-- Leaving out a part that is not empty makes a list shorter. -/
theorem length_flatten_filter {α : Type*} (p : List α → Bool) {l : List (List α)}
    (hne : ∀ r ∈ l, r ≠ []) :
    (l.filter p).flatten.length ≤ l.flatten.length ∧
      ((l.filter p).flatten.length = l.flatten.length → ∀ r ∈ l, p r = true) := by
  induction l with
  | nil => simp
  | cons r l ih =>
    obtain ⟨hle, heq⟩ := ih fun u hu => hne u (List.mem_cons_of_mem _ hu)
    have hpos : 0 < r.length := List.length_pos_iff.2 (hne r List.mem_cons_self)
    by_cases hr : p r = true
    · rw [List.filter_cons_of_pos hr, List.flatten_cons, List.flatten_cons, List.length_append,
        List.length_append]
      refine ⟨by omega, fun h u hu => ?_⟩
      rcases List.mem_cons.1 hu with rfl | hu
      · exact hr
      · exact heq (by omega) u hu
    · rw [List.filter_cons_of_neg hr, List.flatten_cons, List.length_append]
      exact ⟨by omega, fun h => by omega⟩

/-- All bytes are kept exactly when every read is valid. -/
theorem kept_eq_iff {reads : List (List UInt8)} (hne : ∀ r ∈ reads, r ≠ []) {t : Text}
    (ht : reads.flatten = Text.bytes t) :
    kept reads = t ↔ ∀ r ∈ reads, (Text.from_utf8 r).isSome := by
  constructor
  · intro h
    have hbytes := bytes_kept reads
    rw [h, ← ht] at hbytes
    exact (length_flatten_filter _ hne).2 (congrArg List.length hbytes).symm
  · intro h
    have hall : (reads.filter fun r => (Text.from_utf8 r).isSome) = reads :=
      List.filter_eq_self.2 h
    have hbytes := bytes_kept reads
    rw [hall, ht] at hbytes
    have hread := Text.from_utf8_bytes (kept reads)
    rw [hbytes, Text.from_utf8_bytes] at hread
    exact (Option.some.inj hread).symm

/-! ### The stream in pieces -/

/-- The reads of a stream: none is empty or longer than the buffer, and together they are the
bytes of `t`. -/
structure Reads (t : Text) (polls : List (List (List UInt8))) : Prop where
  read : ∀ r ∈ polls.flatten, r ≠ [] ∧ r.length ≤ 4096
  all : polls.flatten.flatten = Text.bytes t

/-- The bars and the carry-over are those of the whole stream at once, and the text handed over,
with what is left, is the stream. -/
structure Intact (t : Text) (polls : List (List (List UInt8))) (bars : List Bar) : Prop where
  state : polls.foldl Pipe.poll ⟨[], bars⟩ = Pipe.deliver ⟨t, bars⟩
  seen : Pipe.seen ⟨[], bars⟩ polls = t

/-- **A stream arrives intact exactly when every read is valid by itself.** -/
theorem intact_iff (t : Text) (polls : List (List (List UInt8))) (bars : List Bar)
    (h : Reads t polls) :
    Intact t polls bars ↔ ∀ r ∈ polls.flatten, (Text.from_utf8 r).isSome := by
  rw [← kept_eq_iff (fun r hr => (h.read r hr).1) h.all]
  constructor
  · intro hintact
    have hseen := hintact.seen
    rw [seen_eq, List.nil_append] at hseen
    exact hseen
  · intro hkept
    refine ⟨?_, ?_⟩
    · have hpoll := poll_all polls [] bars
      rw [List.nil_append, hkept] at hpoll
      exact hpoll
    · rw [seen_eq, List.nil_append, hkept]

/-- A title line in two reads, cut between its two words. -/
theorem intact_two_reads :
    Intact "A title ok\n".toList
      [[Text.bytes "A ti".toList], [Text.bytes "tle ok\n".toList]] [Bar.new "A".toList] :=
  (intact_iff _ _ _ ⟨by decide +kernel, by decide +kernel⟩).2 (by
    intro r hr
    simp only [List.flatten_cons, List.flatten_nil, List.cons_append, List.nil_append,
      List.mem_cons, List.not_mem_nil, or_false] at hr
    rcases hr with rfl | rfl
    · rw [Text.from_utf8_bytes]
      rfl
    · rw [Text.from_utf8_bytes]
      rfl)

/-- The first byte of a character of two bytes. -/
theorem from_utf8_half : Text.from_utf8 [0x41, 0x20, 0xC3] = none := by
  decide +kernel

/-- A title line cut inside a character loses its first half. -/
theorem not_intact :
    ¬∀ (t : Text) (polls : List (List (List UInt8))) (bars : List Bar),
      Reads t polls → Intact t polls bars := by
  intro h
  have hreads : Reads "A é\n".toList [[[0x41, 0x20, 0xC3]], [[0xA9, 0x0A]]] :=
    ⟨by decide +kernel, by decide +kernel⟩
  have hvalid := (intact_iff _ _ [] hreads).1 (h _ _ [] hreads) [0x41, 0x20, 0xC3] (by decide)
  rw [from_utf8_half] at hvalid
  cases hvalid

end Compositor
