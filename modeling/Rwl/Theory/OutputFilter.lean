import Mathlib.Tactic.Common
import Rwl.Core.Ipc
import Rwl.Theory.StatusStream

/-!
# The output filter

`status`, `subscribe` and the pushes to a subscriber filter lines of text by a prefix; neither
the keywords `all` and `selected` nor the end of a name is looked at.

* `cmd_handle_status`, `cmd_handle_subscribe`: the filter each command makes of its argument;
* `denotes`: the outputs an argument names, by the documentation;
* `FiltersExactly`: the answer, the first snapshot and every push have the lines of these outputs
  and no others; `Separates`: a filter tells their lines from all other lines.
-/

namespace Compositor

/-! ### The filter of a command -/

/-- The filter `status` makes of its argument. -/
def statusFilter (arg : Text) : Option Text := (Text.split_whitespace arg).head?

/-- The filter `subscribe` makes of its argument. -/
def subscribeFilter (arg : Text) : Option Text :=
  if Text.trim arg = [] then none else some (Text.trim arg)

theorem join_pair (a b : Text) : Text.join [a, b] = a ++ ' ' :: b := by
  simp [Text.join, List.intercalate]

theorem cmd_handle_status (arg : Text) :
    cmd_handle (Text.join ["status".toList, arg]) =
      .command ("status".toList :: Text.split_whitespace arg) := by
  have hwords : Text.split_whitespace (Text.join ["status".toList, arg]) =
      "status".toList :: Text.split_whitespace arg := by
    unfold Text.split_whitespace
    rw [join_pair, Split.tokens_append_sep _ _ (by decide)]
    exact congrArg (· ++ Split.tokens Text.is_whitespace arg)
      (Split.tokens_of_word (by decide : Text.IsWord "status".toList))
  rw [cmd_handle_eq_command, hwords]
  · rw [hwords, List.head?_cons]
    decide
  · rw [hwords, List.head?_cons]
    decide

theorem cmd_handle_subscribe (arg : Text) :
    cmd_handle (Text.join ["subscribe".toList, arg]) = .subscribe (subscribeFilter arg) := by
  -- white space after the command stays when more than white space follows
  have hline : Text.trim (Text.join ["subscribe".toList, arg]) =
      "subscribe".toList ++ Split.rtrim Text.is_whitespace (' ' :: arg) := by
    have hword (w : Text) (hw : ∀ c ∈ w, Text.is_whitespace c = false) :
        Split.rtrim Text.is_whitespace (w ++ ' ' :: arg) =
          w ++ Split.rtrim Text.is_whitespace (' ' :: arg) := by
      induction w with
      | nil => rfl
      | cons c w ih =>
        rw [List.cons_append, Split.rtrim_cons, if_neg, ih fun d hd => hw d (List.mem_cons_of_mem _ hd)]
        · rfl
        · rintro ⟨-, h⟩
          rw [hw c List.mem_cons_self] at h
          cases h
    rw [join_pair]
    change Split.trim _ ('s' :: ("ubscribe".toList ++ ' ' :: arg)) = _
    rw [Split.trim_cons (by decide), hword _ (by decide : Text.IsWord "ubscribe".toList).2]
    rfl
  have hrest : Text.trim ((Text.trim (Text.join ["subscribe".toList, arg])).drop 9) =
      Text.trim arg := by
    rw [hline, List.drop_append_of_le_length (by decide)]
    change Split.trim _ (Split.rtrim _ _) = _
    rw [Split.trim_rtrim, Split.trim_cons_sep (by decide)]
    rfl
  have hcommand : Text.trim (Text.join ["subscribe".toList, arg]) = "subscribe".toList ∨
      Text.starts_with (Text.trim (Text.join ["subscribe".toList, arg]))
        "subscribe ".toList = true := by
    rw [hline, Split.rtrim_cons]
    split_ifs
    · exact .inl (List.append_nil _)
    · refine .inr ?_
      exact List.isPrefixOf_iff_prefix.2 ⟨Split.rtrim Text.is_whitespace arg, rfl⟩
  unfold cmd_handle
  dsimp only
  rw [if_pos hcommand, hrest]
  rfl

/-- A word is its own filter. -/
theorem filters_of_word {arg : Text} (h : Text.IsWord arg) :
    statusFilter arg = some arg ∧ subscribeFilter arg = some arg := by
  have htrim : Text.trim arg = arg := Split.trim_of_word h
  constructor
  · unfold statusFilter Text.split_whitespace
    rw [Split.tokens_of_word h]
    rfl
  · unfold subscribeFilter
    rw [htrim, if_neg h.1]

/-! ### The lines of an output -/

/-- The lines that tell of one monitor. -/
def blockLines (m : MonStatus) : List Text := Text.lines (statusText [m])

theorem statusText_cons (m : MonStatus) (ms : List MonStatus) :
    statusText (m :: ms) = statusText [m] ++ statusText ms := by
  unfold statusText
  rw [← Split.unlines_append]
  simp

theorem lines_statusText (ms : List MonStatus) :
    Text.lines (statusText ms) = ms.flatMap blockLines := by
  induction ms with
  | nil => exact Split.lines_nil
  | cons m ms ih =>
    rw [statusText_cons, List.flatMap_cons, ← ih]
    exact Split.lines_append (Split.getLast?_unlines _) _

/-- The lines of a monitor whose texts stay on their lines. -/
theorem blockLines_of_oneLine {m : MonStatus} (h : m.OneLine) :
    blockLines m = m.lines.map chomp := by
  have hlines := (oneLine_iff m).1 h
  unfold blockLines statusText Text.lines
  rw [List.flatMap_cons, List.flatMap_nil, List.append_nil]
  have hread := @Split.lines_unlines_append _ _ _ '\r' _ hlines []
  rw [List.append_nil, Split.lines_nil, List.append_nil] at hread
  exact hread

/-- A filter lets a line through. -/
def passes (filter : Option Text) (l : Text) : Bool := filter.all (Text.starts_with l ·)

theorem matching_eq (filter : Option Text) (text : Text) :
    matching filter text = (Text.lines text).filter (passes filter) := by
  cases filter with
  | none => exact (List.filter_eq_self.2 fun _ _ => rfl).symm
  | some name => rfl

/-! ### The outputs an argument names -/

/-- What an output argument names: every output, the selected one, or the one with that name. -/
def denotes (arg : Text) (m : MonStatus) : Bool :=
  if arg = "all".toList then true
  else if arg = "selected".toList then m.selmon
  else decide (m.name = arg)

/-- The lines of the outputs an argument names. -/
def denotedLines (arg : Text) (ms : List MonStatus) : List Text :=
  (ms.filter (denotes arg)).flatMap blockLines

/-- What `status` answers with an argument. -/
def answered (arg text : Text) : List Text :=
  match cmd_handle (Text.join ["status".toList, arg]) with
  | .command words =>
      match cmd_dispatch words with
      | some (.status filter) => matching filter text
      | _ => []
  | _ => []

/-- What a client that subscribed with an argument is sent. -/
def pushed (arg text : Text) : List Text :=
  match cmd_handle (Text.join ["subscribe".toList, arg]) with
  | .subscribe filter => matching filter text
  | _ => []

theorem answered_eq (arg text : Text) : answered arg text = matching (statusFilter arg) text := by
  unfold answered
  rw [cmd_handle_status]
  rfl

theorem pushed_eq (arg text : Text) : pushed arg text = matching (subscribeFilter arg) text := by
  unfold pushed
  rw [cmd_handle_subscribe]

/-- A state, as far as the status stream shows it: the desk and the error of the configuration. -/
abbrev Shown := Desk × Option Text

namespace Shown

/-- What the status stream says of a state. -/
def statuses (s : Shown) : List MonStatus := s.1.statuses s.2

/-- The status stream of a state. -/
def text (s : Shown) : Text := s.1.format_status s.2

end Shown

/-- The answer of `status`, the first snapshot of `subscribe` and every later push are the lines
of the outputs the argument names. -/
structure FiltersExactly (arg : Text) (now : Shown) (later : List Shown) : Prop where
  answer : answered arg now.text = denotedLines arg now.statuses
  snapshot : pushed arg now.text = denotedLines arg now.statuses
  pushes : ∀ s ∈ later, pushed arg s.text = denotedLines arg s.statuses

/-- A filter lets the lines of the outputs the argument names through, and no others. -/
def Separates (filter : Option Text) (arg : Text) (ms : List MonStatus) : Prop :=
  ∀ m ∈ ms, ∀ l ∈ blockLines m, passes filter l = denotes arg m

theorem matching_iff (filter : Option Text) (arg : Text) (s : Shown) :
    matching filter s.text = denotedLines arg s.statuses ↔ Separates filter arg s.statuses := by
  have htext : s.text = statusText s.statuses := rfl
  rw [matching_eq, htext, lines_statusText]
  exact Split.filter_flatMap_iff s.statuses

theorem filtersExactly_iff (arg : Text) (now : Shown) (later : List Shown) :
    FiltersExactly arg now later ↔ Separates (statusFilter arg) arg now.statuses ∧
      ∀ s ∈ now :: later, Separates (subscribeFilter arg) arg s.statuses := by
  have hanswer : answered arg now.text = denotedLines arg now.statuses ↔
      Separates (statusFilter arg) arg now.statuses := by
    rw [answered_eq, matching_iff]
  have hpush (s : Shown) : pushed arg s.text = denotedLines arg s.statuses ↔
      Separates (subscribeFilter arg) arg s.statuses := by
    rw [pushed_eq, matching_iff]
  constructor
  · rintro ⟨hnow, hsnap, hlater⟩
    refine ⟨hanswer.1 hnow, fun s hs => (hpush s).1 ?_⟩
    rcases List.mem_cons.1 hs with rfl | hs
    · exact hsnap
    · exact hlater s hs
  · rintro ⟨hnow, hall⟩
    exact ⟨hanswer.2 hnow, (hpush now).2 (hall now List.mem_cons_self),
      fun s hs => (hpush s).2 (hall s (List.mem_cons_of_mem _ hs))⟩

/-! ### Words as arguments -/

theorem starts_with_before {arg : Text} (h : ' ' ∉ arg) (name rest : Text) :
    Text.starts_with (name ++ ' ' :: rest) arg = Text.starts_with name arg := by
  unfold Text.starts_with
  induction arg generalizing name with
  | nil => simp
  | cons c arg ih =>
    rw [List.mem_cons, not_or] at h
    cases name with
    | nil =>
      have hc : (c == ' ') = false := beq_false_of_ne (Ne.symm h.1)
      simp [List.isPrefixOf, hc]
    | cons d name =>
      rw [List.cons_append, List.isPrefixOf_cons_cons, List.isPrefixOf_cons_cons, ih h.2]

theorem not_mem_of_word {arg : Text} (h : Text.IsWord arg) : ' ' ∉ arg := by
  intro hspace
  exact absurd (h.2 ' ' hspace) (by decide)

/-- A word tells the lines of the named outputs apart exactly by the beginnings of the names. -/
theorem separates_of_word {arg : Text} (h : Text.IsWord arg) {ms : List MonStatus}
    (hone : ∀ m ∈ ms, m.OneLine) :
    Separates (some arg) arg ms ↔ ∀ m ∈ ms, Text.starts_with m.name arg = denotes arg m := by
  have hline (m : MonStatus) (hm : m ∈ ms) (l : Text) (hl : l ∈ blockLines m) :
      passes (some arg) l = Text.starts_with m.name arg := by
    rw [blockLines_of_oneLine (hone m hm)] at hl
    obtain ⟨l', hl', rfl⟩ := List.mem_map.1 hl
    obtain ⟨e, -, rfl⟩ := List.mem_map.1 hl'
    rw [chomp_entryLine]
    exact starts_with_before (not_mem_of_word h) m.name _
  constructor
  · intro hsep m hm
    have hfirst : ∃ l, l ∈ blockLines m := by
      rw [blockLines_of_oneLine (hone m hm)]
      exact ⟨_, List.mem_cons_self⟩
    obtain ⟨l, hl⟩ := hfirst
    rw [← hline m hm l hl]
    exact hsep m hm l hl
  · intro hnames m hm l hl
    rw [hline m hm l hl]
    exact hnames m hm

/-- `status`, `subscribe` and every push send the lines of the outputs the argument names exactly
when the filter they make of it separates these lines from the others; a word does exactly when
the names that begin with it are those of the outputs it names. -/
theorem output_filter_exact (arg : Text) (now : Shown) (later : List Shown) :
    (FiltersExactly arg now later ↔
      Separates (statusFilter arg) arg now.statuses ∧
        ∀ s ∈ now :: later, Separates (subscribeFilter arg) arg s.statuses) ∧
    (Text.IsWord arg → (∀ s ∈ now :: later, ∀ m ∈ s.statuses, m.OneLine) →
      (FiltersExactly arg now later ↔
        ∀ s ∈ now :: later, ∀ m ∈ s.statuses, Text.starts_with m.name arg = denotes arg m)) := by
  refine ⟨filtersExactly_iff arg now later, fun harg hone => ?_⟩
  obtain ⟨hstatus, hsubscribe⟩ := filters_of_word harg
  have hsep (s : Shown) (hs : s ∈ now :: later) :=
    separates_of_word harg (hone s hs)
  rw [filtersExactly_iff, hstatus, hsubscribe]
  constructor
  · rintro ⟨-, hall⟩ s hs
    exact (hsep s hs).1 (hall s hs)
  · intro hnames
    exact ⟨(hsep now List.mem_cons_self).2 (hnames now List.mem_cons_self),
      fun s hs => (hsep s hs).2 (hnames s hs)⟩

open Rwl Transition

/-- Two outputs, one named as the beginning of the other. -/
def twoPorts : Desk :=
  (run step (init (plainSetup [] []))
    [.output_added 0 (plainOutput "DP-1"), .output_added 1 (plainOutput "DP-10")]).desk

/-- The longer name tells its output from the other. -/
theorem output_filter_exact_longer :
    FiltersExactly "DP-10".toList (twoPorts, none) [(twoPorts, none)] :=
  ((output_filter_exact "DP-10".toList (twoPorts, none) [(twoPorts, none)]).2 (by decide)
    (fun s hs m hm => by
      have hnow : s = (twoPorts, none) := by simpa using hs
      subst hnow
      revert m
      decide +kernel)).2
    fun s hs m hm => by
      have hnow : s = (twoPorts, none) := by simpa using hs
      subst hnow
      revert m
      decide +kernel

/-- The shorter name asks for the lines of both outputs. -/
theorem not_output_filter_exact :
    ¬∀ env es arg, FiltersExactly arg ((run step (init env) es).desk, none) [] := by
  intro h
  have hshort := (h (plainSetup [] []) [.output_added 0 (plainOutput "DP-1"),
    .output_added 1 (plainOutput "DP-10")] "DP-1".toList).answer
  exact absurd hshort (by decide +kernel)

-- the keywords are filters like any other text
example : answered "all".toList (Shown.text (twoPorts, none)) = [] := by decide +kernel

example : pushed "selected".toList (Shown.text (twoPorts, none)) = [] := by decide +kernel

end Compositor
