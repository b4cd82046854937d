import Mathlib.Tactic.Common
import Rwl.Core.Watch
import Rwl.Lib.Json
import Rwl.Theory.StreamIntegrity

/-!
# The event lines

Every line is one JSON value without a line break in it, and says what it was made from.

* `string_esc`: the literal around an escaped string is read as the string;
* `WindowEntry.json`, `Report.json`: the values behind the texts; `spells_print`, `spells_line`;
* `WindowEntry.read`, `Report.read`: what the values say;
* `Desk.told`, `readStream`: what a client that watches is sent, and how it may read it;
* `json_lines`: it reads what was emitted.
-/

namespace Compositor

open Watch Json Transition

/-! ### Strings -/

namespace Watch

/-- The two hexadecimal digits of a control character. -/
theorem unit_halves {n : ℕ} (h : n < 0x20) :
    Json.unit '0' '0' (Nat.digitChar (n / 16)) (Nat.digitChar (n % 16)) = some n := by
  interval_cases n <;> rfl

theorem string_escChar (c : Char) (s : Text) :
    Json.string (escChar c ++ s) = (Json.string s).map fun r => (c :: r.1, r.2) := by
  by_cases hquote : c = '"'
  · subst hquote
    rfl
  by_cases hslash : c = '\\'
  · subst hslash
    rfl
  by_cases hnl : c = '\n'
  · subst hnl
    rfl
  by_cases hcr : c = '\r'
  · subst hcr
    rfl
  by_cases htab : c = '\t'
  · subst htab
    rfl
  by_cases hcontrol : c.toNat < 0x20
  · have hc : Char.ofNat c.toNat = c := Char.ofNat_toNat c
    have hunit := unit_halves hcontrol
    simp only [escChar, hquote, hslash, hnl, hcr, htab, hcontrol, if_true, if_false,
      List.cons_append, List.nil_append]
    rw [Json.string, hunit]
    dsimp only
    rw [if_pos (Or.inl (by omega)), hc]
  · have hplain : Json.Plain c := ⟨by omega, hquote, hslash⟩
    simp only [escChar, hquote, hslash, hnl, hcr, htab, hcontrol, if_false]
    exact Json.string_plain hplain s

/-- The literal around an escaped string is read as the string. -/
theorem string_esc (s rest : Text) :
    Json.string (esc s ++ '"' :: rest) = some (s, rest) := by
  induction s with
  | nil => rfl
  | cons c s ih =>
    have hsplit : esc (c :: s) ++ '"' :: rest = escChar c ++ (esc s ++ '"' :: rest) := by
      simp [esc]
    rw [hsplit, string_escChar, ih]
    rfl

/-- An escaped string has no line break. -/
theorem newline_notMem_esc (s : Text) : '\n' ∉ esc s := by
  intro h
  obtain ⟨c, _, hc⟩ := List.mem_flatMap.1 h
  unfold escChar at hc
  split_ifs at hc with h1 h2 h3 h4 h5 h6
  · simp at hc
  · simp at hc
  · simp at hc
  · simp at hc
  · simp at hc
  · have hdigits : ∀ n < 0x20, '\n' ∉ ['\\', 'u', '0', '0', Nat.digitChar (n / 16),
        Nat.digitChar (n % 16)] := by decide
    exact hdigits _ h6 hc
  · exact h3 (List.mem_singleton.1 hc).symm

end Watch

/-! ### Values -/

/-- A text that is read as a value and stays on its line. -/
structure Prints (t : Text) (v : Json) : Prop where
  spells : Spells t v
  oneLine : '\n' ∉ t

/-- A member that is read as it is meant and stays on its line. -/
structure Sound (m : Json.Member) : Prop where
  reads : m.Reads
  oneLine : '\n' ∉ m.spelling

/-- A member whose name is plain. -/
def plainMember (key text : Text) (val : Json) : Json.Member := ⟨key, key, text, val⟩

theorem newline_notMem_plain {t : Text} (h : Json.AllPlain t) : '\n' ∉ t := fun hmem =>
  absurd (h _ hmem) (by decide)

theorem sound_plainMember {key text : Text} {val : Json} (h : Json.AllPlain key)
    (hv : Prints text val) : Sound (plainMember key text val) where
  reads := ⟨string_plain_append h, hv.spells⟩
  oneLine := by
    have hkey := newline_notMem_plain h
    have htext := hv.oneLine
    simp [plainMember, Json.Member.spelling, hkey, htext]

theorem prints_obj {ms : List Json.Member} (h : ∀ m ∈ ms, Sound m) :
    Prints ('{' :: commaSep (ms.map Json.Member.spelling) ++ ['}'])
      (.obj (ms.map Json.Member.entry)) :=
  ⟨spells_obj fun m hm => (h m hm).reads, newline_notMem_obj fun m hm => (h m hm).oneLine⟩

/-- A string between quotes. -/
def quoted (s : Text) : Text := '"' :: esc s ++ ['"']

/-- A word between quotes, as it is. -/
def bare (t : Text) : Text := '"' :: t ++ ['"']

theorem prints_quoted (s : Text) : Prints (quoted s) (.str s) where
  spells := spells_str (string_esc s)
  oneLine := by simp [quoted, newline_notMem_esc s]

theorem prints_bare {t : Text} (h : Json.AllPlain t) : Prints (bare t) (.str t) where
  spells := spells_str (string_plain_append h)
  oneLine := by simp [bare, newline_notMem_plain h]

theorem prints_decimal (k : ℕ) : Prints (Text.decimal k) (.num k) :=
  ⟨spells_nat k, newline_notMem_toDigits k⟩

theorem prints_signed (z : ℤ) : Prints (signed z) (.num z) :=
  ⟨spells_int z, newline_notMem_intName z⟩

theorem prints_flag (b : Bool) : Prints (flag b) (.bool b) := by
  have hname : flag b = boolName b := by cases b <;> rfl
  rw [hname]
  exact ⟨spells_bool b, by cases b <;> decide⟩

theorem prints_null : Prints ['n', 'u', 'l', 'l'] .null := ⟨spells_null, by decide⟩

namespace WindowEntry

variable (e : WindowEntry)

/-- The members of the object of a window. -/
def members : List Json.Member :=
  [plainMember "app_id".toList (quoted e.app_id) (.str e.app_id),
    plainMember "title".toList (quoted e.title) (.str e.title),
    plainMember "tags".toList (Text.decimal e.tags) (.num e.tags),
    plainMember "monitor".toList (Text.decimal e.monitor) (.num e.monitor),
    plainMember "floating".toList (flag e.floating) (.bool e.floating),
    plainMember "fullscreen".toList (flag e.fullscreen) (.bool e.fullscreen),
    plainMember "focused".toList (flag e.focused) (.bool e.focused),
    plainMember "x".toList (signed e.geometry.loc.x) (.num e.geometry.loc.x),
    plainMember "y".toList (signed e.geometry.loc.y) (.num e.geometry.loc.y),
    plainMember "w".toList (signed e.geometry.size.w) (.num e.geometry.size.w),
    plainMember "h".toList (signed e.geometry.size.h) (.num e.geometry.size.h)]

/-- The value of the object of a window. -/
def json : Json := .obj (e.members.map Json.Member.entry)

theorem sound_members : ∀ m ∈ e.members, Sound m := by
  intro m hm
  simp only [members, List.mem_cons, List.not_mem_nil, or_false] at hm
  rcases hm with rfl | rfl | rfl | rfl | rfl | rfl | rfl | rfl | rfl | rfl | rfl
  · exact sound_plainMember (by decide) (prints_quoted _)
  · exact sound_plainMember (by decide) (prints_quoted _)
  · exact sound_plainMember (by decide) (prints_decimal _)
  · exact sound_plainMember (by decide) (prints_decimal _)
  · exact sound_plainMember (by decide) (prints_flag _)
  · exact sound_plainMember (by decide) (prints_flag _)
  · exact sound_plainMember (by decide) (prints_flag _)
  · exact sound_plainMember (by decide) (prints_signed _)
  · exact sound_plainMember (by decide) (prints_signed _)
  · exact sound_plainMember (by decide) (prints_signed _)
  · exact sound_plainMember (by decide) (prints_signed _)

theorem print_eq : e.print = '{' :: commaSep (e.members.map Json.Member.spelling) ++ ['}'] := by
  -- the equation of `print` is dear: its body is one long append
  delta print
  simp [members, plainMember, quoted, commaSep, Json.Member.spelling, List.intercalate]

theorem prints_print : Prints e.print e.json := by
  rw [print_eq]
  exact prints_obj e.sound_members

/-- What the object of a window says. -/
def read (v : Json) : Option WindowEntry := do
  return {
    app_id := ← (← v.field "app_id".toList).asStr
    title := ← (← v.field "title".toList).asStr
    tags := ← (← v.field "tags".toList).asNat
    monitor := ← (← v.field "monitor".toList).asNat
    floating := ← (← v.field "floating".toList).asBool
    fullscreen := ← (← v.field "fullscreen".toList).asBool
    focused := ← (← v.field "focused".toList).asBool
    geometry := ⟨⟨← (← v.field "x".toList).asInt, ← (← v.field "y".toList).asInt⟩,
      ⟨← (← v.field "w".toList).asInt, ← (← v.field "h".toList).asInt⟩⟩ }

theorem read_json : read e.json = some e := by
  simp [read, json, members, plainMember, Json.Member.entry, Json.field, List.lookup_cons]

end WindowEntry

theorem WindowAction.plain (a : WindowAction) : Json.AllPlain a.name := by
  cases a <;> decide

theorem MonitorAction.plain (a : MonitorAction) : Json.AllPlain a.name := by
  cases a <;> decide

namespace Report

/-- The first member of an event. -/
def eventMember (kind : Text) : Json.Member :=
  plainMember "event".toList (bare kind) (.str kind)

/-- The member that holds a window. -/
def windowMember (e : WindowEntry) : Json.Member := plainMember "window".toList e.print e.json

/-- The members of an event. -/
def members : Report → List Json.Member
  | .window a e => [eventMember "window".toList,
      plainMember "action".toList (bare a.name) (.str a.name), windowMember e]
  | .title e => [eventMember "title".toList, windowMember e]
  | .focus none => [eventMember "focus".toList,
      plainMember "window".toList ['n', 'u', 'l', 'l'] .null]
  | .focus (some e) => [eventMember "focus".toList, windowMember e]
  | .tag mon selected occupied => [eventMember "tag".toList,
      plainMember "monitor".toList (Text.decimal mon) (.num mon),
      plainMember "selected".toList (Text.decimal selected) (.num selected),
      plainMember "occupied".toList (Text.decimal occupied) (.num occupied)]
  | .layout mon old new => [eventMember "layout".toList,
      plainMember "monitor".toList (Text.decimal mon) (.num mon),
      plainMember "old".toList (quoted old) (.str old),
      plainMember "new".toList (quoted new) (.str new)]
  | .fullscreen e => [eventMember "fullscreen".toList, windowMember e]
  | .monitor a name => [eventMember "monitor".toList,
      plainMember "action".toList (bare a.name) (.str a.name),
      plainMember "name".toList (quoted name) (.str name)]
  | .urgency e => [eventMember "urgency".toList, windowMember e]

/-- The value of an event. -/
def json (r : Report) : Json := .obj (r.members.map Json.Member.entry)

theorem sound_eventMember {kind : Text} (h : Json.AllPlain kind) :
    Sound (eventMember kind) := sound_plainMember (by decide) (prints_bare h)

theorem sound_windowMember (e : WindowEntry) : Sound (windowMember e) :=
  sound_plainMember (by decide) e.prints_print

theorem sound_members (r : Report) : ∀ m ∈ r.members, Sound m := by
  cases r with
  | window a e =>
    simp only [members, List.forall_mem_cons]
    exact ⟨sound_eventMember (by decide), sound_plainMember (by decide) (prints_bare a.plain),
      sound_windowMember e, by simp⟩
  | title e =>
    simp only [members, List.forall_mem_cons]
    exact ⟨sound_eventMember (by decide), sound_windowMember e, by simp⟩
  | focus e =>
    cases e with
    | none =>
      simp only [members, List.forall_mem_cons]
      exact ⟨sound_eventMember (by decide), sound_plainMember (by decide) prints_null, by simp⟩
    | some e =>
      simp only [members, List.forall_mem_cons]
      exact ⟨sound_eventMember (by decide), sound_windowMember e, by simp⟩
  | tag mon selected occupied =>
    simp only [members, List.forall_mem_cons]
    exact ⟨sound_eventMember (by decide), sound_plainMember (by decide) (prints_decimal _),
      sound_plainMember (by decide) (prints_decimal _),
      sound_plainMember (by decide) (prints_decimal _), by simp⟩
  | layout mon old new =>
    simp only [members, List.forall_mem_cons]
    exact ⟨sound_eventMember (by decide), sound_plainMember (by decide) (prints_decimal _),
      sound_plainMember (by decide) (prints_quoted _),
      sound_plainMember (by decide) (prints_quoted _), by simp⟩
  | fullscreen e =>
    simp only [members, List.forall_mem_cons]
    exact ⟨sound_eventMember (by decide), sound_windowMember e, by simp⟩
  | monitor a name =>
    simp only [members, List.forall_mem_cons]
    exact ⟨sound_eventMember (by decide), sound_plainMember (by decide) (prints_bare a.plain),
      sound_plainMember (by decide) (prints_quoted _), by simp⟩
  | urgency e =>
    simp only [members, List.forall_mem_cons]
    exact ⟨sound_eventMember (by decide), sound_windowMember e, by simp⟩

theorem line_eq (r : Report) :
    r.line = '{' :: commaSep (r.members.map Json.Member.spelling) ++ ['}'] := by
  cases r with
  | focus e => cases e <;> delta line <;> simp [members, eventMember, windowMember, plainMember, bare,
      commaSep, Json.Member.spelling, List.intercalate]
  | _ => delta line; simp [members, eventMember, windowMember, plainMember, bare, quoted, commaSep,
      Json.Member.spelling, List.intercalate]

theorem prints_line (r : Report) : Prints r.line r.json := by
  rw [line_eq]
  exact prints_obj r.sound_members

/-! ### What an event says -/

def readWindowAction (t : Text) : Option WindowAction :=
  if t = "open".toList then some .opened else if t = "close".toList then some .closed else none

def readMonitorAction (t : Text) : Option MonitorAction :=
  if t = "add".toList then some .added else if t = "remove".toList then some .removed else none

/-- The window of an event, or `null`. -/
def readFocus : Json → Option (Option WindowEntry)
  | .null => some none
  | v => (WindowEntry.read v).map some

/-- The readers of the eight kinds. -/
def readers (v : Json) : List (Text × Option Report) :=
  [("window".toList, do
      let a ← (← v.field "action".toList).asStr
      return .window (← readWindowAction a) (← WindowEntry.read (← v.field "window".toList))),
    ("title".toList, do return .title (← WindowEntry.read (← v.field "window".toList))),
    ("focus".toList, do return .focus (← readFocus (← v.field "window".toList))),
    ("tag".toList, do
      let mon ← (← v.field "monitor".toList).asNat
      let selected ← (← v.field "selected".toList).asNat
      return .tag mon selected (← (← v.field "occupied".toList).asNat)),
    ("layout".toList, do
      let mon ← (← v.field "monitor".toList).asNat
      let old ← (← v.field "old".toList).asStr
      return .layout mon old (← (← v.field "new".toList).asStr)),
    ("fullscreen".toList, do return .fullscreen (← WindowEntry.read (← v.field "window".toList))),
    ("monitor".toList, do
      let a ← (← v.field "action".toList).asStr
      return .monitor (← readMonitorAction a) (← (← v.field "name".toList).asStr)),
    ("urgency".toList, do return .urgency (← WindowEntry.read (← v.field "window".toList)))]

/-- What the value of an event says. -/
def read (v : Json) : Option Report := do
  let kind ← (← v.field "event".toList).asStr
  (← (readers v).lookup kind)

@[simp] theorem readWindowAction_name (a : WindowAction) : readWindowAction a.name = some a := by
  cases a <;> decide

@[simp] theorem readMonitorAction_name (a : MonitorAction) :
    readMonitorAction a.name = some a := by
  cases a <;> decide

@[simp] theorem readFocus_null : readFocus .null = some none := rfl

@[simp] theorem readFocus_json (e : WindowEntry) : readFocus e.json = some (some e) := by
  show (WindowEntry.read e.json).map some = _
  rw [e.read_json]
  rfl

theorem read_json (r : Report) : read r.json = some r := by
  cases r with
  | focus e => cases e <;> simp [read, readers, json, members, eventMember, windowMember,
      plainMember, Json.Member.entry, Json.field, List.lookup_cons]
  | _ => simp [read, readers, json, members, eventMember, windowMember, plainMember,
      Json.Member.entry, Json.field, List.lookup_cons, WindowEntry.read_json]

end Report

/-! ### What a client reads -/

/-- The window objects of the reply to `clients`. -/
def readClients (v : Json) : Option (List WindowEntry) := v.asList WindowEntry.read

namespace Desk

/-- The reply to `clients`, without the end of its line. -/
theorem clients_json_eq (d : Desk) : d.clients_json =
    ('[' :: commaSep (d.windows.map fun w => d.window_obj w d.focused_window) ++ [']']) ++
      ['\n'] := by
  simp [clients_json, commaSep]

theorem prints_clients (d : Desk) :
    Prints ('[' :: commaSep (d.windows.map fun w => d.window_obj w d.focused_window) ++ [']'])
      (.arr ((d.windows.map fun w => d.window_entry w d.focused_window).map
        WindowEntry.json)) where
  spells := by
    refine spells_arr ?_
    rw [List.map_map, List.forall₂_map_left_iff, List.forall₂_map_right_iff, List.forall₂_same]
    exact fun w _ => (WindowEntry.prints_print _).spells
  oneLine := by
    refine newline_notMem_arr fun t ht => ?_
    obtain ⟨w, _, rfl⟩ := List.mem_map.1 ht
    exact (WindowEntry.prints_print _).oneLine

/-- What a client with a filter is told by the emissions: those of the kinds that it wants. -/
def told (filter : Option (List Text)) (es : List (Desk × Emission)) : List Report :=
  es.filterMap fun e =>
    if filter.all fun kinds => kinds.contains e.2.kind then e.1.report e.2 else none

/-- The bytes that the emitters send to a client with a filter. -/
def sent (filter : Option (List Text)) (es : List (Desk × Emission)) : List UInt8 :=
  es.flatMap fun e =>
    ((e.1.report e.2).bind fun r => Streams.eventMessage e.2.kind r.line filter).getD []

theorem sent_eq (filter : Option (List Text)) (es : List (Desk × Emission)) :
    sent filter es = Text.bytes (Split.unlines '\n' ((told filter es).map Report.line)) := by
  induction es with
  | nil => rfl
  | cons e es ih =>
    have hsplit : sent filter (e :: es) =
        ((e.1.report e.2).bind fun r => Streams.eventMessage e.2.kind r.line filter).getD [] ++
          sent filter es := rfl
    rw [hsplit, ih]
    cases hr : e.1.report e.2 with
    | none => simp [told, hr]
    | some r =>
      by_cases hwant : (filter.all fun kinds => kinds.contains e.2.kind) = true
      · have htold : told filter (e :: es) = r :: told filter es := by
          simp only [told, List.filterMap_cons, if_pos hwant, hr]
        rw [htold, List.map_cons, Split.unlines_cons, Option.bind_some, Streams.eventMessage,
          if_pos hwant, Option.getD_some, ← Text.bytes_append]
        simp
      · have htold : told filter (e :: es) = told filter es := by
          simp only [told, List.filterMap_cons, if_neg hwant]
        rw [htold, Option.bind_some, Streams.eventMessage, if_neg hwant]
        rfl

end Desk

/-! ### On the hub -/

namespace Streams

/-- The emissions as the hub sees them. -/
def events (es : List (Desk × Emission)) (answers : ℕ → List Answer) : List StreamEvent :=
  es.filterMap fun e => (e.1.report e.2).map fun r => .event e.2.kind r.line answers

/-- An emitter is a step of the streams, or none; that it looks for clients first changes
nothing. -/
theorem emit_eq_run (s : Streams) (d : Desk) (e : Emission) (answers : ℕ → List Answer) :
    s.emit d e answers = run Streams.step s (events [(d, e)] answers) := by
  cases hr : d.report e with
  | none => simp [emit, events, hr]
  | some r =>
    have hrun : run Streams.step s (events [(d, e)] answers) =
        s.fan_out e.kind r.line answers := by
      simp [events, hr, step]
    rw [hrun]
    by_cases hnone : s.event_subscribers = []
    · obtain ⟨accepted, ipc, _, writes⟩ := s
      obtain rfl : _ = [] := hnone
      simp [emit, fan_out, Hub.retain]
    · simp only [emit, if_neg hnone, hr]

/-- What the emissions address to a client that began to watch before them. -/
theorem addressedTo_events {buf : Text} {filter : Option (List Text)}
    (h : cmd_handle buf = .watch filter) (text : Text) (a : List Answer)
    (es : List (Desk × Emission)) (answers : ℕ → List Answer) :
    addressedTo 0 (.connect buf text a :: events es answers) = Desk.sent filter es := by
  have hjoin : (StreamEvent.connect buf text a).toHub =
      some (.join (.events filter) none a) := by
    simp [StreamEvent.toHub, h]
  unfold addressedTo
  rw [List.filterMap_cons, hjoin]
  show [] ++ ((events es answers).filterMap StreamEvent.toHub).flatMap
    (Hub.Event.message (.events filter)) = Desk.sent filter es
  rw [List.nil_append]
  induction es with
  | nil => rfl
  | cons e es ih =>
    have hsent : Desk.sent filter (e :: es) =
        ((e.1.report e.2).bind fun r => Streams.eventMessage e.2.kind r.line filter).getD [] ++
          Desk.sent filter es := rfl
    rw [hsent, ← ih]
    cases hr : e.1.report e.2 with
    | none => simp [events, hr]
    | some r => simp [events, hr, StreamEvent.toHub, Hub.Event.message, Audience.events?]

end Streams

/-- What a client makes of a stream: it splits it into lines and reads each as an event. The text
after the last end of line must be empty. -/
def readStream (b : List UInt8) : Option (List Report) := do
  let pieces := (← Text.from_utf8 b).splitOn '\n'
  if pieces.getLast? = some [] then
    pieces.dropLast.mapM fun line => (Json.parse line).bind Report.read
  else none

theorem Report.parse_line (r : Report) : (Json.parse r.line).bind Report.read = some r := by
  rw [r.prints_line.spells.parse]
  exact r.read_json

theorem readStream_unlines (rs : List Report) :
    readStream (Text.bytes (Split.unlines '\n' (rs.map Report.line))) = some rs := by
  have hlines : ∀ l ∈ rs.map Report.line, '\n' ∉ l := fun l hl => by
    obtain ⟨r, _, rfl⟩ := List.mem_map.1 hl
    exact r.prints_line.oneLine
  have hread : (rs.map Report.line).mapM (fun line => (Json.parse line).bind Report.read) =
      some rs := by
    induction rs with
    | nil => rfl
    | cons r rs ih =>
      have htail := ih fun l hl => hlines l (List.mem_cons_of_mem _ hl)
      simp [List.mapM_cons, r.parse_line, htail]
  simp [readStream, Text.from_utf8_bytes, Split.splitOn_unlines hlines, hread]

/-- The literal around an escaped string is read as the string; on every desk the reply to
`clients` and the line of every event are one line with one JSON value, which says what it was made
from; and what the emitters send to a client, split at the ends of lines and parsed, is the
sequence of the events that were emitted for it. -/
theorem json_lines :
    (∀ s rest : Text, Json.string (esc s ++ '"' :: rest) = some (s, rest)) ∧
    (∀ d : Desk, ∃ line v, d.clients_json = line ++ ['\n'] ∧ '\n' ∉ line ∧
      Json.parse line = some v ∧
      readClients v = some (d.windows.map fun w => d.window_entry w d.focused_window)) ∧
    (∀ r : Report, '\n' ∉ r.line ∧ ∃ v, Json.parse r.line = some v ∧ Report.read v = some r) ∧
    ∀ (filter : Option (List Text)) (es : List (Desk × Emission)),
      readStream (Desk.sent filter es) = some (Desk.told filter es) := by
  refine ⟨string_esc, fun d => ?_, fun r => ?_, fun filter es => ?_⟩
  · have hprints := d.prints_clients
    exact ⟨_, _, d.clients_json_eq, hprints.oneLine, hprints.spells.parse,
      asList_map WindowEntry.read_json _⟩
  · have hprints := r.prints_line
    exact ⟨hprints.oneLine, _, hprints.spells.parse, r.read_json⟩
  · rw [Desk.sent_eq]
    exact readStream_unlines _

end Compositor
