import Mathlib.Tactic.Common
import Rwl.Lib.Run
import Rwl.Core.Step
import Rwl.Core.Status
import Rwl.Core.Bar

/-!
# What the bar reads of the status stream

The bar reads one line at a time and takes the first word for the name of an output. A title, an
application id or a layout symbol is written as it is, so one that has an end of line in it
becomes several lines.

* `OneLine`: the texts of a monitor stay on their lines;
* `told`: what the lines of a monitor make of its bar; `process_stdin_buf_text`: what the whole
  text makes of all the bars;
* `RoundTrips`: the stream has seven lines for each monitor, and every bar recovers what they say;
  `Readable`: when that is so.
-/

namespace Compositor

/-! ### Lists of bars -/

section ModifyFirst

variable {α : Type*} {p q : α → Bool} {f g : α → α}

theorem modifyFirst_id (l : List α) : modifyFirst p (fun a => a) l = l := by
  induction l with
  | nil => rfl
  | cons a l ih => simp [modifyFirst, ih]

theorem modifyFirst_comp (hf : ∀ a, p (f a) = p a) (l : List α) :
    modifyFirst p g (modifyFirst p f l) = modifyFirst p (fun a => g (f a)) l := by
  induction l with
  | nil => rfl
  | cons a l ih =>
    by_cases ha : p a = true
    · simp [modifyFirst, ha, hf]
    · simp [modifyFirst, ha, ih]

theorem find?_modifyFirst (hf : ∀ a, p (f a) = p a) (l : List α) :
    (modifyFirst p f l).find? p = (l.find? p).map f := by
  induction l with
  | nil => rfl
  | cons a l ih =>
    by_cases ha : p a = true
    · simp [modifyFirst, ha, hf]
    · simp [modifyFirst, ha, ih]

/-- Changing an element that is not looked for. -/
theorem find?_modifyFirst_of_disjoint (hp : ∀ a, p a = true → q a = false)
    (hf : ∀ a, q (f a) = q a) (l : List α) : (modifyFirst p f l).find? q = l.find? q := by
  induction l with
  | nil => rfl
  | cons a l ih =>
    by_cases ha : p a = true
    · simp [modifyFirst, ha, hf, hp a ha]
    · simp [modifyFirst, ha, List.find?_cons, ih]

theorem modifyFirst_of_none {l : List α} (h : ∀ a ∈ l, p a = false) : modifyFirst p f l = l := by
  induction l with
  | nil => rfl
  | cons a l ih =>
    have ha := h a List.mem_cons_self
    rw [modifyFirst, ha, ih fun b hb => h b (List.mem_cons_of_mem _ hb)]
    rfl

end ModifyFirst

/-! ### Ends of lines -/

/-- One carriage return off the end. -/
abbrev chomp (t : Text) : Text := Split.stripEnd '\r' t

theorem chomp_eq_self_iff {t : Text} : chomp t = t ↔ t.getLast? ≠ some '\r' := by
  unfold chomp Split.stripEnd
  split_ifs with h
  · refine ⟨fun heq => ?_, fun hne => absurd h hne⟩
    have hlen := congrArg List.length heq
    have hpos : t ≠ [] := by
      rintro rfl
      cases h
    have := List.length_pos_of_ne_nil hpos
    rw [List.length_dropLast] at hlen
    omega
  · exact ⟨fun _ => h, fun _ => rfl⟩

/-- What stands after a separator is chomped by itself. -/
theorem chomp_append_cons (l : Text) {sep : Char} (hsep : sep ≠ '\r') (t : Text) :
    chomp (l ++ sep :: t) = l ++ sep :: chomp t := by
  unfold chomp Split.stripEnd
  cases t with
  | nil =>
    have hlast : (l ++ [sep]).getLast? ≠ some '\r' := by simp [hsep]
    rw [if_neg hlast]
    rfl
  | cons c t =>
    have hlast : (l ++ sep :: c :: t).getLast? = (c :: t).getLast? := by
      rw [List.getLast?_append, List.getLast?_cons_cons]
      simp [List.getLast?_cons]
    rw [hlast]
    split_ifs
    · rw [List.dropLast_append_of_ne_nil (by simp), List.dropLast_cons_of_ne_nil (by simp)]
    · rfl

/-! ### One line -/

theorem process_line_entry {name key : Text} (hname : ' ' ∉ name) (hkey : ' ' ∉ key) (arg : Text)
    (bars : List Bar) : process_line bars (MonStatus.entryLine name (key, arg)) =
      modifyFirst (Bar.named name) (Bar.apply · key arg) bars := by
  unfold process_line MonStatus.entryLine Text.split_once
  rw [Split.cut_append hname]
  dsimp only
  rw [Split.cut_append hkey]
  rfl

/-- The keywords of the lines. -/
theorem key_of_mem_entries {m : MonStatus} {e : Text × Text} (h : e ∈ m.entries) :
    ' ' ∉ e.1 ∧ '\n' ∉ e.1 := by
  have hall : ∀ e ∈ m.entries, ' ' ∉ e.1 ∧ '\n' ∉ e.1 := by
    unfold MonStatus.entries
    simp only [List.forall_mem_cons, List.not_mem_nil, false_implies, implies_true, and_true]
    refine ⟨?_, by decide, by decide, by decide, by decide, by decide, by decide⟩
    split_ifs <;> decide
  exact hall e h

theorem named_apply (name : Text) (bar : Bar) (cmd arg : Text) :
    (bar.apply cmd arg).named name = bar.named name := by
  unfold Bar.apply
  split_ifs
  · unfold Bar.set_tags
    split <;> rfl
  · rfl
  · rfl
  · rfl
  · rfl
  · rfl

/-- Lines with one name change one bar. -/
theorem process_entries {name : Text} (hname : ' ' ∉ name) {es : List (Text × Text)}
    (hes : ∀ e ∈ es, ' ' ∉ e.1) (bars : List Bar) :
    (es.map (MonStatus.entryLine name)).foldl process_line bars =
      modifyFirst (Bar.named name) (fun bar => es.foldl (fun b e => b.apply e.1 e.2) bar) bars := by
  induction es generalizing bars with
  | nil => exact (modifyFirst_id bars).symm
  | cons e es ih =>
    have hkey := hes e List.mem_cons_self
    rw [List.map_cons, List.foldl_cons, process_line_entry hname hkey,
      ih fun u hu => hes u (List.mem_cons_of_mem _ hu),
      modifyFirst_comp fun bar => named_apply name bar _ _]
    rfl

/-! ### The lines of a monitor -/

/-- A number ends in a digit. -/
theorem chomp_decimal (n : ℕ) : chomp (Text.decimal n) = Text.decimal n := by
  rw [chomp_eq_self_iff]
  intro hlast
  exact absurd (Text.isDigit_decimal (List.mem_of_getLast? hlast)) (by decide)

theorem masks_eq (m : MonStatus) : m.masks =
    Text.decimal m.occupied ++ ' ' :: (Text.decimal m.selected ++ ' ' ::
      (Text.decimal m.focused ++ ' ' :: Text.decimal m.urgent)) := by
  simp [MonStatus.masks, Text.join, List.intercalate]

theorem chomp_masks (m : MonStatus) : chomp m.masks = m.masks := by
  rw [masks_eq, chomp_append_cons _ (by decide), chomp_append_cons _ (by decide),
    chomp_append_cons _ (by decide), chomp_decimal]

/-- The masks are 32-bit values. -/
structure MonStatus.InRange (m : MonStatus) : Prop where
  occupied : m.occupied < u32
  selected : m.selected < u32
  focused : m.focused < u32
  urgent : m.urgent < u32

/-- The numbers of the `tags` line. -/
theorem parse_masks {m : MonStatus} (h : m.InRange) :
    (Text.split_whitespace m.masks).filterMap (Text.parse_uint u32) =
      [m.occupied, m.selected, m.focused, m.urgent] := by
  have hwords : Text.split_whitespace m.masks = [Text.decimal m.occupied,
      Text.decimal m.selected, Text.decimal m.focused, Text.decimal m.urgent] := by
    refine (Split.tokens_intercalate_iff (by decide) _).2 fun t ht => ?_
    simp only [List.mem_cons, List.not_mem_nil, or_false] at ht
    rcases ht with rfl | rfl | rfl | rfl <;> exact Text.isWord_decimal _
  rw [hwords]
  simp [Text.parse_decimal h.occupied, Text.parse_decimal h.selected,
    Text.parse_decimal h.focused, Text.parse_decimal h.urgent]

/-- What the lines of a monitor make of its bar. -/
def told (m : MonStatus) (bar : Bar) : Bar :=
  { bar with
    window_title := some (chomp m.title)
    title_is_error := m.title_error
    sel := m.selmon.toNat
    ctags := m.occupied
    mtags := m.selected
    urg := m.urgent
    layout := some (chomp m.layout)
    redraw := true }

theorem set_sel_flag (bar : Bar) (b : Bool) : bar.set_sel (MonStatus.flag b) =
    { bar with sel := b.toNat, redraw := bar.redraw || decide (b.toNat ≠ bar.sel) } := by
  have hv : (Text.parse_uint u32 (Text.trim (MonStatus.flag b))).getD 0 = b.toNat := by
    cases b <;> decide +kernel
  unfold Bar.set_sel
  rw [hv]

theorem set_tags_masks (bar : Bar) {m : MonStatus} (h : m.InRange) : bar.set_tags m.masks =
    { bar with
      ctags := m.occupied
      mtags := m.selected
      urg := m.urgent
      redraw := bar.redraw || decide (m.occupied ≠ bar.ctags) ||
        decide (m.selected ≠ bar.mtags) || decide (m.urgent ≠ bar.urg) } := by
  unfold Bar.set_tags
  rw [parse_masks h]

theorem apply_entries {m : MonStatus} (h : m.InRange) (bar : Bar) :
    (m.entries.map fun e => (e.1, chomp e.2)).foldl (fun b e => b.apply e.1 e.2) bar =
      told m bar := by
  have hsel (b : Bar) : b.apply "selmon".toList (chomp (MonStatus.flag m.selmon)) =
      b.set_sel (MonStatus.flag m.selmon) := by
    rw [MonStatus.flag, chomp_decimal]
    rfl
  have htags (b : Bar) : b.apply "tags".toList (chomp m.masks) = b.set_tags m.masks := by
    rw [chomp_masks]
    rfl
  have htitle (b : Bar) :
      b.apply (if m.title_error then "title_error".toList else "title".toList) (chomp m.title) =
        { b with window_title := some (chomp m.title), title_is_error := m.title_error,
                 redraw := true } := by
    cases m.title_error <;> rfl
  have hlayout (b : Bar) (arg : Text) :
      b.apply "layout".toList arg = { b with layout := some arg, redraw := true } := rfl
  have happid (b : Bar) (arg : Text) : b.apply "appid".toList arg = b := rfl
  have hfullscreen (b : Bar) (arg : Text) : b.apply "fullscreen".toList arg = b := rfl
  have hfloating (b : Bar) (arg : Text) : b.apply "floating".toList arg = b := rfl
  unfold MonStatus.entries
  simp only [List.map_cons, List.map_nil, List.foldl_cons, List.foldl_nil, htitle, happid,
    hfullscreen, hfloating, hsel, htags, hlayout, set_sel_flag, set_tags_masks _ h]
  rfl

theorem chomp_entryLine (name : Text) (e : Text × Text) :
    chomp (MonStatus.entryLine name e) = MonStatus.entryLine name (e.1, chomp e.2) := by
  unfold MonStatus.entryLine
  rw [chomp_append_cons _ (by decide), chomp_append_cons _ (by decide)]

/-- What the lines of a monitor make of the bars. -/
theorem process_lines {m : MonStatus} (h : m.InRange) (hname : ' ' ∉ m.name) (bars : List Bar) :
    (m.lines.map chomp).foldl process_line bars = modifyFirst (Bar.named m.name) (told m) bars := by
  have hlines : m.lines.map chomp =
      (m.entries.map fun e => (e.1, chomp e.2)).map (MonStatus.entryLine m.name) := by
    unfold MonStatus.lines
    rw [List.map_map, List.map_map]
    exact List.map_congr_left fun e _ => chomp_entryLine m.name e
  have hkeys : ∀ e ∈ m.entries.map fun e => (e.1, chomp e.2), ' ' ∉ e.1 := by
    intro e he
    obtain ⟨u, hu, rfl⟩ := List.mem_map.1 he
    exact (key_of_mem_entries hu).1
  rw [hlines, process_entries hname hkeys]
  exact congrArg (fun f => modifyFirst (Bar.named m.name) f bars)
    (funext fun bar => apply_entries h bar)

/-! ### The whole text -/

/-- The text of the status stream. -/
def statusText (ms : List MonStatus) : Text := Split.unlines '\n' (ms.flatMap MonStatus.lines)

theorem format_status_eq (d : Desk) (err : Option Text) :
    d.format_status err = statusText (d.statuses err) := rfl

/-- The texts of a monitor stay on their lines. -/
structure MonStatus.OneLine (m : MonStatus) : Prop where
  name : '\n' ∉ m.name
  title : '\n' ∉ m.title
  appid : '\n' ∉ m.appid
  layout : '\n' ∉ m.layout

theorem not_mem_decimal {c : Char} (h : c.isDigit = false) (n : ℕ) : c ∉ Text.decimal n := by
  intro hc
  rw [Text.isDigit_decimal hc] at h
  cases h

theorem oneLine_iff (m : MonStatus) : m.OneLine ↔ ∀ l ∈ m.lines, '\n' ∉ l := by
  have hline (e : Text × Text) (he : e ∈ m.entries) :
      '\n' ∉ MonStatus.entryLine m.name e ↔ '\n' ∉ m.name ∧ '\n' ∉ e.2 := by
    have hkey := (key_of_mem_entries he).2
    unfold MonStatus.entryLine
    simp [hkey]
  have hmasks : '\n' ∉ m.masks := by
    rw [masks_eq]
    simp [not_mem_decimal (c := '\n') (by decide)]
  unfold MonStatus.lines
  rw [List.forall_mem_map]
  constructor
  · intro h e he
    rw [hline e he]
    refine ⟨h.name, ?_⟩
    unfold MonStatus.entries at he
    simp only [List.mem_cons, List.not_mem_nil, or_false] at he
    rcases he with rfl | rfl | rfl | rfl | rfl | rfl | rfl
    · exact h.title
    · exact h.appid
    · exact not_mem_decimal (by decide) _
    · exact not_mem_decimal (by decide) _
    · exact not_mem_decimal (by decide) _
    · exact hmasks
    · exact h.layout
  · intro h
    have hone (e : Text × Text) (he : e ∈ m.entries) := (hline e he).1 (h e he)
    exact ⟨(hone _ List.mem_cons_self).1, (hone _ List.mem_cons_self).2,
      (hone ("appid".toList, m.appid) (List.mem_of_getElem? (i := 1) rfl)).2,
      (hone ("layout".toList, m.layout) (List.mem_of_getElem? (i := 6) rfl)).2⟩

instance (m : MonStatus) : Decidable m.OneLine := decidable_of_iff _ (oneLine_iff m).symm

/-- What the text makes of the bars. -/
theorem process_stdin_buf_text {ms : List MonStatus} (hrange : ∀ m ∈ ms, m.InRange)
    (hname : ∀ m ∈ ms, ' ' ∉ m.name) (hone : ∀ m ∈ ms, m.OneLine) (bars : List Bar) :
    process_stdin_buf (statusText ms) bars =
      ms.foldl (fun bars m => modifyFirst (Bar.named m.name) (told m) bars) bars := by
  have hfree : ∀ l ∈ ms.flatMap MonStatus.lines, '\n' ∉ l := by
    intro l hl
    obtain ⟨m, hm, hl⟩ := List.mem_flatMap.1 hl
    exact (oneLine_iff m).1 (hone m hm) l hl
  have hlines : Text.lines (statusText ms) = (ms.flatMap MonStatus.lines).map chomp := by
    have h := @Split.lines_unlines_append _ _ _ '\r' _ hfree []
    rw [List.append_nil, Split.lines_nil, List.append_nil] at h
    exact h
  unfold process_stdin_buf
  rw [hlines]
  clear hlines hfree hone
  induction ms generalizing bars with
  | nil => rfl
  | cons m ms ih =>
    rw [List.flatMap_cons, List.map_append, List.foldl_append,
      process_lines (hrange m List.mem_cons_self) (hname m List.mem_cons_self), List.foldl_cons]
    exact ih (fun u hu => hrange u (List.mem_cons_of_mem _ hu))
      (fun u hu => hname u (List.mem_cons_of_mem _ hu)) _

theorem named_told (name : Text) (m : MonStatus) (bar : Bar) :
    (told m bar).named name = bar.named name := rfl

/-- The bar of an output hears of the monitors with its name. -/
theorem find?_named_foldl (name : Text) (ms : List MonStatus) (bars : List Bar) :
    (ms.foldl (fun bars m => modifyFirst (Bar.named m.name) (told m) bars) bars).find?
        (Bar.named name) =
      (bars.find? (Bar.named name)).map fun bar =>
        (ms.filter fun m => decide (m.name = name)).foldl (fun b m => told m b) bar := by
  induction ms generalizing bars with
  | nil => simp
  | cons m ms ih =>
    rw [List.foldl_cons, ih]
    by_cases hm : m.name = name
    · subst hm
      rw [find?_modifyFirst fun bar => named_told m.name m bar, Option.map_map,
        List.filter_cons_of_pos (by simp)]
      rfl
    · have hother (bar : Bar) (hbar : bar.named m.name = true) : bar.named name = false := by
        unfold Bar.named at *
        simp only [Bool.and_eq_true, decide_eq_true_eq] at hbar
        simp [hbar.2, hm]
      rw [find?_modifyFirst_of_disjoint hother (fun bar => named_told name m bar),
        List.filter_cons_of_neg (by simpa using hm)]

/-! ### The round trip -/

/-- The bar shows what the lines of a monitor say. -/
structure Recovered (m : MonStatus) (bar : Bar) : Prop where
  title : bar.window_title = some m.title
  title_is_error : bar.title_is_error = m.title_error
  sel : bar.sel = m.selmon.toNat
  occupied : bar.ctags = m.occupied
  selected : bar.mtags = m.selected
  urgent : bar.urg = m.urgent
  layout : bar.layout = some m.layout

/-- The text is seven lines for each monitor, and every bar of a monitor recovers what they
say. -/
structure RoundTrips (text : Text) (ms : List MonStatus) : Prop where
  lines : text.splitOn '\n' = ms.flatMap MonStatus.lines ++ [[]]
  bars : ∀ bars, ∀ m ∈ ms, ∀ bar,
    (process_stdin_buf text bars).find? (Bar.named m.name) = some bar → Recovered m bar

/-- What a bar can recover of a monitor. -/
def MonStatus.said (m : MonStatus) : Text × Bool × Bool × ℕ × ℕ × ℕ × Text :=
  (m.title, m.title_error, m.selmon, m.occupied, m.selected, m.urgent, m.layout)

/-- No text has an end of line in it, no name has a space, a title and a layout symbol do not end
in a carriage return, and monitors of one name say the same. -/
structure Readable (ms : List MonStatus) : Prop where
  oneLine : ∀ m ∈ ms, m.OneLine
  name : ∀ m ∈ ms, ' ' ∉ m.name
  title : ∀ m ∈ ms, m.title.getLast? ≠ some '\r'
  layout : ∀ m ∈ ms, m.layout.getLast? ≠ some '\r'
  same : ∀ m ∈ ms, ∀ m' ∈ ms, m.name = m'.name → m.said = m'.said

theorem Recovered.said {m m' : MonStatus} {bar : Bar} (h : Recovered m bar)
    (h' : Recovered m' bar) : m.said = m'.said := by
  have htitle : m.title = m'.title := Option.some.inj (h.title.symm.trans h'.title)
  have hsel : m.selmon = m'.selmon := by
    have hnat : m.selmon.toNat = m'.selmon.toNat := h.sel.symm.trans h'.sel
    revert hnat
    cases m.selmon <;> cases m'.selmon <;> simp
  have hlayout : m.layout = m'.layout := Option.some.inj (h.layout.symm.trans h'.layout)
  unfold MonStatus.said
  rw [htitle, hsel, hlayout, h.title_is_error.symm.trans h'.title_is_error,
    h.occupied.symm.trans h'.occupied, h.selected.symm.trans h'.selected,
    h.urgent.symm.trans h'.urgent]

/-- A bar that heard of some monitors shows what the last of them said. -/
theorem foldl_told {l : List MonStatus} (hl : l ≠ []) (bar : Bar) :
    ∃ m ∈ l, ∃ b, l.foldl (fun b m => told m b) bar = told m b := by
  rcases List.eq_nil_or_concat l with rfl | ⟨ms, m, rfl⟩
  · exact absurd rfl hl
  · refine ⟨m, by simp, ms.foldl (fun b m => told m b) bar, ?_⟩
    rw [List.concat_eq_append, List.foldl_append]
    rfl

/-- A bar whose name has a space in it hears nothing. -/
theorem process_new_of_space {name : Text} (h : ' ' ∈ name) (buf : Text) :
    process_stdin_buf buf [Bar.new name] = [Bar.new name] := by
  have hline (line : Text) : process_line [Bar.new name] line = [Bar.new name] := by
    unfold process_line
    cases hcut : Text.split_once line with
    | none => rfl
    | some c =>
      have hfree := (Split.cut_eq_some hcut).2
      refine modifyFirst_of_none fun bar hbar => ?_
      rw [List.mem_singleton.1 hbar]
      have hne : ¬some name = some c.1 := by
        intro heq
        rw [Option.some.inj heq] at h
        exact hfree h
      simp [Bar.named, Bar.new, hne]
  unfold process_stdin_buf
  induction Text.lines buf with
  | nil => rfl
  | cons l ls ih => rw [List.foldl_cons, hline, ih]

theorem named_new (name : Text) : [Bar.new name].find? (Bar.named name) = some (Bar.new name) := by
  simp [Bar.named, Bar.new]

/-- What the bar of a monitor ends with. -/
theorem find?_text {ms : List MonStatus} (hrange : ∀ m ∈ ms, m.InRange)
    (hname : ∀ m ∈ ms, ' ' ∉ m.name) (hone : ∀ m ∈ ms, m.OneLine) {bars : List Bar}
    {m : MonStatus} (hm : m ∈ ms) {bar : Bar}
    (h : (process_stdin_buf (statusText ms) bars).find? (Bar.named m.name) = some bar) :
    ∃ m' ∈ ms, m'.name = m.name ∧ ∃ b, bar = told m' b := by
  rw [process_stdin_buf_text hrange hname hone, find?_named_foldl] at h
  obtain ⟨b, -, hb⟩ := Option.map_eq_some_iff.1 h
  have hne : (ms.filter fun u => decide (u.name = m.name)) ≠ [] :=
    List.ne_nil_of_mem (List.mem_filter.2 ⟨hm, by simp⟩)
  obtain ⟨m', hm', b', hlast⟩ := foldl_told hne b
  obtain ⟨hmem, hsame⟩ := List.mem_filter.1 hm'
  exact ⟨m', hmem, of_decide_eq_true hsame, b', hb.symm.trans hlast⟩

theorem round_trips_iff {ms : List MonStatus} (hrange : ∀ m ∈ ms, m.InRange) :
    RoundTrips (statusText ms) ms ↔ Readable ms := by
  constructor
  · intro h
    have hone : ∀ m ∈ ms, m.OneLine := by
      intro m hm
      rw [oneLine_iff]
      intro l hl
      have hmem : l ∈ (statusText ms).splitOn '\n' := by
        rw [h.lines]
        exact List.mem_append_left _ (List.mem_flatMap.2 ⟨m, hm, hl⟩)
      intro hnl
      have hpiece := Split.mem_splitOnP hmem '\n' hnl
      cases hpiece
    have hname : ∀ m ∈ ms, ' ' ∉ m.name := by
      intro m hm hspace
      have hbar := h.bars [Bar.new m.name] m hm (Bar.new m.name)
        (by rw [process_new_of_space hspace, named_new])
      cases hbar.title
    -- what the bar of a monitor ends with is what some monitor said
    have hend : ∀ m ∈ ms, ∃ m' ∈ ms, m'.name = m.name ∧ ∃ b,
        (process_stdin_buf (statusText ms) [Bar.new m.name]).find? (Bar.named m.name) =
          some (told m' b) := by
      intro m hm
      have hsome : ∃ bar, (process_stdin_buf (statusText ms) [Bar.new m.name]).find?
          (Bar.named m.name) = some bar := by
        rw [process_stdin_buf_text hrange hname hone, find?_named_foldl, named_new]
        exact ⟨_, rfl⟩
      obtain ⟨bar, hbar⟩ := hsome
      obtain ⟨m', hm', hsame, b, rfl⟩ := find?_text hrange hname hone hm hbar
      exact ⟨m', hm', hsame, b, hbar⟩
    have hfixed : ∀ m ∈ ms, chomp m.title = m.title ∧ chomp m.layout = m.layout := by
      intro m hm
      obtain ⟨m', hm', hsame, b, hbar⟩ := hend m hm
      have hrec := h.bars _ m hm _ hbar
      have hrec' := h.bars [Bar.new m.name] m' hm' (told m' b) (by rw [hsame]; exact hbar)
      have htitle : chomp m'.title = m.title := Option.some.inj hrec.title
      have htitle' : chomp m'.title = m'.title := Option.some.inj hrec'.title
      have hlayout : chomp m'.layout = m.layout := Option.some.inj hrec.layout
      have hlayout' : chomp m'.layout = m'.layout := Option.some.inj hrec'.layout
      rw [← htitle, ← hlayout]
      exact ⟨congrArg chomp htitle', congrArg chomp hlayout'⟩
    refine ⟨hone, hname, fun m hm => chomp_eq_self_iff.1 (hfixed m hm).1,
      fun m hm => chomp_eq_self_iff.1 (hfixed m hm).2, fun m hm u hu hsame => ?_⟩
    obtain ⟨m', hm', -, b, hbar⟩ := hend m hm
    exact (h.bars _ m hm _ hbar).said (h.bars _ u hu _ (hsame ▸ hbar))
  · intro h
    have hfree : ∀ l ∈ ms.flatMap MonStatus.lines, '\n' ∉ l := by
      intro l hl
      obtain ⟨m, hm, hl⟩ := List.mem_flatMap.1 hl
      exact (oneLine_iff m).1 (h.oneLine m hm) l hl
    refine ⟨Split.splitOn_unlines hfree, fun bars m hm bar hbar => ?_⟩
    obtain ⟨m', hm', hsame, b, rfl⟩ := find?_text hrange h.name h.oneLine hm hbar
    have hsaid := h.same m' hm' m hm hsame
    unfold MonStatus.said at hsaid
    simp only [Prod.mk.injEq] at hsaid
    obtain ⟨htitle, herror, hsel, hocc, hselected, hurgent, hlayout⟩ := hsaid
    have htitle' : chomp m'.title = m'.title := chomp_eq_self_iff.2 (h.title m' hm')
    have hlayout' : chomp m'.layout = m'.layout := chomp_eq_self_iff.2 (h.layout m' hm')
    refine ⟨?_, herror, ?_, hocc, hselected, hurgent, ?_⟩
    · exact congrArg some (htitle'.trans htitle)
    · exact congrArg Bool.toNat hsel
    · exact congrArg some (hlayout'.trans hlayout)

/-! ### The stream of a desk -/

namespace Desk

/-- The tags of monitors and windows are 32-bit values. -/
structure TagsU32 (d : Desk) : Prop where
  monitors : ∀ m ∈ d.monitors, m.tags < u32
  windows : ∀ w, (d.st w).tags < u32

variable {d : Desk}

theorem TagsU32.per_mon_tags (h : d.TagsU32) (i : ℕ) :
    (d.per_mon_tags i).1 < u32 ∧ (d.per_mon_tags i).2 < u32 := by
  have hslot (l : List WinId) (slot : ℕ × ℕ) (hs : slot.1 < u32 ∧ slot.2 < u32) :
      (l.foldl (fun slot w => (slot.1 ||| (d.st w).tags,
        if (d.st w).is_urgent then slot.2 ||| (d.st w).tags else slot.2)) slot).1 < u32 ∧
      (l.foldl (fun slot w => (slot.1 ||| (d.st w).tags,
        if (d.st w).is_urgent then slot.2 ||| (d.st w).tags else slot.2)) slot).2 < u32 := by
    induction l generalizing slot with
    | nil => exact hs
    | cons w l ih =>
      refine ih _ ⟨Nat.or_lt_two_pow hs.1 (h.windows w), ?_⟩
      dsimp only
      split_ifs
      · exact Nat.or_lt_two_pow hs.2 (h.windows w)
      · exact hs.2
  exact hslot _ (0, 0) ⟨by decide, by decide⟩

theorem TagsU32.inRange (h : d.TagsU32) (err : Option Text) : ∀ m ∈ d.statuses err, m.InRange := by
  intro m hm
  obtain ⟨i, hi, rfl⟩ := List.mem_mapIdx.1 hm
  obtain ⟨hocc, hurg⟩ := h.per_mon_tags i
  refine ⟨lt_of_le_of_lt Nat.and_le_left hocc, h.monitors _ (List.getElem_mem hi), ?_,
    lt_of_le_of_lt Nat.and_le_left hurg⟩
  change (((d.focused_on i d.monitors[i]).map d.st).map WindowState.tags).getD 0 < u32
  cases d.focused_on i d.monitors[i] with
  | none => exact (by decide : 0 < u32)
  | some w => exact h.windows w

/-- **The status stream makes its round trip exactly when what it says is readable.** -/
theorem status_round_trip (d : Desk) (err : Option Text) (h : d.TagsU32) :
    RoundTrips (d.format_status err) (d.statuses err) ↔ Readable (d.statuses err) :=
  round_trips_iff (h.inRange err)

open Rwl Transition

/-- A window on one monitor, with spaces in its title. -/
def editorDesk : Desk :=
  { initDesk (plainSetup [] []) with
    monitors := (run step (init (plainSetup [] [])) [.output_added 0 (plainOutput "A")]).desk.monitors
    output := fun _ => plainOutput "A"
    windows := [0]
    focus_stack := [0]
    st := fun _ => { WindowState.new with tags := 1, last_title := some " vi  notes" } }

theorem tagsU32_editorDesk : editorDesk.TagsU32 :=
  ⟨by decide +kernel, fun _ => (by decide : 1 < u32)⟩

theorem status_round_trip_editor :
    RoundTrips (editorDesk.format_status none) (editorDesk.statuses none) :=
  (status_round_trip editorDesk none tagsU32_editorDesk).2
    ⟨by decide +kernel, by decide +kernel, by decide +kernel, by decide +kernel,
      fun m hm m' hm' _ => by
        have hone : editorDesk.statuses none = [editorDesk.status none 0 editorDesk.monitors[0]] :=
          rfl
        rw [hone, List.mem_singleton] at hm hm'
        rw [hm, hm']⟩

/-- A title with an end of line in it. -/
def forgedTitle : Client := { plainClient 10 with title := some "vi\nA selmon 0" }

/-- The second half of such a title is a line of its own. -/
theorem not_status_round_trip :
    ¬∀ env es err, RoundTrips ((run step (init env) es).desk.format_status err)
      ((run step (init env) es).desk.statuses err) := by
  intro h
  have hlines := (h (plainSetup [] [])
    [.output_added 0 (plainOutput "A"), .new_toplevel 0 forgedTitle, .commit 10 true] none).lines
  exact absurd hlines (by decide +kernel)

end Desk

end Compositor
