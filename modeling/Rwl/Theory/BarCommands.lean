import Mathlib.Tactic.Common
import Rwl.Core.Ipc
import Rwl.Core.Bar

/-!
# Bar commands

`rwl msg` joins a bar command into one text by the boundaries of its arguments; the bar splits the
text again by what its words look like. The two agree on `-title` exactly when no option that was
left out can be read at the head of the text.

* `titleOf`: what the bar reads of the text after `title`;
* `titleArgs`, `titleData`: the arguments, and what is sent of them;
* `Clear`: no option that was left out can be read in the text;
* `shows_title_iff`, `sets_status_iff`: when a bar shows what was given.
-/

namespace Compositor

/-! ### The head of a command -/

theorem get_from_append (t u : Text) : get_from (Text.bytes t).length (t ++ u) = u := by
  induction t with
  | nil => cases u <;> rfl
  | cons c t ih =>
    have hlen : (Text.bytes (c :: t)).length = c.utf8Size + (Text.bytes t).length := by
      rw [Text.length_bytes, Text.length_bytes, List.map_cons, List.sum_cons]
    have hpos := c.utf8Size_pos
    obtain ⟨n, hn⟩ : ∃ n, (Text.bytes (c :: t)).length = n + 1 :=
      Nat.exists_eq_succ_of_ne_zero (by omega)
    rw [hn, List.cons_append, get_from, if_pos (by omega)]
    have hrest : n + 1 - c.utf8Size = (Text.bytes t).length := by omega
    rw [hrest]
    exact ih

section Head

variable {target cmd : Text} (htarget : Text.IsWord target) (hcmd : Text.IsWord cmd) (data : Text)

include htarget hcmd

theorem words_of_head : Text.split_whitespace (target ++ ' ' :: (cmd ++ ' ' :: data)) =
    target :: cmd :: Text.split_whitespace data := by
  unfold Text.split_whitespace
  rw [Split.tokens_append_sep _ _ (by decide), Split.tokens_append_sep _ _ (by decide),
    Split.tokens_of_word htarget, Split.tokens_of_word hcmd]
  rfl

/-- The bar skips the output and the command, and the space after each. -/
theorem get_from_head : get_from (skip (target ++ ' ' :: (cmd ++ ' ' :: data)))
    (target ++ ' ' :: (cmd ++ ' ' :: data)) = data := by
  have hskip : skip (target ++ ' ' :: (cmd ++ ' ' :: data)) =
      (Text.bytes (target ++ ' ' :: (cmd ++ [' ']))).length := by
    have hspace : (Text.bytes [' ']).length = 1 := by decide
    unfold skip
    rw [List.splitOnP_append_cons _ _ (by decide), List.splitOnP_append_cons _ _ (by decide),
      List.splitOnP_eq_singleton htarget.2, List.splitOnP_eq_singleton hcmd.2]
    have hsplit : target ++ ' ' :: (cmd ++ [' ']) = target ++ ([' '] ++ (cmd ++ [' '])) := rfl
    rw [hsplit, Text.bytes_append, Text.bytes_append, Text.bytes_append]
    simp only [List.length_append, hspace]
    simp only [List.singleton_append, List.take_succ_cons, List.take_zero, List.map_cons,
      List.map_nil, List.sum_cons, List.sum_nil]
    omega
  have hwhole : target ++ ' ' :: (cmd ++ ' ' :: data) =
      (target ++ ' ' :: (cmd ++ [' '])) ++ data := by simp
  rw [hskip]
  conv_lhs => rw [hwhole]
  exact get_from_append _ _

end Head

theorem trim_end_newlines_of_last {t : Text} (h : t.getLast? ≠ some '\n') :
    trim_end_newlines t = t := by
  change Split.rtrim (fun c => decide (c = '\n')) t = t
  cases t using List.reverseRecOn with
  | nil => rfl
  | append_singleton t c =>
    have hc : c ≠ '\n' := by simpa using h
    rw [Split.rtrim_append_singleton, if_neg (by simpa using hc)]

/-! ### What the bar reads of a title -/

/-- The duration, the colour and the text that the bar reads. -/
def titleOf (data : Text) : ℕ × Option Color × Text :=
  ((take_secs data).1, take_color (take_secs data).2)

theorem handle_title {target data : Text} (htarget : Text.IsWord target)
    (hlast : data.getLast? ≠ some '\n') (bars : List Bar) :
    handle_socket_command (target ++ ' ' :: ("title".toList ++ ' ' :: data)) bars =
      if (titleOf data).2.2 = [] then bars
      else bars.map fun bar =>
        if bar.addressed target then
          bar.override (titleOf data).2.2 (titleOf data).1 (titleOf data).2.1
        else bar := by
  have hcmd : Text.IsWord "title".toList := by decide
  unfold handle_socket_command
  rw [words_of_head htarget hcmd]
  dsimp only
  rw [get_from_head htarget hcmd, trim_end_newlines_of_last hlast, if_neg (by decide), if_pos rfl]
  rfl

theorem handle_status {target data : Text} (htarget : Text.IsWord target)
    (hlast : data.getLast? ≠ some '\n') (bars : List Bar) :
    handle_socket_command (target ++ ' ' :: ("status".toList ++ ' ' :: data)) bars =
      if data = [] then bars
      else bars.map fun bar =>
        if bar.addressed target then { bar with status := data, redraw := true } else bar := by
  have hcmd : Text.IsWord "status".toList := by decide
  unfold handle_socket_command
  rw [words_of_head htarget hcmd]
  dsimp only
  rw [get_from_head htarget hcmd, trim_end_newlines_of_last hlast, if_pos rfl]

/-- What the text begins with, read as a duration. -/
def leadingSecs (t : Text) : Option (ℕ × Text) :=
  (Text.split_once t).bind fun c => (Text.parse_uint (2 ^ 64) c.1).map fun n => (n, c.2)

theorem take_secs_some {t after : Text} {n : ℕ} (h : leadingSecs t = some (n, after)) :
    take_secs t = (max 1 (min n 3600), after) := by
  unfold take_secs
  unfold leadingSecs at h
  rw [h]

theorem take_secs_none {t : Text} (h : leadingSecs t = none) : take_secs t = (3, t) := by
  unfold take_secs
  unfold leadingSecs at h
  rw [h]

theorem take_color_of_head {t : Text} (h : t.head? ≠ some '#') : take_color t = (none, t) := if_neg h

/-- Digits before a space. -/
theorem leadingSecs_digits {d : Text} (hne : d ≠ []) (hdigits : ∀ c ∈ d, c.isDigit = true)
    (t : Text) : leadingSecs (d ++ ' ' :: t) =
      if Nat.ofDigitChars 10 d 0 < 2 ^ 64 then some (Nat.ofDigitChars 10 d 0, t) else none := by
  have hspace : ' ' ∉ d := by
    intro hmem
    exact absurd (hdigits ' ' hmem) (by decide)
  unfold leadingSecs Text.split_once
  rw [Split.cut_append hspace, Option.bind_some, Text.parse_digits hne hdigits]
  split_ifs <;> rfl

theorem leadingSecs_hash {t : Text} (h : t.head? = some '#') : leadingSecs t = none := by
  obtain ⟨rest, rfl⟩ := List.head?_eq_some_iff.1 h
  unfold leadingSecs Text.split_once
  rw [Split.cut, if_neg (by decide)]
  cases Split.cut ' ' rest with
  | none => rfl
  | some c =>
    have hparse : Text.parse_uint (2 ^ 64) ('#' :: c.1) = none := by
      unfold Text.parse_uint
      have hstrip : Text.strip_plus ('#' :: c.1) = '#' :: c.1 := by
        rw [Text.strip_plus, if_neg (by decide)]
      rw [hstrip]
      refine if_neg ?_
      rintro ⟨-, hall⟩
      exact absurd (List.all_eq_true.1 hall '#' List.mem_cons_self) (by decide)
    rw [Option.map_some, Option.bind_some, hparse, Option.map_none]

/-- A duration that is read is taken out of the text. -/
theorem length_leadingSecs {t after : Text} {n : ℕ} (h : leadingSecs t = some (n, after)) :
    after.length < t.length := by
  obtain ⟨⟨tok, rest⟩, hcut, hparse⟩ := Option.bind_eq_some_iff.1 h
  obtain ⟨m, -, heq⟩ := Option.map_eq_some_iff.1 hparse
  obtain ⟨rfl, rfl⟩ := Prod.mk.inj heq
  obtain ⟨rfl, -⟩ := Split.cut_eq_some hcut
  rw [List.length_append, List.length_cons]
  dsimp only
  omega

theorem length_take_color (t : Text) : (take_color t).2.length ≤ t.length := by
  unfold take_color
  split_ifs
  · split
    · rename_i col after h
      obtain ⟨⟨tok, rest⟩, hcut, hparse⟩ := Option.bind_eq_some_iff.1 h
      obtain ⟨c, -, heq⟩ := Option.map_eq_some_iff.1 hparse
      obtain ⟨rfl, rfl⟩ := Prod.mk.inj heq
      obtain ⟨rfl, -⟩ := Split.cut_eq_some hcut
      rw [List.length_append, List.length_cons]
      dsimp only
      omega
    · exact Nat.le_refl _
  · exact Nat.le_refl _

/-- A colour is one word. -/
theorem not_mem_of_parse_hex_color {c : Text} {col : Color} (h : parse_hex_color c = some col) :
    c.head? = some '#' ∧ ' ' ∉ c := by
  unfold parse_hex_color at h
  split at h
  · rename_i hex
    refine ⟨rfl, ?_⟩
    obtain ⟨n, hn, -⟩ := Option.bind_eq_some_iff.1 h
    intro hspace
    have hmem : ' ' ∈ Text.strip_plus hex := by
      rcases List.mem_cons.1 hspace with hhash | hspace
      · exact absurd hhash (by decide)
      · cases hex with
        | nil => cases hspace
        | cons d hex =>
          rw [Text.strip_plus]
          split_ifs with hplus
          · subst hplus
            rcases List.mem_cons.1 hspace with hd | hd
            · exact absurd hd (by decide)
            · exact hd
          · exact hspace
    unfold from_str_radix_16 at hn
    dsimp only at hn
    split_ifs at hn
    obtain ⟨hmap, -⟩ := Option.filter_eq_some_iff.1 hn
    obtain ⟨ds, hds, -⟩ := Option.map_eq_some_iff.1 hmap
    obtain ⟨l₁, l₂, hsplit⟩ := List.append_of_mem hmem
    rw [hsplit, List.mapM_append] at hds
    obtain ⟨as, -, hrest⟩ := Option.bind_eq_some_iff.1 hds
    obtain ⟨bs, hbs, -⟩ := Option.bind_eq_some_iff.1 hrest
    rw [List.mapM_cons] at hbs
    obtain ⟨b, hb, -⟩ := Option.bind_eq_some_iff.1 hbs
    rw [if_neg (by decide), if_neg (by decide), if_neg (by decide)] at hb
    cases hb
  · cases h

theorem take_color_given {c : Text} {col : Color} (h : parse_hex_color c = some col) (t : Text) :
    take_color (c ++ ' ' :: t) = (some col, t) := by
  obtain ⟨hhead, hspace⟩ := not_mem_of_parse_hex_color h
  have hfirst : (c ++ ' ' :: t).head? = some '#' := by
    obtain ⟨rest, rfl⟩ := List.head?_eq_some_iff.1 hhead
    rfl
  unfold take_color Text.split_once
  rw [if_pos hfirst, Split.cut_append hspace, Option.bind_some, h, Option.map_some]

/-! ### What is sent -/

/-- The arguments of `-title`. -/
def titleArgs (output : Text) (secs color : Option Text) (text : Text) : List Text :=
  "-title".toList :: output :: (secs.toList ++ (color.toList ++ [text]))

/-- An option as it is sent. -/
def optionText (o : Option Text) : Text := (o.map fun t => t ++ [' ']).getD []

/-- What is sent after `title`. -/
def titleData (secs color : Option Text) (text : Text) : Text :=
  optionText secs ++ (optionText color ++ text)

/-- A duration as the client knows it. -/
def IsSecs (d : Text) : Prop := d ≠ [] ∧ d.all Char.isDigit = true

instance (d : Text) : Decidable (IsSecs d) := inferInstanceAs (Decidable (_ ∧ _))

/-- The client does not take the text for an option that was left out. -/
def Sends (secs color : Option Text) (text : Text) : Prop :=
  (color = none → text.head? ≠ some '#') ∧ (secs = none → color = none → ¬IsSecs text)

theorem run_bar_loop_nil (n : ℕ) : run_bar_loop n [] = [] := by
  cases n <;> rfl

theorem title_secs_some {d : Text} (h : IsSecs d) (args : List Text) :
    title_secs (d :: args) = (d ++ [' '], args) := if_pos h

theorem title_secs_none {a : Text} (h : ¬IsSecs a) (args : List Text) :
    title_secs (a :: args) = ([], a :: args) := if_neg h

theorem title_color_some {c : Text} (h : c.head? = some '#') (args : List Text) :
    title_color (c :: args) = (c ++ [' '], args) := if_pos h

theorem title_color_none {a : Text} (h : a.head? ≠ some '#') (args : List Text) :
    title_color (a :: args) = ([], a :: args) := if_neg h

theorem not_isSecs_of_head {c : Text} (h : c.head? = some '#') : ¬IsSecs c := by
  rintro ⟨-, hall⟩
  obtain ⟨rest, rfl⟩ := List.head?_eq_some_iff.1 h
  exact absurd (List.all_eq_true.1 hall '#' List.mem_cons_self) (by decide)

theorem run_bar_title (output : Text) (args : List Text) :
    run_bar ("-title".toList :: output :: args) =
      match (title_color (title_secs args).2).2 with
      | [] => []
      | text :: rest =>
          bar_send output "title".toList
            (some ((title_secs args).1 ++ (title_color (title_secs args).2).1 ++ text)) ::
              run_bar_loop (args.length + 1) rest := by
  unfold run_bar
  rw [List.length_cons, List.length_cons]
  conv_lhs => unfold run_bar_loop
  dsimp only
  rewrite [if_neg (by decide), if_pos rfl]
  rfl

/-- What the client makes of the arguments after the output. -/
theorem run_bar_titleArgs {output : Text} {secs color : Option Text} (text : Text)
    (hsecs : ∀ d ∈ secs, IsSecs d) (hcolor : ∀ c ∈ color, c.head? = some '#') :
    (Sends secs color text ∧ run_bar (titleArgs output secs color text) =
        [bar_send output "title".toList (some (titleData secs color text))]) ∨
      (¬Sends secs color text ∧ run_bar (titleArgs output secs color text) = []) := by
  have hpair : title_color [] = ([], []) := rfl
  unfold titleArgs
  rw [run_bar_title]
  cases color with
  | some c =>
    have hc := hcolor c rfl
    refine .inl ⟨⟨nofun, fun _ h => nomatch h⟩, ?_⟩
    cases secs with
    | some d =>
      simp only [Option.toList_some, List.singleton_append]
      rw [title_secs_some (hsecs d rfl), title_color_some hc]
      dsimp only
      rw [run_bar_loop_nil]
      simp [titleData, optionText]
    | none =>
      simp only [Option.toList_some, Option.toList_none, List.singleton_append, List.nil_append]
      rw [title_secs_none (not_isSecs_of_head hc), title_color_some hc]
      dsimp only
      rw [run_bar_loop_nil]
      simp [titleData, optionText]
  | none =>
    by_cases hhash : text.head? = some '#'
    · refine .inr ⟨fun h => h.1 rfl hhash, ?_⟩
      cases secs with
      | some d =>
        simp only [Option.toList_some, Option.toList_none, List.singleton_append, List.nil_append]
        rw [title_secs_some (hsecs d rfl), title_color_some hhash]
      | none =>
        simp only [Option.toList_none, List.nil_append]
        rw [title_secs_none (not_isSecs_of_head hhash), title_color_some hhash]
    · cases secs with
      | some d =>
        refine .inl ⟨⟨fun _ => hhash, nofun⟩, ?_⟩
        simp only [Option.toList_some, Option.toList_none, List.singleton_append, List.nil_append]
        rw [title_secs_some (hsecs d rfl), title_color_none hhash]
        dsimp only
        rw [run_bar_loop_nil]
        simp [titleData, optionText]
      | none =>
        simp only [Option.toList_none, List.nil_append]
        by_cases hdigits : IsSecs text
        · refine .inr ⟨fun h => h.2 rfl rfl hdigits, ?_⟩
          rw [title_secs_some hdigits, hpair]
        · refine .inl ⟨⟨fun _ => hhash, fun _ _ => hdigits⟩, ?_⟩
          rw [title_secs_none hdigits, title_color_none hhash]
          dsimp only
          rw [run_bar_loop_nil]
          simp [titleData, optionText]

/-! ### Both ends together -/

/-- What is shown for how long: the given number of seconds as far as the bar allows it. -/
def shownFor : Option Text → ℕ
  | none => 3
  | some d => max 1 (min (Nat.ofDigitChars 10 d 0) 3600)

/-- No option that was left out can be read in the text, and a duration is a number. -/
structure Clear (secs color : Option Text) (text : Text) : Prop where
  sends : Sends secs color text
  number : ∀ d ∈ secs, Nat.ofDigitChars 10 d 0 < 2 ^ 64
  leading : secs = none → color = none → leadingSecs text = none

/-- The bar reads what was given exactly when the text is clear. -/
theorem titleOf_titleData {secs color : Option Text} {text : Text}
    (hsecs : ∀ d ∈ secs, IsSecs d) (hcolor : ∀ c ∈ color, (parse_hex_color c).isSome)
    (hsends : Sends secs color text) :
    (Clear secs color text ∧
        titleOf (titleData secs color text) =
          (shownFor secs, color.bind parse_hex_color, text)) ∨
      (¬Clear secs color text ∧ (titleOf (titleData secs color text)).2.2 ≠ text) := by
  -- what follows the duration
  have htail (h : color = none → leadingSecs text = none ∨ secs ≠ none) :
      take_color (optionText color ++ text) = (color.bind parse_hex_color, text) := by
    cases color with
    | none => exact take_color_of_head (hsends.1 rfl)
    | some c =>
      obtain ⟨col, hcol⟩ := Option.isSome_iff_exists.1 (hcolor c rfl)
      have hdata : optionText (some c) ++ text = c ++ ' ' :: text := by simp [optionText]
      rw [hdata, take_color_given hcol, Option.bind_some, hcol]
  cases secs with
  | some d =>
    obtain ⟨hne, hall⟩ := hsecs d rfl
    have hdigits := List.all_eq_true.1 hall
    have hdata : titleData (some d) color text = d ++ ' ' :: (optionText color ++ text) := by
      simp [titleData, optionText]
    have hlead := leadingSecs_digits hne hdigits (optionText color ++ text)
    rw [hdata]
    unfold titleOf
    by_cases hbig : Nat.ofDigitChars 10 d 0 < 2 ^ 64
    · rw [if_pos hbig] at hlead
      refine .inl ⟨⟨hsends, fun e he => ?_, nofun⟩, ?_⟩
      · cases he
        exact hbig
      · rw [take_secs_some hlead, htail fun _ => .inr nofun]
        rfl
    · rw [if_neg hbig] at hlead
      refine .inr ⟨fun h => hbig (h.number d rfl), ?_⟩
      have hhead : (d ++ ' ' :: (optionText color ++ text)).head? ≠ some '#' := by
        cases d with
        | nil => exact absurd rfl hne
        | cons c d =>
          intro hc
          obtain rfl := Option.some.inj hc
          exact absurd (hdigits '#' List.mem_cons_self) (by decide)
      rw [take_secs_none hlead, take_color_of_head hhead]
      intro heq
      have hlen := congrArg List.length heq
      simp only [List.length_append, List.length_cons] at hlen
      omega
  | none =>
    have hdata : titleData none color text = optionText color ++ text := rfl
    rw [hdata]
    unfold titleOf
    cases color with
    | some c =>
      obtain ⟨col, hcol⟩ := Option.isSome_iff_exists.1 (hcolor c rfl)
      have hhash : (optionText (some c) ++ text).head? = some '#' := by
        obtain ⟨rest, rfl⟩ := List.head?_eq_some_iff.1 (not_mem_of_parse_hex_color hcol).1
        rfl
      refine .inl ⟨⟨hsends, nofun, fun _ h => nomatch h⟩, ?_⟩
      rw [take_secs_none (leadingSecs_hash hhash), htail nofun]
      rfl
    | none =>
      have htext : optionText none ++ text = text := rfl
      rw [htext] at htail ⊢
      cases hlead : leadingSecs text with
      | none =>
        refine .inl ⟨⟨hsends, nofun, fun _ _ => hlead⟩, ?_⟩
        rw [take_secs_none hlead, htail fun _ => .inl hlead]
        rfl
      | some c =>
        obtain ⟨n, after⟩ := c
        refine .inr ⟨fun h => ?_, ?_⟩
        · have hnone := h.leading rfl rfl
          rw [hlead] at hnone
          cases hnone
        · rw [take_secs_some hlead]
          intro heq
          have hshort := length_leadingSecs hlead
          have hrest := length_take_color after
          rw [heq] at hrest
          omega

/-! ### What a bar shows -/

/-- The bars after everything that `rwl msg` sends for its arguments. -/
def barsAfter (args : List Text) (bars : List Bar) : List Bar :=
  (run_bar args).foldl (fun bars sent =>
    match receive (Text.bytes sent) with
    | some buf => handle_socket_command buf bars
    | none => bars) bars

/-- The command makes every bar of the output show the text, for that long and in that colour,
and no other bar. -/
def ShowsTitle (args : List Text) (output text : Text) (secs : ℕ) (color : Option Color) : Prop :=
  ∀ bars, barsAfter args bars = bars.map fun bar =>
    if bar.addressed output then bar.override text secs color else bar

/-- The command makes the text the status of every bar of the output, and of no other bar. -/
def SetsStatus (args : List Text) (output text : Text) : Prop :=
  ∀ bars, barsAfter args bars = bars.map fun bar =>
    if bar.addressed output then { bar with status := text, redraw := true } else bar

/-- A bar that is addressed by `output`, `all` and `selected`. -/
def listening (output : Text) : Bar := { Bar.new output with sel := 1 }

theorem addressed_listening (output : Text) : (listening output).addressed output = true := by
  unfold Bar.addressed
  split_ifs
  · rfl
  · rfl
  · exact decide_eq_true rfl

theorem receive_of_le {t : Text} (h : (Text.bytes t).length ≤ MAX_CMD_BYTES) :
    receive (Text.bytes t) = some t := by
  unfold receive
  rw [List.take_of_length_le h, Text.from_utf8_bytes]

theorem bar_send_some (output cmd data : Text) :
    bar_send output cmd (some data) = output ++ ' ' :: (cmd ++ ' ' :: data) := by
  simp [bar_send, Text.join, List.intercalate]

theorem getLast?_titleData {secs color : Option Text} {text : Text}
    (h : text.getLast? ≠ some '\n') : (titleData secs color text).getLast? ≠ some '\n' := by
  have hopt (o : Option Text) {t : Text} (ht : t.getLast? ≠ some '\n') :
      (optionText o ++ t).getLast? ≠ some '\n' := by
    cases hlast : t.getLast? with
    | some c =>
      rw [List.getLast?_append, hlast, Option.some_or, ← hlast]
      exact ht
    | none =>
      rw [List.getLast?_append, hlast, Option.none_or]
      cases o with
      | none => nofun
      | some u => simp [optionText]
  exact hopt secs (hopt color h)

/-- **A bar shows what `-title` was given exactly when the text is clear and not empty.** -/
theorem shows_title_iff {output text : Text} {secs color : Option Text}
    (houtput : Text.IsWord output) (hsecs : ∀ d ∈ secs, IsSecs d)
    (hcolor : ∀ c ∈ color, (parse_hex_color c).isSome) (hlast : text.getLast? ≠ some '\n')
    (hfits : (Text.bytes (bar_send output "title".toList
      (some (titleData secs color text)))).length ≤ MAX_CMD_BYTES) :
    ShowsTitle (titleArgs output secs color text) output text (shownFor secs)
      (color.bind parse_hex_color) ↔ text ≠ [] ∧ Clear secs color text := by
  have hhash : ∀ c ∈ color, c.head? = some '#' := by
    intro c hc
    obtain ⟨col, hcol⟩ := Option.isSome_iff_exists.1 (hcolor c hc)
    exact (not_mem_of_parse_hex_color hcol).1
  -- nothing is shown on a bar that is left as it is
  have hunshown (h : barsAfter (titleArgs output secs color text) [listening output] =
      [listening output]) : ¬ShowsTitle (titleArgs output secs color text) output text
        (shownFor secs) (color.bind parse_hex_color) := by
    intro hshows
    have hbar := hshows [listening output]
    rw [h, List.map_singleton, if_pos (addressed_listening output)] at hbar
    have hoverride := congrArg (fun bars : List Bar => bars.map Bar.title_override) hbar
    cases hoverride
  rcases @run_bar_titleArgs output _ _ text hsecs hhash with ⟨hsends, hrun⟩ | ⟨hsends, hrun⟩
  · have hafter (bars : List Bar) : barsAfter (titleArgs output secs color text) bars =
        if (titleOf (titleData secs color text)).2.2 = [] then bars
        else bars.map fun bar =>
          if bar.addressed output then
            bar.override (titleOf (titleData secs color text)).2.2
              (titleOf (titleData secs color text)).1 (titleOf (titleData secs color text)).2.1
          else bar := by
      unfold barsAfter
      rw [hrun, List.foldl_cons, List.foldl_nil, receive_of_le hfits, bar_send_some]
      exact handle_title houtput (getLast?_titleData hlast) bars
    rcases titleOf_titleData hsecs hcolor hsends with ⟨hclear, htitle⟩ | ⟨hclear, htitle⟩
    · rw [htitle] at hafter
      dsimp only at hafter
      constructor
      · intro hshows
        refine ⟨?_, hclear⟩
        rintro rfl
        exact hunshown ((hafter _).trans (if_pos rfl)) hshows
      · rintro ⟨hne, -⟩ bars
        rw [hafter, if_neg hne]
    · refine iff_of_false (fun hshows => ?_) fun h => hclear h.2
      by_cases hempty : (titleOf (titleData secs color text)).2.2 = []
      · exact hunshown ((hafter _).trans (if_pos hempty)) hshows
      · have hbar := (hafter [listening output]).symm.trans (hshows [listening output])
        rw [if_neg hempty, List.map_singleton, List.map_singleton,
          if_pos (addressed_listening output), if_pos (addressed_listening output)] at hbar
        have hoverride := congrArg (fun bars : List Bar => bars.map Bar.title_override) hbar
        have htext := Option.some.inj (List.cons.inj hoverride).1
        exact htitle (Prod.mk.inj htext).1
  · refine iff_of_false (hunshown ?_) fun h => hsends h.2.sends
    unfold barsAfter
    rw [hrun]
    rfl

theorem run_bar_status (output text : Text) :
    run_bar ["-status".toList, output, text] =
      [bar_send output "status".toList (some text)] := by
  unfold run_bar
  rw [List.length_cons, List.length_cons]
  conv_lhs => unfold run_bar_loop
  dsimp only
  rw [if_pos rfl, run_bar_loop_nil]

/-- **A bar takes the text of `-status` exactly when it is not empty.** -/
theorem sets_status_iff {output text : Text} (houtput : Text.IsWord output)
    (hlast : text.getLast? ≠ some '\n')
    (hfits : (Text.bytes (bar_send output "status".toList (some text))).length ≤ MAX_CMD_BYTES) :
    SetsStatus ["-status".toList, output, text] output text ↔ text ≠ [] := by
  have hafter (bars : List Bar) : barsAfter ["-status".toList, output, text] bars =
      if text = [] then bars
      else bars.map fun bar =>
        if bar.addressed output then { bar with status := text, redraw := true } else bar := by
    unfold barsAfter
    rw [run_bar_status, List.foldl_cons, List.foldl_nil, receive_of_le hfits, bar_send_some]
    exact handle_status houtput hlast bars
  constructor
  · rintro hsets rfl
    have hbar := (hafter [listening output]).symm.trans (hsets [listening output])
    rw [if_pos rfl, List.map_singleton, if_pos (addressed_listening output)] at hbar
    have hredraw := congrArg (fun bars : List Bar => bars.map Bar.redraw) hbar
    cases hredraw
  · intro hne bars
    rw [hafter, if_neg hne]

/-- What `-title` and `-status` are given arrives, when the text is not empty and no option that
was left out can be read in it: the text for its duration, as far as the bar allows it, and in its
colour. -/
theorem bar_command_round_trip :
    (∀ (output text : Text) (secs color : Option Text), Text.IsWord output →
      (∀ d ∈ secs, IsSecs d) → (∀ c ∈ color, (parse_hex_color c).isSome) →
      text.getLast? ≠ some '\n' → text ≠ [] → Clear secs color text →
      (Text.bytes (bar_send output "title".toList
        (some (titleData secs color text)))).length ≤ MAX_CMD_BYTES →
      ShowsTitle (titleArgs output secs color text) output text (shownFor secs)
        (color.bind parse_hex_color)) ∧
    ∀ output text : Text, Text.IsWord output → text.getLast? ≠ some '\n' → text ≠ [] →
      (Text.bytes (bar_send output "status".toList (some text))).length ≤ MAX_CMD_BYTES →
      SetsStatus ["-status".toList, output, text] output text := by
  constructor
  · intro output text secs color houtput hsecs hcolor hlast hne hclear hfits
    exact (shows_title_iff houtput hsecs hcolor hlast hfits).2 ⟨hne, hclear⟩
  · intro output text houtput hlast hne hfits
    exact (sets_status_iff houtput hlast hfits).2 hne

/-- A text that begins with a number, after a duration of its own, and a status. -/
theorem bar_command_round_trip_tea :
    ShowsTitle (titleArgs "eDP-1".toList (some "90".toList) (some "#ff0000".toList)
        "3 minutes for tea".toList) "eDP-1".toList "3 minutes for tea".toList
        (shownFor (some "90".toList)) ((some "#ff0000".toList).bind parse_hex_color) ∧
      SetsStatus ["-status".toList, "all".toList, "tea".toList] "all".toList "tea".toList :=
  ⟨bar_command_round_trip.1 _ _ _ _ (by decide) (by simpa using (by decide : IsSecs "90".toList))
      (by simpa using (by decide +kernel : (parse_hex_color "#ff0000".toList).isSome = true))
      (by decide) (by decide)
      ⟨⟨nofun, nofun⟩, by simpa using (by decide +kernel : Nat.ofDigitChars 10 "90".toList 0 < 2 ^ 64),
        nofun⟩ (by decide +kernel),
    bar_command_round_trip.2 _ _ (by decide) (by decide) (by decide) (by decide +kernel)⟩

/-- A duration of more than an hour is cut, a number at the head of a text is taken for a
duration, and an empty status is not taken. -/
theorem not_bar_command_round_trip :
    (¬ShowsTitle (titleArgs "eDP-1".toList (some "5000".toList) none "tea".toList) "eDP-1".toList
        "tea".toList 5000 none) ∧
      (¬ShowsTitle (titleArgs "eDP-1".toList none none "5 minutes".toList) "eDP-1".toList
        "5 minutes".toList 3 none) ∧
      ¬SetsStatus ["-status".toList, "eDP-1".toList, []] "eDP-1".toList [] := by
  refine ⟨fun h => ?_, fun h => ?_, fun h => ?_⟩
  · exact absurd (h [listening "eDP-1".toList]) (by decide +kernel)
  · exact absurd (h [listening "eDP-1".toList]) (by decide +kernel)
  · exact absurd (h [listening "eDP-1".toList]) (by decide +kernel)

end Compositor
