import Mathlib.Tactic.Common
import Rwl.Theory.ColorRuns

/-!
# Commands in the status

* `command`, `status_tokens`, `cut`: the commands in a text, its characters and overrides, and as
  many of them as there is room for;
* `parse_command_eq`, `marks_text`: the scanner computes them;
* `double`, `status_tokens_double`: a text with every caret doubled is itself;
* `markup_sound`: what holds of every text.
-/

namespace Compositor

open ByteScan Marks

open azoth_render (Tok runs Placed Taken)

/-! ### Commands -/

/-- The name and the argument of a command, and the text behind it. -/
def command (t : Text) : Option (Text × Text × Text) :=
  match t.dropWhile fun c => decide (c ≠ '(') with
  | [] => none
  | _ :: after =>
    match after.dropWhile fun c => decide (c ≠ ')') with
    | [] => none
    | _ :: rest => some (t.takeWhile fun c => decide (c ≠ '('),
        after.takeWhile fun c => decide (c ≠ ')'), rest)

/-- A text up to the first `x`. -/
theorem split_at_first (x : Char) (t : Text) :
    (x ∉ t ∧ t.dropWhile (fun c => decide (c ≠ x)) = []) ∨
    ∃ r, t = t.takeWhile (fun c => decide (c ≠ x)) ++ x :: r ∧
      t.dropWhile (fun c => decide (c ≠ x)) = x :: r := by
  induction t with
  | nil => exact .inl ⟨List.not_mem_nil, rfl⟩
  | cons c t ih =>
    by_cases hc : c = x
    · subst hc
      exact .inr ⟨t, by simp, by simp⟩
    · rcases ih with ⟨hmem, hdrop⟩ | ⟨r, ht, hdrop⟩
      · refine .inl ⟨?_, ?_⟩
        · rw [List.mem_cons, not_or]
          exact ⟨Ne.symm hc, hmem⟩
        · rw [List.dropWhile_cons, if_pos (decide_eq_true hc)]
          exact hdrop
      · refine .inr ⟨r, ?_, ?_⟩
        · rw [List.takeWhile_cons, if_pos (decide_eq_true hc), List.cons_append, ← ht]
        · rw [List.dropWhile_cons, if_pos (decide_eq_true hc)]
          exact hdrop

/-- What a command consists of. -/
theorem command_eq_some {t cmd arg rest : Text} (h : command t = some (cmd, arg, rest)) :
    t = cmd ++ '(' :: (arg ++ ')' :: rest) := by
  unfold command at h
  rcases split_at_first '(' t with ⟨-, hdrop⟩ | ⟨after, ht, hdrop⟩
  · rw [hdrop] at h
    cases h
  · rw [hdrop] at h
    simp only at h
    rcases split_at_first ')' after with ⟨-, hdrop'⟩ | ⟨r, ha, hdrop'⟩
    · rw [hdrop'] at h
      cases h
    · rw [hdrop'] at h
      simp only [Option.some.injEq, Prod.mk.injEq] at h
      obtain ⟨rfl, rfl, rfl⟩ := h
      rw [← ha]
      exact ht

/-- The search for a byte finds the character. -/
theorem position_enc (t : Text) {b : UInt8} (hb : IsAscii b) {x : Char} (hx : x.toNat = b.toNat) :
    position (enc t) b =
      if x ∈ t then some (len (t.takeWhile fun c => decide (c ≠ x))) else none := by
  have hmem : b ∈ enc t ↔ x ∈ t := by
    rw [mem_enc_iff t hb]
    constructor
    · rintro ⟨c, hc, heq⟩
      rwa [← Char.toNat_inj.1 (heq.trans hx.symm)]
    · exact fun h => ⟨x, h, hx⟩
  have hascii (b' : UInt8) (h : (b' == b) = true) : IsAscii b' := by
    rw [beq_iff_eq.1 h]
    exact hb
  have hclass : (fun c => !lift (· == b) c) = fun c => decide (c ≠ x) := by
    funext c
    rw [lift_beq hb, ← hx, ← decide_not]
    exact decide_eq_decide.2 (not_congr Char.toNat_inj)
  unfold position
  rw [findIdx_enc hascii, hclass]
  exact if_congr hmem rfl rfl

/-- The scanner finds the command that begins a text, without a slice out of range. -/
theorem parse_command_eq (t : Text) :
    parse_command (enc t) = some ((command t).map fun x =>
      (x.1, x.2.1, len x.1 + len x.2.1 + 2)) := by
  have hopen := position_enc t (b := 0x28) (by decide) (x := '(') rfl
  unfold parse_command command
  rcases split_at_first '(' t with ⟨hmem, hdrop⟩ | ⟨after, ht, hdrop⟩
  · rw [hopen, if_neg hmem, hdrop]
    rfl
  rw [hdrop]
  generalize t.takeWhile (fun c => decide (c ≠ '(')) = cmd at ht hopen ⊢
  subst ht
  rw [hopen, if_pos (List.mem_append_right _ List.mem_cons_self)]
  -- the bytes behind the parenthesis
  have hbytes : enc (cmd ++ '(' :: after) = enc (cmd ++ ['(']) ++ (enc after ++ []) := by
    rw [List.append_nil, ← enc_append, List.append_assoc, List.singleton_append]
  have hsize : len (cmd ++ ['(']) = len cmd + 1 := by
    rw [len_append, len_cons]
    rfl
  have hafter : range? (enc (cmd ++ '(' :: after)) (len cmd + 1)
      (enc (cmd ++ '(' :: after)).length = some (enc after) := by
    have h := range?_append (enc (cmd ++ ['('])) (enc after) []
    rw [← hbytes] at h
    have hlen : (enc (cmd ++ '(' :: after)).length =
        (enc (cmd ++ ['('])).length + (enc after).length := by
      rw [hbytes, List.append_nil, List.length_append]
    rw [hlen, ← hsize]
    exact h
  have hclose := position_enc after (b := 0x29) (by decide) (x := ')') rfl
  simp only [hafter, Option.bind_some]
  rcases split_at_first ')' after with ⟨hmem, hdrop'⟩ | ⟨rest, ha, hdrop'⟩
  · rw [hclose, if_neg hmem, hdrop']
    rfl
  rw [hdrop']
  generalize after.takeWhile (fun c => decide (c ≠ ')')) = arg at ha hclose ⊢
  subst ha
  rw [hclose, if_pos (List.mem_append_right _ List.mem_cons_self)]
  have hcmd : range? (enc (cmd ++ '(' :: (arg ++ ')' :: rest))) 0 (len cmd) = some (enc cmd) := by
    have h := range?_append [] (enc cmd) (enc ('(' :: (arg ++ ')' :: rest)))
    rw [List.nil_append, ← enc_append, List.length_nil, Nat.zero_add] at h
    exact h
  have harg : range? (enc (cmd ++ '(' :: (arg ++ ')' :: rest))) (len cmd + 1)
      (len arg + len cmd + 1) = some (enc arg) := by
    have h := range?_append (enc (cmd ++ ['('])) (enc arg) (enc (')' :: rest))
    have happ : enc (cmd ++ ['(']) ++ (enc arg ++ enc (')' :: rest)) =
        enc (cmd ++ '(' :: (arg ++ ')' :: rest)) := by
      rw [← enc_append, ← enc_append, List.append_assoc, List.singleton_append]
    have hstop : len arg + len cmd + 1 = len (cmd ++ ['(']) + len arg := by
      rw [hsize]
      omega
    rw [happ] at h
    rw [hstop, ← hsize]
    exact h
  have hutf8 (u : Text) : Text.from_utf8 (enc u) = some u := Text.from_utf8_bytes u
  simp only [hcmd, harg, hutf8, Option.bind_some, Option.map_some]
  congr 4
  omega

theorem command_consumes {t cmd arg rest : Text} (h : command t = some (cmd, arg, rest)) :
    len (cmd ++ '(' :: (arg ++ [')'])) = len cmd + len arg + 2 ∧
      t = (cmd ++ '(' :: (arg ++ [')'])) ++ rest ∧ rest.length < t.length := by
  have ht := command_eq_some h
  refine ⟨?_, ?_, ?_⟩
  · have hone : '('.utf8Size = 1 ∧ ')'.utf8Size = 1 := by decide
    rw [len_append, len_cons, len_append, len_cons, len_nil, hone.1, hone.2]
    omega
  · rw [ht]
    simp
  · rw [ht]
    simp only [List.length_append, List.length_cons]
    omega

/-! ### Tokens -/

/-- The overrides of a command. -/
def command_toks (cfg : MarkupConfig) (cmd arg : Text) : List Tok :=
  (command_color cfg cmd arg 0).map fun tc => .mark (tc.color, tc.is_bg)

/-- The characters and overrides of a text. -/
def status_tokens (cfg : MarkupConfig) : Text → List Tok
  | [] => []
  | c :: t =>
    if c = '^' then
      match t with
      | [] => []
      | d :: u =>
        if d = '^' then .letter '^' :: status_tokens cfg u
        else
          match _h : command (d :: u) with
          | some (cmd, arg, rest) => command_toks cfg cmd arg ++ status_tokens cfg rest
          | none => status_tokens cfg (d :: u)
    else .letter c :: status_tokens cfg t
  termination_by t => t.length
  decreasing_by
    · simp only [List.length_cons]
      omega
    · have := (command_consumes _h).2.2
      simp only [List.length_cons] at this ⊢
      omega
    · simp only [List.length_cons]
      omega
    · simp only [List.length_cons]
      omega

/-- Tokens as long as there is room in front of them. -/
def cut : ℕ → List Tok → List Tok
  | _, [] => []
  | 0, _ :: _ => []
  | room + 1, .letter c :: l => .letter c :: cut (room + 1 - c.utf8Size) l
  | room + 1, .mark b :: l => .mark b :: cut (room + 1) l

section

variable (cfg : MarkupConfig)

@[simp] theorem status_tokens_nil : status_tokens cfg [] = [] := by
  rw [status_tokens]

theorem status_tokens_char {c : Char} (hc : c ≠ '^') (t : Text) :
    status_tokens cfg (c :: t) = .letter c :: status_tokens cfg t := by
  rw [status_tokens.eq_def]
  exact if_neg hc

theorem status_tokens_last : status_tokens cfg ['^'] = [] := by
  unfold status_tokens
  exact if_pos rfl

theorem status_tokens_pair (t : Text) :
    status_tokens cfg ('^' :: '^' :: t) = .letter '^' :: status_tokens cfg t := by
  rw [status_tokens, if_pos rfl]
  simp only [if_true]

theorem status_tokens_command {d : Char} (hd : d ≠ '^') {t cmd arg rest : Text}
    (h : command (d :: t) = some (cmd, arg, rest)) :
    status_tokens cfg ('^' :: d :: t) = command_toks cfg cmd arg ++ status_tokens cfg rest := by
  rw [status_tokens, if_pos rfl]
  simp only [if_neg hd]
  split
  · rename_i h'
    rw [h] at h'
    cases h'
    rfl
  · rename_i h'
    rw [h] at h'
    cases h'

theorem status_tokens_stray {d : Char} (hd : d ≠ '^') {t : Text} (h : command (d :: t) = none) :
    status_tokens cfg ('^' :: d :: t) = status_tokens cfg (d :: t) := by
  rw [status_tokens, if_pos rfl]
  simp only [if_neg hd]
  split
  · rename_i h'
    rw [h] at h'
    cases h'
  · rfl

end

theorem cut_zero (l : List Tok) : cut 0 l = [] := by
  cases l <;> rfl

theorem cut_letter {room : ℕ} (h : 0 < room) (c : Char) (l : List Tok) :
    cut room (.letter c :: l) = .letter c :: cut (room - c.utf8Size) l := by
  cases room with
  | zero => omega
  | succ room => rfl

theorem cut_marks {room : ℕ} (h : 0 < room) (bs : List (Color × Bool)) (l : List Tok) :
    cut room (bs.map Item.mark ++ l) = bs.map Item.mark ++ cut room l := by
  induction bs with
  | nil => rfl
  | cons b bs ih =>
    cases room with
    | zero => omega
    | succ room => exact congrArg (Item.mark b :: ·) ih

/-- The text ends less than a character behind its room. -/
theorem len_cut (room : ℕ) (l : List Tok) :
    ∀ c ∈ (letters (cut room l)).getLast?, len (letters (cut room l)) < room + c.utf8Size := by
  induction l generalizing room with
  | nil => exact fun c hc => by cases hc
  | cons x l ih =>
    rcases Nat.eq_zero_or_pos room with rfl | hroom
    · rw [cut_zero]
      exact fun c hc => by cases hc
    cases x with
    | mark b =>
      have h := cut_marks hroom [b] l
      simp only [List.map_cons, List.map_nil, List.singleton_append] at h
      rw [h]
      exact ih room
    | letter c =>
      rw [cut_letter hroom, letters]
      intro last hlast
      rw [len_cons]
      cases hrest : letters (cut (room - c.utf8Size) l) with
      | nil =>
        rw [hrest, List.getLast?_singleton] at hlast
        obtain rfl : c = last := Option.some.inj hlast
        rw [len_nil]
        omega
      | cons d t =>
        rw [hrest, List.getLast?_cons_cons, ← hrest] at hlast
        have hlt := ih _ last hlast
        have hleft : 0 < room - c.utf8Size := by
          by_contra hzero
          rw [Nat.eq_zero_of_not_pos hzero, cut_zero] at hrest
          cases hrest
        rw [← hrest]
        omega

/-! ### The scanner -/

theorem runs_command (cfg : MarkupConfig) (cmd arg : Text) (pos : ℕ) :
    runs pos (command_toks cfg cmd arg) = command_color cfg cmd arg pos := by
  unfold command_toks command_color
  split_ifs <;> rfl

/-- What the scanner makes of the rest of a text. -/
def MarksText (cfg : MarkupConfig) (fuel : ℕ) (t : Text) : Prop :=
  ∀ (u out : Text) (colors : List TextColor),
    markup_loop cfg (enc (u ++ t)) fuel (len u) out colors =
      some ⟨out ++ letters (cut (TEXT_MAX - 1 - len out) (status_tokens cfg t)),
        colors ++ runs (len out) (cut (TEXT_MAX - 1 - len out) (status_tokens cfg t))⟩

variable {cfg : MarkupConfig} {fuel : ℕ}

/-- With the text full, or read to its end, the loop ends. -/
theorem marks_full (t u out : Text) (colors : List TextColor) (h : TEXT_MAX - 1 ≤ len out) :
    markup_loop cfg (enc (u ++ t)) (fuel + 1) (len u) out colors =
      some ⟨out ++ letters (cut (TEXT_MAX - 1 - len out) (status_tokens cfg t)),
        colors ++ runs (len out) (cut (TEXT_MAX - 1 - len out) (status_tokens cfg t))⟩ := by
  have hroom : TEXT_MAX - 1 - len out = 0 := by omega
  rw [hroom, cut_zero]
  unfold markup_loop
  simp only
  rw [if_neg (by omega)]
  simp [letters, runs, placed]

theorem marks_nil : MarksText cfg (fuel + 1) [] := by
  intro u out colors
  have hlen : (enc (u ++ [])).length = len u := by
    rw [List.append_nil]
    rfl
  unfold markup_loop
  simp only
  rw [if_neg (by omega), status_tokens_nil]
  simp [letters, runs, placed, cut]

/-- The scanner takes the character the rest begins with. -/
theorem next_char_eq (u : Text) (c : Char) (t : Text) :
    next_char (enc (u ++ c :: t)) (len u) = some (some c) := by
  have hrange : range? (enc (u ++ c :: t)) (len u) (enc (u ++ c :: t)).length =
      some (enc (c :: t)) := by
    have h := range?_append (enc u) (enc (c :: t)) []
    rw [List.append_nil, ← enc_append] at h
    have hlen : (enc (u ++ c :: t)).length = len u + (enc (c :: t)).length := by
      rw [enc_append, List.length_append]
      rfl
    rw [hlen]
    exact h
  have hutf8 : Text.from_utf8 (enc (c :: t)) = some (c :: t) := Text.from_utf8_bytes (c :: t)
  unfold next_char
  rw [hrange, Option.map_some, hutf8]
  rfl

/-- Pushing a character. -/
theorem push_char {u out : Text} {colors : List TextColor} {c : Char} {t : Text} {l : List Tok}
    (hroom : len out < TEXT_MAX - 1)
    (h : markup_loop cfg (enc ((u ++ [c]) ++ t)) fuel (len (u ++ [c])) (out ++ [c]) colors =
      some ⟨(out ++ [c]) ++ letters (cut (TEXT_MAX - 1 - len (out ++ [c])) l),
        colors ++ runs (len (out ++ [c])) (cut (TEXT_MAX - 1 - len (out ++ [c])) l)⟩) :
    markup_loop cfg (enc (u ++ c :: t)) fuel (len u + c.utf8Size) (out ++ [c]) colors =
      some ⟨out ++ letters (cut (TEXT_MAX - 1 - len out) (.letter c :: l)),
        colors ++ runs (len out) (cut (TEXT_MAX - 1 - len out) (.letter c :: l))⟩ := by
  have hsize (v : Text) : len (v ++ [c]) = len v + c.utf8Size := by
    rw [len_append, len_cons, len_nil]
    rfl
  rw [hsize, hsize, List.append_assoc, List.append_assoc, List.singleton_append,
    List.singleton_append] at h
  rw [cut_letter (by omega), Nat.sub_sub]
  exact h

theorem marks_char {c : Char} {t : Text} (hc : c ≠ '^') (ih : MarksText cfg fuel t) :
    MarksText cfg (fuel + 1) (c :: t) := by
  intro u out colors
  by_cases hroom : len out < TEXT_MAX - 1
  · have hb : ∀ b, (enc (u ++ c :: t))[len u]? = some b → b ≠ 0x5e := by
      rintro b hb rfl
      rw [ascii_of_byte u _ (by decide)] at hb
      obtain ⟨d, v, h, hd⟩ := hb
      cases h
      exact hc (Char.toNat_inj (d := '^') |>.1 hd)
    have hlt : len u < (enc (u ++ c :: t)).length := by
      show len u < len (u ++ c :: t)
      have hpos := c.utf8Size_pos
      rw [len_append, len_cons]
      omega
    obtain ⟨b, hbyte⟩ : ∃ b, (enc (u ++ c :: t))[len u]? = some b :=
      ⟨_, List.getElem?_eq_getElem hlt⟩
    unfold markup_loop
    simp only [if_pos (And.intro hlt hroom), hbyte, Option.bind_some, if_neg (hb b hbyte),
      next_char_eq]
    rw [status_tokens_char cfg hc]
    exact push_char hroom (ih (u ++ [c]) (out ++ [c]) colors)
  · exact marks_full _ u out colors (by omega)

theorem caret_byte (u t : Text) : (enc (u ++ '^' :: t))[len u]? = some 0x5e ∧
    len u < (enc (u ++ '^' :: t)).length ∧ len (u ++ ['^']) = len u + 1 ∧
    u ++ '^' :: t = (u ++ ['^']) ++ t := by
  refine ⟨(ascii_of_byte u _ (by decide)).2 ⟨'^', t, rfl, rfl⟩, ?_, ?_, by simp⟩
  · show len u < len (u ++ '^' :: t)
    have hpos := '^'.utf8Size_pos
    rw [len_append, len_cons]
    omega
  · rw [len_append, len_cons]
    rfl

theorem marks_last : MarksText cfg (fuel + 1) ['^'] := by
  intro u out colors
  by_cases hroom : len out < TEXT_MAX - 1
  · obtain ⟨hbyte, hlt, hsize, -⟩ := caret_byte u []
    have hend : (enc (u ++ ['^'])).length ≤ len u + 1 := Nat.le_of_eq hsize
    unfold markup_loop
    simp only [if_pos (And.intro hlt hroom), hbyte, Option.bind_some, if_true, if_pos hend]
    rw [status_tokens_last]
    simp [letters, runs, placed, cut]
  · exact marks_full _ u out colors (by omega)

theorem marks_pair {t : Text} (ih : MarksText cfg fuel t) :
    MarksText cfg (fuel + 1) ('^' :: '^' :: t) := by
  intro u out colors
  by_cases hroom : len out < TEXT_MAX - 1
  · obtain ⟨hbyte, hlt, hsize, happ⟩ := caret_byte u ('^' :: t)
    obtain ⟨hbyte', hlt', -, -⟩ := caret_byte (u ++ ['^']) t
    rw [← happ, hsize] at hbyte' hlt'
    have hnext : next_char (enc (u ++ '^' :: '^' :: t)) (len u + 1) = some (some '^') := by
      rw [← hsize, happ]
      exact next_char_eq (u ++ ['^']) '^' t
    unfold markup_loop
    simp only [if_pos (And.intro hlt hroom), hbyte, Option.bind_some, if_true,
      if_neg (Nat.not_le.2 hlt'), hbyte', ne_eq, not_true_eq_false, if_false, hnext]
    rw [status_tokens_pair, happ, ← hsize]
    exact push_char hroom (ih ((u ++ ['^']) ++ ['^']) (out ++ ['^']) colors)
  · exact marks_full _ u out colors (by omega)

/-- Behind a single caret the scanner looks for a command. -/
theorem marks_caret {d : Char} (hd : d ≠ '^') {t u out : Text} {colors : List TextColor}
    (hroom : len out < TEXT_MAX - 1) :
    markup_loop cfg (enc (u ++ '^' :: d :: t)) (fuel + 1) (len u) out colors =
      match command (d :: t) with
      | some (cmd, arg, _) => markup_loop cfg (enc (u ++ '^' :: d :: t)) fuel
          (len u + 1 + (len cmd + len arg + 2)) out
          (colors ++ command_color cfg cmd arg (len out))
      | none => markup_loop cfg (enc (u ++ '^' :: d :: t)) fuel (len u + 1) out colors := by
  obtain ⟨hbyte, hlt, hsize, happ⟩ := caret_byte u (d :: t)
  have hlt' : len u + 1 < (enc (u ++ '^' :: d :: t)).length := by
    show len u + 1 < len (u ++ '^' :: d :: t)
    have hpos := d.utf8Size_pos
    rw [happ, len_append, len_cons, hsize]
    omega
  obtain ⟨b, hb⟩ : ∃ b, (enc (u ++ '^' :: d :: t))[len u + 1]? = some b :=
    ⟨_, List.getElem?_eq_getElem hlt'⟩
  have hne : b ≠ 0x5e := by
    rintro rfl
    rw [← hsize, happ, ascii_of_byte _ _ (by decide)] at hb
    obtain ⟨c, v, h, hc⟩ := hb
    cases h
    exact hd (Char.toNat_inj (d := '^') |>.1 hc)
  have hsrc : range? (enc (u ++ '^' :: d :: t)) (len u + 1) (enc (u ++ '^' :: d :: t)).length =
      some (enc (d :: t)) := by
    have h := range?_append (enc (u ++ ['^'])) (enc (d :: t)) []
    rw [List.append_nil, ← enc_append, ← happ] at h
    have hlen : (enc (u ++ '^' :: d :: t)).length = len (u ++ ['^']) + (enc (d :: t)).length := by
      rw [happ, enc_append, List.length_append]
      rfl
    rw [hlen, ← hsize]
    exact h
  have hmod : len out % u32 = len out := Nat.mod_eq_of_lt (by
    have : TEXT_MAX - 1 < u32 := by decide
    omega)
  rw [markup_loop]
  simp only [if_pos (And.intro hlt hroom), hbyte, Option.bind_some, if_true,
    if_neg (Nat.not_le.2 hlt'), hb, if_pos hne, hsrc, parse_command_eq, hmod]
  cases command (d :: t) with
  | none => rfl
  | some x => rfl

theorem marks_stray {d : Char} (hd : d ≠ '^') {t : Text} (h : command (d :: t) = none)
    (ih : MarksText cfg fuel (d :: t)) : MarksText cfg (fuel + 1) ('^' :: d :: t) := by
  intro u out colors
  by_cases hroom : len out < TEXT_MAX - 1
  · obtain ⟨-, -, hsize, happ⟩ := caret_byte u (d :: t)
    rw [marks_caret hd hroom, h, status_tokens_stray cfg hd h, happ, ← hsize]
    exact ih (u ++ ['^']) out colors
  · exact marks_full _ u out colors (by omega)

theorem marks_command {d : Char} (hd : d ≠ '^') {t cmd arg rest : Text}
    (h : command (d :: t) = some (cmd, arg, rest)) (ih : MarksText cfg fuel rest) :
    MarksText cfg (fuel + 1) ('^' :: d :: t) := by
  intro u out colors
  by_cases hroom : len out < TEXT_MAX - 1
  · obtain ⟨-, -, hsize, happ⟩ := caret_byte u (d :: t)
    obtain ⟨hconsumed, hsplit, -⟩ := command_consumes h
    have hrest : u ++ '^' :: d :: t =
        (u ++ ['^'] ++ (cmd ++ '(' :: (arg ++ [')']))) ++ rest := by
      rw [happ, hsplit]
      exact (List.append_assoc _ _ _).symm
    have hindex : len u + 1 + (len cmd + len arg + 2) =
        len (u ++ ['^'] ++ (cmd ++ '(' :: (arg ++ [')']))) := by
      rw [len_append, hsize, hconsumed]
    have hmarks (l : List Tok) : cut (TEXT_MAX - 1 - len out) (command_toks cfg cmd arg ++ l) =
        command_toks cfg cmd arg ++ cut (TEXT_MAX - 1 - len out) l := by
      have hroom : 0 < TEXT_MAX - 1 - len out := by omega
      have hcut := cut_marks hroom
        ((command_color cfg cmd arg 0).map fun tc => (tc.color, tc.is_bg)) l
      rw [List.map_map] at hcut
      exact hcut
    have hletters : letters (command_toks cfg cmd arg) = [] := by
      unfold command_toks command_color
      split_ifs <;> rfl
    have hruns (l : List Tok) : runs (len out) (command_toks cfg cmd arg ++ l) =
        command_color cfg cmd arg (len out) ++ runs (len out) l := by
      rw [← runs_command, runs, runs, runs, placed_append, hletters, total_nil, Nat.add_zero,
        List.map_append]
    rw [marks_caret hd hroom, h, status_tokens_command cfg hd h, hmarks, letters_append, hletters,
      List.nil_append, hruns, ← List.append_assoc colors]
    simp only
    rw [hindex, hrest]
    exact ih _ out _
  · exact marks_full _ u out colors (by omega)

/-- The scanner computes the tokens there is room for, in as many rounds as there are
characters. -/
theorem marks_text (t : Text) (h : t.length < fuel) : MarksText cfg fuel t := by
  induction fuel generalizing t with
  | zero => omega
  | succ fuel ih =>
    cases t with
    | nil => exact marks_nil
    | cons c t =>
      rw [List.length_cons] at h
      by_cases hc : c = '^'
      · subst hc
        cases t with
        | nil => exact marks_last
        | cons d t =>
          by_cases hd : d = '^'
          · subst hd
            rw [List.length_cons] at h
            exact marks_pair (ih t (by omega))
          · cases hcmd : command (d :: t) with
            | none => exact marks_stray hd hcmd (ih (d :: t) (by omega))
            | some x =>
              obtain ⟨cmd, arg, rest⟩ := x
              have hshort := (command_consumes hcmd).2.2
              exact marks_command hd hcmd (ih rest (by omega))
      · exact marks_char hc (ih t (by omega))

/-! ### Doubled carets -/

/-- A text with every caret doubled. -/
def double (t : Text) : Text := t.flatMap fun c => if c = '^' then ['^', '^'] else [c]

theorem status_tokens_double (cfg : MarkupConfig) (t : Text) :
    status_tokens cfg (double t) = t.map Item.letter := by
  induction t with
  | nil => exact status_tokens_nil cfg
  | cons c t ih =>
    have hcons : double (c :: t) = (if c = '^' then ['^', '^'] else [c]) ++ double t := rfl
    rw [hcons]
    split_ifs with hc
    · subst hc
      exact (status_tokens_pair cfg (double t)).trans (congrArg (Item.letter '^' :: ·) ih)
    · exact (status_tokens_char cfg hc (double t)).trans (congrArg (Item.letter c :: ·) ih)

/-- Characters that fit are all kept. -/
theorem cut_letters {room : ℕ} {t : Text} (h : len t ≤ room) :
    cut room (t.map Item.letter) = t.map Item.letter := by
  induction t generalizing room with
  | nil => rfl
  | cons c t ih =>
    rw [len_cons] at h
    have hpos := c.utf8Size_pos
    rw [List.map_cons, cut_letter (by omega), ih (by omega)]

theorem runs_letters (pos : ℕ) (t : Text) : runs pos (t.map Item.letter) = [] := by
  induction t generalizing pos with
  | nil => rfl
  | cons c t ih => exact ih _

/-! ### Every text -/

theorem parse_enabled (text : Text) (h : cfg.status_commands = true) :
    parse_into_customtext text cfg = some ⟨letters (cut (TEXT_MAX - 1) (status_tokens cfg text)),
      runs 0 (cut (TEXT_MAX - 1) (status_tokens cfg text))⟩ := by
  have hmarks : MarksText cfg (len text + 1) text :=
    marks_text text (Nat.lt_succ_of_le (length_le_len text))
  unfold parse_into_customtext
  rw [if_pos h]
  exact hmarks [] [] []

/-- The overrides of a text that was cut start early in it. -/
theorem start_lt_of_cut {l : List Tok} :
    ∀ tc ∈ runs 0 (cut (TEXT_MAX - 1) l), tc.start_byte < u32 := by
  intro tc htc
  have hle := ((azoth_render.placed_runs _).2 tc htc).le_len
  have hlast := len_cut (TEXT_MAX - 1) l
  have hbig : TEXT_MAX - 1 + 4 < u32 := by decide
  cases hc : (letters (cut (TEXT_MAX - 1) l)).getLast? with
  | none =>
    rw [List.getLast?_eq_none_iff] at hc
    rw [hc, len_nil] at hle
    omega
  | some c =>
    have hlt := hlast c hc
    have hfour := c.utf8Size_le_four
    omega

/-- With the commands on, a text with every caret doubled is parsed as itself, without overrides.
Any text is parsed, without an index out of range, to one whose overrides start at its boundaries
and in its order, so that a glyph has taken those in front of it; with the commands on it stays
below `TEXT_MAX` bytes but for its last character, with them off it is the first `TEXT_MAX - 1`
characters. -/
theorem markup_sound (text : Text) (cfg : MarkupConfig) :
    (cfg.status_commands = true → len text < TEXT_MAX →
      parse_into_customtext (double text) cfg = some ⟨text, []⟩) ∧
    ∃ r, parse_into_customtext text cfg = some r ∧
      (cfg.status_commands = true →
        ∀ c ∈ r.text.getLast?, len r.text < TEXT_MAX - 1 + c.utf8Size) ∧
      (cfg.status_commands = false → r.text = text.take (TEXT_MAX - 1)) ∧
      Placed r.text r.colors ∧ Taken r.text r.colors := by
  constructor
  · intro h hlen
    rw [parse_enabled _ h, status_tokens_double, cut_letters (by omega), letters_map_letter,
      runs_letters]
  · by_cases h : cfg.status_commands = true
    · refine ⟨_, parse_enabled text h, fun _ => len_cut _ _, fun hoff => ?_,
        azoth_render.placed_runs _, azoth_render.taken_runs start_lt_of_cut⟩
      rw [h] at hoff
      cases hoff
    · have hparse : parse_into_customtext text cfg = some ⟨text.take (TEXT_MAX - 1), []⟩ := by
        unfold parse_into_customtext
        exact if_neg h
      refine ⟨_, hparse, fun hon => absurd hon h, fun _ => rfl, ?_, ?_⟩
      · exact ⟨List.Pairwise.nil, fun tc htc => nomatch htc⟩
      · have htaken (l : List Tok) (hl : l = (text.take (TEXT_MAX - 1)).map Item.letter) :
            Taken (letters l) (runs 0 l) := by
          refine azoth_render.taken_runs fun tc htc => ?_
          rw [hl, runs_letters] at htc
          cases htc
        have h := htaken _ rfl
        rw [letters_map_letter, runs_letters] at h
        exact h

/-- Black everywhere. -/
def plainMarkup (status_commands : Bool) : MarkupConfig :=
  ⟨status_commands, ⟨0, 0, 0, 0⟩, ⟨0, 0, 0, 0⟩⟩

theorem markup_sound_caret :
    parse_into_customtext (double ['a', '^']) (plainMarkup true) = some ⟨['a', '^'], []⟩ :=
  (markup_sound ['a', '^'] (plainMarkup true)).1 rfl (by decide)

/-- With the commands off, 2047 euro signs are kept: 6141 bytes. -/
theorem not_markup_bounded : ¬ ∀ (text : Text) (cfg : MarkupConfig), ∃ r,
    parse_into_customtext text cfg = some r ∧ len r.text < TEXT_MAX + 4 := by
  intro h
  obtain ⟨r, hr, hlt⟩ := h (List.replicate 2047 '€') (plainMarkup false)
  have hkept : parse_into_customtext (List.replicate 2047 '€') (plainMarkup false) =
      some ⟨List.replicate 2047 '€', []⟩ := by
    have htake : (List.replicate 2047 '€').take (TEXT_MAX - 1) = List.replicate 2047 '€' :=
      List.take_of_length_le (by rw [List.length_replicate]; exact Nat.le_refl 2047)
    unfold parse_into_customtext
    rw [htake]
    rfl
  have hlen (n : ℕ) : len (List.replicate n '€') = 3 * n := by
    induction n with
    | zero => rfl
    | succ n ih =>
      have hsize : '€'.utf8Size = 3 := by decide
      rw [List.replicate_succ, len_cons, ih, hsize]
      omega
  rw [hkept] at hr
  cases hr
  rw [hlen] at hlt
  exact absurd hlt (by decide)

end Compositor
