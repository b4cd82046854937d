import Mathlib.Tactic.Common
import Rwl.Theory.ColorRuns

/-!
# Escape sequences in a hover widget

* `tokens`: the characters of a line without its escape sequences, and the overrides where those
  stood;
* `tokens_csi`: what a sequence comes to, terminated or not;
* `parse_loop_eq`: the scanner computes the tokens; `strip_loop_of_parse_loop`: the other one keeps
  up with it;
* `Rendered`, `rendered_iff`: drawing and measuring agree exactly on the lines without a NUL among
  the visible characters.
-/

namespace Compositor

open ByteScan Marks

namespace azoth_render

/-! ### Tokens -/

/-- A character that ends an escape sequence. -/
def final (c : Char) : Bool := decide (0x40 ≤ c.toNat ∧ c.toNat ≤ 0x7e)

/-- The overrides that switch reverse video. -/
def switch (fg bg accent : Color) (reverse : Bool) : List Tok :=
  (overrides fg bg accent reverse 0).map fun tc => .mark (tc.color, tc.is_bg)

/-- What a sequence that ends with `f` comes to, and whether reverse video is on behind it. -/
def closed (fg bg accent : Color) (reverse : Bool) (params : Text) (f : Char) : List Tok × Bool :=
  if f = 'm' then
    (if (sgr reverse params).2 then switch fg bg accent (sgr reverse params).1 else [],
      (sgr reverse params).1)
  else ([], reverse)

/-- The tokens of a line; in an escape sequence, with its parameters so far. -/
def tokens (fg bg accent : Color) : Option Text → Bool → Text → List Tok
  | _, _, [] => []
  | none, reverse, c :: t =>
    if c.toNat = 0x1b then
      match t with
      | [] => []
      | d :: u =>
        if d = '[' then tokens fg bg accent (some []) reverse u
        else tokens fg bg accent none reverse (d :: u)
    else .letter c :: tokens fg bg accent none reverse t
  | some params, reverse, c :: t =>
    if final c then
      (closed fg bg accent reverse params c).1 ++
        tokens fg bg accent none (closed fg bg accent reverse params c).2 t
    else tokens fg bg accent (some (params ++ [c])) reverse t

/-- The characters of a line that are not part of an escape sequence. -/
def visible (line : Text) : Text :=
  letters (tokens ⟨0, 0, 0, 0⟩ ⟨0, 0, 0, 0⟩ ⟨0, 0, 0, 0⟩ none false line)

variable {fg bg accent : Color}

theorem letters_switch (reverse : Bool) : letters (switch fg bg accent reverse) = [] := by
  cases reverse <;> rfl

theorem letters_closed (reverse : Bool) (params : Text) (f : Char) :
    letters (closed fg bg accent reverse params f).1 = [] := by
  unfold closed
  split_ifs
  · exact letters_switch _
  · rfl
  · rfl

/-- The characters are those the stripper of `Hover` leaves, whatever the colours are. -/
theorem letters_tokens (mode : Option Text) (reverse : Bool) (t : Text) :
    letters (tokens fg bg accent mode reverse t) = strip_ansi_from mode.isSome t := by
  fun_induction tokens fg bg accent mode reverse t with
  | case1 mode => cases mode <;> rfl
  | case2 reverse c hesc => simp [strip_ansi_from, hesc, letters]
  | case3 reverse c hesc u ih => simpa [strip_ansi_from, hesc] using ih
  | case4 reverse c hesc d u hd ih => simpa [strip_ansi_from, hesc, hd] using ih
  | case5 reverse c t hesc ih =>
    have hkeep : strip_ansi_from false (c :: t) = c :: strip_ansi_from false t := by
      rw [strip_ansi_from.eq_def]
      exact if_neg hesc
    exact (congrArg (c :: ·) ih).trans hkeep.symm
  | case6 params reverse c t hfinal ih =>
    have hskip : strip_ansi_from true (c :: t) = strip_ansi_from false t := by
      rw [final, Bool.decide_and] at hfinal
      rw [strip_ansi_from, hfinal]
      rfl
    rw [letters_append, letters_closed, List.nil_append, ih]
    exact hskip.symm
  | case7 params reverse c t hfinal ih =>
    have hskip : strip_ansi_from true (c :: t) = strip_ansi_from true t := by
      rw [final, Bool.decide_and, Bool.not_eq_true] at hfinal
      rw [strip_ansi_from, hfinal]
      rfl
    rw [ih]
    exact hskip.symm

theorem letters_tokens_eq_visible (line : Text) :
    letters (tokens fg bg accent none false line) = visible line :=
  (letters_tokens none false line).trans (letters_tokens none false line).symm

/-! ### Sequences -/

theorem lift_is_final (c : Char) : lift is_final c = final c := by
  unfold lift is_final final
  by_cases hc : c.toNat < 128
  · rw [decide_eq_true hc, Bool.true_and, Bool.eq_iff_iff, decide_eq_true_eq, decide_eq_true_eq,
      UInt8.le_iff_toNat_le, UInt8.le_iff_toNat_le, toNat_toUInt8_of_lt hc]
    exact Iff.rfl
  · rw [decide_eq_false hc, Bool.false_and]
    exact (decide_eq_false fun h => hc (by omega)).symm

theorem isAscii_of_is_final (b : UInt8) (h : is_final b = true) : IsAscii b := by
  have hle := (of_decide_eq_true h).2
  rw [UInt8.le_iff_toNat_le] at hle
  exact Nat.lt_of_le_of_lt hle (by decide)

/-- A sequence that ends. -/
theorem tokens_csi (params : Text) (reverse : Bool) {ps : Text} (hps : ∀ c ∈ ps, final c = false)
    {f : Char} (hf : final f = true) (t : Text) :
    tokens fg bg accent (some params) reverse (ps ++ f :: t) =
      (closed fg bg accent reverse (params ++ ps) f).1 ++
        tokens fg bg accent none (closed fg bg accent reverse (params ++ ps) f).2 t := by
  induction ps generalizing params with
  | nil => simp [tokens, hf]
  | cons c ps ih =>
    have hc := hps c List.mem_cons_self
    rw [List.cons_append, tokens, hc, if_neg (by decide),
      ih _ fun d hd => hps d (List.mem_cons_of_mem _ hd), List.append_assoc]
    rfl

/-- A sequence that does not end. -/
theorem tokens_unterminated (params : Text) (reverse : Bool) {ps : Text}
    (hps : ∀ c ∈ ps, final c = false) : tokens fg bg accent (some params) reverse ps = [] := by
  induction ps generalizing params with
  | nil => rfl
  | cons c ps ih =>
    rw [tokens, hps c List.mem_cons_self, if_neg (by decide)]
    exact ih _ fun d hd => hps d (List.mem_cons_of_mem _ hd)

/-- Where the scanner finds the end of a sequence whose parameters begin the text `t`. -/
theorem csi_end_eq (u t : Text) :
    csi_end (enc (u ++ t)) (len u) = len u + len (t.takeWhile fun c => !final c) := by
  unfold csi_end
  rw [drop_enc, findIdx_enc isAscii_of_is_final]
  congr 2
  exact congrArg (List.takeWhile · t) (funext fun c => by rw [lift_is_final])

/-- A text is parameters and what ends them, or parameters only. -/
theorem params_split (t : Text) :
    (∃ ps f r, t = ps ++ f :: r ∧ (∀ c ∈ ps, final c = false) ∧ final f = true ∧
      t.takeWhile (fun c => !final c) = ps) ∨
    ((∀ c ∈ t, final c = false) ∧ t.takeWhile (fun c => !final c) = t) := by
  induction t with
  | nil => exact .inr ⟨fun c hc => (nomatch hc), rfl⟩
  | cons c t ih =>
    cases hc : final c with
    | true => exact .inl ⟨[], c, t, rfl, fun d hd => (nomatch hd), hc, by simp [hc]⟩
    | false =>
      rcases ih with ⟨ps, f, r, rfl, hps, hf, htake⟩ | ⟨hall, htake⟩
      · refine .inl ⟨c :: ps, f, r, rfl, ?_, hf, ?_⟩
        · intro d hd
          rcases List.mem_cons.1 hd with rfl | hd
          · exact hc
          · exact hps d hd
        · rw [List.takeWhile_cons, hc]
          exact congrArg (c :: ·) htake
      · refine .inr ⟨?_, ?_⟩
        · intro d hd
          rcases List.mem_cons.1 hd with rfl | hd
          · exact hc
          · exact hall d hd
        · rw [List.takeWhile_cons, hc]
          exact congrArg (c :: ·) htake

/-! ### The scanner -/

/-- The overrides as the scanner counts their places: in a `u32`. -/
def wrapped (pos : ℕ) (l : List Tok) : List TextColor :=
  (runs pos l).map fun tc => { tc with start_byte := tc.start_byte % u32 }

theorem wrapped_append (pos : ℕ) (l m : List Tok) :
    wrapped pos (l ++ m) = wrapped pos l ++ wrapped (pos + len (letters l)) m := by
  unfold wrapped runs
  rw [placed_append, total_utf8Size, List.map_append, List.map_append]

theorem wrapped_closed (reverse : Bool) (params : Text) (pos : ℕ) :
    (if (sgr reverse params).2 then overrides fg bg accent (sgr reverse params).1 (pos % u32)
      else []) = wrapped pos (closed fg bg accent reverse params 'm').1 := by
  unfold closed
  rw [if_pos rfl]
  split_ifs
  · cases (sgr reverse params).1 <;> rfl
  · rfl

/-- At the end of a prefix, with the byte the rest begins with. -/
theorem lt_length (u : Text) (c : Char) (t : Text) : len u < (enc (u ++ c :: t)).length := by
  show len u < len (u ++ c :: t)
  have hpos := c.utf8Size_pos
  rw [len_append, len_cons]
  omega

theorem byte_iff (u : Text) (c : Char) (t : Text) {b : UInt8} (hb : IsAscii b) :
    (enc (u ++ c :: t))[len u]? = some b ↔ c.toNat = b.toNat := by
  rw [ascii_of_byte u _ hb]
  constructor
  · rintro ⟨c', t', h, hc⟩
    cases h
    exact hc
  · exact fun h => ⟨c, t, rfl, h⟩

theorem charAt_append (u : Text) (c : Char) (t : Text) :
    charAt (u ++ c :: t) (len u) = some (some c) := by
  rw [charAt, sliceFrom?_append]
  rfl

theorem len_snoc (u : Text) (c : Char) : len (u ++ [c]) = len u + c.utf8Size := by
  rw [len_append, len_cons, len_nil]
  rfl

/-- An ASCII character takes one byte. -/
theorem utf8Size_of_lt {c : Char} (h : c.toNat < 128) : c.utf8Size = 1 := by
  rw [← String.length_utf8EncodeChar, utf8EncodeChar_of_lt h]
  rfl

variable {fuel : ℕ} {reverse : Bool} {out : Text} {colors : List TextColor}

/-- What the scanner makes of the rest of a line. -/
def Scans (fg bg accent : Color) (fuel : ℕ) (t : Text) : Prop :=
  ∀ (u : Text) (reverse : Bool) (out : Text) (colors : List TextColor),
    parse_loop (u ++ t) fg bg accent fuel (len u) reverse out colors =
      some (out ++ letters (tokens fg bg accent none reverse t),
        colors ++ wrapped (len out) (tokens fg bg accent none reverse t))

theorem scans_nil : Scans fg bg accent (fuel + 1) [] := by
  intro u reverse out colors
  unfold parse_loop
  have hlen : (enc (u ++ [])).length = len u := by
    rw [List.append_nil]
    rfl
  simp only [hlen, Nat.lt_irrefl, if_false]
  simp [tokens, letters, wrapped, runs, placed]

theorem scans_char {c : Char} {t : Text} (hc : c.toNat ≠ 0x1b)
    (ih : Scans fg bg accent fuel t) : Scans fg bg accent (fuel + 1) (c :: t) := by
  intro u reverse out colors
  have hesc : ¬ (enc (u ++ c :: t))[len u]? = some 0x1b := by
    rw [byte_iff u c t (by decide)]
    exact hc
  have hih := ih (u ++ [c]) reverse (out ++ [c]) colors
  rw [len_snoc, List.append_assoc, List.singleton_append] at hih
  have htokens : tokens fg bg accent none reverse (c :: t) =
      .letter c :: tokens fg bg accent none reverse t := by
    rw [tokens.eq_def]
    exact if_neg hc
  unfold parse_loop
  simp only [if_pos (lt_length u c t), if_neg hesc, charAt_append]
  rw [hih, htokens, len_snoc, List.append_assoc]
  rfl

theorem scans_esc {c : Char} {t : Text} (hc : c.toNat = 0x1b) (ht : t.head? ≠ some '[')
    (ih : Scans fg bg accent fuel t) : Scans fg bg accent (fuel + 1) (c :: t) := by
  intro u reverse out colors
  have hesc : (enc (u ++ c :: t))[len u]? = some 0x1b := (byte_iff u c t (by decide)).2 hc
  have hsize : len (u ++ [c]) = len u + 1 := by
    rw [len_snoc, utf8Size_of_lt (by omega)]
  have hih := ih (u ++ [c]) reverse out colors
  rw [hsize, List.append_assoc, List.singleton_append] at hih
  have hbracket : ¬ (enc (u ++ c :: t))[len u + 1]? = some 0x5b := by
    have happ : u ++ c :: t = (u ++ [c]) ++ t := by simp
    rw [happ, ← hsize, ascii_of_byte _ _ (by decide)]
    rintro ⟨d, v, rfl, hd⟩
    refine ht ?_
    rw [List.head?_cons, Option.some.injEq]
    exact Char.toNat_inj.1 hd
  have htokens : tokens fg bg accent none reverse (c :: t) =
      tokens fg bg accent none reverse t := by
    rw [tokens.eq_def]
    cases t with
    | nil => exact if_pos hc
    | cons d v =>
      have hd : d ≠ '[' := fun h => ht (by rw [h]; rfl)
      refine (if_pos hc).trans ?_
      exact if_neg hd
  unfold parse_loop
  simp only [if_pos (lt_length u c t), hesc, if_true, if_neg hbracket]
  rw [hih, htokens]

theorem tokens_bracket {c : Char} (hc : c.toNat = 0x1b) (t : Text) :
    tokens fg bg accent none reverse (c :: '[' :: t) =
      tokens fg bg accent (some []) reverse t := by
  rw [tokens.eq_def]
  refine (if_pos hc).trans ?_
  exact if_pos rfl

/-- The bytes of a sequence that begins behind `u`. -/
theorem bracket_bytes (u : Text) {c : Char} (hc : c.toNat = 0x1b) (t : Text) :
    (enc (u ++ c :: '[' :: t))[len u]? = some 0x1b ∧
      (enc (u ++ c :: '[' :: t))[len u + 1]? = some 0x5b ∧
      u ++ c :: '[' :: t = (u ++ [c, '[']) ++ t ∧ len (u ++ [c, '[']) = len u + 2 := by
  have hsize : len (u ++ [c]) = len u + 1 := by
    rw [len_snoc, utf8Size_of_lt (by omega)]
  refine ⟨(byte_iff u c _ (by decide)).2 hc, ?_, by simp, ?_⟩
  · have happ : u ++ c :: '[' :: t = (u ++ [c]) ++ '[' :: t := by simp
    rw [happ, ← hsize, byte_iff _ _ _ (by decide)]
    rfl
  · have happ : u ++ [c, '['] = (u ++ [c]) ++ ['['] := by simp
    rw [happ, len_snoc, hsize]
    rfl

theorem scans_unterminated {c : Char} {t : Text} (hc : c.toNat = 0x1b)
    (hall : ∀ d ∈ t, final d = false) (htake : t.takeWhile (fun d => !final d) = t)
    (ih : Scans fg bg accent fuel []) : Scans fg bg accent (fuel + 1) (c :: '[' :: t) := by
  intro u reverse out colors
  obtain ⟨hesc, hbracket, happ, hsize⟩ := bracket_bytes u hc t
  have hend : csi_end (enc (u ++ c :: '[' :: t)) (len u + 2) = len (u ++ c :: '[' :: t) := by
    rw [happ, ← hsize, csi_end_eq, htake, ← len_append]
  have hlen : (enc (u ++ c :: '[' :: t)).length = len (u ++ c :: '[' :: t) := rfl
  have hnone : ¬ (enc (u ++ c :: '[' :: t))[len (u ++ c :: '[' :: t)]? = some 0x6d := by
    rw [List.getElem?_eq_none (Nat.le_of_eq hlen)]
    exact fun h => nomatch h
  have hih := ih (u ++ c :: '[' :: t) reverse out colors
  rw [List.append_nil] at hih
  have hlt : len u < len (u ++ c :: '[' :: t) := lt_length u c _
  unfold parse_loop
  simp only [hesc, hbracket, if_true, hend, hlen, hlt, Nat.lt_irrefl, if_false, if_neg hnone]
  rw [hih, tokens_bracket hc, tokens_unterminated _ _ hall]
  rfl

theorem scans_terminated {c f : Char} {ps t : Text} (hc : c.toNat = 0x1b)
    (hps : ∀ d ∈ ps, final d = false) (hf : final f = true)
    (htake : (ps ++ f :: t).takeWhile (fun d => !final d) = ps)
    (ih : Scans fg bg accent fuel t) :
    Scans fg bg accent (fuel + 1) (c :: '[' :: (ps ++ f :: t)) := by
  intro u reverse out colors
  obtain ⟨hesc, hbracket, happ, hsize⟩ := bracket_bytes u hc (ps ++ f :: t)
  have hfsize : f.utf8Size = 1 := by
    have hle := (of_decide_eq_true hf).2
    exact utf8Size_of_lt (by omega)
  -- the sequence ends behind `ps`, at `f`
  have hsplit : u ++ c :: '[' :: (ps ++ f :: t) = (u ++ [c, '['] ++ ps) ++ f :: t := by simp
  have hj : len (u ++ [c, '['] ++ ps) = len u + 2 + len ps := by
    rw [len_append, hsize]
  have hend : csi_end (enc (u ++ c :: '[' :: (ps ++ f :: t))) (len u + 2) =
      len (u ++ [c, '['] ++ ps) := by
    rw [happ, ← hsize, csi_end_eq, htake, ← len_append]
  have hlt : len (u ++ [c, '['] ++ ps) < (enc (u ++ c :: '[' :: (ps ++ f :: t))).length := by
    rw [hsplit]
    exact lt_length _ f t
  have hm : (enc (u ++ c :: '[' :: (ps ++ f :: t)))[len (u ++ [c, '['] ++ ps)]? = some 0x6d ↔
      f = 'm' := by
    rw [hsplit, byte_iff _ f t (by decide)]
    exact Char.toNat_inj (d := 'm')
  have hslice : slice? (u ++ c :: '[' :: (ps ++ f :: t)) (len u + 2)
      (len (u ++ [c, '['] ++ ps)) = some ps := by
    rw [happ, hj, ← hsize]
    exact slice?_append _ _ _
  have hnext : len (u ++ [c, '['] ++ ps) + 1 = len (u ++ [c, '['] ++ ps ++ [f]) := by
    rw [len_snoc, hfsize]
  have hagain : u ++ c :: '[' :: (ps ++ f :: t) = (u ++ [c, '['] ++ ps ++ [f]) ++ t := by simp
  unfold parse_loop
  simp only [if_pos (lt_length u c _), hesc, hbracket, if_true, hend, if_pos hlt, hslice,
    Option.bind_some]
  rw [tokens_bracket hc, tokens_csi [] reverse hps hf t, List.nil_append, letters_append,
    letters_closed, List.nil_append, wrapped_append, letters_closed, len_nil, Nat.add_zero, hnext]
  by_cases hfm : f = 'm'
  · subst hfm
    rw [if_pos (hm.2 rfl), ← wrapped_closed, hagain, ih]
    have hstate : (closed fg bg accent reverse ps 'm').2 = (sgr reverse ps).1 := by
      unfold closed
      rw [if_pos rfl]
    rw [hstate]
    split_ifs
    · rw [List.append_assoc]
      rfl
    · rw [List.nil_append]
      rfl
  · have hclosed : closed fg bg accent reverse ps f = ([], reverse) := if_neg hfm
    rw [if_neg fun h => hfm (hm.1 h), hclosed, hagain, ih]
    rfl

/-- The scanner computes the tokens of a line, in as many rounds as there are characters. -/
theorem scans (t : Text) (h : t.length < fuel) : Scans fg bg accent fuel t := by
  induction fuel generalizing t with
  | zero => omega
  | succ fuel ih =>
    cases t with
    | nil => exact scans_nil
    | cons c t =>
      rw [List.length_cons] at h
      by_cases hc : c.toNat = 0x1b
      · by_cases ht : t.head? = some '['
        · obtain ⟨r, rfl⟩ : ∃ r, t = '[' :: r := by
            cases t with
            | nil => cases ht
            | cons d r =>
              cases ht
              exact ⟨r, rfl⟩
          rcases params_split r with ⟨ps, f, v, rfl, hps, hf, htake⟩ | ⟨hall, htake⟩
          · refine scans_terminated hc hps hf htake (ih v ?_)
            simp only [List.length_cons, List.length_append] at h
            omega
          · exact scans_unterminated hc hall htake (ih [] (by simp at h ⊢; omega))
        · exact scans_esc hc ht (ih t (by omega))
      · exact scans_char hc (ih t (by omega))

/-! ### The two scanners -/

/-- The stripper keeps up with the parser. -/
theorem strip_loop_of_parse_loop {line : Text} {i : ℕ} {x : Text × List TextColor}
    (h : parse_loop line fg bg accent fuel i reverse out colors = some x) :
    strip_loop line fuel i out = some x.1 := by
  induction fuel generalizing i reverse out colors with
  | zero => cases h
  | succ fuel ih =>
    unfold parse_loop at h
    unfold strip_loop
    simp only at h ⊢
    split_ifs at h ⊢
    · obtain ⟨params, -, hx⟩ := Option.bind_eq_some_iff.1 h
      exact ih hx
    · exact ih h
    · obtain ⟨params, -, hx⟩ := Option.bind_eq_some_iff.1 h
      exact ih hx
    · exact ih h
    · exact ih h
    · cases hc : charAt line i with
      | none =>
        rw [hc] at h
        cases h
      | some o =>
        rw [hc] at h
        cases o with
        | none =>
          cases h
          rfl
        | some ch => exact ih h
    · cases h
      rfl

theorem parse_loop_line (line : Text) (fg bg accent : Color) :
    parse_loop line fg bg accent (len line + 1) 0 false [] [] =
      some (visible line, wrapped 0 (tokens fg bg accent none false line)) := by
  have h : Scans fg bg accent (len line + 1) line :=
    scans line (Nat.lt_succ_of_le (length_le_len line))
  have hline := h [] false [] []
  rw [List.nil_append, List.nil_append, List.nil_append, letters_tokens_eq_visible] at hline
  exact hline

/-- The text is drawn as a C string. -/
theorem parse_ansi_eq (line : Text) (fg bg accent : Color) :
    parse_ansi line fg bg accent = some ((CString (visible line)).getD [],
      wrapped 0 (tokens fg bg accent none false line)) := by
  unfold parse_ansi
  rw [parse_loop_line]
  rfl

/-- The stripper leaves what is visible; its short cut too. -/
theorem strip_ansi_eq (line : Text) : strip_ansi line = some (visible line) := by
  unfold strip_ansi
  split_ifs with h
  · exact strip_loop_of_parse_loop (parse_loop_line line ⟨0, 0, 0, 0⟩ ⟨0, 0, 0, 0⟩ ⟨0, 0, 0, 0⟩)
  · rw [mem_enc_iff line (by decide)] at h
    have hnone : ∀ c ∈ line, c.toNat ≠ 0x1b := fun c hc heq => h ⟨c, hc, heq⟩
    have hkeep : visible line = line := by
      unfold visible
      rw [letters_tokens]
      clear h
      show strip_ansi_from false line = line
      induction line with
      | nil => rfl
      | cons c t ih =>
        rw [strip_ansi_from.eq_def]
        refine (if_neg (hnone c List.mem_cons_self)).trans ?_
        exact congrArg (c :: ·) (ih fun d hd => hnone d (List.mem_cons_of_mem _ hd))
    rw [hkeep]

/-! ### Drawing and measuring -/

/-- What is drawn of a line is what is measured; each override starts where its escape sequence
stood, at a boundary of that text and in its order; and each glyph has taken those in front of
it. -/
def Rendered (line : Text) (fg bg accent : Color) : Prop :=
  ∃ text colors, parse_ansi line fg bg accent = some (text, colors) ∧
    strip_ansi line = some text ∧ colors = runs 0 (tokens fg bg accent none false line) ∧
    Placed text colors ∧ Taken text colors

/-- No NUL is visible, and each override starts within the first 4 GiB. -/
def Clean (line : Text) (fg bg accent : Color) : Prop :=
  '\x00' ∉ visible line ∧ ∀ tc ∈ runs 0 (tokens fg bg accent none false line), tc.start_byte < u32

/-- The places of the scanner are exact up to 4 GiB. -/
theorem wrapped_eq_runs_iff (l : List Tok) :
    wrapped 0 l = runs 0 l ↔ ∀ tc ∈ runs 0 l, tc.start_byte < u32 := by
  have hmap : wrapped 0 l = runs 0 l ↔ ∀ tc ∈ runs 0 l,
      ({ tc with start_byte := tc.start_byte % u32 } : TextColor) = tc := by
    unfold wrapped
    constructor
    · intro h
      exact List.map_inj_left.1 (h.trans (List.map_id _).symm)
    · intro h
      exact (List.map_congr_left h).trans (List.map_id _)
  rw [hmap]
  refine forall₂_congr fun tc _ => ?_
  constructor
  · intro h
    have hstart : tc.start_byte % u32 = tc.start_byte := congrArg TextColor.start_byte h
    rw [← hstart]
    exact Nat.mod_lt _ (by decide)
  · intro h
    rw [Nat.mod_eq_of_lt h]

/-- Both scanners end on every line, without a slice inside a character; what one draws is what
the other measures, with every override where its escape sequence stood, exactly if no NUL is
visible. -/
theorem rendered_iff (line : Text) (fg bg accent : Color) :
    Rendered line fg bg accent ↔ Clean line fg bg accent := by
  unfold Rendered Clean
  rw [parse_ansi_eq, strip_ansi_eq]
  constructor
  · rintro ⟨text, colors, hparse, hstrip, hcolors, -, -⟩
    simp only [Option.some.injEq, Prod.mk.injEq] at hparse hstrip
    obtain ⟨htext, hwrapped⟩ := hparse
    refine ⟨fun hnul => ?_, (wrapped_eq_runs_iff _).1 (hwrapped.trans hcolors)⟩
    -- with a NUL nothing is drawn, but the line is not empty
    have hempty : text = [] := by
      rw [← htext, CString, if_pos hnul]
      rfl
    rw [hstrip, hempty] at hnul
    cases hnul
  · rintro ⟨hnul, hplaces⟩
    have htext : (CString (visible line)).getD [] = visible line := by
      rw [CString, if_neg hnul]
      rfl
    rw [(wrapped_eq_runs_iff _).2 hplaces, htext]
    have hvisible : letters (tokens fg bg accent none false line) = visible line :=
      letters_tokens_eq_visible line
    refine ⟨visible line, _, rfl, rfl, rfl, ?_, ?_⟩
    · rw [← hvisible]
      exact placed_runs _
    · rw [← hvisible]
      exact taken_runs hplaces

/-- A line of one NUL is measured, and nothing is drawn. -/
theorem not_rendered : ¬ ∀ line : Text,
    Rendered line ⟨0, 0, 0, 0⟩ ⟨0, 0, 0, 0⟩ ⟨0, 0, 0, 0⟩ := by
  intro h
  obtain ⟨text, colors, hparse, hstrip, -⟩ := h ['\x00']
  have hdrawn : parse_ansi ['\x00'] ⟨0, 0, 0, 0⟩ ⟨0, 0, 0, 0⟩ ⟨0, 0, 0, 0⟩ = some ([], []) := by
    decide
  have hmeasured : strip_ansi ['\x00'] = some ['\x00'] := by decide
  rw [hdrawn] at hparse
  rw [hmeasured] at hstrip
  cases hparse
  cases hstrip

end azoth_render

end Compositor
