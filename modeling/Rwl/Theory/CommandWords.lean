import Mathlib.Tactic.Ring
import Mathlib.Tactic.FieldSimp
import Mathlib.Algebra.Order.Field.Basic
import Rwl.Core.Commands
import Rwl.Theory.MsgRoundTrip

/-!
# The words of a command

`cmd_dispatch` reads the words that `rwl msg` joins from its arguments. An action has one name and
one spelling for each of its payloads, and the client sends every line the server acts on.

* `parse_signed`, `parse_scientific`: numbers are read as they are written;
* `parse_action_iff`: which words are an action;
* `ofArgs_eq`: the client and the server know the same commands;
* `msg_actions`: the arguments of `rwl msg` that are an action.
-/

namespace Compositor

namespace Text

/-! ### Numbers with a sign -/

/-- An integer as `write!` prints it. -/
def signed (z : ℤ) : Text := if z < 0 then '-' :: decimal z.natAbs else decimal z.natAbs

/-- The number `z / 10 ^ k`, with an exponent. -/
def scientific (z : ℤ) (k : ℕ) : Text := signed z ++ 'e' :: '-' :: decimal k

theorem all_isDigit_decimal (n : ℕ) : (decimal n).all Char.isDigit = true :=
  List.all_eq_true.2 fun _ => isDigit_decimal

theorem ofDigitChars_decimal (n : ℕ) : Nat.ofDigitChars 10 (decimal n) 0 = n :=
  Nat.ofDigitChars_ten_toDigits

/-- The first character of a number is a digit. -/
theorem decimal_eq_cons (n : ℕ) : ∃ c t, decimal n = c :: t ∧ c.isDigit = true := by
  obtain ⟨c, t, h⟩ := List.exists_cons_of_ne_nil (decimal_ne_nil n)
  exact ⟨c, t, h, isDigit_decimal (h ▸ List.mem_cons_self)⟩

theorem parse_int_decimal {bound n : ℕ} (h : n < bound) :
    parse_int bound (decimal n) = some (n : ℤ) := by
  obtain ⟨c, t, hcons, hc⟩ := decimal_eq_cons n
  have hminus : c ≠ '-' := by
    rintro rfl
    exact absurd hc (by decide)
  have hpos : parse_int bound (decimal n) = (parse_uint bound (decimal n)).map Int.ofNat := by
    rw [hcons, parse_int]
    rintro digits hdigits
    exact hminus (List.cons.inj hdigits).1
  rw [hpos, parse_decimal h]
  rfl

theorem parse_int_minus (bound : ℕ) {digits : Text} (hne : digits ≠ [])
    (hdigits : digits.all Char.isDigit = true) :
    parse_int bound ('-' :: digits) =
      if Nat.ofDigitChars 10 digits 0 ≤ bound then some (-(Nat.ofDigitChars 10 digits 0 : ℤ))
      else none :=
  if_pos ⟨hne, hdigits⟩

/-- An integer in range is read as it was written. -/
theorem parse_signed {bound : ℕ} {z : ℤ} (hlow : -(bound : ℤ) ≤ z) (hhigh : z < bound) :
    parse_int bound (signed z) = some z := by
  unfold signed
  by_cases hz : z < 0
  · rw [if_pos hz, parse_int_minus bound (decimal_ne_nil _) (all_isDigit_decimal _),
      ofDigitChars_decimal, if_pos (by omega)]
    exact congrArg some (by omega)
  · rw [if_neg hz, parse_int_decimal (by omega)]
    exact congrArg some (by omega)

/-! ### Decimal fractions -/

theorem sign_decimal_append (n : ℕ) (t : Text) : sign (decimal n ++ t) = (false, decimal n ++ t) := by
  obtain ⟨c, u, hcons, hc⟩ := decimal_eq_cons n
  rw [hcons, List.cons_append]
  unfold sign
  split
  · rename_i heq
    rw [(List.cons.inj heq).1] at hc
    exact absurd hc (by decide)
  · rename_i heq
    rw [(List.cons.inj heq).1] at hc
    exact absurd hc (by decide)
  · rfl

theorem sign_signed_append (z : ℤ) (t : Text) :
    sign (signed z ++ t) = (decide (z < 0), decimal z.natAbs ++ t) := by
  unfold signed
  by_cases hz : z < 0
  · rw [if_pos hz, decide_eq_true hz]
    rfl
  · rw [if_neg hz, decide_eq_false hz]
    exact sign_decimal_append _ _

/-- A number that begins with a digit is no name. -/
theorem map_toLower_ne {n : ℕ} {t : Text} {c : Char} {w : Text} (hw : c.isDigit = false) :
    (decimal n ++ t).map Char.toLower ≠ c :: w := by
  obtain ⟨d, u, hcons, hd⟩ := decimal_eq_cons n
  intro h
  rw [hcons, List.cons_append, List.map_cons] at h
  have hlower : d.toLower = d := by
    have hrange : 48 ≤ d.toNat ∧ d.toNat ≤ 57 := Char.isDigit_iff_toNat.1 hd
    unfold Char.toLower
    refine dif_neg fun hupper => ?_
    have : 65 ≤ d.toNat := hupper.1
    omega
  rw [hlower] at h
  rw [(List.cons.inj h).1, hw] at hd
  exact Bool.noConfusion hd

theorem exponent_minus (k : ℕ) : exponent ('e' :: '-' :: decimal k) = some (-(k : ℤ)) := by
  have hdigits : exponent ('e' :: '-' :: decimal k) =
      if decimal k ≠ [] ∧ (decimal k).all Char.isDigit = true then
        some (-(Nat.ofDigitChars 10 (decimal k) 0 : ℤ))
      else none := rfl
  rw [hdigits, if_pos ⟨decimal_ne_nil k, all_isDigit_decimal k⟩, ofDigitChars_decimal]

/-- The digits of a number end where an exponent begins. -/
theorem span_decimal (n : ℕ) (t : Text) :
    (decimal n ++ 'e' :: t).takeWhile Char.isDigit = decimal n ∧
      (decimal n ++ 'e' :: t).dropWhile Char.isDigit = 'e' :: t := by
  constructor
  · rw [List.takeWhile_append_of_pos fun _ => isDigit_decimal]
    simp
  · rw [List.dropWhile_append_of_pos fun _ => isDigit_decimal]
    simp

theorem number_scientific (n k : ℕ) :
    number (decimal n ++ 'e' :: '-' :: decimal k) = some ((n : ℚ) / 10 ^ k) := by
  have hfraction : fraction ('e' :: '-' :: decimal k) = ([], 'e' :: '-' :: decimal k) := rfl
  unfold number
  rw [(span_decimal n _).1, (span_decimal n _).2, hfraction]
  dsimp only
  rw [List.append_nil, if_neg (decimal_ne_nil n), exponent_minus, Option.map_some,
    ofDigitChars_decimal]
  simp [Rat.mkRat_eq_div]

/-- The sign of a fraction is the sign before it. -/
theorem signed_div (z : ℤ) (k : ℕ) :
    (if z < 0 then -((z.natAbs : ℚ) / 10 ^ k) else (z.natAbs : ℚ) / 10 ^ k) = (z : ℚ) / 10 ^ k := by
  rw [Nat.cast_natAbs]
  by_cases hz : z < 0
  · rw [if_pos hz, abs_of_neg hz, Int.cast_neg]
    ring
  · rw [if_neg hz, abs_of_nonneg (not_lt.1 hz)]

/-- A decimal fraction that does not round to infinity is read as it was written. -/
theorem parse_scientific {z : ℤ} {k : ℕ} (h : |(z : ℚ) / 10 ^ k| < (f64Limit : ℚ)) :
    parse_f64 (scientific z k) = some (.fin ((z : ℚ) / 10 ^ k)) := by
  have hmag : (z.natAbs : ℚ) / 10 ^ k < (f64Limit : ℚ) := by
    have habs : ((z.natAbs : ℕ) : ℚ) = |(z : ℚ)| := by
      rw [Nat.cast_natAbs, Int.cast_abs]
    rw [abs_div, abs_of_pos (by positivity : (0 : ℚ) < 10 ^ k)] at h
    rwa [habs]
  unfold parse_f64 scientific
  rw [sign_signed_append]
  dsimp only
  rw [if_neg, if_neg, number_scientific, Option.map_some, if_neg (not_le.2 hmag)]
  · have hsign := signed_div z k
    by_cases hz : z < 0
    · rw [if_pos hz] at hsign
      rw [decide_eq_true hz, if_pos rfl, hsign]
    · rw [if_neg hz] at hsign
      rw [decide_eq_false hz, if_neg Bool.false_ne_true, hsign]
  · exact map_toLower_ne (c := 'n') (w := "an".toList) (by decide)
  · rintro (h | h)
    · exact map_toLower_ne (c := 'i') (w := "nf".toList) (by decide) h
    · exact map_toLower_ne (c := 'i') (w := "nfinity".toList) (by decide) h

end Text

/-! ### The commands of the server -/

namespace Command

theorem arms_nodup : (arms.map Prod.fst).Nodup := by decide

/-- The first arm of a name is its only one. -/
theorem find_arm {arm : Text × (List Text → Option Command)} (h : arm ∈ arms) :
    (arms.find? fun a => decide (a.1 = arm.1)) = some arm := by
  obtain ⟨a, ha⟩ : ∃ a, (arms.find? fun a => decide (a.1 = arm.1)) = some a := by
    rw [← Option.isSome_iff_exists, List.find?_isSome]
    exact ⟨arm, h, decide_eq_true rfl⟩
  have hname : a.1 = arm.1 := by simpa using List.find?_some ha
  rw [ha, List.inj_on_of_nodup_map arms_nodup (List.mem_of_find?_eq_some ha) h hname]

theorem parse_arm {cmd : Text} {f : List Text → Option Command} (h : (cmd, f) ∈ arms)
    (args : List Text) : parse (cmd :: args) = f args :=
  (congrArg (Option.bind · fun arm => arm.2 args) (find_arm h) :)

/-- A line is a command exactly when the arm of its first word reads the others. -/
theorem parse_eq_some_iff {cmd : Text} {args : List Text} {c : Command} :
    parse (cmd :: args) = some c ↔ ∃ f, (cmd, f) ∈ arms ∧ f args = some c := by
  constructor
  · intro h
    obtain ⟨⟨name, f⟩, hfind, hf⟩ := Option.bind_eq_some_iff.1 h
    obtain rfl : name = cmd := by simpa using List.find?_some hfind
    exact ⟨f, List.mem_of_find?_eq_some hfind, hf⟩
  · rintro ⟨f, hmem, hf⟩
    rw [parse_arm hmem, hf]

theorem parse_eq_none {cmd : Text} (h : cmd ∉ arms.map Prod.fst) (args : List Text) :
    parse (cmd :: args) = none := by
  rw [Option.eq_none_iff_forall_ne_some]
  intro c hc
  obtain ⟨f, hmem, -⟩ := parse_eq_some_iff.1 hc
  exact h (List.mem_map_of_mem hmem)

end Command

namespace Action

/-- Words that give an action its payload. -/
def Spells : Action → List Text → Prop
  | .Spawn cmd, args => args ≠ [] ∧ args.map String.ofList = cmd
  | .FocusStack z, args | .IncNmaster z, args | .ViewNextOccTag z, args | .FocusMon z, args
  | .TagMon z, args => args.head?.bind (Text.parse_int (2 ^ 31)) = some z
  | .SetMfact q, args => args.head?.bind Text.parse_f64 = some (.fin q)
  | .Tag n, args | .ToggleTag n, args | .Chvt n, args | .ViewTagSpawn n, args =>
      args.head?.bind (Text.parse_uint (2 ^ 32)) = some n
  -- these go to the outputs, not to `dispatch`
  | .View _, _ | .ToggleView _, _ | .SetLayout _, _ => False
  | _, _ => True

instance (a : Action) (args : List Text) : Decidable (a.Spells args) := by
  cases a <;> unfold Spells <;> infer_instance

end Action

namespace Command

/-- An arm gives an action only under its own name. -/
def Names (cmd : Text) (f : List Text → Option Command) : Prop :=
  ∀ args a, f args = some (.action a) → a.ipc_command = some cmd ∧ a.Spells args

theorem names_mask {cmd : Text} {f : ℕ → Action} (hname : ∀ n, (f n).ipc_command = some cmd)
    (hspells : ∀ n args, args.head?.bind (Text.parse_uint (2 ^ 32)) = some n → (f n).Spells args) :
    Names cmd (mask f) := by
  intro args a h
  obtain ⟨n, hn, heq⟩ := Option.map_eq_some_iff.1 h
  cases heq
  exact ⟨hname n, hspells n args hn⟩

theorem names_delta {cmd : Text} {f : ℤ → Action} (hname : ∀ z, (f z).ipc_command = some cmd)
    (hspells : ∀ z args, args.head?.bind (Text.parse_int (2 ^ 31)) = some z → (f z).Spells args) :
    Names cmd (delta f) := by
  intro args a h
  obtain ⟨z, hz, heq⟩ := Option.map_eq_some_iff.1 h
  cases heq
  exact ⟨hname z, hspells z args hz⟩

theorem names_bare {cmd : Text} {a : Action} (hname : a.ipc_command = some cmd)
    (hspells : ∀ args, a.Spells args) : Names cmd (bare a) := by
  intro args b h
  cases h
  exact ⟨hname, hspells args⟩

theorem names_setmfact : Names "setmfact".toList setmfact := by
  intro args a h
  obtain ⟨x, hx, heq⟩ := Option.map_eq_some_iff.1 h
  cases x with
  | fin q =>
    cases heq
    exact ⟨rfl, hx⟩
  | nan => cases heq
  | inf negative => cases heq

theorem names_spawn : Names "spawn".toList spawn := by
  intro args a h
  unfold spawn at h
  split_ifs at h with hne
  cases h
  exact ⟨rfl, hne, rfl⟩

/-- An arm of its own that gives no action. -/
theorem names_other {cmd : Text} {f : List Text → Option Command}
    (h : ∀ args a, f args ≠ some (.action a)) : Names cmd f :=
  fun args a heq => absurd heq (h args a)

theorem perOutput_ne (cmd : Rwl.IpcCmd) (args : List Text) (a : Action) :
    perOutput cmd args ≠ some (.action a) := by
  unfold perOutput
  split <;> exact fun h => Command.noConfusion (Option.some.inj h)

theorem wallpaper_ne (args : List Text) (a : Action) : wallpaper args ≠ some (.action a) := by
  unfold wallpaper
  split
  · exact fun h => by cases h
  · split_ifs <;> exact fun h => Command.noConfusion (Option.some.inj h)

theorem names_of_mem {cmd : Text} {f : List Text → Option Command} (h : (cmd, f) ∈ arms) :
    Names cmd f := by
  simp only [arms, List.mem_cons, Prod.mk.injEq, List.not_mem_nil, or_false] at h
  rcases h with ⟨rfl, rfl⟩ | ⟨rfl, rfl⟩ | ⟨rfl, rfl⟩ | ⟨rfl, rfl⟩ | ⟨rfl, rfl⟩ | ⟨rfl, rfl⟩ |
    ⟨rfl, rfl⟩ | ⟨rfl, rfl⟩ | ⟨rfl, rfl⟩ | ⟨rfl, rfl⟩ | ⟨rfl, rfl⟩ | ⟨rfl, rfl⟩ | ⟨rfl, rfl⟩ |
    ⟨rfl, rfl⟩ | ⟨rfl, rfl⟩ | ⟨rfl, rfl⟩ | ⟨rfl, rfl⟩ | ⟨rfl, rfl⟩ | ⟨rfl, rfl⟩ | ⟨rfl, rfl⟩ |
    ⟨rfl, rfl⟩ | ⟨rfl, rfl⟩ | ⟨rfl, rfl⟩ | ⟨rfl, rfl⟩ | ⟨rfl, rfl⟩ | ⟨rfl, rfl⟩ | ⟨rfl, rfl⟩ |
    ⟨rfl, rfl⟩ | ⟨rfl, rfl⟩ | ⟨rfl, rfl⟩ | ⟨rfl, rfl⟩ | ⟨rfl, rfl⟩ | ⟨rfl, rfl⟩
  all_goals first
    | exact names_bare rfl fun _ => trivial
    | exact names_mask (fun _ => rfl) fun _ _ h => h
    | exact names_delta (fun _ => rfl) fun _ _ h => h
    | exact names_setmfact
    | exact names_spawn
    | exact names_other (perOutput_ne _)
    | exact names_other wallpaper_ne
    | exact names_other fun _ _ h => Command.noConfusion (Option.some.inj h)

/-- The arm of an action that is read from a line. -/
theorem exists_arm {a : Action} {cmd : Text} {args : List Text} (hname : a.ipc_command = some cmd)
    (hspells : a.Spells args) : ∃ f, (cmd, f) ∈ arms ∧ f args = some (.action a) := by
  have hmask {f : ℕ → Action} {n : ℕ}
      (h : args.head?.bind (Text.parse_uint (2 ^ 32)) = some n) :
      mask f args = some (.action (f n)) := by
    unfold mask
    rw [h, Option.map_some]
  have hdelta {f : ℤ → Action} {z : ℤ} (h : args.head?.bind (Text.parse_int (2 ^ 31)) = some z) :
      delta f args = some (.action (f z)) := by
    unfold delta
    rw [h, Option.map_some]
  cases a
  case Spawn argv =>
    cases hname
    exact ⟨spawn, by simp [arms], (if_neg hspells.1).trans (by rw [hspells.2])⟩
  case SetMfact q =>
    cases hname
    have hq : args.head?.bind Text.parse_f64 = some (.fin q) := hspells
    refine ⟨setmfact, by simp [arms], ?_⟩
    unfold setmfact
    rw [hq, Option.map_some]
  case Tag | ToggleTag | Chvt | ViewTagSpawn =>
    all_goals
      cases hname
      exact ⟨mask _, by simp [arms], hmask hspells⟩
  case FocusStack | IncNmaster | ViewNextOccTag | FocusMon | TagMon =>
    all_goals
      cases hname
      exact ⟨delta _, by simp [arms], hdelta hspells⟩
  case View | ToggleView | SetLayout => all_goals exact hspells.elim
  all_goals cases hname <;> exact ⟨bare _, by simp [arms], rfl⟩

/-- The words of a line are an action exactly when the first is its name and the others spell its
payload. -/
theorem parse_action_iff {cmd : Text} {args : List Text} {a : Action} :
    parse (cmd :: args) = some (.action a) ↔ a.ipc_command = some cmd ∧ a.Spells args := by
  rw [parse_eq_some_iff]
  constructor
  · rintro ⟨f, hmem, hf⟩
    exact names_of_mem hmem args a hf
  · rintro ⟨hname, hspells⟩
    exact exists_arm hname hspells

/-! ### The client -/

/-- The front of a line that fits also fits. -/
theorem fits_of_prefix {sent args : List Text} (h : sent <+: args) (hfits : Fits args) :
    Fits sent := by
  obtain ⟨rest, rfl⟩ := h
  obtain ⟨more, hmore⟩ := Split.intercalate_prefix [' '] sent rest
  have hjoin : Text.join (sent ++ rest) = Text.join sent ++ more := hmore.symm
  unfold Fits at hfits ⊢
  rw [hjoin, Text.bytes_append, List.length_append] at hfits
  omega

/-- The two streams are no commands. -/
theorem parse_stream {cmd : Text} (h : cmd = "subscribe".toList ∨ cmd = "watch".toList)
    (args : List Text) : parse (cmd :: args) = none := by
  rcases h with rfl | rfl <;> exact parse_eq_none (by decide) args

/-- What comes of a line the client sends. -/
theorem ofArgs_of_sent {cmd : Text} {args sent : List Text} (hdash : cmd.head? ≠ some '-')
    (hrun : run_wm (cmd :: args) = some (Text.join (cmd :: sent))) (hfits : Fits (cmd :: sent))
    (hword : Text.IsWord cmd) :
    ofArgs (cmd :: args) = parse (cmd :: sent.flatMap Text.split_whitespace) := by
  have hwords : Text.split_whitespace (Text.join (cmd :: sent)) =
      cmd :: sent.flatMap Text.split_whitespace := by
    refine (Split.tokens_intercalate (by decide) (cmd :: sent)).trans ?_
    rw [List.flatMap_cons, Split.tokens_of_word hword]
    rfl
  have hplain : Text.starts_with cmd "-".toList ≠ true := by
    intro h
    obtain ⟨t, ht⟩ := List.isPrefixOf_iff_prefix.1 h
    exact hdash (congrArg List.head? ht).symm
  unfold ofArgs
  dsimp only
  rw [if_neg hplain, hrun, Option.bind_some, receive_of_fits hfits, Option.bind_some]
  -- a stream is no command, whatever words it has
  by_cases hstream : cmd = "subscribe".toList ∨ cmd = "watch".toList
  · rw [parse_stream hstream]
    cases hreq : cmd_handle (Text.join (cmd :: sent)) with
    | command words =>
      dsimp only
      rw [words_of_cmd_handle hreq, hwords, parse_stream hstream]
    | subscribe filter => rfl
    | watch filter => rfl
  · rw [cmd_handle_eq_command, hwords]
    all_goals
      rw [hwords, List.head?_cons]
      intro h
      have := Option.some.inj h
      tauto

theorem parse_sentBare {cmd : Text} (h : cmd ∈ sentBare) (args : List Text) :
    parse (cmd :: args) = parse [cmd] := by
  simp only [sentBare, List.mem_cons, List.not_mem_nil, or_false] at h
  rcases h with rfl | rfl | rfl | rfl | rfl | rfl | rfl | rfl | rfl | rfl | rfl | rfl | rfl |
    rfl | rfl <;> rfl

/-- A command that needs an argument is none without it. -/
theorem parse_sentWithArgs : ∀ cmd ∈ sentWithArgs, parse [cmd] = none := by decide

/-- The client knows every command of the server. -/
theorem arms_sent : ∀ cmd ∈ arms.map Prod.fst,
    cmd ∈ sentWhole ∨ cmd ∈ sentWithArgs ∨ cmd ∈ sentBare := by decide

/-- A name the client sends is one word, and no name of the bar's. -/
theorem sent_isWord : ∀ cmd ∈ sentWhole ++ ["subscribe".toList, "watch".toList] ++ sentWithArgs ++
    sentBare, Text.IsWord cmd ∧ cmd.head? ≠ some '-' := by
  decide

/-- The client sends its arguments, or as many as the server reads. -/
theorem sent_of_run_wm {cmd line : Text} {args : List Text}
    (h : run_wm (cmd :: args) = some line) : (Text.IsWord cmd ∧ cmd.head? ≠ some '-') ∧
      ∃ sent, sent <+: args ∧ line = Text.join (cmd :: sent) ∧
        (sent = args ∨ ∀ rest, parse (cmd :: rest) = parse [cmd]) := by
  unfold run_wm at h
  dsimp only at h
  split_ifs at h with hwhole hsub hwatch hargs hbare
  · exact ⟨sent_isWord cmd (by simp [hwhole]), args, List.prefix_rfl, (Option.some.inj h).symm,
      Or.inl rfl⟩
  · refine ⟨sent_isWord cmd (by simp [hsub]), args.take 1, List.take_prefix 1 args,
      (Option.some.inj h).symm, Or.inr fun rest => ?_⟩
    rw [parse_stream (Or.inl hsub), parse_stream (Or.inl hsub)]
  · exact ⟨sent_isWord cmd (by simp [hwatch]), args, List.prefix_rfl, (Option.some.inj h).symm,
      Or.inl rfl⟩
  · exact ⟨sent_isWord cmd (by simp [hargs.1]), args, List.prefix_rfl, (Option.some.inj h).symm,
      Or.inl rfl⟩
  · refine ⟨sent_isWord cmd (by simp [hbare]), [], List.nil_prefix, ?_,
      Or.inr (parse_sentBare hbare)⟩
    rw [← Option.some.inj h]
    exact (List.intercalate_singleton ..).symm

/-- What the client does not send is no command. -/
theorem parse_of_not_sent {cmd : Text} {args : List Text} (h : run_wm (cmd :: args) = none) :
    parse (cmd :: args.flatMap Text.split_whitespace) = none := by
  unfold run_wm at h
  dsimp only at h
  split_ifs at h with hwhole hsub hwatch hargs hbare
  by_cases hcmd : cmd ∈ sentWithArgs
  · obtain rfl : args = [] := by
      by_contra hne
      exact hargs ⟨hcmd, hne⟩
    exact parse_sentWithArgs cmd hcmd
  · refine parse_eq_none (fun harm => ?_) _
    rcases arms_sent cmd harm with h | h | h
    · exact hwhole h
    · exact hcmd h
    · exact hbare h

/-- The client sends what the server acts on, and nothing else: what `rwl msg` does with arguments
that fit is what `cmd_dispatch` does with their words. -/
theorem ofArgs_eq {cmd : Text} {args : List Text} (hfits : Fits (cmd :: args)) :
    ofArgs (cmd :: args) = parse (cmd :: args.flatMap Text.split_whitespace) := by
  cases hrun : run_wm (cmd :: args) with
  | none =>
    rw [parse_of_not_sent hrun]
    unfold ofArgs
    dsimp only
    rw [hrun, Option.bind_none, Option.bind_none, ite_self]
  | some line =>
    obtain ⟨⟨hword, hdash⟩, sent, hprefix, rfl, hsent⟩ := sent_of_run_wm hrun
    have hcut := fits_of_prefix ((List.prefix_cons_inj cmd).2 hprefix) hfits
    rw [ofArgs_of_sent hdash hrun hcut hword]
    rcases hsent with rfl | hall
    · rfl
    · rw [hall, hall (args.flatMap _)]

/-- The arguments of `rwl msg` that are an action. -/
theorem ofArgs_action_iff {cmd : Text} {args : List Text} {a : Action}
    (hfits : Fits (cmd :: args)) :
    ofArgs (cmd :: args) = some (.action a) ↔
      a.ipc_command = some cmd ∧ a.Spells (args.flatMap Text.split_whitespace) := by
  rw [ofArgs_eq hfits, parse_action_iff]

/-- **`rwl msg` names every action once**: with arguments that fit, the compositor does what the
server makes of their words, and that is an action exactly when the first is its name and the
others spell its payload. -/
theorem msg_actions {cmd : Text} {args : List Text} (hfits : Fits (cmd :: args)) :
    ofArgs (cmd :: args) = parse (cmd :: args.flatMap Text.split_whitespace) ∧
      ∀ a : Action, ofArgs (cmd :: args) = some (.action a) ↔
        a.ipc_command = some cmd ∧ a.Spells (args.flatMap Text.split_whitespace) :=
  ⟨ofArgs_eq hfits, fun _ => ofArgs_action_iff hfits⟩

theorem msg_actions_tag :
    ofArgs ["tag".toList, "+5 6".toList] = some (.action (.Tag 5)) ∧
      ofArgs ["tag".toList, "-5".toList] ≠ some (.action (.Tag 5)) := by
  refine ⟨((msg_actions (by decide)).2 _).2 ⟨rfl, by decide⟩, fun h => ?_⟩
  exact absurd (((msg_actions (by decide)).2 _).1 h).2 (by decide)

end Command

end Compositor
