import Mathlib.Tactic.Common
import Mathlib.Tactic.IntervalCases
import Mathlib.Algebra.Field.Rat

/-!
# JSON texts

A parser for JSON, and the texts that it reads whatever follows them.

* `Json`: the values; members of an object keep their order;
* `number`, `string`: the two scanners; an escape of a string may be a pair of surrogates;
* `value`, `elements`, `members`: the parser, which returns what it left; `parse`, of a whole text;
* `Ends`: what may follow a value inside an array, an object or a text;
* `Spells t v`: `t` is read as `v` before every such continuation;
* `spells_null`, `spells_bool`, `spells_int`, `spells_str`, `spells_arr`, `spells_obj`: how texts
  are put together, and `Spells.parse`;
* `newline_notMem_obj`, `newline_notMem_arr`: such a text is one line when its parts are;
* `field`, `asStr`, `asBool`, `asInt`, `asNat`, `asList`: what a value holds.
-/

/-- A JSON value. -/
inductive Json
  | null
  | bool (b : Bool)
  | num (q : ℚ)
  | str (s : List Char)
  | arr (vs : List Json)
  | obj (ms : List (List Char × Json))

namespace Json

/-! ### Numbers -/

/-- JSON's white space. -/
def isSpace (c : Char) : Bool := c = ' ' || c = '\t' || c = '\n' || c = '\r'

def skip (s : List Char) : List Char := s.dropWhile isSpace

/-- One digit or more: how many there are, the number they write, and the rest. -/
def digits (s : List Char) : Option (ℕ × ℕ × List Char) :=
  let ds := s.takeWhile Char.isDigit
  if ds = [] then none
  else some (ds.length, Nat.ofDigitChars 10 ds 0, s.dropWhile Char.isDigit)

/-- The part before the point has no leading zero. -/
def whole (s : List Char) : Option (ℕ × List Char) :=
  match digits s with
  | none => none
  | some (len, n, s') => if 1 < len ∧ s.head? = some '0' then none else some (n, s')

/-- The digits after the point, as what they add. -/
def fraction : List Char → Option (ℚ × List Char)
  | '.' :: s => (digits s).map fun r => ((r.2.1 : ℚ) / 10 ^ r.1, r.2.2)
  | s => some (0, s)

/-- What the number is multiplied with. -/
def exponent : List Char → Option (ℚ × List Char)
  | c :: s =>
      if c = 'e' ∨ c = 'E' then
        match s with
        | '-' :: s => (digits s).map fun r => (1 / 10 ^ r.2.1, r.2.2)
        | '+' :: s => (digits s).map fun r => (10 ^ r.2.1, r.2.2)
        | s => (digits s).map fun r => (10 ^ r.2.1, r.2.2)
      else some (1, c :: s)
  | [] => some (1, [])

/-- A number without a sign. -/
def magnitude (s : List Char) : Option (ℚ × List Char) := do
  let (n, s) ← whole s
  let (f, s) ← fraction s
  let (e, s) ← exponent s
  return ((n + f) * e, s)

def number : List Char → Option (ℚ × List Char)
  | '-' :: s => (magnitude s).map fun r => (-r.1, r.2)
  | s => magnitude s

/-! ### Strings -/

/-- A hexadecimal digit, in either case. -/
def hexVal (c : Char) : Option ℕ :=
  if c.isDigit then some (c.toNat - 48)
  else if 97 ≤ c.toNat ∧ c.toNat ≤ 102 then some (c.toNat - 87)
  else if 65 ≤ c.toNat ∧ c.toNat ≤ 70 then some (c.toNat - 55)
  else none

/-- The code unit of four hexadecimal digits. -/
def unit (a b c d : Char) : Option ℕ := do
  return (((← hexVal a) * 16 + (← hexVal b)) * 16 + (← hexVal c)) * 16 + (← hexVal d)

/-- The escapes of one character. -/
def shortEscape : Char → Option Char
  | '"' => some '"'
  | '\\' => some '\\'
  | '/' => some '/'
  | 'b' => some '\x08'
  | 'f' => some '\x0c'
  | 'n' => some '\n'
  | 'r' => some '\r'
  | 't' => some '\t'
  | _ => none

/-- The rest of a string after its opening quote, and what follows its closing one. -/
def string : List Char → Option (List Char × List Char)
  | [] => none
  | '"' :: s => some ([], s)
  | '\\' :: 'u' :: a :: b :: c :: d :: s =>
      match unit a b c d with
      | none => none
      | some u =>
          if u < 0xD800 ∨ 0xDFFF < u then
            (string s).map fun r => (Char.ofNat u :: r.1, r.2)
          else
            match s with
            | '\\' :: 'u' :: a' :: b' :: c' :: d' :: s' =>
                match unit a' b' c' d' with
                | none => none
                | some l =>
                    if u < 0xDC00 ∧ 0xDC00 ≤ l ∧ l ≤ 0xDFFF then
                      (string s').map fun r =>
                        (Char.ofNat (0x10000 + (u - 0xD800) * 0x400 + (l - 0xDC00)) :: r.1, r.2)
                    else none
            | _ => none
  | '\\' :: c :: s =>
      match shortEscape c with
      | none => none
      | some c => (string s).map fun r => (c :: r.1, r.2)
  | c :: s => if c.toNat < 0x20 ∨ c = '\\' then none else (string s).map fun r => (c :: r.1, r.2)

/-! ### Values -/

mutual

/-- The first value of a text, and what follows it; every nested value takes one unit of fuel. -/
def value : ℕ → List Char → Option (Json × List Char)
  | 0, _ => none
  | n + 1, s =>
      match skip s with
      | 'n' :: 'u' :: 'l' :: 'l' :: s => some (.null, s)
      | 't' :: 'r' :: 'u' :: 'e' :: s => some (.bool true, s)
      | 'f' :: 'a' :: 'l' :: 's' :: 'e' :: s => some (.bool false, s)
      | '"' :: s => (string s).map fun r => (.str r.1, r.2)
      | '[' :: s =>
          match skip s with
          | ']' :: s => some (.arr [], s)
          | _ => (elements n s).map fun r => (.arr r.1, r.2)
      | '{' :: s =>
          match skip s with
          | '}' :: s => some (.obj [], s)
          | _ => (members n s).map fun r => (.obj r.1, r.2)
      | s => (number s).map fun r => (.num r.1, r.2)

/-- The values of an array up to its bracket. -/
def elements : ℕ → List Char → Option (List Json × List Char)
  | 0, _ => none
  | n + 1, s =>
      match value n s with
      | none => none
      | some (v, s) =>
          match skip s with
          | ']' :: s => some ([v], s)
          | ',' :: s => (elements n s).map fun r => (v :: r.1, r.2)
          | _ => none

/-- The members of an object up to its brace. -/
def members : ℕ → List Char → Option (List (List Char × Json) × List Char)
  | 0, _ => none
  | n + 1, s =>
      match skip s with
      | '"' :: s =>
          match string s with
          | none => none
          | some (k, s) =>
              match skip s with
              | ':' :: s =>
                  match value n s with
                  | none => none
                  | some (v, s) =>
                      match skip s with
                      | '}' :: s => some ([(k, v)], s)
                      | ',' :: s => (members n s).map fun r => ((k, v) :: r.1, r.2)
                      | _ => none
              | _ => none
      | _ => none

end

/-- The value of a text that holds one value and nothing else. -/
def parse (s : List Char) : Option Json :=
  match value (s.length + 1) s with
  | none => none
  | some (v, rest) => if skip rest = [] then some v else none

/-! ### What may follow -/

/-- A value ends before a comma, a bracket, a brace or the end. -/
def Ends (rest : List Char) : Prop := ∀ c ∈ rest.head?, c = ',' ∨ c = ']' ∨ c = '}'

theorem ends_nil : Ends [] := by
  intro c h
  cases h

theorem ends_cons {c : Char} (h : c = ',' ∨ c = ']' ∨ c = '}') (s : List Char) : Ends (c :: s) := by
  rintro _ ⟨⟩
  exact h

/-- `t` is read as `v`, whatever follows it. -/
def Spells (t : List Char) (v : Json) : Prop :=
  ∀ n rest, t.length < n → Ends rest → value n (t ++ rest) = some (v, rest)

theorem Spells.parse {t : List Char} {v : Json} (h : Spells t v) : parse t = some v := by
  have hread := h (t.length + 1) [] (by omega) ends_nil
  rw [List.append_nil] at hread
  simp [Json.parse, hread, skip]

theorem spells_null : Spells ['n', 'u', 'l', 'l'] .null := by
  intro n rest hn _
  cases n with
  | zero => omega
  | succ n => rfl

/-- The name of a truth value. -/
def boolName (b : Bool) : List Char :=
  if b then ['t', 'r', 'u', 'e'] else ['f', 'a', 'l', 's', 'e']

theorem spells_bool (b : Bool) : Spells (boolName b) (.bool b) := by
  intro n rest hn _
  cases n with
  | zero => omega
  | succ n => cases b <;> rfl

/-- A character that stands for itself. -/
def Plain (c : Char) : Prop := 0x20 ≤ c.toNat ∧ c ≠ '"' ∧ c ≠ '\\'

instance decidablePlain (c : Char) : Decidable (Plain c) :=
  inferInstanceAs (Decidable (_ ∧ _ ∧ _))

/-- A text of such characters. -/
def AllPlain (t : List Char) : Prop := ∀ c ∈ t, Plain c

instance decidableAllPlain (t : List Char) : Decidable (AllPlain t) := List.decidableBAll Plain t

theorem string_plain {c : Char} (h : Plain c) (s : List Char) :
    string (c :: s) = (string s).map fun r => (c :: r.1, r.2) := by
  obtain ⟨hspace, hquote, hslash⟩ := h
  rw [string.eq_def]
  split
  · contradiction
  · simp_all
  · simp_all
  · simp_all
  · rename_i heq
    injection heq with hc hs
    subst hc
    subst hs
    rw [if_neg (by simp [hslash]; omega)]

/-- A name of plain characters is read as it is written. -/
theorem string_plain_append {t : List Char} (h : AllPlain t) (rest : List Char) :
    string (t ++ '"' :: rest) = some (t, rest) := by
  induction t with
  | nil => rfl
  | cons c t ih =>
    rw [List.cons_append, string_plain (h c List.mem_cons_self),
      ih fun k hk => h k (List.mem_cons_of_mem _ hk)]
    rfl

theorem spells_str {t s : List Char} (h : ∀ rest, string (t ++ '"' :: rest) = some (s, rest)) :
    Spells ('"' :: t ++ ['"']) (.str s) := by
  intro n rest hn _
  cases n with
  | zero => omega
  | succ n =>
    have hread : value (n + 1) ('"' :: (t ++ '"' :: rest)) =
        (string (t ++ '"' :: rest)).map fun r => (.str r.1, r.2) := rfl
    have happend : '"' :: t ++ ['"'] ++ rest = '"' :: (t ++ '"' :: rest) := by simp
    rw [happend, hread, h]
    rfl

/-! ### Integers -/

theorem isDigit_of_mem_toDigits {n : ℕ} {c : Char} (h : c ∈ Nat.toDigits 10 n) :
    c.isDigit = true := Nat.isDigit_of_mem_toDigits (by decide) (by decide) h

theorem Ends.not_digit {rest : List Char} (h : Ends rest) : rest.takeWhile Char.isDigit = [] ∧
    rest.dropWhile Char.isDigit = rest := by
  cases rest with
  | nil => simp
  | cons c rest =>
    have hc : c.isDigit = false := by
      rcases h c rfl with rfl | rfl | rfl <;> decide
    simp [hc]

theorem digits_toDigits (n : ℕ) {rest : List Char} (h : Ends rest) :
    digits (Nat.toDigits 10 n ++ rest) = some ((Nat.toDigits 10 n).length, n, rest) := by
  have hall : ∀ c ∈ Nat.toDigits 10 n, c.isDigit = true := fun c => isDigit_of_mem_toDigits
  unfold digits
  rw [List.takeWhile_append_of_pos hall, List.dropWhile_append_of_pos hall, h.not_digit.1,
    h.not_digit.2, List.append_nil, if_neg Nat.toDigits_ne_nil, Nat.ofDigitChars_ten_toDigits]

theorem head?_toDigits_append (n : ℕ) (rest : List Char) :
    (Nat.toDigits 10 n ++ rest).head? = (Nat.toDigits 10 n).head? := by
  cases hdigits : Nat.toDigits 10 n with
  | nil => exact absurd hdigits Nat.toDigits_ne_nil
  | cons c ds => rfl

/-- Only zero is written with a zero in front. -/
theorem head?_toDigits {n : ℕ} (h : (Nat.toDigits 10 n).head? = some '0') : n = 0 := by
  induction n using Nat.strong_induction_on with
  | _ n ih =>
    by_cases hn : n < 10
    · rw [Nat.toDigits_of_lt_base hn] at h
      interval_cases n <;> first | rfl | exact absurd h (by decide)
    · have hhead : (Nat.toDigits 10 (n / 10)).head? = some '0' := by
        rw [Nat.toDigits_of_base_le (by decide) (by omega), head?_toDigits_append] at h
        exact h
      have hzero := ih (n / 10) (by omega) hhead
      omega

theorem magnitude_toDigits (n : ℕ) {rest : List Char} (h : Ends rest) :
    magnitude (Nat.toDigits 10 n ++ rest) = some ((n : ℚ), rest) := by
  have hwhole : whole (Nat.toDigits 10 n ++ rest) = some (n, rest) := by
    unfold whole
    rw [digits_toDigits n h]
    refine if_neg ?_
    rintro ⟨hlen, hhead⟩
    rw [head?_toDigits_append] at hhead
    rw [head?_toDigits hhead] at hlen
    exact absurd hlen (by decide)
  have hfraction : fraction rest = some (0, rest) := by
    cases rest with
    | nil => rfl
    | cons c rest => rcases h c rfl with rfl | rfl | rfl <;> rfl
  have hexponent : exponent rest = some (1, rest) := by
    cases rest with
    | nil => rfl
    | cons c rest => rcases h c rfl with rfl | rfl | rfl <;> rfl
  simp [magnitude, hwhole, hfraction, hexponent]

/-- A whole number as it is usually written. -/
def intName (z : ℤ) : List Char :=
  if z < 0 then '-' :: Nat.toDigits 10 z.natAbs else Nat.toDigits 10 z.natAbs

/-- The ten digits open a number. -/
theorem value_digit {c : Char} (h : c.isDigit = true) (n : ℕ) (s : List Char) :
    value (n + 1) (c :: s) = (magnitude (c :: s)).map fun r => (.num r.1, r.2) := by
  have hrange : 48 ≤ c.toNat ∧ c.toNat ≤ 57 := Char.isDigit_iff_toNat.1 h
  have hc : c = Char.ofNat c.toNat := (Char.ofNat_toNat c).symm
  generalize c.toNat = k at hrange hc
  subst hc
  obtain ⟨hlow, hhigh⟩ := hrange
  interval_cases k <;> rfl

theorem newline_notMem_toDigits (n : ℕ) : '\n' ∉ Nat.toDigits 10 n := fun h =>
  absurd (isDigit_of_mem_toDigits h) (by decide)

theorem newline_notMem_intName (z : ℤ) : '\n' ∉ intName z := by
  unfold intName
  split_ifs
  · simp [newline_notMem_toDigits]
  · exact newline_notMem_toDigits _

theorem spells_int (z : ℤ) : Spells (intName z) (.num z) := by
  intro n rest hn hends
  cases n with
  | zero => omega
  | succ n =>
    by_cases hz : z < 0
    · have habs : ((z.natAbs : ℕ) : ℚ) = -z := by
        have hint : ((z.natAbs : ℕ) : ℤ) = -z := by omega
        rw [← Int.cast_natCast, hint, Int.cast_neg]
      have hread : value (n + 1) ('-' :: (Nat.toDigits 10 z.natAbs ++ rest)) =
          ((magnitude (Nat.toDigits 10 z.natAbs ++ rest)).map fun r => (-r.1, r.2)).map
            fun r => (.num r.1, r.2) := rfl
      rw [intName, if_pos hz, List.cons_append, hread, magnitude_toDigits _ hends]
      simp [habs]
    · have habs : ((z.natAbs : ℕ) : ℚ) = z := by
        have hint : ((z.natAbs : ℕ) : ℤ) = z := by omega
        rw [← Int.cast_natCast, hint]
      rw [intName, if_neg hz]
      cases hdigits : Nat.toDigits 10 z.natAbs with
      | nil => exact absurd hdigits Nat.toDigits_ne_nil
      | cons c ds =>
        have hc : c.isDigit = true := isDigit_of_mem_toDigits (hdigits ▸ List.mem_cons_self)
        rw [List.cons_append, value_digit hc, ← List.cons_append, ← hdigits,
          magnitude_toDigits _ hends]
        simp [habs]

theorem spells_nat (k : ℕ) : Spells (Nat.toDigits 10 k) (.num k) := by
  have h := spells_int (k : ℤ)
  have hneg : ¬((k : ℤ) < 0) := by omega
  rw [intName, if_neg hneg] at h
  simpa using h

/-! ### Arrays and objects -/

/-- Texts with commas between them. -/
def commaSep (ts : List (List Char)) : List Char := [','].intercalate ts

theorem commaSep_cons_cons (t u : List Char) (ts : List (List Char)) :
    commaSep (t :: u :: ts) = t ++ ',' :: commaSep (u :: ts) := by
  simp [commaSep, List.intercalate]

theorem elements_commaSep {ts : List (List Char)} {vs : List Json}
    (h : List.Forall₂ Spells ts vs) (hne : ts ≠ []) {n : ℕ} (hn : (commaSep ts).length + 1 < n)
    (rest : List Char) : elements n (commaSep ts ++ ']' :: rest) = some (vs, rest) := by
  induction h generalizing n with
  | nil => exact absurd rfl hne
  | @cons t v ts vs hv hvs ih =>
    cases n with
    | zero => omega
    | succ n =>
      cases hvs with
      | nil =>
        have hone : commaSep [t] = t := by simp [commaSep]
        rw [hone] at hn ⊢
        rw [elements, hv n _ (by omega) (ends_cons (by simp) _)]
        rfl
      | @cons u w ts vs hw hrest =>
        rw [commaSep_cons_cons] at hn ⊢
        have hlen : (commaSep (u :: ts)).length + 1 < n := by
          simp only [List.length_append, List.length_cons] at hn
          omega
        have htail := ih (by simp) hlen
        have ht : t.length < n := by
          simp only [List.length_append, List.length_cons] at hn
          omega
        rw [List.append_assoc, List.cons_append, elements, hv n _ ht (ends_cons (by simp) _)]
        show (elements n (commaSep (u :: ts) ++ ']' :: rest)).map _ = _
        rw [htail]
        rfl

/-- No value begins with a bracket that closes. -/
theorem value_bracket {n : ℕ} {s s' : List Char} (h : skip s = ']' :: s') : value n s = none := by
  cases n with
  | zero => simp [value]
  | succ n => simp [value, h, number, magnitude, whole, digits, show Char.isDigit ']' = false by rfl]

theorem value_array {n : ℕ} {s : List Char} {v : Json} {rest : List Char}
    (h : value n s = some (v, rest)) (m : ℕ) :
    value (m + 1) ('[' :: s) = (elements m s).map fun r => (.arr r.1, r.2) := by
  have hskip : skip ('[' :: s) = '[' :: s := rfl
  simp only [value, hskip]
  split
  · rename_i s' hs
    rw [value_bracket hs] at h
    cases h
  · rfl

theorem spells_arr {ts : List (List Char)} {vs : List Json} (h : List.Forall₂ Spells ts vs) :
    Spells ('[' :: commaSep ts ++ [']']) (.arr vs) := by
  intro n rest hn _
  cases n with
  | zero => omega
  | succ n =>
    simp only [List.length_append, List.length_cons, List.length_nil] at hn
    have happend : '[' :: commaSep ts ++ [']'] ++ rest = '[' :: (commaSep ts ++ ']' :: rest) := by
      simp
    rw [happend]
    cases h with
    | nil => rfl
    | @cons t v ts vs hv hvs =>
      -- the first element shows that the bracket does not close at once
      have hfirst : ∃ rest', value (t.length + 1) (commaSep (t :: ts) ++ ']' :: rest) =
          some (v, rest') := by
        cases ts with
        | nil =>
          rw [commaSep, List.intercalate_singleton]
          exact ⟨_, hv _ _ (by omega) (ends_cons (by simp) _)⟩
        | cons u ts =>
          rw [commaSep_cons_cons, List.append_assoc, List.cons_append]
          exact ⟨_, hv _ _ (by omega) (ends_cons (by simp) _)⟩
      obtain ⟨rest', hfirst⟩ := hfirst
      rw [value_array hfirst, elements_commaSep (.cons hv hvs) (by simp) (by omega)]
      rfl

/-- A member of an object: its name in quotes, a colon and its value. -/
structure Member where
  key : List Char
  name : List Char
  text : List Char
  val : Json

namespace Member

/-- The member as it is written. -/
def spelling (m : Member) : List Char := '"' :: m.name ++ '"' :: ':' :: m.text

/-- The name is read as the key and the text as the value. -/
structure Reads (m : Member) : Prop where
  key : ∀ rest, string (m.name ++ '"' :: rest) = some (m.key, rest)
  text : Spells m.text m.val

/-- What the member says. -/
def entry (m : Member) : List Char × Json := (m.key, m.val)

end Member

namespace Member

variable {m : Member} (hm : m.Reads) {n : ℕ} (hlen : m.text.length < n)

include hm hlen

/-- The last member of an object. -/
theorem Reads.last (rest : List Char) :
    members (n + 1) (m.spelling ++ '}' :: rest) = some ([m.entry], rest) := by
  have happend : m.spelling ++ '}' :: rest =
      '"' :: (m.name ++ '"' :: ':' :: (m.text ++ '}' :: rest)) := by
    simp [Member.spelling]
  have hquote : skip ('"' :: (m.name ++ '"' :: ':' :: (m.text ++ '}' :: rest))) =
    '"' :: (m.name ++ '"' :: ':' :: (m.text ++ '}' :: rest)) := rfl
  have hcolon : skip (':' :: (m.text ++ '}' :: rest)) = ':' :: (m.text ++ '}' :: rest) := rfl
  have hbrace : skip ('}' :: rest) = '}' :: rest := rfl
  have hval := hm.text n ('}' :: rest) hlen (ends_cons (by simp) rest)
  rw [happend]
  simp only [members, hquote, hm.key, hcolon, hval, hbrace]
  rfl

/-- A member with others after it. -/
theorem Reads.more (s : List Char) : members (n + 1) (m.spelling ++ ',' :: s) =
    (members n s).map fun r => (m.entry :: r.1, r.2) := by
  have happend : m.spelling ++ ',' :: s =
      '"' :: (m.name ++ '"' :: ':' :: (m.text ++ ',' :: s)) := by
    simp [Member.spelling]
  have hquote : skip ('"' :: (m.name ++ '"' :: ':' :: (m.text ++ ',' :: s))) =
    '"' :: (m.name ++ '"' :: ':' :: (m.text ++ ',' :: s)) := rfl
  have hcolon : skip (':' :: (m.text ++ ',' :: s)) = ':' :: (m.text ++ ',' :: s) := rfl
  have hcomma : skip (',' :: s) = ',' :: s := rfl
  have hval := hm.text n (',' :: s) hlen (ends_cons (by simp) s)
  rw [happend]
  simp only [members, hquote, hm.key, hcolon, hval, hcomma]
  rfl

end Member

theorem members_commaSep {ms : List Member} (h : ∀ m ∈ ms, m.Reads) (hne : ms ≠ []) {n : ℕ}
    (hn : (commaSep (ms.map Member.spelling)).length < n) (rest : List Char) :
    members n (commaSep (ms.map Member.spelling) ++ '}' :: rest) =
      some (ms.map Member.entry, rest) := by
  induction ms generalizing n with
  | nil => exact absurd rfl hne
  | cons m ms ih =>
    have hm := h m List.mem_cons_self
    cases n with
    | zero => omega
    | succ n =>
      cases ms with
      | nil =>
        have hone : commaSep ([m].map Member.spelling) = m.spelling := by simp [commaSep]
        rw [hone] at hn ⊢
        have hlen : m.text.length < n := by
          simp only [Member.spelling, List.length_append, List.length_cons] at hn
          omega
        exact hm.last hlen rest
      | cons m' ms =>
        have hsplit : commaSep ((m :: m' :: ms).map Member.spelling) =
            m.spelling ++ ',' :: commaSep ((m' :: ms).map Member.spelling) :=
          commaSep_cons_cons _ _ _
        rw [hsplit] at hn ⊢
        simp only [Member.spelling, List.length_append, List.length_cons] at hn
        have htail := ih (fun k hk => h k (List.mem_cons_of_mem _ hk)) (by simp) (n := n) (by omega)
        rw [List.append_assoc, List.cons_append, hm.more (by omega), htail]
        rfl

theorem spells_obj {ms : List Member} (h : ∀ m ∈ ms, m.Reads) :
    Spells ('{' :: commaSep (ms.map Member.spelling) ++ ['}']) (.obj (ms.map Member.entry)) := by
  intro n rest hn _
  cases n with
  | zero => omega
  | succ n =>
    simp only [List.length_append, List.length_cons, List.length_nil] at hn
    have happend : '{' :: commaSep (ms.map Member.spelling) ++ ['}'] ++ rest =
        '{' :: (commaSep (ms.map Member.spelling) ++ '}' :: rest) := by simp
    rw [happend]
    cases ms with
    | nil => rfl
    | cons m ms =>
      have hread := members_commaSep h (by simp) (n := n) (by omega) rest
      -- a member opens with a quote, so the brace does not close at once
      have hquote : ∃ s, commaSep ((m :: ms).map Member.spelling) ++ '}' :: rest = '"' :: s := by
        cases ms with
        | nil => exact ⟨_, by simp [commaSep, Member.spelling]; rfl⟩
        | cons m' ms =>
          rw [List.map_cons, List.map_cons, commaSep_cons_cons]
          exact ⟨_, rfl⟩
      obtain ⟨s, hs⟩ := hquote
      rw [hs] at hread ⊢
      show (members n ('"' :: s)).map _ = _
      rw [hread]
      rfl

/-! ### Texts on one line -/

theorem newline_notMem_commaSep {ts : List (List Char)} (h : ∀ t ∈ ts, '\n' ∉ t) :
    '\n' ∉ commaSep ts := by
  induction ts with
  | nil => simp [commaSep]
  | cons t ts ih =>
    have ht := h t List.mem_cons_self
    cases ts with
    | nil => simpa [commaSep] using ht
    | cons u ts =>
      have htail := ih fun k hk => h k (List.mem_cons_of_mem _ hk)
      rw [commaSep_cons_cons]
      simp [ht, htail]

theorem newline_notMem_obj {ms : List Member} (h : ∀ m ∈ ms, '\n' ∉ m.spelling) :
    '\n' ∉ '{' :: commaSep (ms.map Member.spelling) ++ ['}'] := by
  have hbody : '\n' ∉ commaSep (ms.map Member.spelling) :=
    newline_notMem_commaSep fun t ht => by
      obtain ⟨m, hm, rfl⟩ := List.mem_map.1 ht
      exact h m hm
  simp [hbody]

theorem newline_notMem_arr {ts : List (List Char)} (h : ∀ t ∈ ts, '\n' ∉ t) :
    '\n' ∉ '[' :: commaSep ts ++ [']'] := by
  simp [newline_notMem_commaSep h]

/-! ### Reading values -/

/-- The value of the first member with a key. -/
def field (k : List Char) : Json → Option Json
  | .obj ms => ms.lookup k
  | _ => none

def asStr : Json → Option (List Char)
  | .str s => some s
  | _ => none

def asBool : Json → Option Bool
  | .bool b => some b
  | _ => none

def asInt : Json → Option ℤ
  | .num q => if q.den = 1 then some q.num else none
  | _ => none

def asNat (v : Json) : Option ℕ := v.asInt.bind fun z => if 0 ≤ z then some z.toNat else none

@[simp] theorem asStr_str (s : List Char) : asStr (.str s) = some s := rfl

@[simp] theorem asBool_bool (b : Bool) : asBool (.bool b) = some b := rfl

@[simp] theorem asInt_num (z : ℤ) : asInt (.num z) = some z := by
  simp [asInt]

@[simp] theorem asNat_num (k : ℕ) : asNat (.num k) = some k := by
  have h : asInt (.num k) = some (k : ℤ) := asInt_num (k : ℤ)
  simp [asNat, h]

/-- The elements of an array, each read by `f`. -/
def asList {α : Type*} (f : Json → Option α) : Json → Option (List α)
  | .arr vs => vs.mapM f
  | _ => none

theorem asList_map {α : Type*} {f : Json → Option α} {g : α → Json} (h : ∀ a, f (g a) = some a)
    (l : List α) : asList f (.arr (l.map g)) = some l := by
  show (l.map g).mapM f = some l
  induction l with
  | nil => rfl
  | cons a l ih => simp [List.mapM_cons, h a, ih]

end Json
