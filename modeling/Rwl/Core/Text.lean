import Mathlib.Tactic.Common
import Rwl.Lib.Split

/-!
# Text

What the sockets and pipes carry, and the string operations their two ends use.

* `Text`, and its bytes: `Text.bytes`, `from_utf8`;
* `is_whitespace`, `split_whitespace`, `trim`, `lines`, `split_once`, `starts_with`;
* `decimal` and `parse_uint`: unsigned numbers as `write!` prints them and `str::parse` reads them.
-/

namespace Compositor

/-- A string, as its characters. -/
abbrev Text := List Char

namespace Text

/-! ### Bytes -/

/-- The UTF-8 bytes of a string. -/
def bytes (t : Text) : List UInt8 := t.flatMap String.utf8EncodeChar

/-- `str::from_utf8`. -/
def from_utf8 (b : List UInt8) : Option Text := b.toByteArray.utf8Decode?.map Array.toList

@[simp] theorem bytes_nil : bytes [] = [] := rfl

@[simp] theorem bytes_append (t u : Text) : bytes (t ++ u) = bytes t ++ bytes u :=
  List.flatMap_append

/-- What a string was written as is read as the string. -/
theorem from_utf8_bytes (t : Text) : from_utf8 (bytes t) = some t := by
  have hdecode : (bytes t).toByteArray.utf8Decode? = some t.toArray :=
    List.utf8Decode?_utf8Encode
  rw [from_utf8, hdecode]
  rfl

/-- Only what a string was written as is read as the string. -/
theorem bytes_of_from_utf8 {b : List UInt8} {t : Text} (h : from_utf8 b = some t) :
    bytes t = b := by
  obtain ⟨a, ha, rfl⟩ := Option.map_eq_some_iff.1 h
  have hsome : b.toByteArray.utf8Decode?.isSome := by
    rw [ha]
    rfl
  obtain ⟨m, hm⟩ := ByteArray.isSome_utf8Decode?_iff.1 hsome
  have hbytes : bytes m = b := by
    have hdata := congrArg (fun x : ByteArray => x.data.toList) hm
    simpa [bytes, List.utf8Encode] using hdata.symm
  have hread := from_utf8_bytes m
  rw [hbytes, from_utf8, ha] at hread
  rw [Option.some.inj hread, hbytes]

theorem from_utf8_eq_some {b : List UInt8} {t : Text} : from_utf8 b = some t ↔ bytes t = b :=
  ⟨bytes_of_from_utf8, fun h => h ▸ from_utf8_bytes t⟩

/-! ### Characters and words -/

/-- `char::is_whitespace`: the Unicode property `White_Space`. -/
def is_whitespace (c : Char) : Bool :=
  let n := c.toNat
  decide ((9 ≤ n ∧ n ≤ 13) ∨ n = 0x20 ∨ n = 0x85 ∨ n = 0xA0 ∨ n = 0x1680 ∨
    (0x2000 ≤ n ∧ n ≤ 0x200A) ∨ n = 0x2028 ∨ n = 0x2029 ∨ n = 0x202F ∨ n = 0x205F ∨ n = 0x3000)

/-- `str::split_whitespace`. -/
def split_whitespace (t : Text) : List Text := Split.tokens is_whitespace t

/-- `str::trim`. -/
def trim (t : Text) : Text := Split.trim is_whitespace t

/-- `str::lines`. -/
def lines (t : Text) : List Text := Split.lines '\n' '\r' t

/-- `str::split_once` at a space. -/
def split_once (t : Text) : Option (Text × Text) := Split.cut ' ' t

/-- `str::starts_with`. -/
def starts_with (t p : Text) : Bool := p.isPrefixOf t

/-- `[..].join(" ")`. -/
def join (ts : List Text) : Text := [' '].intercalate ts

/-- A word: what `split_whitespace` gives back whole. -/
abbrev IsWord (t : Text) : Prop := Split.Word is_whitespace t

-- Over the characters of the text: `Char` is finite, and its own instance would run over all of it.
instance (t : Text) : Decidable (IsWord t) :=
  @instDecidableAnd _ _ inferInstance (List.decidableBAll (fun c => is_whitespace c = false) t)

theorem length_bytes (t : Text) : (bytes t).length = (t.map Char.utf8Size).sum := by
  induction t with
  | nil => rfl
  | cons c t ih =>
    have hcons : bytes (c :: t) = String.utf8EncodeChar c ++ bytes t := rfl
    rw [hcons, List.length_append, List.map_cons, List.sum_cons, ih, String.length_utf8EncodeChar]

/-- The words of a text, joined by spaces, take no more bytes than the text. -/
theorem length_bytes_join_words (t : Text) :
    (bytes (join (split_whitespace t))).length ≤ (bytes t).length := by
  rw [length_bytes, length_bytes]
  exact Split.sum_intercalate_tokens (fun c _ => c.utf8Size_pos) t

/-! ### Numbers -/

/-- A number as `write!` prints it. -/
def decimal (n : ℕ) : Text := Nat.toDigits 10 n

/-- A number may have a plus sign. -/
def strip_plus : Text → Text
  | [] => []
  | c :: t => if c = '+' then t else c :: t

/-- `str::parse` for an unsigned type with `bound` values. -/
def parse_uint (bound : ℕ) (t : Text) : Option ℕ :=
  let digits := strip_plus t
  if digits ≠ [] ∧ digits.all Char.isDigit then
    let n := Nat.ofDigitChars 10 digits 0
    if n < bound then some n else none
  else none

theorem isDigit_decimal {n : ℕ} {c : Char} (h : c ∈ decimal n) : c.isDigit = true :=
  Nat.isDigit_of_mem_toDigits (by decide) (by decide) h

theorem decimal_ne_nil (n : ℕ) : decimal n ≠ [] := Nat.toDigits_ne_nil

theorem parse_digits {bound : ℕ} {t : Text} (hne : t ≠ []) (hdigits : ∀ c ∈ t, c.isDigit = true) :
    parse_uint bound t =
      if Nat.ofDigitChars 10 t 0 < bound then some (Nat.ofDigitChars 10 t 0) else none := by
  have hall : t.all Char.isDigit = true := List.all_eq_true.2 hdigits
  cases t with
  | nil => exact absurd rfl hne
  | cons c t =>
    have hplus : c ≠ '+' := by
      rintro rfl
      exact absurd (hdigits '+' List.mem_cons_self) (by decide)
    have hstrip : strip_plus (c :: t) = c :: t := if_neg hplus
    unfold parse_uint
    rw [hstrip]
    exact if_pos ⟨hne, hall⟩

/-- A number is read as it was printed. -/
theorem parse_decimal {bound n : ℕ} (h : n < bound) : parse_uint bound (decimal n) = some n := by
  rw [parse_digits (decimal_ne_nil n) fun c => isDigit_decimal]
  unfold decimal
  rw [Nat.ofDigitChars_ten_toDigits, if_pos h]

theorem not_whitespace_of_isDigit {c : Char} (h : c.isDigit = true) : is_whitespace c = false := by
  have hrange : 48 ≤ c.toNat ∧ c.toNat ≤ 57 := Char.isDigit_iff_toNat.1 h
  unfold is_whitespace
  rw [decide_eq_false_iff_not]
  omega

theorem isWord_decimal (n : ℕ) : IsWord (decimal n) :=
  ⟨decimal_ne_nil n, fun _ h => not_whitespace_of_isDigit (isDigit_decimal h)⟩

end Text

end Compositor
