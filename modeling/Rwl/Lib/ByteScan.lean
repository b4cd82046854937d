import Mathlib.Tactic.Common
import Mathlib.Algebra.BigOperators.Group.List.Basic

/-!
# Scanning text by its bytes

A scanner walks over the UTF-8 bytes of a text by an index. Looking for ASCII bytes it never stops
inside a character.

* `enc`, `len`: the bytes of a text, and how many there are;
* `ascii_of_byte`: at the end of a prefix stands an ASCII byte exactly if the rest begins with that
  character;
* `findIdx_enc`: a search for ASCII bytes passes over whole characters;
* `splitAt?`, `sliceFrom?`, `slice?`: `&t[..i]`, `&t[i..]`, `&t[i..j]`, undefined inside a
  character; `range?`: the same of bytes;
* `Boundary`: an index that is inside no character.
-/

namespace ByteScan

/-- The UTF-8 bytes of a text. -/
def enc (t : List Char) : List UInt8 := t.flatMap String.utf8EncodeChar

/-- The length of a text in bytes. -/
def len (t : List Char) : ℕ := (enc t).length

@[simp] theorem enc_nil : enc [] = [] := rfl

theorem enc_cons (c : Char) (t : List Char) : enc (c :: t) = String.utf8EncodeChar c ++ enc t := rfl

@[simp] theorem enc_append (t u : List Char) : enc (t ++ u) = enc t ++ enc u :=
  List.flatMap_append

@[simp] theorem len_nil : len [] = 0 := rfl

@[simp] theorem len_cons (c : Char) (t : List Char) : len (c :: t) = c.utf8Size + len t := by
  rw [len, enc_cons, List.length_append, String.length_utf8EncodeChar]
  rfl

@[simp] theorem len_append (t u : List Char) : len (t ++ u) = len t + len u := by
  simp [len]

/-- A text has at least as many bytes as characters. -/
theorem length_le_len (t : List Char) : t.length ≤ len t := by
  induction t with
  | nil => simp
  | cons c t ih =>
    have hpos := c.utf8Size_pos
    rw [List.length_cons, len_cons]
    omega

theorem drop_enc (u v : List Char) : (enc (u ++ v)).drop (len u) = enc v := by
  rw [enc_append]
  exact List.drop_left

/-! ### ASCII -/

/-- A byte of an ASCII character. -/
def IsAscii (b : UInt8) : Prop := b.toNat < 128

instance (b : UInt8) : Decidable (IsAscii b) := inferInstanceAs (Decidable (_ < _))

theorem utf8EncodeChar_of_lt {c : Char} (h : c.toNat < 128) :
    String.utf8EncodeChar c = [c.toNat.toUInt8] := by
  have hval : c.val.toNat < 128 := h
  fun_cases String.utf8EncodeChar c
  · rfl
  all_goals omega

/-- The bytes of the other characters are not ASCII. -/
theorem not_isAscii_of_mem {c : Char} (h : 128 ≤ c.toNat) {b : UInt8}
    (hb : b ∈ String.utf8EncodeChar c) : ¬ IsAscii b := by
  have hval : 128 ≤ c.val.toNat := h
  have hhigh {n : ℕ} (hn : 128 ≤ n ∧ n < 256) : ¬ IsAscii (UInt8.ofNat n) := by
    rw [IsAscii, UInt8.toNat_ofNat', Nat.mod_eq_of_lt hn.2]
    omega
  revert hb
  fun_cases String.utf8EncodeChar c
  · omega
  all_goals
    simp only [List.mem_cons, List.not_mem_nil, or_false]
    intro hb
    rcases hb with rfl | rfl | rfl | rfl <;> exact hhigh (by omega)

/-- The characters of a class of ASCII bytes. -/
def lift (p : UInt8 → Bool) (c : Char) : Bool := decide (c.toNat < 128) && p c.toNat.toUInt8

theorem toNat_toUInt8_of_lt {n : ℕ} (h : n < 128) : n.toUInt8.toNat = n :=
  Nat.mod_eq_of_lt (show n < 2 ^ 8 by omega)

theorem lift_beq {b : UInt8} (hb : IsAscii b) (c : Char) :
    lift (· == b) c = decide (c.toNat = b.toNat) := by
  unfold lift
  by_cases hc : c.toNat < 128
  · rw [decide_eq_true hc, Bool.true_and, Bool.eq_iff_iff, beq_iff_eq, decide_eq_true_eq,
      ← UInt8.toNat_inj, toNat_toUInt8_of_lt hc]
  · rw [decide_eq_false hc, Bool.false_and]
    refine (decide_eq_false fun h => hc ?_).symm
    rw [h]
    exact hb

/-- What stands in front of the rest of a text. -/
theorem byte_eq_head (u v : List Char) :
    (enc (u ++ v))[len u]? = (enc v).head? := by
  have hdrop := drop_enc u v
  rw [← List.head?_drop, hdrop]

theorem head?_enc_cons {c : Char} (t : List Char) {b : UInt8} (hb : IsAscii b) :
    (enc (c :: t)).head? = some b ↔ c.toNat = b.toNat := by
  by_cases hc : c.toNat < 128
  · rw [enc_cons, utf8EncodeChar_of_lt hc, List.singleton_append, List.head?_cons,
      Option.some.injEq, ← UInt8.toNat_inj, toNat_toUInt8_of_lt hc]
  · constructor
    · intro h
      have hne : String.utf8EncodeChar c ≠ [] := String.utf8EncodeChar_ne_nil
      rw [enc_cons, List.head?_append_of_ne_nil _ hne] at h
      exact absurd hb (not_isAscii_of_mem (Nat.not_lt.1 hc) (List.mem_of_mem_head? h))
    · intro h
      have hlt : c.toNat < 128 := by
        rw [h]
        exact hb
      exact absurd hlt hc

/-- An ASCII byte stands at the end of a prefix exactly if the rest begins with its character. -/
theorem ascii_of_byte (u v : List Char) {b : UInt8} (hb : IsAscii b) :
    (enc (u ++ v))[len u]? = some b ↔ ∃ c t, v = c :: t ∧ c.toNat = b.toNat := by
  rw [byte_eq_head]
  cases v with
  | nil => simp
  | cons c t =>
    rw [head?_enc_cons t hb]
    simp

/-- An ASCII byte is one of a text exactly if its character is. -/
theorem mem_enc_iff (t : List Char) {b : UInt8} (hb : IsAscii b) :
    b ∈ enc t ↔ ∃ c ∈ t, c.toNat = b.toNat := by
  unfold enc
  rw [List.mem_flatMap]
  refine exists_congr fun c => and_congr_right fun _ => ?_
  by_cases hc : c.toNat < 128
  · rw [utf8EncodeChar_of_lt hc, List.mem_singleton, ← UInt8.toNat_inj, toNat_toUInt8_of_lt hc,
      eq_comm]
  · refine iff_of_false (fun h => not_isAscii_of_mem (Nat.not_lt.1 hc) h hb) fun h => hc ?_
    rw [h]
    exact hb

/-- A search for ASCII bytes passes over whole characters. -/
theorem findIdx_enc {p : UInt8 → Bool} (hp : ∀ b, p b = true → IsAscii b) (t : List Char) :
    (enc t).findIdx p = len (t.takeWhile fun c => !lift p c) := by
  induction t with
  | nil => rfl
  | cons c t ih =>
    by_cases hc : c.toNat < 128
    · rw [enc_cons, utf8EncodeChar_of_lt hc, List.singleton_append, List.findIdx_cons,
        List.takeWhile_cons]
      unfold lift
      rw [decide_eq_true hc, Bool.true_and]
      cases hpc : p c.toNat.toUInt8 with
      | true => rfl
      | false =>
        have hsize : c.utf8Size = 1 := by
          rw [← String.length_utf8EncodeChar, utf8EncodeChar_of_lt hc]
          rfl
        rw [cond_false, Bool.not_false, if_pos rfl, len_cons, hsize, ih, Nat.add_comm]
        rfl
    · have hnone : (String.utf8EncodeChar c).findIdx p = (String.utf8EncodeChar c).length :=
        List.findIdx_eq_length_of_false fun b hb => by
          by_contra hpb
          exact not_isAscii_of_mem (Nat.not_lt.1 hc) hb (hp b (eq_true_of_ne_false hpb))
      have hlift : lift p c = false := by
        unfold lift
        rw [decide_eq_false hc, Bool.false_and]
      rw [enc_cons, List.findIdx_append, hnone, if_neg (Nat.lt_irrefl _), List.takeWhile_cons, hlift,
        Bool.not_false, if_pos rfl, len_cons, ih, String.length_utf8EncodeChar, Nat.add_comm]

/-! ### Slices -/

/-- The two parts of a text at an index, unless that is inside a character or past the end. -/
def splitAt? : ℕ → List Char → Option (List Char × List Char)
  | 0, t => some ([], t)
  | _ + 1, [] => none
  | n + 1, c :: t =>
      if c.utf8Size ≤ n + 1 then
        (splitAt? (n + 1 - c.utf8Size) t).map fun x => (c :: x.1, x.2)
      else none

/-- `&t[i..]`. -/
def sliceFrom? (t : List Char) (i : ℕ) : Option (List Char) := (splitAt? i t).map Prod.snd

/-- `&t[i..j]`. -/
def slice? (t : List Char) (i j : ℕ) : Option (List Char) :=
  (splitAt? j t).bind fun x => sliceFrom? x.1 i

/-- `&l[a..b]`. -/
def range? (l : List UInt8) (a b : ℕ) : Option (List UInt8) :=
  if a ≤ b ∧ b ≤ l.length then some ((l.drop a).take (b - a)) else none

theorem range?_append (u v w : List UInt8) :
    range? (u ++ (v ++ w)) u.length (u.length + v.length) = some v := by
  have hlen : u.length ≤ u.length + v.length ∧ u.length + v.length ≤ (u ++ (v ++ w)).length := by
    simp only [List.length_append]
    omega
  rw [range?, if_pos hlen, List.drop_left, Nat.add_sub_cancel_left, List.take_left]

theorem splitAt?_append (u v : List Char) : splitAt? (len u) (u ++ v) = some (u, v) := by
  induction u with
  | nil => cases v <;> rfl
  | cons c u ih =>
    have hpos := c.utf8Size_pos
    obtain ⟨n, hn⟩ : ∃ n, len (c :: u) = n + 1 := ⟨c.utf8Size + len u - 1, by
      rw [len_cons]
      omega⟩
    have hrest : n + 1 - c.utf8Size = len u := by
      rw [← hn, len_cons]
      omega
    rw [hn, List.cons_append, splitAt?, hrest, ih, if_pos]
    · rfl
    · rw [← hn, len_cons]
      omega

theorem sliceFrom?_append (u v : List Char) : sliceFrom? (u ++ v) (len u) = some v := by
  rw [sliceFrom?, splitAt?_append]
  rfl

theorem slice?_append (u v w : List Char) :
    slice? (u ++ (v ++ w)) (len u) (len u + len v) = some v := by
  rw [slice?, ← List.append_assoc, ← len_append, splitAt?_append]
  exact sliceFrom?_append u v

/-! ### Boundaries -/

/-- An index that is inside no character and not past the end. -/
def Boundary (t : List Char) (i : ℕ) : Prop := ∃ u v, t = u ++ v ∧ i = len u

theorem Boundary.le_len {t : List Char} {i : ℕ} (h : Boundary t i) : i ≤ len t := by
  obtain ⟨u, v, rfl, rfl⟩ := h
  rw [len_append]
  omega

end ByteScan
