import Mathlib.Tactic.Common
import Rwl.Core.Overview
import Rwl.Core.Step

/-!
# Typing the hint of a thumbnail

* `sanitize_hint_keys_spec`: accepted keys are distinct lower-case letters and digits, at least
  one;
* `PrefixFree`, `typed_hint`: in an overview whose hints are prefix-free, typing a hint selects
  its thumbnail;
* `HintLaw`, `hintLaw_iff`: the hints do their work exactly up to the square of the number of
  keys.
-/

namespace Compositor

namespace overview

/-! ### Accepted keys -/

/-- A character the overview can draw and the keyboard can type. -/
def Usable (c : Char) : Prop := (c.isLower || c.isDigit) = true

/-- What an accepted `hint_keys` string is. -/
structure Accepted (keys : List Char) : Prop where
  usable : ∀ c ∈ keys, Usable c
  nodup : keys.Nodup
  nonempty : keys ≠ []

theorem accepted_default : Accepted defaultHintKeys :=
  ⟨List.all_eq_true.1 (by rfl : defaultHintKeys.all (fun c => c.isLower || c.isDigit) = true),
    by decide, by decide⟩

/-- The loop keeps the keys usable and distinct. -/
theorem pushHintKey_spec {keys : List Char} (c : Char) (hu : ∀ a ∈ keys, Usable a)
    (hn : keys.Nodup) :
    (∀ a ∈ pushHintKey keys c, Usable a) ∧ (pushHintKey keys c).Nodup := by
  unfold pushHintKey
  dsimp only
  split_ifs with h
  · rw [Bool.and_eq_true, Bool.not_eq_true', List.contains_eq_mem] at h
    refine ⟨fun a ha => ?_, ?_⟩
    · rcases List.mem_append.1 ha with ha | ha
      · exact hu a ha
      · rw [List.mem_singleton.1 ha]
        exact h.1
    · refine List.nodup_append.2 ⟨hn, List.nodup_singleton _, fun a ha b hb he => ?_⟩
      rw [he, List.mem_singleton.1 hb] at ha
      exact (of_decide_eq_false h.2) ha
  · exact ⟨hu, hn⟩

theorem foldl_pushHintKey (raw : List Char) {keys : List Char} (hu : ∀ a ∈ keys, Usable a)
    (hn : keys.Nodup) :
    (∀ a ∈ raw.foldl pushHintKey keys, Usable a) ∧ (raw.foldl pushHintKey keys).Nodup := by
  induction raw generalizing keys with
  | nil => exact ⟨hu, hn⟩
  | cons c raw ih =>
    obtain ⟨hu', hn'⟩ := pushHintKey_spec c hu hn
    exact ih hu' hn'

/-- Whatever the configuration says, the accepted keys are usable, distinct and not none. -/
theorem sanitize_hint_keys_spec (raw : Option (List Char)) {default : List Char}
    (hd : Accepted default) : Accepted (sanitize_hint_keys raw default) := by
  cases raw with
  | none => exact hd
  | some raw =>
    obtain ⟨hu, hn⟩ :=
      foldl_pushHintKey raw (fun a ha => absurd ha List.not_mem_nil) List.nodup_nil
    unfold sanitize_hint_keys
    dsimp only
    split_ifs with h
    · exact hd
    · exact ⟨hu, hn, fun he => h (by rw [he]; rfl)⟩

/-- The keysym of a usable character types that character. -/
theorem hintChar_toNat {c : Char} (h : Usable c) : hintChar c.toNat = some c := by
  have hr : (97 ≤ c.toNat ∧ c.toNat ≤ 122) ∨ (48 ≤ c.toNat ∧ c.toNat ≤ 57) := by
    have hrange {a b : UInt32} (hc : (decide (c.val ≥ a) && decide (c.val ≤ b)) = true) :
        a.toNat ≤ c.toNat ∧ c.toNat ≤ b.toNat := by
      obtain ⟨ha, hb⟩ := Bool.and_eq_true_iff.1 hc
      exact ⟨UInt32.le_iff_toNat_le.1 (of_decide_eq_true ha),
        UInt32.le_iff_toNat_le.1 (of_decide_eq_true hb)⟩
    rcases Bool.or_eq_true_iff.1 h with h | h
    · exact .inl (hrange h)
    · exact .inr (hrange h)
  have hl : c.toLower = c := by
    unfold Char.toLower
    rw [dif_neg]
    simp only [ge_iff_le, UInt32.le_iff_toNat_le, not_and, not_le]
    intro hA
    change 65 ≤ c.toNat at hA
    change 90 < c.toNat
    omega
  unfold hintChar
  rw [if_pos ⟨by omega, by omega⟩, Char.ofNat_toNat, hl]

/-! ### Codes -/

/-- No word is empty or a proper prefix of another. -/
def PrefixFree {α : Type*} (words : List (List α)) : Prop :=
  [] ∉ words ∧ ∀ u ∈ words, ∀ v ∈ words, u <+: v → u = v

/-- Words of one length are prefix-free. -/
theorem prefixFree_of_length {α : Type*} {words : List (List α)} {m : ℕ} (hm : m ≠ 0)
    (h : ∀ u ∈ words, u.length = m) : PrefixFree words := by
  refine ⟨fun h0 => hm (h [] h0).symm, fun u hu v hv hp => ?_⟩
  exact hp.eq_of_length ((h u hu).trans (h v hv).symm)

/-- All words of two letters. -/
def pairs {α : Type*} (keys : List α) : List (List α) :=
  keys.flatMap fun a => keys.map fun b => [a, b]

theorem length_of_mem_pairs {α : Type*} {keys : List α} {u : List α} (h : u ∈ pairs keys) :
    u.length = 2 := by
  obtain ⟨a, _, hu⟩ := List.mem_flatMap.1 h
  obtain ⟨b, _, rfl⟩ := List.mem_map.1 hu
  rfl

theorem length_pairs {α : Type*} (keys : List α) :
    (pairs keys).length = keys.length * keys.length := by
  simp [pairs, List.length_flatMap, List.map_const', List.sum_replicate]

theorem nodup_pairs {α : Type*} {keys : List α} (h : keys.Nodup) : (pairs keys).Nodup := by
  refine List.nodup_flatMap.2 ⟨fun a _ => h.map fun b b' he => ?_, h.imp fun hab => ?_⟩
  · exact (List.cons.inj (List.cons.inj he).2).1
  · intro u hu hu'
    obtain ⟨b, _, rfl⟩ := List.mem_map.1 hu
    obtain ⟨b', _, he⟩ := List.mem_map.1 hu'
    exact hab (List.cons.inj he).1.symm

/-! ### The hints given out -/

section Hints

variable {cfg : Config} {n : ℕ}

/-- One-character hints. -/
theorem assign_hints_of_le (hk : cfg.hint_keys ≠ []) (h : n ≤ cfg.hint_keys.length) :
    assign_hints cfg n = (cfg.hint_keys.take n).map fun c => [c] := by
  unfold assign_hints
  dsimp only
  rw [if_neg hk, if_pos h]

/-- Two-character hints. -/
theorem assign_hints_of_lt (hk : cfg.hint_keys ≠ []) (h : cfg.hint_keys.length < n) :
    assign_hints cfg n = (pairs cfg.hint_keys).take n := by
  unfold assign_hints pairs
  dsimp only
  rw [if_neg hk, if_neg (by omega)]

theorem prefixFree_assign_hints (h : Accepted cfg.hint_keys) : PrefixFree (assign_hints cfg n) := by
  by_cases hn : n ≤ cfg.hint_keys.length
  · rw [assign_hints_of_le h.nonempty hn]
    refine prefixFree_of_length one_ne_zero fun u hu => ?_
    obtain ⟨c, _, rfl⟩ := List.mem_map.1 hu
    rfl
  · rw [assign_hints_of_lt h.nonempty (by omega)]
    exact prefixFree_of_length two_ne_zero fun u hu => length_of_mem_pairs (List.mem_of_mem_take hu)

theorem nodup_assign_hints (h : Accepted cfg.hint_keys) : (assign_hints cfg n).Nodup := by
  by_cases hn : n ≤ cfg.hint_keys.length
  · rw [assign_hints_of_le h.nonempty hn]
    exact (h.nodup.sublist (List.take_sublist _ _)).map fun a b he => (List.cons.inj he).1
  · rw [assign_hints_of_lt h.nonempty (by omega)]
    exact (nodup_pairs h.nodup).sublist (List.take_sublist _ _)

/-- There are never more hints than the square of the number of keys. -/
theorem length_assign_hints (h : Accepted cfg.hint_keys) :
    (assign_hints cfg n).length = min n (cfg.hint_keys.length * cfg.hint_keys.length) := by
  have hk : 0 < cfg.hint_keys.length := List.length_pos_of_ne_nil h.nonempty
  by_cases hn : n ≤ cfg.hint_keys.length
  · have hsq := Nat.le_mul_of_pos_left cfg.hint_keys.length hk
    rw [assign_hints_of_le h.nonempty hn, List.length_map, List.length_take]
    omega
  · rw [assign_hints_of_lt h.nonempty (by omega), List.length_take, length_pairs]

end Hints

/-! ### Typing -/

/-- A grid in which every window has a hint and the hints are prefix-free. -/
structure Readable (cells : List OverviewCell) : Prop where
  nodup : (cells.map OverviewCell.hint).Nodup
  prefixFree : PrefixFree (cells.map OverviewCell.hint)

/-- The overview after `c` was chosen. -/
def chosen (s : Rwl) (ov : OverviewState) (c : OverviewCell) : Rwl :=
  let ov' : OverviewState :=
    { ov with
      typed := c.hint
      closing := some (.Window c.window c.tag)
      anim_start := s.desk.now }
  { s with overview := some ov' }

/-- A printable key reaches `type_char`. -/
theorem handle_key_of_hintChar {s : Rwl} {ov : OverviewState} (hov : s.overview = some ov)
    (ho : ov.closing = none) {sym : ℕ} {a : Char} (ha : hintChar sym = some a) :
    handle_key s sym = type_char s a := by
  have hle : sym ≤ 0x7e := by
    unfold hintChar at ha
    split_ifs at ha with h
    exact h.2
  unfold handle_key
  rw [if_neg (by rw [hov, Option.all_some, ho]; decide), if_neg (by omega), if_neg (by omega),
    if_neg (by omega), if_neg (by omega), if_neg (by omega), ha]

section Typing

variable {s : Rwl} {ov : OverviewState} {c : OverviewCell} {a : Char}

/-- A character that continues some hint is accepted. -/
theorem typing_extends (hov : s.overview = some ov) (hc : c ∈ ov.cells)
    (hp : ov.typed ++ [a] <+: c.hint) :
    type_char s a =
      choose (modify s fun ov' => { ov' with typed := ov.typed ++ [a] }) ov
        (ov.cells.findIdx? fun cell => decide (cell.hint = ov.typed ++ [a])) := by
  have hall : ¬ (ov.cells.all fun cell => !decide (ov.typed ++ [a] <+: cell.hint)) = true := by
    intro h
    have hn := List.all_eq_true.1 h c hc
    rw [decide_eq_true hp] at hn
    exact Bool.false_ne_true hn
  unfold type_char
  rw [hov]
  exact if_neg hall

/-- In the middle of a hint nothing is chosen yet. -/
theorem type_char_more (hr : Readable ov.cells) (hov : s.overview = some ov) (hc : c ∈ ov.cells)
    {rest : List Char} (hp : ov.typed ++ a :: rest = c.hint) (hne : rest ≠ []) :
    type_char s a = { s with overview := some { ov with typed := ov.typed ++ [a] } } := by
  have hpre : ov.typed ++ [a] <+: c.hint := ⟨rest, by rw [← hp]; simp⟩
  have hnone : (ov.cells.findIdx? fun cell => decide (cell.hint = ov.typed ++ [a])) = none := by
    refine List.findIdx?_eq_none_iff.2 fun cell hcell => decide_eq_false fun he => hne ?_
    -- a hint that ends here would be a proper prefix of the one being typed
    have heq := hr.prefixFree.2 cell.hint (List.mem_map_of_mem hcell) c.hint
      (List.mem_map_of_mem hc) (he ▸ hpre)
    rw [he, ← hp, List.append_cancel_left_eq] at heq
    exact (List.cons.inj heq).2.symm
  rw [typing_extends hov hc hpre, hnone]
  simp [choose, modify, hov]

/-- The last character of a hint chooses its thumbnail. -/
theorem type_char_last (hr : Readable ov.cells) (hov : s.overview = some ov) (hc : c ∈ ov.cells)
    (hp : ov.typed ++ [a] = c.hint) : type_char s a = chosen s ov c := by
  rw [typing_extends hov hc (hp ▸ List.prefix_refl _), hp]
  obtain ⟨i, hi, rfl⟩ := List.getElem_of_mem hc
  have hidx : (ov.cells.findIdx? fun cell => decide (cell.hint = ov.cells[i].hint)) = some i := by
    refine List.findIdx?_eq_some_iff_getElem.2 ⟨hi, decide_eq_true rfl, fun j hj => ?_⟩
    have hjl : j < ov.cells.length := by omega
    rw [decide_eq_true_eq]
    -- no two thumbnails share a hint
    exact List.pairwise_iff_getElem.1 (List.pairwise_map.1 hr.nodup) j i hjl hi hj
  rw [hidx]
  simp [choose, begin_close, modify, hov, chosen, List.getElem?_eq_getElem hi]

end Typing

/-- The characters of a hint, typed after a part of it, choose its thumbnail. -/
theorem typed_hint {s : Rwl} {ov : OverviewState} {c : OverviewCell} (hr : Readable ov.cells)
    (hc : c ∈ ov.cells) (hov : s.overview = some ov) (ho : ov.closing = none) {rest : List Char}
    (hp : ov.typed ++ rest = c.hint) (hne : rest ≠ []) {syms : List ℕ}
    (hs : syms.map hintChar = rest.map some) : syms.foldl handle_key s = chosen s ov c := by
  induction rest generalizing s ov syms with
  | nil => exact absurd rfl hne
  | cons a rest ih =>
    obtain ⟨sym, syms, rfl, ha, hs⟩ := List.map_eq_cons_iff.1 hs
    rw [List.foldl_cons, handle_key_of_hintChar hov ho ha]
    by_cases hrest : rest = []
    · subst hrest
      obtain rfl : syms = [] := List.map_eq_nil_iff.1 hs
      exact type_char_last hr hov hc hp
    · rw [type_char_more hr hov hc hp hrest]
      let ov' : OverviewState := { ov with typed := ov.typed ++ [a] }
      have hov' : ({ s with overview := some ov' } : Rwl).overview = some ov' := rfl
      have hp' : ov'.typed ++ rest = c.hint := by
        rw [← hp]
        exact List.append_assoc _ _ _
      have hr' : Readable ov'.cells := hr
      exact ih hr' hc hov' ho hp' hrest hs

/-! ### The grid of a session -/

/-- The windows of the thumbnails are the candidates, and each has the hint of its place. -/
theorem hint_build_cells (d : Desk) (all_tags : Bool) (active_tags : ℕ) (work : Rect) :
    (build_cells d all_tags active_tags work).map OverviewCell.hint =
      (List.range (build_cells d all_tags active_tags work).length).map fun i =>
        ((assign_hints d.cfg (build_cells d all_tags active_tags work).length)[i]?).getD [] := by
  unfold build_cells
  dsimp only
  refine List.ext_getElem (by simp) fun i h₁ h₂ => ?_
  simp

/-- An open overview of `n` thumbnails with nothing typed. -/
structure Opened (cfg : Config) (n : ℕ) (ov : OverviewState) : Prop where
  cells : ∃ (d : Desk) (all_tags : Bool) (active_tags : ℕ) (work : Rect),
    d.cfg = cfg ∧ ov.cells = build_cells d all_tags active_tags work
  length : ov.cells.length = n
  typed : ov.typed = []
  closing : ov.closing = none

/-- What the hints of `n` thumbnails are for. -/
structure HintLaw (cfg : Config) (n : ℕ) : Prop where
  length : (assign_hints cfg n).length = n
  nodup : (assign_hints cfg n).Nodup
  prefixFree : PrefixFree (assign_hints cfg n)
  /-- Every character of a hint has a key that types it. -/
  typeable : ∀ h ∈ assign_hints cfg n, ∀ c ∈ h, hintChar c.toNat = some c
  /-- Keys that type a hint choose its thumbnail. -/
  chooses : ∀ (s : Rwl) (ov : OverviewState), s.overview = some ov → Opened cfg n ov →
    ∀ c ∈ ov.cells, ∀ syms : List ℕ, syms.map hintChar = c.hint.map some →
      syms.foldl handle_key s = chosen s ov c

/-- With enough hints each thumbnail of a session has the one of its place. -/
theorem Opened.hints {cfg : Config} {n : ℕ} {ov : OverviewState} (h : Opened cfg n ov)
    (hn : (assign_hints cfg n).length = n) :
    ov.cells.map OverviewCell.hint = assign_hints cfg n := by
  obtain ⟨d, all_tags, active_tags, work, hd, hc⟩ := h.cells
  have hlen : (build_cells d all_tags active_tags work).length = n := hc ▸ h.length
  rw [hc, hint_build_cells, hlen, hd]
  refine List.ext_getElem (by simp [hn]) fun i h₁ h₂ => ?_
  simp [List.getElem?_eq_getElem h₂]

/-- The characters of the hints are accepted keys. -/
theorem mem_keys_of_assign_hints {cfg : Config} {n : ℕ} (hk : Accepted cfg.hint_keys)
    {h : List Char} (hh : h ∈ assign_hints cfg n) {c : Char} (hc : c ∈ h) : c ∈ cfg.hint_keys := by
  by_cases hn : n ≤ cfg.hint_keys.length
  · rw [assign_hints_of_le hk.nonempty hn] at hh
    obtain ⟨a, ha, rfl⟩ := List.mem_map.1 hh
    rw [List.mem_singleton.1 hc]
    exact List.mem_of_mem_take ha
  · rw [assign_hints_of_lt hk.nonempty (by omega)] at hh
    obtain ⟨a, ha, hh⟩ := List.mem_flatMap.1 (List.mem_of_mem_take hh)
    obtain ⟨b, hb, rfl⟩ := List.mem_map.1 hh
    rcases List.mem_cons.1 hc with rfl | hc
    · exact ha
    · rw [List.mem_singleton.1 hc]
      exact hb

/-- Up to the square of the number of keys the hints do their work. -/
theorem hintLaw_of_le {cfg : Config} {n : ℕ} (hk : Accepted cfg.hint_keys)
    (hn : n ≤ cfg.hint_keys.length * cfg.hint_keys.length) : HintLaw cfg n := by
  have hlen : (assign_hints cfg n).length = n := by
    rw [length_assign_hints hk]
    exact min_eq_left hn
  have hpf : PrefixFree (assign_hints cfg n) := prefixFree_assign_hints hk
  refine ⟨hlen, nodup_assign_hints hk, hpf, fun h hh c hc =>
    hintChar_toNat (hk.usable c (mem_keys_of_assign_hints hk hh hc)), ?_⟩
  intro s ov hov ho c hc syms hs
  have hhints := ho.hints hlen
  have hr : Readable ov.cells := ⟨hhints ▸ nodup_assign_hints hk, hhints ▸ hpf⟩
  have hne : c.hint ≠ [] := fun he => hr.prefixFree.1 (he ▸ List.mem_map_of_mem hc)
  exact typed_hint hr hc hov ho.closing (by rw [ho.typed, List.nil_append]) hne hs

/-- **Hints.** For every accepted `hint_keys`, every thumbnail of an overview of `n` windows is
reached by typing its hint exactly when `n` is at most the square of the number of keys. -/
theorem hintLaw_iff (cfg : Config) (raw : Option (List Char))
    (h : cfg.hint_keys = sanitize_hint_keys raw defaultHintKeys) (n : ℕ) :
    HintLaw cfg n ↔ n ≤ cfg.hint_keys.length * cfg.hint_keys.length := by
  have hk : Accepted cfg.hint_keys := h ▸ sanitize_hint_keys_spec raw accepted_default
  constructor
  · intro hl
    have hlen := hl.length
    rw [length_assign_hints hk] at hlen
    exact min_eq_left_iff.1 hlen
  · exact hintLaw_of_le hk

/-- A configuration with the hint keys of the home row, written in capitals. -/
def homeRow : Config :=
  { Rwl.plainConfig [] [] with
    hint_keys := sanitize_hint_keys (some ['A', 's', 'A', 'd', ' ', 'f']) defaultHintKeys }

theorem hintLaw_homeRow : HintLaw homeRow 16 :=
  (hintLaw_iff homeRow (some ['A', 's', 'A', 'd', ' ', 'f']) rfl 16).2 (by decide +kernel)

/-- Four keys make sixteen hints, and the seventeenth window goes without one. -/
theorem not_hintLaw : ¬ ∀ (cfg : Config) (raw : Option (List Char)) (n : ℕ),
    cfg.hint_keys = sanitize_hint_keys raw defaultHintKeys → HintLaw cfg n := by
  intro h
  have hlen := (h homeRow (some ['A', 's', 'A', 'd', ' ', 'f']) 17 rfl).length
  revert hlen
  decide +kernel

end overview

end Compositor
