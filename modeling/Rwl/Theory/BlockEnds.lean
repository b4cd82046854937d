import Mathlib.Tactic.Common
import Rwl.Core.StatusBlocks
import Rwl.Theory.BarSegments
import Rwl.Theory.MarkupSources

/-!
# Where each block ends

* `blocks.parts`, `block_start`: the texts of the blocks with the delimiters in front of them, and
  where each starts in the joined status; `build_status_bounds_eq`;
* `char_width`, `items_eq`, `measure_eq`: widths without kerning;
* `compute_pix_ends_eq`: each block ends where the joined status up to its end is measured to end.
-/

namespace Compositor

open ByteScan Fitting

/-! ### The joined status -/

namespace blocks

/-- The texts of the blocks, each with the delimiter in front of it. -/
def parts (delim : Text) : List Text → List Text
  | [] => []
  | part :: cache => part :: cache.map (delim ++ ·)

/-- The byte at which the text of block `k` with its delimiter starts. -/
def block_start (delim : Text) (cache : List Text) (k : ℕ) : ℕ :=
  len ((parts delim cache).take k).flatten

theorem length_parts (delim : Text) (cache : List Text) :
    (parts delim cache).length = cache.length := by
  cases cache with
  | nil => rfl
  | cons part cache => rw [parts, List.length_cons, List.length_map, List.length_cons]

theorem bounds_from_false (delim status : Text) (cache : List Text) :
    bounds_from delim false status cache = (status ++ (cache.map (delim ++ ·)).flatten,
      (List.range cache.length).map fun k =>
        len (status ++ ((cache.map (delim ++ ·)).take (k + 1)).flatten) % u32) := by
  induction cache generalizing status with
  | nil => simp [bounds_from]
  | cons part cache ih =>
    unfold bounds_from
    simp only [Bool.false_eq_true, if_false]
    rw [ih, List.length_cons, List.range_succ_eq_map, List.map_cons, List.map_cons, List.map_map,
      List.flatten_cons]
    refine Prod.ext (by simp) ?_
    simp only [List.take_succ_cons, List.take_zero, List.flatten_cons, List.flatten_nil,
      List.append_nil, List.append_assoc]
    rfl

/-- The joined status is its parts, and each bound is where a part ends. -/
theorem build_status_bounds_eq (cache : List Text) (delim : Text) :
    build_status_bounds cache delim = ((parts delim cache).flatten,
      (List.range cache.length).map fun k => block_start delim cache (k + 1) % u32) := by
  unfold build_status_bounds block_start
  cases cache with
  | nil => rfl
  | cons part cache =>
    unfold bounds_from parts
    simp only [if_true, List.nil_append]
    rw [bounds_from_false, List.length_cons, List.range_succ_eq_map, List.map_cons, List.map_map,
      List.flatten_cons]
    refine Prod.ext rfl ?_
    simp only [List.take_succ_cons, List.take_zero, List.flatten_cons, List.flatten_nil,
      List.append_nil]
    rfl

theorem block_start_mono (delim : Text) (cache : List Text) {j k : ℕ} (h : j ≤ k) :
    block_start delim cache j ≤ block_start delim cache k := by
  unfold block_start
  obtain ⟨d, rfl⟩ := Nat.exists_eq_add_of_le h
  rw [List.take_add, List.flatten_append, len_append]
  omega

/-- Behind the last block the joined status ends. -/
theorem block_start_of_le (delim : Text) (cache : List Text) {k : ℕ} (h : cache.length ≤ k) :
    block_start delim cache k = len (parts delim cache).flatten := by
  unfold block_start
  rw [List.take_of_length_le (by rw [length_parts]; exact h)]

end blocks

namespace azoth_render

open blocks (block_start parts)

/-! ### Widths without kerning -/

/-- How far the glyph of a character moves the pen. -/
def char_width (font : FcftFont) (c : Char) : ℕ := ((font.glyph c).map Int.toNat).getD 0

/-- The width of a character of some text. -/
def wide (font : FcftFont) (m : Char × ℕ) : ℕ := char_width font m.1

/-- The glyph of a character, with the byte where it stands. -/
def glyph_item (font : FcftFont) (m : Char × ℕ) : Option (ℕ × ℕ) :=
  (font.glyph m.1).map fun adv => (m.2, adv.toNat)

variable {font : FcftFont}

theorem through_glyph_item (font : FcftFont) :
    through Prod.snd (glyph_item font) = wide font := by
  funext m
  unfold through glyph_item wide char_width
  rw [Option.map_map]
  rfl

theorem width_eq (hkern : ∀ a b, font.kern a b = 0) (last : Option Char) (c : Char) (adv : ℤ) :
    font.width last c adv = adv.toNat := by
  unfold FcftFont.width
  cases last with
  | none => simp
  | some l => simp [hkern]

theorem items_eq (hkern : ∀ a b, font.kern a b = 0) (pos : ℕ) (last : Option Char) (t : Text) :
    items font pos last t = (located pos t).filterMap (glyph_item font) := by
  induction t generalizing pos last with
  | nil => rfl
  | cons c t ih =>
    rw [located_cons]
    unfold items
    cases hg : font.glyph c with
    | none =>
      have hitem : glyph_item font (c, pos) = none := by rw [glyph_item, hg]; rfl
      rw [List.filterMap_cons_none hitem]
      exact ih _ _
    | some adv =>
      have hitem : glyph_item font (c, pos) = some (pos, adv.toNat) := by rw [glyph_item, hg]; rfl
      rw [List.filterMap_cons_some hitem]
      simp only
      rw [width_eq hkern, ih]

/-- With all the room there is, the loop ends behind the last glyph. -/
theorem draw_glyphs_unbounded (hfont : font.Sane) (hkern : ∀ a b, font.kern a b = 0) (pos : ℕ)
    (pen : Pen) (hpen : pen.x < u32) (t : Text) :
    let drawn := draw_glyphs font u32_max 0 pos pen t
    drawn.2.x = (pen.x + span (char_width font) t) % u32 ∧
      (drawn.2.last_cp = none → pen.last_cp = none ∧ span (char_width font) t = 0) := by
  induction t generalizing pos pen with
  | nil => exact ⟨(Nat.mod_eq_of_lt hpen).symm, fun h => ⟨h, rfl⟩⟩
  | cons c t ih =>
    rw [span_cons]
    cases hg : font.glyph c with
    | none =>
      have hzero : char_width font c = 0 := by rw [char_width, hg]; rfl
      unfold draw_glyphs
      simp only [hg]
      rw [hzero, Nat.zero_add]
      exact ih (pos + c.utf8Size) (pen.recolor (pos % u32)) hpen
    | some adv =>
      have hwide : char_width font c = adv.toNat := by rw [char_width, hg]; rfl
      have hnx : font.advance (pen.recolor (pos % u32)) c adv =
          (pen.x + char_width font c) % u32 := by
        rw [advance_eq hfont hg, width_eq hkern, hwide]
        rfl
      have hlt : (pen.x + char_width font c) % u32 < u32 := Nat.mod_lt _ (by decide)
      have hmod : ((pen.x + char_width font c) % u32 + 0) % u32 =
          (pen.x + char_width font c) % u32 := Nat.mod_eq_of_lt hlt
      have hroom : ¬ u32_max < (pen.x + char_width font c) % u32 := by
        unfold u32_max
        omega
      unfold draw_glyphs
      simp only [hg, hnx, hmod, if_neg hroom]
      obtain ⟨hx, hlast⟩ := ih (pos + c.utf8Size)
        { pen.recolor (pos % u32) with
          x := (pen.x + char_width font c) % u32, last_cp := some c } hlt
      refine ⟨?_, fun hnone => absurd (hlast hnone).1 (Option.some_ne_none c)⟩
      rw [hx, Nat.mod_add_mod, Nat.add_assoc]

/-- The width of a text without a NUL, as a `u32`. -/
theorem measure_eq (hfont : font.Sane) (hkern : ∀ a b, font.kern a b = 0) {t : Text}
    (hnul : '\x00' ∉ t) : measure font t 0 = span (char_width font) t % u32 := by
  unfold measure
  by_cases hempty : t = []
  · rw [if_pos hempty, hempty]
    rfl
  · have hc : CString t = some t := if_neg hnul
    rw [if_neg hempty, hc, Option.getD_some]
    unfold text_width draw_text
    have hmax : ¬ (u32_max = 0 ∨ t = []) := fun h => h.elim (by decide) hempty
    have hroom : ¬ u32_max ≤ ((0 + 0) % u32 + 0) % u32 := by decide
    simp only [if_neg hmax, if_neg hroom]
    obtain ⟨hx, hlast⟩ := draw_glyphs_unbounded hfont hkern 0
      ⟨(0 + 0) % u32, none, 0, [], ⟨0, 0, 0, 0⟩, ⟨0, 0, 0, 0⟩⟩ (by decide) t
    have hstart : (0 + 0) % u32 = 0 := by decide
    split_ifs with hnone
    · rw [(hlast hnone).2]
      rfl
    · show (_ + 0) % u32 = _
      rw [Nat.add_zero, hx, Nat.mod_mod, hstart, Nat.zero_add]

/-- A text with a NUL is measured as an empty one. -/
theorem measure_of_nul {t : Text} (hnul : '\x00' ∈ t) : measure font t 0 = 0 := by
  have hc : CString t = none := if_pos hnul
  unfold measure
  rw [hc, Option.getD_none]
  split_ifs
  · rfl
  · unfold text_width draw_text
    simp

/-! ### The ends of the blocks -/

theorem floor_boundary_of_split (u v : Text) : floor_boundary (u ++ v) (len u) = len u := by
  have hsplit : (splitAt? (len u) (u ++ v)).isSome = true := by rw [splitAt?_append]; rfl
  cases hlen : len u with
  | zero => rfl
  | succ n =>
    rw [hlen] at hsplit
    exact if_pos hsplit

theorem compute_pix_ends_eq (font : FcftFont) (delim : Text) (cache : List Text)
    (hlen : len (parts delim cache).flatten < u32) :
    compute_pix_ends font (parts delim cache).flatten
        ((List.range cache.length).map fun k => block_start delim cache (k + 1) % u32) =
      (List.range cache.length).map fun k =>
        measure font ((parts delim cache).take (k + 1)).flatten 0 := by
  unfold compute_pix_ends
  rw [List.map_map]
  refine List.map_congr_left fun k _ => ?_
  have hsplit : (parts delim cache).flatten =
      ((parts delim cache).take (k + 1)).flatten ++ ((parts delim cache).drop (k + 1)).flatten := by
    rw [← List.flatten_append, List.take_append_drop]
  have hle : block_start delim cache (k + 1) ≤ len (parts delim cache).flatten := by
    rw [hsplit, len_append]
    exact Nat.le_add_right _ _
  have hmin : min (block_start delim cache (k + 1) % u32) (len (parts delim cache).flatten) =
      len ((parts delim cache).take (k + 1)).flatten := by
    rw [Nat.mod_eq_of_lt (by omega), Nat.min_eq_left hle]
    rfl
  have hslice : slice? (parts delim cache).flatten 0
      (len ((parts delim cache).take (k + 1)).flatten) =
        some ((parts delim cache).take (k + 1)).flatten := by
    have h := slice?_append [] ((parts delim cache).take (k + 1)).flatten
      ((parts delim cache).drop (k + 1)).flatten
    rw [List.nil_append, ← hsplit, len_nil, Nat.zero_add] at h
    exact h
  show measure font ((slice? (parts delim cache).flatten 0 (floor_boundary
    (parts delim cache).flatten (min _ _))).getD []) 0 = _
  rw [hmin]
  have hfloor := floor_boundary_of_split ((parts delim cache).take (k + 1)).flatten
    ((parts delim cache).drop (k + 1)).flatten
  rw [← hsplit] at hfloor
  rw [hfloor, hslice, Option.getD_some]

/-- The width of a front part of a text, as that of its characters in front of a byte. -/
theorem ahead_front (font : FcftFont) (u v : Text) :
    ahead (wide font) Prod.snd (len u) (located 0 (u ++ v)) = span (char_width font) u := by
  have hfront : ∀ m ∈ located 0 u, m.2 < len u := fun m hm => by
    have := (located_bounds hm).2
    omega
  have hback : ∀ m ∈ located (0 + len u) v, len u ≤ m.2 := fun m hm => by
    have := (located_bounds hm).1
    omega
  rw [located_append, ahead_append, ahead_eq_span hfront, ahead_eq_zero hback, Nat.add_zero]
  have hmap : ((located 0 u).map Prod.fst) = u := map_fst_laid 0 u
  conv_rhs => rw [← hmap]
  rw [span_map]
  rfl

end azoth_render

end Compositor
