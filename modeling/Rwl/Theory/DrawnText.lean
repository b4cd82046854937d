import Mathlib.Tactic.Common
import Rwl.Core.DrawText
import Rwl.Lib.Fitting

/-!
# What is drawn of a text

* `FcftFont.Sane`: what the layout relies on of a font;
* `items`: the glyphs of a text with the bytes where they start, and how far each moves the pen;
* `shown`, `extent`: the glyphs drawn in some room, and the width they take with the padding;
* `draw_text_eq`: `draw_text` draws these, one after the other;
* `extent_le`, `extent_again_iff`: when a text needs its own width again.
-/

namespace Compositor

open Fitting

namespace azoth_render

/-- A glyph does not move the pen to the left, with and without kerning, and by less than `2 ^ 31`
pixels. -/
structure FcftFont.Sane (font : FcftFont) : Prop where
  height : font.height < u32
  advance : ∀ c adv, font.glyph c = some adv → 0 ≤ adv ∧ adv < 2 ^ 31
  kerned : ∀ last c adv, font.glyph c = some adv →
    0 ≤ font.kern last c + adv ∧ font.kern last c + adv < 2 ^ 31

/-- How far the glyph of a character moves the pen. -/
def FcftFont.width (font : FcftFont) (last : Option Char) (c : Char) (adv : ℤ) : ℕ :=
  ((last.map fun l => font.kern l c).getD 0 + adv).toNat

/-- The glyphs of a text from byte `pos` on: where each starts, and how far it moves the pen. -/
def items (font : FcftFont) : ℕ → Option Char → Text → List (ℕ × ℕ)
  | _, _, [] => []
  | pos, last, c :: t =>
    match font.glyph c with
    | none => items font (pos + c.utf8Size) last t
    | some adv => (pos, font.width last c adv) :: items font (pos + c.utf8Size) (some c) t

/-- The glyphs that are drawn of a text. -/
def shown (font : FcftFont) (padding : ℕ) (t : Text) (room : ℕ) : List (ℕ × ℕ) :=
  if room ≤ 2 * padding then [] else fit Prod.snd (room - 2 * padding) (items font 0 none t)

/-- The width of glyphs with the padding on both sides. -/
def extent (padding : ℕ) (l : List (ℕ × ℕ)) : ℕ := if l = [] then 0 else 2 * padding + span Prod.snd l

/-- A glyph laid at some place is drawn there. -/
def place (m : (ℕ × ℕ) × ℕ) : ℕ × ℕ × ℕ := (m.1.1, m.2, m.2 + m.1.2)

/-- The character, the start and the end of a cell. -/
def Cell.spot (c : Cell) : ℕ × ℕ × ℕ := (c.byte_idx, c.x, c.nx)

variable {font : FcftFont}

/-! ### The loop over the characters -/

@[simp] theorem recolor_x (pen : Pen) (byte_idx : ℕ) : (pen.recolor byte_idx).x = pen.x := rfl

@[simp] theorem recolor_last_cp (pen : Pen) (byte_idx : ℕ) :
    (pen.recolor byte_idx).last_cp = pen.last_cp := rfl

theorem width_spec (hfont : font.Sane) (last : Option Char) {c : Char} {adv : ℤ}
    (h : font.glyph c = some adv) : font.width last c adv < 2 ^ 31 ∧
      (last.map fun l => font.kern l c).getD 0 + adv = font.width last c adv := by
  unfold FcftFont.width
  cases last with
  | none =>
    have := hfont.advance c adv h
    simp only [Option.map_none, Option.getD_none]
    omega
  | some l =>
    have := hfont.kerned l c adv h
    simp only [Option.map_some, Option.getD_some]
    omega

/-- Without an overflow the pen moves by the width of the glyph. -/
theorem advance_eq (hfont : font.Sane) {pen : Pen} {c : Char} {adv : ℤ}
    (h : font.glyph c = some adv) :
    font.advance pen c adv = (pen.x + font.width pen.last_cp c adv) % u32 := by
  have hwidth := (width_spec hfont pen.last_cp h).2
  unfold FcftFont.advance
  simp only
  rw [Int.add_assoc, hwidth, ← Int.natCast_add, ← Int.natCast_mod, Int.toNat_natCast]

/-- The loop draws the glyphs that fit, one after the other. -/
theorem draw_glyphs_eq (hfont : font.Sane) {max_x padding : ℕ} (hmax : max_x < 2 ^ 26)
    (hpad : padding < 2 ^ 30) (pos : ℕ) (pen : Pen) (hpen : pen.x + padding ≤ max_x) (t : Text) :
    let l := fit Prod.snd (max_x - padding - pen.x) (items font pos pen.last_cp t)
    let drawn := draw_glyphs font max_x padding pos pen t
    drawn.1.map Cell.spot = (laid Prod.snd pen.x l).map place ∧
      drawn.2.x = pen.x + span Prod.snd l ∧
      (drawn.2.last_cp = none ↔ pen.last_cp = none ∧ l = []) := by
  induction t generalizing pos pen with
  | nil => exact ⟨rfl, rfl, by simp [items, draw_glyphs]⟩
  | cons c t ih =>
    cases hg : font.glyph c with
    | none =>
      unfold draw_glyphs items
      simp only [hg]
      exact ih (pos + c.utf8Size) (pen.recolor (pos % u32)) hpen
    | some adv =>
      have hu : u32 = 2 ^ 32 := rfl
      have hlt : font.width pen.last_cp c adv < 2 ^ 31 := (width_spec hfont _ hg).1
      have hnx : font.advance (pen.recolor (pos % u32)) c adv =
          (pen.x + font.width pen.last_cp c adv) % u32 := advance_eq hfont hg
      have hmod : (pen.x + font.width pen.last_cp c adv) % u32 =
          pen.x + font.width pen.last_cp c adv := Nat.mod_eq_of_lt (by omega)
      have hmod' : (pen.x + font.width pen.last_cp c adv + padding) % u32 =
          pen.x + font.width pen.last_cp c adv + padding := Nat.mod_eq_of_lt (by omega)
      unfold draw_glyphs items
      simp only [hg, hnx, hmod, hmod']
      by_cases hfits : font.width pen.last_cp c adv ≤ max_x - padding - pen.x
      · have hnext := ih (pos + c.utf8Size)
          { pen.recolor (pos % u32) with
            x := pen.x + font.width pen.last_cp c adv, last_cp := some c }
          (by show pen.x + font.width pen.last_cp c adv + padding ≤ max_x; omega)
        simp only [Nat.sub_add_eq] at hnext
        obtain ⟨hcells, hx, hlast⟩ := hnext
        have hcons := fit_cons_of_le (w := Prod.snd) (a := (pos, font.width pen.last_cp c adv))
          hfits (items font (pos + c.utf8Size) (some c) t)
        rw [if_neg (by omega), hcons]
        refine ⟨?_, ?_, ?_⟩
        · rw [laid_cons, List.map_cons, List.map_cons, hcells]
          rfl
        · rw [hx, span_cons, Nat.add_assoc]
        · rw [hlast]
          simp
      · have hcons := fit_cons_of_lt (w := Prod.snd) (a := (pos, font.width pen.last_cp c adv))
          (Nat.lt_of_not_le hfits) (items font (pos + c.utf8Size) (some c) t)
        rw [if_pos (by omega), hcons]
        exact ⟨rfl, rfl, by simp⟩

/-! ### One text -/

theorem shown_nil (padding room : ℕ) : shown font padding [] room = [] := by
  unfold shown
  split_ifs
  · rfl
  · rfl

/-- `draw_text` draws the glyphs that fit between its bounds. -/
theorem draw_text_eq (hfont : font.Sane) {x max_x padding : ℕ} (hx : x ≤ max_x)
    (hmax : max_x < 2 ^ 26) (hpad : padding < 2 ^ 30) (t : Text) (fg bg : Color)
    (colors : List TextColor) :
    let seg := draw_text font (some t) x max_x padding fg bg colors
    let l := shown font padding t (max_x - x)
    seg.start = x ∧ seg.stop = x + extent padding l ∧
      seg.cells.map Cell.spot = (laid Prod.snd (x + padding) l).map place := by
  have hnx : (x + padding) % u32 = x + padding := Nat.mod_eq_of_lt (by unfold u32; omega)
  have hnx' : (x + padding + padding) % u32 = x + padding + padding :=
    Nat.mod_eq_of_lt (by unfold u32; omega)
  unfold draw_text
  simp only [hnx, hnx']
  by_cases hnone : max_x = 0 ∨ t = []
  · have hnil : shown font padding t (max_x - x) = [] := by
      rcases hnone with rfl | rfl
      · exact if_pos (by omega)
      · exact shown_nil _ _
    rw [if_pos hnone, hnil]
    exact ⟨rfl, rfl, rfl⟩
  · rw [if_neg hnone]
    by_cases hroom : max_x ≤ x + padding + padding
    · rw [if_pos hroom, shown, if_pos (by omega)]
      exact ⟨rfl, rfl, rfl⟩
    · obtain ⟨hcells, hend, hlast⟩ := draw_glyphs_eq hfont hmax hpad 0
        ⟨x + padding, none, 0, colors, fg, bg⟩ (by show x + padding + padding ≤ max_x; omega) t
      have hsub : max_x - padding - (x + padding) = max_x - x - 2 * padding := by omega
      simp only [hsub, true_and] at hcells hend hlast
      have hshown : shown font padding t (max_x - x) =
          fit Prod.snd (max_x - x - 2 * padding) (items font 0 none t) := if_neg (by omega)
      rw [if_neg hroom, hshown]
      by_cases hl : fit Prod.snd (max_x - x - 2 * padding) (items font 0 none t) = []
      · rw [if_pos (hlast.2 hl), hl]
        exact ⟨rfl, rfl, rfl⟩
      · have hfit := span_fit_le (w := Prod.snd) (max_x - x - 2 * padding) (items font 0 none t)
        rw [if_neg fun h => hl (hlast.1 h)]
        refine ⟨rfl, ?_, hcells⟩
        rw [hend, extent, if_neg hl, Nat.mod_eq_of_lt (by unfold u32; omega)]
        show x + padding + span Prod.snd (fit Prod.snd _ _) + padding = _
        omega

theorem text_width_eq (hfont : font.Sane) {room padding : ℕ} (hroom : room < 2 ^ 26)
    (hpad : padding < 2 ^ 30) (t : Text) :
    text_width font (some t) room padding = extent padding (shown font padding t room) := by
  have h := (draw_text_eq hfont (Nat.zero_le room) hroom hpad t ⟨0, 0, 0, 0⟩ ⟨0, 0, 0, 0⟩ []).2.1
  rw [Nat.zero_add] at h
  exact h

/-! ### Its width -/

theorem extent_le (font : FcftFont) (padding : ℕ) (t : Text) (room : ℕ) :
    extent padding (shown font padding t room) ≤ room := by
  unfold extent shown
  split_ifs with hroom hl hl
  · omega
  · exact absurd rfl hl
  · omega
  · have := span_fit_le (w := Prod.snd) (room - 2 * padding) (items font 0 none t)
    omega

/-- Glyphs are drawn and all of them together do not move the pen, although there is padding. -/
def Vanishes (font : FcftFont) (padding : ℕ) (t : Text) (room : ℕ) : Prop :=
  0 < padding ∧ shown font padding t room ≠ [] ∧ span Prod.snd (shown font padding t room) = 0

/-- In its own width a text shows the same glyphs, unless they do not move the pen. -/
theorem shown_again (font : FcftFont) (padding : ℕ) (t : Text) (room : ℕ) :
    shown font padding t (extent padding (shown font padding t room)) =
        shown font padding t room ∨
      (shown font padding t (extent padding (shown font padding t room)) = [] ∧
        span Prod.snd (shown font padding t room) = 0) := by
  by_cases hl : shown font padding t room = []
  · left
    rw [hl]
    exact if_pos (Nat.zero_le _)
  · have hroom : ¬ room ≤ 2 * padding := fun hle => hl (if_pos hle)
    have hshown : shown font padding t room =
        fit Prod.snd (room - 2 * padding) (items font 0 none t) := if_neg hroom
    have hext : extent padding (shown font padding t room) =
        2 * padding + span Prod.snd (shown font padding t room) := if_neg hl
    by_cases hzero : span Prod.snd (shown font padding t room) = 0
    · right
      refine ⟨if_pos ?_, hzero⟩
      rw [hext]
      omega
    · left
      have hle := span_fit_le (w := Prod.snd) (room - 2 * padding) (items font 0 none t)
      rw [← hshown] at hle
      rw [hext]
      refine (if_neg (by omega)).trans ?_
      rw [Nat.add_sub_cancel_left, hshown]
      rw [hshown] at hle
      exact fit_of_between (Nat.le_refl _) hle

/-- The width reserved for a text is the one it then takes exactly if its glyphs do not vanish. -/
theorem extent_again_iff {padding : ℕ} {t : Text} {room : ℕ} :
    extent padding (shown font padding t (extent padding (shown font padding t room))) =
      extent padding (shown font padding t room) ↔ ¬ Vanishes font padding t room := by
  constructor
  · rintro h ⟨hpos, hl, hzero⟩
    have hext : extent padding (shown font padding t room) = 2 * padding := by
      rw [extent, if_neg hl, hzero, Nat.add_zero]
    have hnil : shown font padding t (2 * padding) = [] := if_pos (Nat.le_refl _)
    rw [hext, hnil] at h
    have : (0 : ℕ) = 2 * padding := h
    omega
  · intro h
    rcases shown_again font padding t room with hsame | ⟨hnil, hzero⟩
    · rw [hsame]
    · rw [hnil]
      by_cases hl : shown font padding t room = []
      · rw [hl]
      · have hpad : padding = 0 := by
          by_contra hpos
          exact h ⟨Nat.pos_of_ne_zero hpos, hl, hzero⟩
        have hext : extent padding (shown font padding t room) = 0 := by
          rw [extent, if_neg hl, hzero, hpad]
        rw [hext]
        rfl

end azoth_render

end Compositor
