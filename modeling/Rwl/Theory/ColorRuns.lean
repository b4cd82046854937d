import Mathlib.Tactic.Common
import Rwl.Core.DrawText
import Rwl.Lib.Marks

/-!
# Colour runs

Overrides that stand where a character starts, in the order of the text, are each taken by
`draw_text` at the character behind them.

* `Tok`, `runs`: characters with overrides between them, and the overrides as the bar keeps them;
* `Placed`: the offsets do not decrease, and are boundaries of the text;
* `Taken`: each drawn glyph has taken the overrides in front of it; `taken_runs`.
-/

namespace Compositor

open ByteScan Marks

namespace azoth_render

/-- A character, or an override: a colour, and whether it is for the background. -/
abbrev Tok := Item Char (Color × Bool)

/-- An override at a place. -/
def override (m : ℕ × (Color × Bool)) : TextColor := ⟨m.2.1, m.2.2, m.1⟩

/-- The overrides of a text, from byte `pos` on. -/
def runs (pos : ℕ) (l : List Tok) : List TextColor := (placed Char.utf8Size pos l).map override

/-- The bytes in front of a place are the characters in front of it. -/
theorem total_utf8Size (t : Text) : total Char.utf8Size t = len t := by
  induction t with
  | nil => rfl
  | cons c t ih => rw [total_cons, len_cons, ih]

/-- The overrides start at boundaries of the text, in its order. -/
def Placed (text : Text) (colors : List TextColor) : Prop :=
  (colors.Pairwise fun a b => a.start_byte ≤ b.start_byte) ∧
    ∀ tc ∈ colors, Boundary text tc.start_byte

/-- The overrides in front of a byte, or at it. -/
def upTo (colors : List TextColor) (byte_idx : ℕ) : List TextColor :=
  colors.filter fun tc => decide (tc.start_byte ≤ byte_idx)

/-- The colours of a glyph after some overrides. -/
def paint (fg bg : Color) (colors : List TextColor) : Color × Color :=
  (colors.foldl (fun c tc => if tc.is_bg then c else tc.color) fg,
    colors.foldl (fun c tc => if tc.is_bg then tc.color else c) bg)

/-- Each drawn glyph has taken exactly the overrides in front of it, and has the colours they
leave. -/
def Taken (text : Text) (colors : List TextColor) : Prop :=
  ∀ (font : FcftFont) (x max_x padding : ℕ) (fg bg : Color),
    ∀ cell ∈ (draw_text font (some text) x max_x padding fg bg colors).cells,
      cell.color_ind = (upTo colors cell.byte_idx).length ∧
        (cell.fg, cell.bg) = paint fg bg (upTo colors cell.byte_idx)

theorem placed_runs (l : List Tok) : Placed (letters l) (runs 0 l) := by
  constructor
  · exact List.pairwise_map.2 (placed_sorted 0 l)
  · intro tc htc
    obtain ⟨m, hm, rfl⟩ := List.mem_map.1 htc
    obtain ⟨u, v, rfl, hpos⟩ := placed_between hm
    refine ⟨letters u, letters v, letters_append u _, ?_⟩
    show m.1 = len (letters u)
    rw [hpos, Nat.zero_add, total_utf8Size]

/-! ### The loop of `draw_text` -/

theorem paint_append (fg bg : Color) (a b : List TextColor) :
    paint fg bg (a ++ b) = paint (paint fg bg a).1 (paint fg bg a).2 b := by
  simp [paint]

theorem runs_lead (pos : ℕ) (bs : List (Color × Bool)) (c : Char) (r : List Tok) :
    runs pos (bs.map Item.mark ++ .letter c :: r) =
      bs.map (fun b => override (pos, b)) ++ runs (pos + c.utf8Size) r := by
  unfold runs
  rw [placed_lead, List.map_append, List.map_map]
  rfl

/-- At the next character the pen takes the overrides in front of it. -/
theorem recolor_runs {pen : Pen} {pos : ℕ} {bs : List (Color × Bool)} {c : Char} {r : List Tok}
    (htodo : pen.todo = runs pos (bs.map Item.mark ++ .letter c :: r))
    (hpos : ∀ tc ∈ pen.todo, tc.start_byte < u32) :
    (pen.recolor (pos % u32)).todo = runs (pos + c.utf8Size) r ∧
      (pen.recolor (pos % u32)).color_ind = pen.color_ind + bs.length ∧
      ((pen.recolor (pos % u32)).fg, (pen.recolor (pos % u32)).bg) =
        paint pen.fg pen.bg (bs.map fun b => override (pos, b)) := by
  have hparts := takeWhile_placed pos bs c.utf8Size_pos r
  by_cases hlt : pos < u32
  · have htake : (pen.todo.takeWhile fun tc => decide (tc.start_byte = pos)) =
        bs.map fun b => override (pos, b) := by
      rw [htodo, runs, List.takeWhile_map]
      refine (congrArg (List.map override) hparts.1).trans ?_
      rw [List.map_map]
      rfl
    have hdrop : (pen.todo.dropWhile fun tc => decide (tc.start_byte = pos)) =
        runs (pos + c.utf8Size) r := by
      rw [htodo, runs, List.dropWhile_map]
      exact congrArg (List.map override) hparts.2
    unfold Pen.recolor
    rw [Nat.mod_eq_of_lt hlt]
    simp only [htake, hdrop, List.length_map]
    exact ⟨trivial, trivial, rfl⟩
  · -- no override stands this far out, so there is none left
    have hnil : pen.todo = [] := by
      by_contra hne
      obtain ⟨tc, htc⟩ := List.exists_mem_of_ne_nil _ hne
      have hltc := hpos tc htc
      rw [htodo] at htc
      obtain ⟨m, hm, rfl⟩ := List.mem_map.1 htc
      have hle : pos ≤ m.1 := le_of_mem_placed hm
      have : m.1 < u32 := hltc
      omega
    have hruns : bs.map (fun b => override (pos, b)) ++ runs (pos + c.utf8Size) r = [] := by
      rw [← runs_lead, ← htodo, hnil]
    obtain ⟨hbs, hr⟩ := List.append_eq_nil_iff.1 hruns
    obtain rfl := List.map_eq_nil_iff.1 hbs
    unfold Pen.recolor
    simp only [hnil, hr]
    exact ⟨rfl, rfl, rfl⟩

/-- A glyph drawn from the tokens `l` on has taken the overrides in front of its character. -/
theorem taken_glyphs (font : FcftFont) (max_x padding : ℕ) {t : Text} {l : List Tok} {pos : ℕ}
    {pen : Pen} (hl : letters l = t) (htodo : pen.todo = runs pos l)
    (hpos : ∀ tc ∈ pen.todo, tc.start_byte < u32) :
    ∀ cell ∈ (draw_glyphs font max_x padding pos pen t).1, ∃ u v,
      l = u ++ .letter cell.ch :: v ∧ cell.byte_idx = pos + len (letters u) ∧
      cell.color_ind = pen.color_ind + (runs pos u).length ∧
      (cell.fg, cell.bg) = paint pen.fg pen.bg (runs pos u) := by
  induction t generalizing l pos pen with
  | nil => exact fun cell hcell => nomatch hcell
  | cons c t ih =>
    obtain ⟨bs, r, rfl, hr⟩ := lead_split hl
    obtain ⟨hnext, hind, hpaint⟩ := recolor_runs htodo hpos
    have hnextpos : ∀ tc ∈ (pen.recolor (pos % u32)).todo, tc.start_byte < u32 := by
      intro tc htc
      refine hpos tc ?_
      rw [htodo, runs_lead]
      rw [hnext] at htc
      exact List.mem_append_right _ htc
    have hfg : (pen.recolor (pos % u32)).fg = _ := congrArg Prod.fst hpaint
    have hbg : (pen.recolor (pos % u32)).bg = _ := congrArg Prod.snd hpaint
    -- what is known of a glyph behind this character
    have hbehind {cell : Cell} {u v : List Tok} (h : r = u ++ .letter cell.ch :: v)
        (hbyte : cell.byte_idx = pos + c.utf8Size + len (letters u))
        (hci : cell.color_ind =
          (pen.recolor (pos % u32)).color_ind + (runs (pos + c.utf8Size) u).length)
        (hcol : (cell.fg, cell.bg) = paint (pen.recolor (pos % u32)).fg
          (pen.recolor (pos % u32)).bg (runs (pos + c.utf8Size) u)) :
        ∃ u v, bs.map Item.mark ++ .letter c :: r = u ++ .letter cell.ch :: v ∧
          cell.byte_idx = pos + len (letters u) ∧
          cell.color_ind = pen.color_ind + (runs pos u).length ∧
          (cell.fg, cell.bg) = paint pen.fg pen.bg (runs pos u) := by
      refine ⟨bs.map Item.mark ++ .letter c :: u, v, ?_, ?_, ?_, ?_⟩
      · rw [h]
        simp
      · rw [hbyte, letters_append, letters_map_mark, List.nil_append, letters, len_cons]
        omega
      · rw [hci, hind, runs_lead, List.length_append, List.length_map]
        omega
      · rw [hcol, runs_lead, paint_append, hfg, hbg]
    intro cell hcell
    unfold draw_glyphs at hcell
    simp only at hcell
    cases hg : font.glyph c with
    | none =>
      rw [hg] at hcell
      obtain ⟨u, v, h, hbyte, hci, hcol⟩ := ih hr hnext hnextpos cell hcell
      exact hbehind h hbyte hci hcol
    | some adv =>
      rw [hg] at hcell
      simp only at hcell
      split_ifs at hcell
      · cases hcell
      · rcases List.mem_cons.1 hcell with rfl | hcell
        · refine ⟨bs.map Item.mark, r, rfl, ?_, ?_, ?_⟩
          · rw [letters_map_mark]
            rfl
          · have hlen : (runs pos (bs.map Item.mark)).length = bs.length := by
              rw [runs, placed_map_mark, List.length_map, List.length_map]
            rw [hlen]
            exact hind
          · have hruns : runs pos (bs.map Item.mark) = bs.map fun b => override (pos, b) := by
              rw [runs, placed_map_mark, List.map_map]
              rfl
            rw [hruns]
            exact hpaint
        · have hrest := ih hr ?_ ?_ cell hcell
          · obtain ⟨u, v, h, hbyte, hci, hcol⟩ := hrest
            exact hbehind h hbyte hci hcol
          · exact hnext
          · exact hnextpos

/-- The overrides up to a character are those in front of it. -/
theorem upTo_runs (u : List Tok) (c : Char) (v : List Tok) :
    upTo (runs 0 (u ++ .letter c :: v)) (len (letters u)) = runs 0 u := by
  have hsplit : runs 0 (u ++ .letter c :: v) =
      runs 0 u ++ runs (len (letters u) + c.utf8Size) v := by
    unfold runs
    rw [placed_append, List.map_append, total_utf8Size, Nat.zero_add]
    rfl
  have hfront : ∀ tc ∈ runs 0 u, tc.start_byte ≤ len (letters u) := fun tc htc =>
    ((placed_runs u).2 tc htc).le_len
  have hback : ∀ tc ∈ runs (len (letters u) + c.utf8Size) v, ¬ tc.start_byte ≤ len (letters u) := by
    intro tc htc
    obtain ⟨m, hm, rfl⟩ := List.mem_map.1 htc
    have hle : len (letters u) + c.utf8Size ≤ m.1 := le_of_mem_placed hm
    have hpos := c.utf8Size_pos
    show ¬ m.1 ≤ _
    omega
  unfold upTo
  rw [hsplit, List.filter_append,
    List.filter_eq_self.2 fun tc htc => decide_eq_true (hfront tc htc),
    List.filter_eq_nil_iff.2 fun tc htc => by simpa using hback tc htc, List.append_nil]

/-- Overrides that stand in front of characters are taken there. -/
theorem taken_runs {l : List Tok} (hpos : ∀ tc ∈ runs 0 l, tc.start_byte < u32) :
    Taken (letters l) (runs 0 l) := by
  intro font x max_x padding fg bg cell hcell
  unfold draw_text at hcell
  simp only at hcell
  split_ifs at hcell
  · cases hcell
  · cases hcell
  · cases hcell
  · obtain ⟨u, v, h, hbyte, hci, hcol⟩ := taken_glyphs font max_x padding rfl rfl hpos cell hcell
    have hup : upTo (runs 0 l) cell.byte_idx = runs 0 u := by
      rw [hbyte, Nat.zero_add, h]
      exact upTo_runs u cell.ch v
    rw [hup]
    refine ⟨?_, hcol⟩
    rw [hci]
    exact Nat.zero_add _

end azoth_render

end Compositor
