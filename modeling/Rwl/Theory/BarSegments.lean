import Mathlib.Tactic.Common
import Rwl.Theory.DrawnText

/-!
# The segments of the bar

* `Segment.Within`, `Ordered`: segments one behind the other, with their glyphs inside;
* `tags_edge`, `layout_edge`: where the tags and the layout symbol end;
* `BarLayout.Tidy`: everything in its place, and the status as wide as what is reserved for it;
* `draw_tags_spec`, `title_start`: the tags and the title are always in their place;
* `layout_spec`, `status_w_spec`, `status_eq`: where the layout symbol and the status are;
* `bar_tidy_iff`: the whole bar is exactly if the glyphs of the status do not vanish.
-/

namespace Compositor

open Fitting

namespace azoth_render

/-- A segment with its glyphs inside. -/
def Segment.Within (s : Segment) : Prop :=
  s.start ≤ s.stop ∧ ∀ c ∈ s.cells, s.start ≤ c.x ∧ c.x ≤ c.nx ∧ c.nx ≤ s.stop

/-- Segments one behind the other, from `a` to `b`. -/
def Ordered : ℕ → List Segment → ℕ → Prop
  | a, [], b => a ≤ b
  | a, s :: ss, b => a ≤ s.start ∧ s.Within ∧ Ordered s.stop ss b

/-- Where the tags end. -/
def tags_edge (font : FcftFont) (p : BarParams) : ℕ → ℕ → List Text → ℕ
  | _, x, [] => x
  | i, x, name :: names =>
    let (active, occupied, urgent) := tag_look p.mtags p.ctags p.urg (i % 32)
    if p.hide_vacant && !active && !occupied && !urgent then tags_edge font p (i + 1) x names
    else tags_edge font p (i + 1)
      (x + extent p.textpadding (shown font p.textpadding name (p.width - x))) names

/-- Where the layout symbol ends. -/
def layout_edge (font : FcftFont) (p : BarParams) : ℕ :=
  let x := tags_edge font p 0 0 p.tag_names
  x + extent p.textpadding (shown font p.textpadding (p.layout.getD []) (p.width - x))

/-- The status has no glyph that fits behind the layout symbol, or such glyphs move the pen, or
there is no padding. -/
def StatusShows (font : FcftFont) (p : BarParams) : Prop :=
  ∀ text ∈ p.status_text, ¬ Vanishes font p.textpadding text (p.width - layout_edge font p)

/-- Tags, layout symbol, title and status stand in this order within the bar, the status is as wide
as what is reserved for it, the bounds of the clamp are in order and no difference is negative. -/
structure BarLayout.Tidy (l : BarLayout) (p : BarParams) : Prop where
  ordered : Ordered 0 (l.tags ++ [l.layout, l.title, l.status]) p.width
  reserved : l.status.stop = l.status.start + l.status_w
  clamped : ∀ c ∈ l.clamp, c.1 ≤ c.2
  subtracts : ∀ d ∈ l.differences, d.2 ≤ d.1

variable {font : FcftFont}

theorem ordered_append {a m b : ℕ} {ss ts : List Segment} (h : Ordered a ss m)
    (h' : Ordered m ts b) : Ordered a (ss ++ ts) b := by
  induction ss generalizing a with
  | nil =>
    have hle : a ≤ m := h
    cases ts with
    | nil => exact Nat.le_trans hle h'
    | cons t ts => exact ⟨Nat.le_trans hle h'.1, h'.2⟩
  | cons s ss ih => exact ⟨h.1, h.2.1, ih h.2.2⟩

/-! ### One segment -/

/-- A text is drawn inside its segment, which ends before its bound. -/
theorem draw_text_within (hfont : font.Sane) {x max_x padding : ℕ} (hx : x ≤ max_x)
    (hmax : max_x < 2 ^ 26) (hpad : padding < 2 ^ 30) (t : Text) (fg bg : Color)
    (colors : List TextColor) :
    (draw_text font (some t) x max_x padding fg bg colors).Within ∧
      (draw_text font (some t) x max_x padding fg bg colors).stop ≤ max_x := by
  obtain ⟨hstart, hstop, hcells⟩ := draw_text_eq hfont hx hmax hpad t fg bg colors
  have hle := extent_le font padding t (max_x - x)
  refine ⟨⟨by omega, fun c hc => ?_⟩, by omega⟩
  have hspot : c.spot ∈ (laid Prod.snd (x + padding) (shown font padding t (max_x - x))).map
      place := hcells ▸ List.mem_map_of_mem hc
  obtain ⟨m, hm, hplace⟩ := List.mem_map.1 hspot
  have hbounds := laid_bounds hm
  have hne : shown font padding t (max_x - x) ≠ [] := by
    intro hnil
    rw [hnil] at hm
    cases hm
  rw [extent, if_neg hne] at hstop
  obtain ⟨-, hcx, hcn⟩ : c.byte_idx = m.1.1 ∧ c.x = m.2 ∧ c.nx = m.2 + m.1.2 := by
    simpa [place, Cell.spot, eq_comm] using hplace
  omega

theorem draw_none (x max_x padding : ℕ) (fg bg : Color) (colors : List TextColor) :
    draw_text font none x max_x padding fg bg colors = ⟨x, x, []⟩ := rfl

/-- A text that may be missing is drawn as an empty one. -/
theorem draw_text_option (text : Option Text) (x max_x padding : ℕ) (fg bg : Color)
    (colors : List TextColor) : draw_text font text x max_x padding fg bg colors =
      draw_text font (some (text.getD [])) x max_x padding fg bg colors := by
  cases text with
  | none =>
    rw [draw_none, Option.getD_none]
    exact (if_pos (.inr rfl)).symm
  | some t => rfl

/-! ### The tags -/

theorem tag_square_subtracts (hfont : font.Sane) (p : BarParams) {x : ℕ} (hx : x < 2 ^ 26)
    (active occupied : Bool) : ∀ d ∈ tag_square font p x active occupied, d.2 ≤ d.1 := by
  have hheight : font.height < 2 ^ 32 := hfont.height
  intro d hd
  unfold tag_square at hd
  simp only at hd
  split_ifs at hd with h
  · have hmod : (x + font.height / 9 + (font.height / 6 + 2)) % u32 =
        x + font.height / 9 + (font.height / 6 + 2) := Nat.mod_eq_of_lt (by unfold u32; omega)
    rw [hmod] at hd
    rcases List.mem_cons.1 hd with rfl | hd
    · show 1 ≤ x + font.height / 9 + (font.height / 6 + 2)
      omega
    · rw [List.mem_singleton.1 hd]
      show 1 ≤ font.height / 9 + (font.height / 6 + 2)
      omega
  · cases hd

theorem draw_tags_spec (hfont : font.Sane) {p : BarParams} (hwidth : p.width < 2 ^ 26)
    (hpad : p.textpadding < 2 ^ 30) (names : List Text) (i : ℕ) {x : ℕ} (hx : x ≤ p.width) :
    Ordered x (draw_tags font p i x names).1 (draw_tags font p i x names).2.1 ∧
      (draw_tags font p i x names).2.1 = tags_edge font p i x names ∧
      (draw_tags font p i x names).2.1 ≤ p.width ∧
      ∀ d ∈ (draw_tags font p i x names).2.2, d.2 ≤ d.1 := by
  induction names generalizing i x with
  | nil => exact ⟨Nat.le_refl x, rfl, hx, fun _ hd => (nomatch hd)⟩
  | cons name names ih =>
    unfold draw_tags tags_edge
    simp only
    split_ifs
    · exact ih (i + 1) hx
    · generalize tag_colors p _ _ _ = col
      have hseg := draw_text_eq hfont hx hwidth hpad name col.1 col.2 []
      have hin := draw_text_within hfont hx hwidth hpad name col.1 col.2 []
      obtain ⟨hordered, hedge, hle, hsub⟩ := ih (i + 1) hin.2
      refine ⟨⟨Nat.le_of_eq hseg.1.symm, hin.1, hordered⟩, ?_, hle, fun d hd => ?_⟩
      · rw [hedge, hseg.2.1]
      · rcases List.mem_append.1 hd with hd | hd
        · exact tag_square_subtracts hfont p (by omega) _ _ d hd
        · exact hsub d hd

/-! ### The title -/

/-- Where the title starts: behind the layout symbol, and so that it ends before the status. -/
def title_start (p : BarParams) (x status_w tw : ℕ) : ℕ :=
  if p.center_title then max x (min ((p.width - tw) / 2) (p.width - status_w - tw))
  else min ((x + p.textpadding) % u32) (p.width - status_w)

theorem title_start_mem (p : BarParams) (hwidth : p.width < 2 ^ 26)
    (hpad : p.textpadding < 2 ^ 30) (x status_w : ℕ) {tw : ℕ} (hs : x + status_w ≤ p.width)
    (_htw : tw ≤ p.width - status_w - x) :
    x ≤ title_start p x status_w tw ∧ title_start p x status_w tw ≤ p.width - status_w := by
  have hmod : (x + p.textpadding) % u32 = x + p.textpadding :=
    Nat.mod_eq_of_lt (by unfold u32; omega)
  unfold title_start
  rw [hmod]
  split_ifs
  · omega
  · omega

/-! ### The whole bar -/

/-- What `draw_bar` places, with the status measured at the layout symbol. -/
theorem draw_bar_eq {images : ℤ → ℤ → Bool} {p : BarParams} {l : BarLayout}
    (h : draw_bar images font p = some l) :
    let drawn := draw_tags font p 0 0 p.tag_names
    let x := l.layout.stop
    let tw := text_width font (some (p.window_title.getD [])) (p.width - l.status_w - x) 0
    images (Panel.as_i32 p.width) (Panel.as_i32 p.height) = true ∧
      l.tags = drawn.1 ∧
      l.layout = draw_text font p.layout drawn.2.1 p.width p.textpadding p.inactive_fg
        p.inactive_bg [] ∧
      l.status_w = text_width font (some (p.status_text.getD [])) (p.width - x) p.textpadding ∧
      l.status = (match p.status_text with
        | none => ⟨p.width, p.width, []⟩
        | some text => draw_text font (some text) ((p.width + (u32 - l.status_w)) % u32) p.width
            p.textpadding p.inactive_fg p.inactive_bg p.status_colors) ∧
      (∃ fg bg, l.title = draw_text font (some (p.window_title.getD []))
        (title_start p x l.status_w tw) (p.width - l.status_w) 0 fg bg []) ∧
      l.clamp = (if p.center_title then some (x, p.width - l.status_w - tw) else none) ∧
      l.differences =
        drawn.2.2 ++ if p.status_text.isSome then [(p.width, l.status_w)] else [] := by
  unfold draw_bar at h
  by_cases himages : images (Panel.as_i32 p.width) (Panel.as_i32 p.height) = false
  · rw [if_pos himages] at h
    cases h
  · rw [if_neg himages] at h
    rw [Bool.not_eq_false] at himages
    cases h
    exact ⟨himages, rfl, rfl, rfl, rfl, ⟨_, _, rfl⟩, rfl, rfl⟩

section

variable {images : ℤ → ℤ → Bool} {p : BarParams} {l : BarLayout}

/-- Images of a height can be made up to a certain width only. -/
theorem width_lt (hpixman : ∀ w h : ℤ, h ≠ 0 → images w h = true → 0 ≤ w ∧ w < 2 ^ 26)
    (hwidth : p.width < u32) (hheight : 0 < p.height ∧ p.height < u32)
    (himages : images (Panel.as_i32 p.width) (Panel.as_i32 p.height) = true) :
    p.width < 2 ^ 26 := by
  have hu : u32 = 2 ^ 32 := rfl
  have hh : Panel.as_i32 p.height ≠ 0 := by
    unfold Panel.as_i32
    rw [Int.bmod_def]
    omega
  have hw := hpixman _ _ hh himages
  unfold Panel.as_i32 at hw
  rw [Int.bmod_def] at hw
  omega

/-- The layout symbol stands behind the tags, and ends where `layout_edge` says. -/
theorem layout_spec (hfont : font.Sane) (hmax : p.width < 2 ^ 26) (hpad : p.textpadding < 2 ^ 30)
    (h : draw_bar images font p = some l) : l.layout.start = tags_edge font p 0 0 p.tag_names ∧
      l.layout.Within ∧ l.layout.stop = layout_edge font p ∧ l.layout.stop ≤ p.width := by
  obtain ⟨-, -, hlayout, -⟩ := draw_bar_eq h
  obtain ⟨-, hedge, hle, -⟩ :=
    draw_tags_spec hfont hmax hpad p.tag_names 0 (Nat.zero_le p.width)
  rw [draw_text_option] at hlayout
  have hlay := draw_text_eq hfont hle hmax hpad (p.layout.getD []) p.inactive_fg p.inactive_bg []
  have hin := draw_text_within hfont hle hmax hpad (p.layout.getD []) p.inactive_fg
    p.inactive_bg []
  rw [← hlayout] at hlay hin
  rw [hedge] at hlay
  exact ⟨hlay.1, hin.1, hlay.2.1, hin.2⟩

/-- The width reserved for the status is the one it takes behind the layout symbol. -/
theorem status_w_spec (hfont : font.Sane) (hmax : p.width < 2 ^ 26)
    (hpad : p.textpadding < 2 ^ 30) (h : draw_bar images font p = some l) :
    l.status_w = extent p.textpadding (shown font p.textpadding (p.status_text.getD [])
        (p.width - layout_edge font p)) ∧
      layout_edge font p + l.status_w ≤ p.width := by
  obtain ⟨-, -, -, hstatus_w, -⟩ := draw_bar_eq h
  obtain ⟨-, -, hstop, hle⟩ := layout_spec hfont hmax hpad h
  rw [hstop] at hle hstatus_w
  rw [text_width_eq hfont (by omega) hpad] at hstatus_w
  have hextent := extent_le font p.textpadding (p.status_text.getD [])
    (p.width - layout_edge font p)
  rw [← hstatus_w] at hextent
  exact ⟨hstatus_w, by omega⟩

/-- The status is drawn in the width reserved for it, at the end of the bar. -/
theorem status_eq (hfont : font.Sane) (hmax : p.width < 2 ^ 26) (hpad : p.textpadding < 2 ^ 30)
    (h : draw_bar images font p = some l) {text : Text} (htext : p.status_text = some text) :
    l.status = draw_text font (some text) (p.width - l.status_w) p.width p.textpadding
      p.inactive_fg p.inactive_bg p.status_colors := by
  obtain ⟨-, -, -, -, hstatus, -⟩ := draw_bar_eq h
  have hle := (status_w_spec hfont hmax hpad h).2
  have hu : u32 = 2 ^ 32 := rfl
  have hsum : p.width + (u32 - l.status_w) = p.width - l.status_w + u32 := by omega
  have hmod : (p.width + (u32 - l.status_w)) % u32 = p.width - l.status_w := by
    rw [hsum, Nat.add_mod_right, Nat.mod_eq_of_lt (by omega)]
  simp only [htext, hmod] at hstatus
  exact hstatus

/-- The bar is tidy exactly if the glyphs of the status that fit behind the layout symbol do not
vanish. -/
theorem bar_tidy_iff (hpixman : ∀ w h : ℤ, h ≠ 0 → images w h = true → 0 ≤ w ∧ w < 2 ^ 26)
    (hfont : font.Sane) (hwidth : p.width < u32) (hheight : 0 < p.height ∧ p.height < u32)
    (hpad : p.textpadding < 2 ^ 30) (h : draw_bar images font p = some l) :
    l.Tidy p ↔ StatusShows font p := by
  obtain ⟨himages, htags, -, -, hstatus, ⟨fg, bg, htitle⟩, hclamp, hdiff⟩ := draw_bar_eq h
  have hmax : p.width < 2 ^ 26 := width_lt hpixman hwidth hheight himages
  obtain ⟨hordered, hedge, hle, hsub⟩ :=
    draw_tags_spec hfont hmax hpad p.tag_names 0 (Nat.zero_le p.width)
  obtain ⟨hlaystart, hlayin, hx, hlayle⟩ := layout_spec hfont hmax hpad h
  obtain ⟨hs, hsle⟩ := status_w_spec hfont hmax hpad h
  -- the title
  have htw := extent_le font 0 (p.window_title.getD [])
    (p.width - l.status_w - l.layout.stop)
  rw [← text_width_eq hfont (by omega) (by omega)] at htw
  have hnx := title_start_mem p hmax hpad l.layout.stop l.status_w (by omega) htw
  have hnopad : 0 < 2 ^ 30 := by decide
  have htit := draw_text_eq hfont hnx.2 (by omega) hnopad (p.window_title.getD []) fg bg []
  have htitin := draw_text_within hfont hnx.2 (by omega) hnopad (p.window_title.getD []) fg bg []
  rw [← htitle] at htit htitin
  -- the status
  have hstat : l.status.start = p.width - l.status_w ∧ l.status.Within ∧
      l.status.stop ≤ p.width ∧
      (l.status.stop = l.status.start + l.status_w ↔ StatusShows font p) := by
    unfold StatusShows
    cases htext : p.status_text with
    | none =>
      rw [htext, Option.getD_none, shown_nil] at hs
      have hzero : l.status_w = 0 := hs
      simp only [htext] at hstatus
      rw [hstatus, hzero]
      refine ⟨rfl, ⟨Nat.le_refl _, fun c hc => (nomatch hc)⟩, Nat.le_refl _, ?_⟩
      exact iff_of_true rfl fun _ ht => (nomatch ht)
    | some text =>
      rw [htext, Option.getD_some] at hs
      have hst := draw_text_eq hfont (Nat.sub_le p.width l.status_w) hmax hpad text p.inactive_fg
        p.inactive_bg p.status_colors
      have hstin := draw_text_within hfont (Nat.sub_le p.width l.status_w) hmax hpad text
        p.inactive_fg p.inactive_bg p.status_colors
      rw [← status_eq hfont hmax hpad h htext] at hst hstin
      refine ⟨hst.1, hstin.1, hstin.2, ?_⟩
      have hroom : p.width - (p.width - l.status_w) = l.status_w := by omega
      rw [hst.1, hst.2.1, hroom, Nat.add_left_cancel_iff, hs, extent_again_iff]
      simp
  refine ⟨fun ht => hstat.2.2.2.1 ht.reserved, fun hshows => ⟨?_, ?_, ?_, ?_⟩⟩
  · rw [htags]
    refine ordered_append hordered ⟨Nat.le_of_eq (hedge.trans hlaystart.symm), hlayin, ?_,
      htitin.1, ?_, hstat.2.1, hstat.2.2.1⟩
    · rw [htit.1]
      exact hnx.1
    · rw [hstat.1]
      exact htitin.2
  · exact hstat.2.2.2.2 hshows
  · intro c hc
    rw [hclamp] at hc
    split_ifs at hc
    · cases hc
      show l.layout.stop ≤ p.width - l.status_w - _
      omega
    · cases hc
  · intro d hd
    rw [hdiff] at hd
    rcases List.mem_append.1 hd with hd | hd
    · exact hsub d hd
    · split_ifs at hd
      · rw [List.mem_singleton.1 hd]
        show l.status_w ≤ p.width
        omega
      · cases hd

end

/-! ### A status of zero-width spaces -/

/-- Every character is ten pixels wide, but for the zero-width space. -/
def plainFont : FcftFont := ⟨20, fun c => some (if c = '\u200b' then 0 else 10), fun _ _ => 0⟩

theorem plainFont_sane : plainFont.Sane := by
  have hadv : ∀ c adv, plainFont.glyph c = some adv → 0 ≤ adv ∧ adv < 2 ^ 31 := by
    intro c adv h
    have h : some (if c = '\u200b' then (0 : ℤ) else 10) = some adv := h
    split_ifs at h
    · cases h
      decide
    · cases h
      decide
  refine ⟨by decide, hadv, fun last c adv h => ?_⟩
  have hzero : plainFont.kern last c = 0 := rfl
  rw [hzero, Int.zero_add]
  exact hadv c adv h

/-- A bar of 200 pixels with a padding of 10, one tag and a layout symbol. -/
def plainBar (status_text : Text) : BarParams where
  width := 200
  height := 20
  textpadding := 10
  tag_names := [['1']]
  mtags := 1
  ctags := 1
  urg := 0
  sel := true
  hide_vacant := false
  layout := some ['M']
  window_title := some ['v', 'i']
  status_text := some status_text
  status_colors := []
  title_fg_override := none
  center_title := true
  active_color_title := false
  active_fg := ⟨0, 0, 0, 0⟩
  active_bg := ⟨0, 0, 0, 0⟩
  occupied_fg := ⟨0, 0, 0, 0⟩
  occupied_bg := ⟨0, 0, 0, 0⟩
  inactive_fg := ⟨0, 0, 0, 0⟩
  inactive_bg := ⟨0, 0, 0, 0⟩
  urgent_fg := ⟨0, 0, 0, 0⟩
  urgent_bg := ⟨0, 0, 0, 0⟩
  middle_bg := ⟨0, 0, 0, 0⟩
  middle_bg_sel := ⟨0, 0, 0, 0⟩

/-- Images up to a width. -/
def narrowImages (w _h : ℤ) : Bool := decide (0 ≤ w ∧ w < 2 ^ 26)

theorem bar_tidy_iff_four_thirty :
    ∃ l, draw_bar narrowImages plainFont (plainBar "4:30".toList) = some l ∧
      (l.Tidy (plainBar "4:30".toList) ↔ StatusShows plainFont (plainBar "4:30".toList)) := by
  obtain ⟨l, hl⟩ := Option.isSome_iff_exists.1 (by decide +kernel :
    (draw_bar narrowImages plainFont (plainBar "4:30".toList)).isSome = true)
  exact ⟨l, hl, bar_tidy_iff (fun _ _ _ h => of_decide_eq_true h) plainFont_sane (by decide)
    (by decide) (by decide) hl⟩

/-- For the status of one zero-width space 20 pixels are reserved, and nothing is drawn. -/
theorem not_bar_tidy : ¬ ∀ text : Text,
    ∀ l ∈ draw_bar narrowImages plainFont (plainBar text), l.Tidy (plainBar text) := by
  intro h
  obtain ⟨l, hl⟩ := Option.isSome_iff_exists.1 (by decide +kernel :
    (draw_bar narrowImages plainFont (plainBar ['\u200b'])).isSome = true)
  have hwide : ∀ l ∈ draw_bar narrowImages plainFont (plainBar ['\u200b']),
      l.status.stop ≠ l.status.start + l.status_w := by decide +kernel
  exact hwide l hl (h ['\u200b'] l hl).reserved

end azoth_render

end Compositor
