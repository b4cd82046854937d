import Mathlib.Tactic.Common
import Rwl.Core.Hover
import Rwl.Theory.BlockEnds

/-!
# Which block the pointer is on

* `Scene`: a status of blocks on a bar; `Scene.displayed`, the characters drawn on it;
* `Scene.Shows`: a column of the bar shows a glyph of a block; `shows_iff`: which columns do;
* `block_at_iff`: which columns `block_at` gives to a block;
* `Scene.Settled`: what is displayed is as wide as the joined status; `settled_of_plain`: it is
  without markup, if there is enough room;
* `block_at_iff_shows`: `block_at` gives the block that is shown exactly for settled statuses.
-/

namespace Compositor

open ByteScan Fitting

namespace azoth_render

open blocks (block_start parts)

/-! ### A status on a bar -/

/-- A status of blocks, and the bar it is drawn on. -/
structure Scene where
  images : ℤ → ℤ → Bool
  font : FcftFont
  bar : BarParams
  cfg : MarkupConfig
  cache : List Text
  delim : Text

namespace Scene

/-- The joined status. -/
def raw (sc : Scene) : Text := (blocks.build_status_bounds sc.cache sc.delim).1

/-- Where each block ends in pixels. -/
def ends (sc : Scene) : List ℕ :=
  compute_pix_ends sc.font sc.raw (blocks.build_status_bounds sc.cache sc.delim).2

/-- The status without its markup. -/
def parsed (sc : Scene) : CustomText := (parse_into_customtext sc.raw sc.cfg).getD ⟨[], []⟩

/-- The parameters of `draw_bar`. -/
def params (sc : Scene) : BarParams := with_status sc.bar sc.parsed

/-- The characters of the text that is drawn, with the bytes of the joined status where they stand.
A text with a NUL is drawn as an empty one. -/
def chars (sc : Scene) : List (Char × ℕ) :=
  if '\x00' ∈ sc.parsed.text then [] else sources sc.cfg sc.raw

/-- The characters with the bytes of the drawn text where they stand. -/
def placed (sc : Scene) : List ((Char × ℕ) × ℕ) := laid (fun m => m.1.utf8Size) 0 sc.chars

/-- The room there is for the status and its padding. -/
def room (sc : Scene) : ℕ := sc.bar.width - layout_edge sc.font sc.bar

/-- Those of some characters for which there is room. -/
def fitting {α : Type} (sc : Scene) (w : α → ℕ) (l : List α) : List α :=
  if sc.room ≤ 2 * sc.bar.textpadding then [] else fit w (sc.room - 2 * sc.bar.textpadding) l

/-- The characters that are on the bar. -/
def displayed (sc : Scene) : List (Char × ℕ) := sc.fitting (wide sc.font) sc.chars

/-- The width of those in front of a byte of the joined status. -/
def front (sc : Scene) (b : ℕ) : ℕ := ahead (wide sc.font) Prod.snd b sc.displayed

/-- The byte of the joined status at which block `k` with its delimiter starts. -/
def start (sc : Scene) (k : ℕ) : ℕ := block_start sc.delim sc.cache k

/-- A column shows a glyph of block `k` or of the delimiter in front of it. -/
def Shows (sc : Scene) (l : BarLayout) (k col : ℕ) : Prop :=
  ∃ c ∈ l.status.cells, (c.x ≤ col ∧ col < c.nx) ∧
    ∃ m ∈ sc.placed, m.2 = c.byte_idx ∧ sc.start k ≤ m.1.2 ∧ m.1.2 < sc.start (k + 1)

variable (sc : Scene)

theorem raw_eq : sc.raw = (parts sc.delim sc.cache).flatten :=
  congrArg Prod.fst (blocks.build_status_bounds_eq sc.cache sc.delim)

theorem start_zero : sc.start 0 = 0 := rfl

theorem start_length : sc.start sc.cache.length = len sc.raw := by
  rw [raw_eq]
  exact blocks.block_start_of_le sc.delim sc.cache (Nat.le_refl _)

theorem start_mono {j k : ℕ} (h : j ≤ k) : sc.start j ≤ sc.start k :=
  blocks.block_start_mono sc.delim sc.cache h

theorem start_of_le {k : ℕ} (h : sc.cache.length ≤ k) : sc.start k = len sc.raw := by
  rw [raw_eq]
  exact blocks.block_start_of_le sc.delim sc.cache h

/-- The scanner of the markup never fails. -/
theorem parsed_eq : parse_into_customtext sc.raw sc.cfg = some sc.parsed := by
  unfold parsed
  by_cases hon : sc.cfg.status_commands = true
  · rw [parse_enabled sc.raw hon]
    rfl
  · rw [parse_into_customtext, if_neg hon]
    rfl

theorem params_text : sc.params.status_text = some (sc.chars.map Prod.fst) := by
  show some ((CString sc.parsed.text).getD []) = _
  unfold CString chars
  by_cases hnul : '\x00' ∈ sc.parsed.text
  · rw [if_pos hnul, if_pos hnul]
    rfl
  · rw [if_neg hnul, if_neg hnul, sources_text sc.parsed_eq]
    rfl

/-- The characters on the bar are some of the joined status, in its order. -/
theorem chars_sublist : sc.chars.Sublist (located 0 sc.raw) := by
  unfold chars
  split_ifs
  · exact List.nil_sublist _
  · exact sources_sublist sc.cfg sc.raw

theorem prefix_fitting {α : Type} (w : α → ℕ) (l : List α) : sc.fitting w l <+: l := by
  unfold fitting
  split_ifs
  · exact List.nil_prefix
  · exact prefix_fit _ _

theorem displayed_sublist : sc.displayed.Sublist (located 0 sc.raw) :=
  (sc.prefix_fitting _ _).sublist.trans sc.chars_sublist

theorem tags_edge_with_status (font : FcftFont) (p : BarParams) (parsed : CustomText) (i x : ℕ)
    (names : List Text) :
    tags_edge font (with_status p parsed) i x names = tags_edge font p i x names := by
  induction names generalizing i x with
  | nil => rfl
  | cons name names ih =>
    unfold tags_edge
    simp only [ih]
    rfl

/-- The room does not depend on the status. -/
theorem room_eq : sc.params.width - layout_edge sc.font sc.params = sc.room := by
  unfold room layout_edge params
  simp only [show (with_status sc.bar sc.parsed).tag_names = sc.bar.tag_names from rfl,
    tags_edge_with_status]
  rfl

/-! ### Which columns show a block -/

/-- The glyph of a character of the drawn text. -/
def glyph_at (font : FcftFont) (b : (Char × ℕ) × ℕ) : Option (ℕ × ℕ) :=
  glyph_item font (b.1.1, b.2)

theorem through_glyph_at (font : FcftFont) :
    through Prod.snd (glyph_at font) = fun b => wide font b.1 := by
  funext b
  exact congrFun (through_glyph_item font) (b.1.1, b.2)

theorem glyph_at_some {font : FcftFont} {b : (Char × ℕ) × ℕ} {n : ℕ × ℕ}
    (h : glyph_at font b = some n) : n.1 = b.2 ∧ n.2 = wide font b.1 := by
  have hwide : through Prod.snd (glyph_at font) b = n.2 := through_of_some h
  rw [through_glyph_at] at hwide
  obtain ⟨adv, -, rfl⟩ := Option.map_eq_some_iff.1 h
  exact ⟨rfl, hwide.symm⟩

/-- The glyphs on the bar are those of the characters for which there is room. -/
theorem shown_eq (hkern : ∀ a b, sc.font.kern a b = 0) :
    shown sc.font sc.bar.textpadding (sc.chars.map Prod.fst) sc.room =
      (sc.fitting (fun b => wide sc.font b.1) sc.placed).filterMap (glyph_at sc.font) := by
  have hitems : items sc.font 0 none (sc.chars.map Prod.fst) =
      sc.placed.filterMap (glyph_at sc.font) := by
    rw [items_eq hkern, located, laid_map, List.filterMap_map]
    rfl
  unfold shown fitting
  rw [hitems]
  split_ifs
  · rfl
  · rw [fit_filterMap, through_glyph_at]

theorem map_fst_fitting :
    (sc.fitting (fun b => wide sc.font b.1) sc.placed).map Prod.fst = sc.displayed := by
  have hplaced : sc.placed.map Prod.fst = sc.chars := map_fst_laid 0 sc.chars
  unfold displayed fitting
  split_ifs
  · rfl
  · rw [← hplaced, fit_map]

/-- A place of the drawn text is that of one character. -/
theorem placed_unique {a b : (Char × ℕ) × ℕ} (ha : a ∈ sc.placed) (hb : b ∈ sc.placed)
    (h : a.2 = b.2) : a = b := by
  have hsorted : sc.placed.Pairwise fun m n => m.2 < n.2 :=
    laid_sorted (fun m => m.1.utf8Size_pos) 0 sc.chars
  have hnodup : (sc.placed.map Prod.snd).Nodup :=
    List.pairwise_map.2 (hsorted.imp fun hlt => Nat.ne_of_lt hlt)
  exact List.inj_on_of_nodup_map hnodup ha hb h

/-- The characters for which there is room come in the order of the joined status. -/
theorem fitting_sorted : (sc.fitting (fun b => wide sc.font b.1) sc.placed).Pairwise fun a b =>
    a.1.2 ≤ b.1.2 := by
  have hraw : (located 0 sc.raw).Pairwise fun m n => m.2 < n.2 :=
    laid_sorted (fun c => c.utf8Size_pos) 0 sc.raw
  have hdisplayed := hraw.sublist sc.displayed_sublist
  rw [← map_fst_fitting, List.pairwise_map] at hdisplayed
  exact hdisplayed.imp fun hlt => Nat.le_of_lt hlt

theorem front_eq (b : ℕ) : ahead (fun b => wide sc.font b.1) (fun b => b.1.2) b
    (sc.fitting (fun b => wide sc.font b.1) sc.placed) = sc.front b := by
  unfold front
  rw [← map_fst_fitting, ahead_map]

theorem front_zero : sc.front 0 = 0 := ahead_eq_zero fun _ _ => Nat.zero_le _

/-- In front of the end stands all that is displayed. -/
theorem front_len : sc.front (len sc.raw) = span (wide sc.font) sc.displayed := by
  refine ahead_eq_span fun m hm => ?_
  have := (located_bounds (sc.displayed_sublist.mem hm)).2
  omega

theorem front_le (b : ℕ) : sc.front b ≤ span (wide sc.font) sc.displayed := ahead_le_span _ b _

/-- What is displayed leaves the padding on both sides. -/
theorem displayed_le : span (wide sc.font) sc.displayed = 0 ∨
    span (wide sc.font) sc.displayed + 2 * sc.bar.textpadding ≤ sc.bar.width := by
  unfold displayed fitting
  split_ifs with hroom
  · exact .inl rfl
  · right
    have := span_fit_le (w := wide sc.font) (sc.room - 2 * sc.bar.textpadding) sc.chars
    have hle : sc.room ≤ sc.bar.width := Nat.sub_le _ _
    omega

/-- The first column behind the characters on the bar. -/
def right (sc : Scene) : ℕ := sc.bar.width - sc.bar.textpadding

section

variable {sc} {l : BarLayout}

theorem span_shown (sc : Scene) : span Prod.snd
    ((sc.fitting (fun b => wide sc.font b.1) sc.placed).filterMap (glyph_at sc.font)) =
      span (wide sc.font) sc.displayed := by
  rw [span_filterMap, through_glyph_at, ← map_fst_fitting, span_map]

/-- The glyphs of the status stand at the right edge of the bar, unless they have no width. -/
theorem status_cells (hfont : sc.font.Sane) (hkern : ∀ a b, sc.font.kern a b = 0)
    (hmax : sc.bar.width < 2 ^ 26) (hpad : sc.bar.textpadding < 2 ^ 30)
    (h : draw_bar sc.images sc.font sc.params = some l) :
    l.status.cells.map Cell.spot =
        (laid Prod.snd (sc.right - span (wide sc.font) sc.displayed)
          ((sc.fitting (fun b => wide sc.font b.1) sc.placed).filterMap
            (glyph_at sc.font))).map place ∨
      l.status.cells = [] ∧ span (wide sc.font) sc.displayed = 0 := by
  obtain ⟨hw, hle⟩ := status_w_spec (p := sc.params) hfont hmax hpad h
  have hstatus : l.status = draw_text sc.font (some (sc.chars.map Prod.fst))
      (sc.bar.width - l.status_w) sc.bar.width sc.bar.textpadding sc.params.inactive_fg
      sc.params.inactive_bg sc.params.status_colors :=
    status_eq (p := sc.params) hfont hmax hpad h sc.params_text
  have hcells := (draw_text_eq hfont (Nat.sub_le sc.bar.width l.status_w) hmax hpad
    (sc.chars.map Prod.fst) sc.params.inactive_fg sc.params.inactive_bg
    sc.params.status_colors).2.2
  have hle' : l.status_w ≤ sc.bar.width := Nat.le_trans (Nat.le_add_left _ _) hle
  have hroom : sc.bar.width - (sc.bar.width - l.status_w) = l.status_w := by omega
  have hw' : l.status_w = extent sc.bar.textpadding
      (shown sc.font sc.bar.textpadding (sc.chars.map Prod.fst) sc.room) := by
    rw [hw, room_eq, params_text]
    rfl
  rw [← hstatus, hroom] at hcells
  have hspan := span_shown sc
  rw [← shown_eq sc hkern] at hspan ⊢
  rcases shown_again sc.font sc.bar.textpadding (sc.chars.map Prod.fst) sc.room with
    hsame | ⟨hnil, hzero⟩
  · left
    rw [← hw'] at hsame
    rw [hcells, hsame]
    by_cases hl : shown sc.font sc.bar.textpadding (sc.chars.map Prod.fst) sc.room = []
    · rw [hl]
      rfl
    · rw [extent, if_neg hl, hspan] at hw'
      have hx : sc.bar.width - l.status_w + sc.bar.textpadding =
          sc.right - span (wide sc.font) sc.displayed := by
        unfold right
        omega
      rw [hx]
  · right
    rw [← hw'] at hnil
    rw [hnil] at hcells
    exact ⟨List.map_eq_nil_iff.1 hcells, hspan ▸ hzero⟩

/-- The columns that show a block are those of its characters on the bar. -/
theorem shows_iff (hfont : sc.font.Sane) (hkern : ∀ a b, sc.font.kern a b = 0)
    (hmax : sc.bar.width < 2 ^ 26) (hpad : sc.bar.textpadding < 2 ^ 30)
    (h : draw_bar sc.images sc.font sc.params = some l) (k col : ℕ) :
    sc.Shows l k col ↔
      sc.right - span (wide sc.font) sc.displayed + sc.front (sc.start k) ≤ col ∧
        col < sc.right - span (wide sc.font) sc.displayed + sc.front (sc.start (k + 1)) := by
  rcases status_cells hfont hkern hmax hpad h with hcells | ⟨hnil, hzero⟩
  · have hspots : (∃ b ∈ laid (fun b => wide sc.font b.1)
          (sc.right - span (wide sc.font) sc.displayed)
          (sc.fitting (fun b => wide sc.font b.1) sc.placed),
        (b.2 ≤ col ∧ col < b.2 + wide sc.font b.1.1) ∧
          sc.start k ≤ b.1.1.2 ∧ b.1.1.2 < sc.start (k + 1)) ↔ _ :=
      exists_laid_iff sc.fitting_sorted (sc.start_mono (Nat.le_succ k))
    rw [front_eq, front_eq] at hspots
    rw [← hspots]
    unfold Shows
    constructor
    · rintro ⟨c, hc, ⟨hcx, hcn⟩, m, hm, hbyte, hlo, hhi⟩
      have hspot := hcells ▸ List.mem_map_of_mem hc
      obtain ⟨n, hn, hplace⟩ := List.mem_map.1 hspot
      obtain ⟨b, hb, hglyph, hx⟩ := mem_laid_filterMap.1 hn
      rw [through_glyph_at] at hb
      obtain ⟨hpos, hwide⟩ := glyph_at_some hglyph
      obtain ⟨hcb, hcx', hcn'⟩ : n.1.1 = c.byte_idx ∧ n.2 = c.x ∧ n.2 + n.1.2 = c.nx := by
        simpa [place, Cell.spot] using hplace
      have hmem : b.1 ∈ sc.placed := (sc.prefix_fitting _ _).sublist.mem (mem_of_mem_laid hb)
      have hmb : m = b.1 := sc.placed_unique hm hmem (by rw [hbyte, ← hcb, hpos])
      rw [hmb] at hlo hhi
      exact ⟨b, hb, by omega, hlo, hhi⟩
    · rintro ⟨b, hb, ⟨hbx, hbn⟩, hlo, hhi⟩
      have hmem : b.1 ∈ sc.placed := (sc.prefix_fitting _ _).sublist.mem (mem_of_mem_laid hb)
      cases hglyph : glyph_at sc.font b.1 with
      | none =>
        have hzero : wide sc.font b.1.1 = 0 := by
          rw [← congrFun (through_glyph_at sc.font) b.1]
          exact through_of_none hglyph
        omega
      | some n =>
        obtain ⟨hpos, hwide⟩ := glyph_at_some hglyph
        have hlaid : place (n, b.2) ∈ l.status.cells.map Cell.spot := by
          rw [hcells]
          refine List.mem_map_of_mem (mem_laid_filterMap.2 ⟨b, ?_, hglyph, rfl⟩)
          rw [through_glyph_at]
          exact hb
        obtain ⟨c, hc, hspot⟩ := List.mem_map.1 hlaid
        obtain ⟨hcb, hcx, hcn⟩ : c.byte_idx = n.1 ∧ c.x = b.2 ∧ c.nx = b.2 + n.2 := by
          simpa [place, Cell.spot] using hspot
        exact ⟨c, hc, by omega, b.1, hmem, by omega, hlo, hhi⟩
  · have hfront := sc.front_le (sc.start (k + 1))
    constructor
    · rintro ⟨c, hc, -⟩
      rw [hnil] at hc
      cases hc
    · omega

end

/-! ### Which columns are given to a block -/

/-- The column `block_at` looks at. -/
def column (scale : ℕ) (x : ℚ) : ℕ := ⌊max x 0⌋₊ * max scale 1

/-- The column of the buffer the pointer is on. -/
def pixel (scale : ℕ) (x : ℚ) : ℕ := ⌊max x 0 * (max scale 1 : ℕ)⌋₊

theorem pixel_of_le_one {scale : ℕ} (h : scale ≤ 1) (x : ℚ) : pixel scale x = column scale x := by
  unfold pixel column
  rw [Nat.max_eq_right h, Nat.cast_one, mul_one, Nat.mul_one]

theorem column_natCast {scale : ℕ} (h : scale ≤ 1) (col : ℕ) : column scale col = col := by
  unfold column
  rw [max_eq_left (Nat.cast_nonneg col), Nat.floor_natCast, Nat.max_eq_right h, Nat.mul_one]

theorem getLast?_ends (f : ℕ → ℕ) (n : ℕ) :
    ((List.range n).map fun k => f (k + 1)).getLast? = if n = 0 then none else some (f n) := by
  cases n with
  | zero => rfl
  | succ n => simp [List.range_succ]

/-- `block_at` gives a column to the block whose stretch it is in, the last of them ending where the
padding begins. -/
theorem block_at_iff {s : HoverState} {idx : ℕ} {bar : Panel} (hbar : s.panels[idx]? = some bar)
    {f : ℕ → ℕ} {n : ℕ} (hends : bar.block_pix_ends = (List.range n).map fun k => f (k + 1))
    (hf : ∀ j k, j ≤ k → f j ≤ f k) (h0 : f 0 = 0) (hn : ∀ k, n ≤ k → f k = f n)
    (hlt : f n < u32) (hwidth : bar.width < u32) (x : ℚ) (k : ℕ) :
    s.block_at idx x = some k ↔
      bar.width - bar.textpadding - f n + f k ≤ column s.buffer_scale x ∧
        column s.buffer_scale x < bar.width - bar.textpadding - f n + f (k + 1) := by
  have hlast : f (k + 1) ≤ f n := by
    by_cases hk : n ≤ k + 1
    · rw [hn (k + 1) hk]
    · exact hf (k + 1) n (by omega)
  have hstep := hf k (k + 1) (Nat.le_succ k)
  have hsat : sat (sat ⌊max x 0⌋₊ * max s.buffer_scale 1) = sat (column s.buffer_scale x) := by
    unfold sat column
    by_cases hx : ⌊max x 0⌋₊ ≤ u32_max
    · rw [Nat.min_eq_left hx]
    · have hpos : 0 < max s.buffer_scale 1 := Nat.lt_of_lt_of_le Nat.one_pos (Nat.le_max_right _ _)
      have hle := Nat.le_mul_of_pos_right ⌊max x 0⌋₊ hpos
      have hmin : min ⌊max x 0⌋₊ u32_max = u32_max := Nat.min_eq_right (by omega)
      rw [hmin, Nat.min_eq_right (Nat.le_mul_of_pos_right u32_max hpos)]
      exact (Nat.min_eq_right (by omega)).symm
  unfold HoverState.block_at
  simp only [hbar, hends, getLast?_ends, hsat]
  by_cases hzero : n = 0
  · subst hzero
    rw [if_pos rfl]
    refine iff_of_false (Option.some_ne_none k).symm ?_
    omega
  · rw [if_neg hzero]
    simp only
    by_cases hnone : f n = 0
    · rw [if_pos hnone]
      refine iff_of_false (Option.some_ne_none k).symm ?_
      omega
    · have hu : u32_max = u32 - 1 := rfl
      rw [if_neg hnone]
      by_cases hx : sat (column s.buffer_scale x) < bar.width - bar.textpadding - f n
      · rw [if_pos hx]
        refine iff_of_false (Option.some_ne_none k).symm ?_
        unfold sat at hx
        omega
      · rw [if_neg hx, findIdx?_ends hf h0]
        unfold sat at hx ⊢
        have hk : f k < f (k + 1) → k < n := fun h => by
          by_contra hle
          rw [hn k (by omega), hn (k + 1) (by omega)] at h
          omega
        omega

/-- The width of the characters of the joined status in front of a byte. -/
def measured (sc : Scene) (b : ℕ) : ℕ := ahead (wide sc.font) Prod.snd b (located 0 sc.raw)

theorem measured_zero : sc.measured 0 = 0 := ahead_eq_zero fun _ _ => Nat.zero_le _

theorem measured_len : sc.measured (len sc.raw) = span (wide sc.font) (located 0 sc.raw) := by
  refine ahead_eq_span fun m hm => ?_
  have := (located_bounds hm).2
  omega

section

variable {sc}

/-- Each block ends where the width of the joined status up to its end says. -/
theorem ends_eq (hfont : sc.font.Sane) (hkern : ∀ a b, sc.font.kern a b = 0)
    (hlen : len sc.raw < u32) (hnul : '\x00' ∉ sc.raw)
    (hspan : span (wide sc.font) (located 0 sc.raw) < u32) :
    sc.ends = (List.range sc.cache.length).map fun k => sc.measured (sc.start (k + 1)) := by
  unfold ends
  rw [raw_eq] at hlen hnul ⊢
  rw [blocks.build_status_bounds_eq, compute_pix_ends_eq _ _ _ hlen]
  refine List.map_congr_left fun k _ => ?_
  have hsplit : (parts sc.delim sc.cache).flatten =
      ((parts sc.delim sc.cache).take (k + 1)).flatten ++
        ((parts sc.delim sc.cache).drop (k + 1)).flatten := by
    rw [← List.flatten_append, List.take_append_drop]
  have hfront : sc.measured (sc.start (k + 1)) =
      span (char_width sc.font) ((parts sc.delim sc.cache).take (k + 1)).flatten := by
    unfold measured
    rw [raw_eq, hsplit]
    exact ahead_front sc.font _ _
  have hle : sc.measured (sc.start (k + 1)) ≤ span (wide sc.font) (located 0 sc.raw) :=
    ahead_le_span _ _ _
  rw [measure_eq hfont hkern fun h => hnul (hsplit ▸ List.mem_append_left _ h), ← hfront,
    Nat.mod_eq_of_lt (by omega)]

/-- With a NUL in the joined status the ends say that there is no status. -/
theorem block_at_of_nul (hlen : len sc.raw < u32) (hnul : '\x00' ∈ sc.raw) {s : HoverState}
    {idx : ℕ} {bar : Panel} (hbar : s.panels[idx]? = some bar)
    (hends : bar.block_pix_ends = sc.ends) (x : ℚ) : s.block_at idx x = none := by
  have hlast : sc.ends.getLast? = if sc.cache.length = 0 then none else some 0 := by
    unfold ends
    rw [raw_eq] at hlen hnul ⊢
    rw [blocks.build_status_bounds_eq, compute_pix_ends_eq _ _ _ hlen,
      getLast?_ends (fun k => measure sc.font ((parts sc.delim sc.cache).take k).flatten 0),
      List.take_of_length_le (by rw [blocks.length_parts]), measure_of_nul hnul]
  unfold HoverState.block_at
  simp only [hbar, hends, hlast]
  split_ifs
  · rfl
  · rfl

end

/-- What is displayed is as wide as the whole joined status, or has no width if that has a NUL. -/
def Settled (sc : Scene) : Prop :=
  len sc.raw < u32 ∧ span (wide sc.font) sc.displayed =
    if '\x00' ∈ sc.raw then 0 else span (wide sc.font) (located 0 sc.raw)

/-- The column the pointer is on shows the same block as the first one of its pixel. -/
def Steady (sc : Scene) (l : BarLayout) (scale : ℕ) (x : ℚ) : Prop :=
  ∀ k, sc.Shows l k (column scale x) ↔ sc.Shows l k (pixel scale x)

section

variable {sc} {l : BarLayout} {s : HoverState} {idx : ℕ} {bar : Panel}

/-- Of a settled status, `block_at` gives the block that the column it looks at shows. -/
theorem block_at_iff_of_settled (hfont : sc.font.Sane) (hkern : ∀ a b, sc.font.kern a b = 0)
    (hmax : sc.bar.width < 2 ^ 26) (hpad : sc.bar.textpadding < 2 ^ 30)
    (h : draw_bar sc.images sc.font sc.params = some l) (hbar : s.panels[idx]? = some bar)
    (hwidth : bar.width = sc.bar.width) (hpadding : bar.textpadding = sc.bar.textpadding)
    (hends : bar.block_pix_ends = sc.ends) (hsettled : sc.Settled) (x : ℚ) (k : ℕ) :
    s.block_at idx x = some k ↔ sc.Shows l k (column s.buffer_scale x) := by
  obtain ⟨hlen, hspan⟩ := hsettled
  rw [shows_iff hfont hkern hmax hpad h]
  by_cases hnul : '\x00' ∈ sc.raw
  · rw [if_pos hnul] at hspan
    rw [block_at_of_nul hlen hnul hbar hends]
    have hfront := sc.front_le (sc.start (k + 1))
    refine iff_of_false (Option.some_ne_none k).symm ?_
    omega
  · rw [if_neg hnul] at hspan
    have hu : u32 = 2 ^ 32 := rfl
    have hmeasured : ∀ b, sc.measured b = sc.front b := fun b =>
      (ahead_of_span_eq sc.displayed_sublist hspan _ b).symm
    have hle := sc.displayed_le
    rw [ends_eq hfont hkern hlen hnul (by omega)] at hends
    have hlast : sc.measured (sc.start sc.cache.length) = span (wide sc.font) sc.displayed := by
      rw [start_length, hmeasured, front_len]
    rw [block_at_iff (f := fun k => sc.measured (sc.start k)) hbar hends
      (fun j k hjk => ahead_mono (sc.start_mono hjk) _) sc.measured_zero
      (fun k hk => by simp only [start_of_le sc hk, start_length]) (by omega) (by omega), hlast,
      hwidth, hpadding, hmeasured, hmeasured]
    rfl

/-- With one column for each pixel, `block_at` gives the block shown there for settled statuses
only. -/
theorem settled_of_block_at (hfont : sc.font.Sane) (hkern : ∀ a b, sc.font.kern a b = 0)
    (hmax : sc.bar.width < 2 ^ 26) (hpad : sc.bar.textpadding < 2 ^ 30)
    (h : draw_bar sc.images sc.font sc.params = some l) (hbar : s.panels[idx]? = some bar)
    (hwidth : bar.width = sc.bar.width) (hpadding : bar.textpadding = sc.bar.textpadding)
    (hends : bar.block_pix_ends = sc.ends) (hscale : s.buffer_scale ≤ 1)
    (hlen : len sc.raw < u32) (hspan : span (wide sc.font) (located 0 sc.raw) < u32)
    (hall : ∀ x k, s.block_at idx x = some k ↔ sc.Shows l k (column s.buffer_scale x)) :
    sc.Settled := by
  refine ⟨hlen, ?_⟩
  have hle := sc.displayed_le
  have hright : sc.right = sc.bar.width - sc.bar.textpadding := rfl
  by_cases hnul : '\x00' ∈ sc.raw
  · -- nothing is hit, so no column may show anything
    rw [if_pos hnul]
    by_contra hpos
    obtain ⟨k, hk, hk'⟩ := exists_step (f := fun k => sc.front (sc.start k)) (n := sc.cache.length)
      (y := 0) (Nat.le_of_eq sc.front_zero) (by
        show 0 < sc.front (sc.start sc.cache.length)
        rw [start_length, front_len]
        omega)
    have hhit := (hall (sc.right - span (wide sc.font) sc.displayed : ℕ) k).2 (by
      rw [column_natCast hscale, shows_iff hfont hkern hmax hpad h]
      omega)
    rw [block_at_of_nul hlen hnul hbar hends] at hhit
    cases hhit
  · -- the first column that is hit shows a block
    rw [if_neg hnul]
    by_contra hne
    have hlt := span_le_of_sublist (w := wide sc.font) sc.displayed_sublist
    have hlast : sc.measured (sc.start sc.cache.length) =
        span (wide sc.font) (located 0 sc.raw) := by
      rw [start_length, measured_len]
    rw [ends_eq hfont hkern hlen hnul hspan] at hends
    have hat := block_at_iff (f := fun k => sc.measured (sc.start k)) hbar hends
      (fun j k hjk => ahead_mono (sc.start_mono hjk) _) sc.measured_zero
      (fun k hk => by simp only [start_of_le sc hk, start_length]) (by omega)
      (by unfold u32; omega)
    simp only [hlast, hwidth, hpadding] at hat
    -- the column is the first that is hit, or the first of the padding if all before it are hit
    obtain ⟨col, hstart, hin, hout⟩ : ∃ col,
        sc.right - span (wide sc.font) (located 0 sc.raw) ≤ col ∧
        col - (sc.right - span (wide sc.font) (located 0 sc.raw)) <
          span (wide sc.font) (located 0 sc.raw) ∧
        (col < sc.right - span (wide sc.font) sc.displayed ∨ sc.right ≤ col) := by
      by_cases hroom : span (wide sc.font) (located 0 sc.raw) ≤ sc.right
      · exact ⟨sc.right - span (wide sc.font) (located 0 sc.raw), by omega⟩
      · exact ⟨sc.right, by omega⟩
    obtain ⟨k, hk, hk'⟩ := exists_step (f := fun k => sc.measured (sc.start k))
      (n := sc.cache.length)
      (y := col - (sc.right - span (wide sc.font) (located 0 sc.raw)))
      (by simp only [start_zero, measured_zero, Nat.zero_le]) (by simp only [hlast]; exact hin)
    have hhit : s.block_at idx (col : ℚ) = some k := by
      rw [hat, column_natCast hscale, ← hright]
      omega
    rw [hall, column_natCast hscale, shows_iff hfont hkern hmax hpad h] at hhit
    have hfront := sc.front_le (sc.start (k + 1))
    omega

/-- If what is displayed is as wide as the joined status, `block_at` gives the block that a column
shows wherever the first column of the pixel shows the same one. With one column for each pixel it
always does exactly in that case. -/
theorem block_at_iff_shows
    (hpixman : ∀ w h : ℤ, h ≠ 0 → sc.images w h = true → 0 ≤ w ∧ w < 2 ^ 26)
    (hfont : sc.font.Sane) (hkern : ∀ a b, sc.font.kern a b = 0) (hwidth : sc.bar.width < u32)
    (hheight : 0 < sc.bar.height ∧ sc.bar.height < u32) (hpad : sc.bar.textpadding < 2 ^ 30)
    (h : draw_bar sc.images sc.font sc.params = some l) (hbar : s.panels[idx]? = some bar)
    (hw : bar.width = sc.bar.width) (hp : bar.textpadding = sc.bar.textpadding)
    (hends : bar.block_pix_ends = sc.ends) :
    (sc.Settled → ∀ x,
      (∀ k, s.block_at idx x = some k ↔ sc.Shows l k (pixel s.buffer_scale x)) ↔
        sc.Steady l s.buffer_scale x) ∧
    (s.buffer_scale ≤ 1 → len sc.raw < u32 → span (wide sc.font) (located 0 sc.raw) < u32 →
      ((∀ x k, s.block_at idx x = some k ↔ sc.Shows l k (pixel s.buffer_scale x)) ↔
        sc.Settled)) := by
  obtain ⟨himages, -⟩ := draw_bar_eq h
  have hmax : sc.bar.width < 2 ^ 26 :=
    width_lt (p := sc.params) hpixman hwidth hheight himages
  constructor
  · intro hsettled x
    have hat := block_at_iff_of_settled hfont hkern hmax hpad h hbar hw hp hends hsettled x
    simp only [hat]
    rfl
  · intro hscale hlen hspan
    simp only [pixel_of_le_one hscale]
    exact ⟨settled_of_block_at hfont hkern hmax hpad h hbar hw hp hends hscale hlen hspan,
      block_at_iff_of_settled hfont hkern hmax hpad h hbar hw hp hends⟩

end

/-- A status without markup for which there is enough room is settled. -/
theorem settled_of_plain (hcaret : '^' ∉ sc.raw) (hnul : '\x00' ∉ sc.raw)
    (hlen : len sc.raw < TEXT_MAX) (hpadding : 2 * sc.bar.textpadding < sc.room)
    (hroom : span (wide sc.font) (located 0 sc.raw) ≤ sc.room - 2 * sc.bar.textpadding) :
    sc.Settled := by
  have hsources : sources sc.cfg sc.raw = located 0 sc.raw := sources_of_plain hcaret hlen
  have htext : sc.parsed.text = sc.raw := by
    rw [← sources_text sc.parsed_eq, hsources, located, map_fst_laid]
  have hmax : TEXT_MAX < u32 := by decide
  refine ⟨by omega, ?_⟩
  rw [if_neg hnul, displayed, chars, htext, if_neg hnul, hsources, fitting, if_neg (by omega),
    fit_of_span_le hroom]

/-! ### A red block -/

/-- Blocks on the bar of `plainBar`. -/
def plainScene (cache : List Text) : Scene where
  images := narrowImages
  font := plainFont
  bar := plainBar []
  cfg := ⟨true, ⟨0, 0, 0, 0⟩, ⟨0, 0, 0, 0⟩⟩
  cache := cache
  delim := ['|']

/-- The thread with this bar, after it got the status. -/
def plainHover (cache : List Text) : HoverState :=
  { HoverState.init 1 ⟨20, fun _ => 0⟩ 10 [] with
    panels := [{ Panel.new [] false 20 10 with
      width := 200
      block_pix_ends := (plainScene cache).ends }] }

theorem block_at_iff_shows_clock :
    ∃ l, draw_bar narrowImages plainFont (plainScene ["4:30".toList, "x".toList]).params = some l ∧
      ∀ x k, (plainHover ["4:30".toList, "x".toList]).block_at 0 x = some k ↔
        (plainScene ["4:30".toList, "x".toList]).Shows l k (pixel 1 x) := by
  obtain ⟨l, hl⟩ := Option.isSome_iff_exists.1 (by decide +kernel :
    (draw_bar narrowImages plainFont (plainScene ["4:30".toList, "x".toList]).params).isSome = true)
  have hsettled : (plainScene ["4:30".toList, "x".toList]).Settled :=
    settled_of_plain _ (by decide) (by decide) (by decide) (by decide +kernel)
      (by decide +kernel)
  refine ⟨l, hl, ?_⟩
  have hiff := @block_at_iff_shows (plainScene ["4:30".toList, "x".toList]) l
    (plainHover ["4:30".toList, "x".toList]) 0 _ (fun _ _ _ h => of_decide_eq_true h)
    plainFont_sane (fun _ _ => rfl) (by decide) (by decide) (by decide) hl rfl rfl rfl rfl
  exact (hiff.2 (Nat.le_refl 1) hsettled.1 (by decide +kernel)).2 hsettled

/-- With the block `^fg(ff0000)x` the pointer is on it 110 pixels to the left of its `x`. -/
theorem not_block_at_iff_shows : ¬ ∀ cache : List Text,
    ∀ l ∈ draw_bar narrowImages plainFont (plainScene cache).params, ∀ x k,
      (plainHover cache).block_at 0 x = some k ↔ (plainScene cache).Shows l k (pixel 1 x) := by
  intro h
  obtain ⟨l, hl⟩ := Option.isSome_iff_exists.1 (by decide +kernel :
    (draw_bar narrowImages plainFont (plainScene ["^fg(ff0000)x".toList]).params).isSome = true)
  have hempty : ∀ l ∈ draw_bar narrowImages plainFont
      (plainScene ["^fg(ff0000)x".toList]).params, ∀ c ∈ l.status.cells,
        ¬ (c.x ≤ 70 ∧ 70 < c.nx) := by decide +kernel
  have hhit : (plainHover ["^fg(ff0000)x".toList]).block_at 0 ((70 : ℕ) : ℚ) = some 0 := by
    decide +kernel
  obtain ⟨c, hc, hcol, -⟩ := (h _ l hl _ _).1 hhit
  rw [pixel_of_le_one (Nat.le_refl 1), column_natCast (Nat.le_refl 1)] at hcol
  exact hempty l hl c hc hcol

end Scene

end azoth_render

end Compositor
