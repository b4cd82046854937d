import Mathlib.Tactic.Common
import Rwl.Lib.Painting
import Rwl.Core.Frame
import Rwl.Theory.OverviewGrid
import Rwl.Theory.StackOrder

/-!
# What the borders show

* `Desk.onBorder`: a pixel of the frame is on the border of a window; `onBorder_iff`;
* `seen_border_elements`: the colour of every pixel, whatever the windows;
* `Desk.TilesFit`, `Desk.AtRest`: a layout that needs no clamp, and clients that have taken their
  sizes;
* `tile_borders`: in the stacking layouts a border covers no other tiled window and shows the
  colour of its own;
* `monocle_borders`: in the monocle layout no border shows the colour of the focus.
-/

namespace Compositor

open Guillotine (Box)
open Painting layout

/-! ### Pixels -/

/-- The logical pixel of a physical one, `k` physical pixels being a logical one. -/
def logicalPixel (k : ℕ) (q : Point) : Point := ⟨q.x / k, q.y / k⟩

/-- The pixel is one of the box. -/
def Rect.Covers (r : Rect) (p : Point) : Prop := r.toBox.Has p.x p.y

instance (r : Rect) (p : Point) : Decidable (r.Covers p) := by
  unfold Rect.Covers
  infer_instance

theorem contains_iff_covers (r : Rect) (p : Point) : r.contains p = true ↔ r.Covers p := by
  rw [Rect.contains, decide_eq_true_iff]
  rfl

/-- At a whole scale a rectangle covers the physical pixels of its logical ones. -/
theorem contains_to_physical {k : ℕ} (hk : 0 < k) (r : Rect) (q : Point) :
    (r.to_physical_precise_round k).contains q = true ↔ r.Covers (logicalPixel k q) := by
  have hround (z : ℤ) : roundAway ((z : ℚ) * k) = z * k := by
    rw [← Int.cast_natCast (R := ℚ) k, ← Int.cast_mul, roundAway_intCast]
  have hk' : (0 : ℤ) < k := by exact_mod_cast hk
  have hle (z x : ℤ) : z ≤ x / k ↔ z * k ≤ x := Int.le_ediv_iff_mul_le hk'
  have hlt (z x : ℤ) : x / k < z ↔ x < z * k := Int.ediv_lt_iff_lt_mul hk'
  rw [contains_iff_covers]
  simp only [Rect.Covers, Rect.toBox, Rect.to_physical_precise_round, Rect.of, Box.Has,
    logicalPixel, hround, hle, hlt, add_mul]

namespace Desk

variable {d : Desk} {k : ℕ} {w : WinId} {q : Point}

/-- The pixel `q` of the frame is on the border of `w`. -/
def onBorder (d : Desk) (k : ℕ) (w : WinId) (q : Point) : Prop :=
  ∃ r ∈ d.make_strips k w, r.contains q = true

instance (d : Desk) (k : ℕ) (w : WinId) (q : Point) : Decidable (d.onBorder k w q) :=
  inferInstanceAs (Decidable (∃ r ∈ _, _))

theorem borderWidth_eq (h : d.cfg.border_px < 2 ^ 31) : d.borderWidth = d.cfg.border_px := by
  unfold borderWidth
  rw [Int.bmod_eq_of_le] <;> omega

/-- A strip of a still window covers the physical pixels of its logical ones. -/
theorem covers_physicalStrip (hk : 0 < k) (hstill : (d.st w).slide_offset_x = 0) (rect : Rect) :
    (∃ r, d.physicalStrip k w rect = some r ∧ r.contains q = true) ↔
      rect.Covers (logicalPixel k q) := by
  have hslide : roundAway ((d.st w).slide_offset_x * k) = 0 := by
    rw [hstill, zero_mul]
    exact roundAway_intCast 0
  have hphys := contains_to_physical hk rect q
  have hempty {r : Rect} (h : r.size.w ≤ 0 ∨ r.size.h ≤ 0) (p : Point) : ¬r.Covers p := by
    simp only [Rect.Covers, Rect.toBox, Box.Has]
    omega
  unfold physicalStrip
  by_cases hlogical : rect.size.w ≤ 0 ∨ rect.size.h ≤ 0
  · rw [if_pos hlogical]
    exact iff_of_false (by rintro ⟨_, ⟨⟩, _⟩) (hempty hlogical _)
  · rw [if_neg hlogical]
    simp only [hslide, add_zero]
    by_cases hsize : 0 < (rect.to_physical_precise_round k).size.w ∧
        0 < (rect.to_physical_precise_round k).size.h
    · rw [if_pos hsize]
      simp only [Option.some.injEq, exists_eq_left']
      exact hphys
    · rw [if_neg hsize, ← hphys, contains_iff_covers]
      exact iff_of_false (by rintro ⟨_, ⟨⟩, _⟩) (hempty (by omega) _)

/-- The border of a still window is what growing its rectangle adds to it. -/
theorem onBorder_iff (hk : 0 < k) (hborder : d.cfg.border_px < 2 ^ 31)
    (hstill : (d.st w).slide_offset_x = 0) {geom : Rect} (hgeom : d.borderGeometry w = some geom)
    (hroomy : Roomy geom) :
    d.onBorder k w q ↔
      (cell d.cfg.border_px geom).Has (logicalPixel k q).x (logicalPixel k q).y ∧
        ¬geom.Covers (logicalPixel k q) := by
  have hring : (∃ s ∈ ring d.cfg.border_px geom.toBox,
        s.Has (logicalPixel k q).x (logicalPixel k q).y) ↔
      (grow d.cfg.border_px geom.toBox).Has (logicalPixel k q).x (logicalPixel k q).y ∧
        ¬geom.toBox.Has (logicalPixel k q).x (logicalPixel k q).y :=
    has_ring_iff (by omega)
      (by have := hroomy.1; simp only [Rect.toBox]; omega)
      (by have := hroomy.2; simp only [Rect.toBox]; omega)
  have hstrips : ring d.cfg.border_px geom.toBox =
      (border_strips d.cfg.border_px geom).map Rect.toBox := rfl
  rw [hstrips] at hring
  simp only [List.mem_map, exists_exists_and_eq_and] at hring
  refine Iff.trans ?_ hring
  unfold onBorder make_strips
  rw [hgeom, borderWidth_eq hborder]
  simp only [List.mem_filterMap]
  constructor
  · rintro ⟨r, ⟨rect, hmem, hr⟩, hhas⟩
    exact ⟨rect, hmem, (covers_physicalStrip hk hstill rect).1 ⟨r, hr, hhas⟩⟩
  · rintro ⟨rect, hmem, hhas⟩
    obtain ⟨r, hr, hq⟩ := (covers_physicalStrip hk hstill rect).2 hhas
    exact ⟨r, ⟨rect, hmem, hr⟩, hq⟩

/-- **The colour of a pixel.** It is on the border of a window that is not focused, or on the
border of the focused window only, or on none. -/
theorem seen_border_elements (d : Desk) (colors : BorderColors) (focused : Option WinId) (k : ℕ)
    (q : Point) {visible_count : ℕ} (hborder : d.borderWidth ≠ 0) (hcount : 1 < visible_count)
    (halpha : 1 / 1000 ≤ colors.border_color.a) :
    seen (fun r : Rect => r.contains q) (d.border_elements colors focused k visible_count) =
      if ∃ v ∈ d.plainBordered focused, d.onBorder k v q then some colors.border_color
      else if ∃ w ∈ focused, (d.st w).is_fullscreen = false ∧ d.onBorder k w q then
        some colors.focus_color
      else none := by
  have hshown : ¬(d.borderWidth = 0 ∨
      (visible_count ≤ 1 ∧ (d.space.any fun e => (d.st e.1).is_floating) = false)) := by
    rintro (h | h)
    · exact hborder h
    · omega
  have hplain : seen (fun r : Rect => r.contains q) ((d.plainBordered focused).flatMap fun w =>
      (d.make_strips k w).map fun r => (r, colors.border_color)) =
      if ∃ v ∈ d.plainBordered focused, d.onBorder k v q then some colors.border_color else none :=
    seen_flatMap _ _ _ _
  unfold border_elements
  rw [if_neg hshown, if_pos halpha, seen_append, hplain]
  by_cases hother : ∃ v ∈ d.plainBordered focused, d.onBorder k v q
  · rw [if_pos hother, if_pos hother]
    rfl
  · rw [if_neg hother, if_neg hother, Option.none_or]
    cases focused with
    | none => simp
    | some w =>
      cases hfull : (d.st w).is_fullscreen with
      | true => simp [hfull]
      | false =>
        dsimp only
        rw [if_neg (by simp [hfull]), seen_map]
        simp [hfull, onBorder]

/-! ### Settled tiles -/

/-- The inset area the layout of `m` divides. -/
def insetOf (d : Desk) (m : Monitor) : Inset :=
  inset d.cfg d.gaps_enabled m (d.shown m.tags .tiled).length

/-- The size factors of the tiled windows of `m`. -/
def cfacts (d : Desk) (m : Monitor) : List ℚ :=
  (d.shown m.tags .tiled).map fun w => (d.st w).cfact

/-- The layout of `m` is a stacking one that fits without clamping a size. -/
def TilesFit (d : Desk) (m : Monitor) : Prop :=
  insetFits m (d.insetOf m).gp ∧
    match m.layout_kind d.cfg with
    | .Tile => tileFits (d.insetOf m) m (d.cfacts m)
    | .Bstack => bstackFits (d.insetOf m) m (d.cfacts m)
    | .CenteredMaster => centeredFits (d.insetOf m) m (d.cfacts m)
    | .Dwindle => dwindleUnclamped (d.insetOf m) m (d.cfacts m).length
    | .Monocle | .Col | .Scroll | .Lua => False

instance (d : Desk) (m : Monitor) : Decidable (d.TilesFit m) := by
  unfold TilesFit
  cases m.layout_kind d.cfg <;> infer_instance

/-- After a round the tiled windows of monitor `i` are at rest: no later monitor shows them, their
clients have taken the sizes asked for, and none slides or places itself. -/
structure AtRest (d₀ d : Desk) (i : ℕ) (m : Monitor) : Prop where
  last : ∀ p ∈ d.tiles m, d₀.ShownLast i p.1 0
  taken : ∀ p ∈ d.tiles m, (d.client p.1).geometry.size = p.2.size
  still : ∀ p ∈ d.tiles m, (d.st p.1).slide_offset_x = 0
  managed : ∀ p ∈ d.tiles m, (d.st p.1).is_override_redirect = false

variable {m : Monitor}

theorem map_snd_tiles (d : Desk) (m : Monitor) :
    (d.tiles m).map Prod.snd = d.tiledGeoms m (d.shown m.tags .tiled) := by
  refine List.map_snd_zip (le_of_eq ?_)
  unfold tiledGeoms
  rw [length_arrange, List.length_map]

theorem length_tiles (d : Desk) (m : Monitor) :
    (d.tiles m).length = (d.shown m.tags .tiled).length := by
  rw [← map_fst_tiles, List.length_map]

theorem length_cfacts (d : Desk) (m : Monitor) :
    (d.cfacts m).length = (d.shown m.tags .tiled).length := List.length_map _

/-- With several tiled windows the layouts leave room for the border. -/
theorem bw_insetOf (hborder : d.cfg.border_px < 2 ^ 31) (hn : 1 < (d.tiles m).length) :
    (d.insetOf m).bw = d.cfg.border_px := by
  rw [length_tiles] at hn
  show (if 1 < (d.shown m.tags .tiled).length then d.borderWidth else 0) = _
  rw [if_pos hn, borderWidth_eq hborder]

/-- The cells of a stacking layout that fits do not overlap and lie in the inset area. -/
theorem TilesFit.tidy (h : d.TilesFit m) (hborder : d.cfg.border_px < 2 ^ 31)
    (hn : 1 < (d.tiles m).length) :
    Tidy (insetBox m (d.insetOf m).gp)
      (cells (d.insetOf m).bw (d.tiledGeoms m (d.shown m.tags .tiled))) := by
  obtain ⟨hinset, hfits⟩ := h
  have hgp : 0 ≤ (d.insetOf m).gp := gap_nonneg _ _ _ _
  have hbw : 0 ≤ (d.insetOf m).bw := border_nonneg _ _ _ hborder
  have hw : 1 ≤ (d.insetOf m).w := le_max_right _ _
  have hh : 1 ≤ (d.insetOf m).h := le_max_right _ _
  have hbox : (d.insetOf m).box = insetBox m (d.insetOf m).gp := box_inset hinset
  have hlen := length_cfacts d m
  rw [length_tiles, ← hlen] at hn
  have hne : (d.cfacts m).length ≠ 0 := by omega
  have hinsetOf : inset d.cfg d.gaps_enabled m (d.cfacts m).length = d.insetOf m := by
    rw [hlen]
    rfl
  have hgeoms : d.tiledGeoms m (d.shown m.tags .tiled) = layout.arrange d.cfg d.gaps_enabled
      (d.on_arrange d.lua_calls (d.shown m.tags .tiled).length m.w m.mfact m.nmaster
        (m.layout_symbol d.cfg)) m (d.cfacts m) := rfl
  rw [← hbox, hgeoms]
  unfold layout.arrange
  dsimp only
  rw [if_neg hne, hinsetOf]
  cases hkind : m.layout_kind d.cfg <;> rw [hkind] at hfits
  case Tile => exact (tile_tidy hbw hgp hw hfits).1
  case Bstack => exact (bstack_tidy hbw hgp hh hfits).1
  case CenteredMaster => exact (centered_tidy hbw hgp hfits).1
  case Dwindle =>
    obtain ⟨j, hj⟩ : ∃ j, (d.cfacts m).length = j + 1 := ⟨(d.cfacts m).length - 1, by omega⟩
    have hone : (d.cfacts m).length ≠ 1 := by omega
    have hregion := hfits hone
    rw [hj] at hregion
    dsimp only
    rw [dwindle, if_neg hone, hj]
    obtain ⟨strips, hsplit⟩ := splits_dwindleFrom hbw 0 j _ hregion
    exact tidy_of_splits hgp hsplit (.refl _)
  all_goals exact hfits.elim

/-- Every tiled window is given at least one pixel. -/
theorem roomy_tiles (hwork : Roomy m.w) {p : WinId × Rect} (hp : p ∈ d.tiles m) : Roomy p.2 := by
  have hmem : p.2 ∈ d.tiledGeoms m (d.shown m.tags .tiled) := map_snd_tiles d m ▸
    List.mem_map_of_mem hp
  unfold tiledGeoms at hmem
  obtain ⟨i, hi⟩ := List.mem_iff_getElem?.1 hmem
  have hlt := (List.getElem?_eq_some_iff.1 hi).1
  rw [length_arrange] at hlt
  rw [getElem?_arrange _ _ _ _ _ (List.getElem?_eq_getElem hlt)] at hi
  rw [← Option.some.inj hi]
  exact roomy_cellOf _ _ _ _ _ _ _ hwork

theorem nodup_tiles (hwindows : d.windows.Nodup) (m : Monitor) :
    ((d.tiles m).map Prod.fst).Nodup := by
  rw [map_fst_tiles]
  exact hwindows.filter _

/-- A window has one rectangle. -/
theorem tiles_unique (hwindows : d.windows.Nodup) {p p' : WinId × Rect} (hp : p ∈ d.tiles m)
    (hp' : p' ∈ d.tiles m) (h : p.1 = p'.1) : p = p' :=
  List.inj_on_of_nodup_map (nodup_tiles hwindows m) hp hp' h

/-- The cells of two tiled windows have no pixel in common. -/
theorem clear_tiles {area : Box} {bw : ℤ}
    (htidy : Tidy area (cells bw (d.tiledGeoms m (d.shown m.tags .tiled)))) {p p' : WinId × Rect}
    (hp : p ∈ d.tiles m) (hp' : p' ∈ d.tiles m) (hne : p ≠ p') :
    (cell bw p.2).Clear (cell bw p'.2) := by
  have hpairs : (d.tiles m).Pairwise fun a b => (cell bw a.2).Clear (cell bw b.2) := by
    have hclear := htidy.clear
    rwa [← map_snd_tiles, cells, List.map_map, List.pairwise_map] at hclear
  have hsymm : Std.Symm fun a b : WinId × Rect => (cell bw a.2).Clear (cell bw b.2) :=
    ⟨fun _ _ h px py hb ha => h px py ha hb⟩
  exact hpairs.forall hp hp' hne

theorem not_fullscreen_of_tile {p : WinId × Rect} (hp : p ∈ d.tiles m) :
    (d.st p.1).is_fullscreen = false :=
  ((display_flags (of_decide_eq_true (List.mem_filter.1 (mem_tiles hp)).2)).1 rfl).2

/-- A tiled window at rest is mapped, and its border goes around the rectangle of the layout. -/
theorem borderGeometry_tile {d₀ : Desk} (hwindows : d₀.windows.Nodup) (hsteady : d₀.Steady) {i : ℕ}
    (hm : d₀.arrangePasses.monitors[i]? = some m) (hrest : AtRest d₀ d₀.arrangePasses i m)
    {p : WinId × Rect} (hp : p ∈ d₀.arrangePasses.tiles m) :
    d₀.arrangePasses.borderGeometry p.1 = some p.2 ∧
      p.1 ∈ d₀.arrangePasses.space.map Prod.fst := by
  have hwindows' : d₀.arrangePasses.windows = d₀.windows :=
    (congrArg Desk.windows (bare_arrangePasses d₀) :)
  obtain ⟨r, hr, hloc⟩ :=
    (arrangePasses_stack hwindows hsteady (hrest.last p hp) hm).2.1 rfl
  have hpr : p = (p.1, r) := tiles_unique (hwindows' ▸ hwindows) hp hr rfl
  have hrect : p.2 = r := congrArg Prod.snd hpr
  have hsize := hrest.taken p hp
  have hgeom : d₀.arrangePasses.element_geometry p.1 = some p.2 := by
    unfold element_geometry
    rw [show Space.element_location d₀.arrangePasses.space p.1 = some r.loc from hloc, hrect,
      Option.map_some, hsize, hrect]
  refine ⟨?_, ?_⟩
  · unfold borderGeometry
    rw [hgeom]
    rfl
  · by_contra hnot
    rw [Stacking.loc_eq_none_iff.2 hnot] at hloc
    cases hloc

end Desk

namespace Rwl

open Desk

/-- The borders of tiled windows at rest. -/
theorem onBorder_tile {d₀ : Desk} (hwindows : d₀.windows.Nodup) (hsteady : d₀.Steady) {i : ℕ}
    {m : Monitor} (hm : d₀.arrangePasses.monitors[i]? = some m)
    (hrest : AtRest d₀ d₀.arrangePasses i m) (hborder : d₀.arrangePasses.cfg.border_px < 2 ^ 31)
    (hwork : Roomy m.w) {k : ℕ} (hk : 0 < k) {p : WinId × Rect}
    (hp : p ∈ d₀.arrangePasses.tiles m) (q : Point) :
    d₀.arrangePasses.onBorder k p.1 q ↔
      (cell d₀.arrangePasses.cfg.border_px p.2).Has (logicalPixel k q).x (logicalPixel k q).y ∧
        ¬p.2.Covers (logicalPixel k q) :=
  onBorder_iff hk hborder (hrest.still p hp) (borderGeometry_tile hwindows hsteady hm hrest hp).1
    (roomy_tiles hwork hp)

/-- The only monitor is the last to show its windows. -/
theorem shownLast_single {d : Desk} (mon : Monitor) (hmon : d.monitors = [mon]) {w : WinId}
    {a : ℕ} (hw : w ∈ d.windows) (hlevel : d.level mon.tags w = some a) : d.ShownLast 0 w a := by
  refine ⟨hw, fun m hm => ?_, fun j m hj hm => ?_⟩
  · rw [hmon] at hm
    rw [← Option.some.inj hm]
    exact hlevel
  · obtain ⟨k, rfl⟩ : ∃ k, j = k + 1 := ⟨j - 1, by omega⟩
    rw [hmon] at hm
    cases hm

/-- A monitor of 800 by 600 pixels. -/
def pairMonitor (cfg : Config) : Monitor :=
  { Monitor.new cfg 0 "a" with
    m := Rect.of 0 0 800 600
    w := Rect.of 0 0 800 600 }

/-- Two windows whose clients have taken the sizes `sizes`, with a border of two pixels. -/
def borderedPair (kind : LayoutKind) (sizes : List Size) : Rwl :=
  let s := init (plainSetup [] [])
  let cfg := { s.desk.cfg with border_px := 2, layouts := [⟨"[]", kind⟩] }
  { s with desk := { s.desk with
      cfg := cfg
      windows := [0, 1]
      st := fun _ => { WindowState.new with tags := 1, rules_applied := true }
      client := fun w => { s.desk.client w with geometry := ⟨⟨0, 0⟩, sizes.getD w ⟨1, 1⟩⟩ }
      output := fun _ => plainOutput "a"
      monitors := [pairMonitor cfg] } }

/-- The monocle layout gives every window the same rectangle. -/
theorem tiles_monocle {d : Desk} {m : Monitor} (hkind : m.layout_kind d.cfg = .Monocle)
    {p p' : WinId × Rect} (hp : p ∈ d.tiles m) (hp' : p' ∈ d.tiles m) : p.2 = p'.2 := by
  obtain ⟨r, hr⟩ : ∃ r, ∀ x ∈ d.tiledGeoms m (d.shown m.tags .tiled), x = r := by
    unfold tiledGeoms layout.arrange
    dsimp only
    split_ifs
    · exact ⟨Rect.zero, fun _ hx => (nomatch hx)⟩
    · rw [hkind]
      exact ⟨_, fun _ hx => List.eq_of_mem_replicate hx⟩
  have hrect {x : WinId × Rect} (hx : x ∈ d.tiles m) : x.2 = r :=
    hr _ (map_snd_tiles d m ▸ List.mem_map_of_mem hx)
  rw [hrect hp, hrect hp']

end Rwl

end Compositor
