import Rwl.Core.Shell
import Rwl.Theory.PanelZones

/-!
# Where panels are

`LayerMap::arrange` gives each surface a place in the zone that is left when it is its turn.

* `placed_foldl`: the place and the size a surface is told after the loop;
* `place_axis_mem`, `place_axis_near`, `place_axis_far`: one axis of a place;
* `Thin`: a panel that reserves its own thickness; its pixels are in its strip;
* `LayerShell.panels_clear`: thin panels cover neither each other, nor the surfaces that ask to be
  moved out of the way, nor the work area of the windows.
-/

namespace Compositor.wlr_layer

open Guillotine Transition

/-! ### What the loop sets -/

/-- The box a surface is asked to have. -/
def LayerSurface.box (l : LayerSurface) : Box :=
  ⟨(l.location.getD ⟨0, 0⟩).x, (l.location.getD ⟨0, 0⟩).y,
    (l.attributes.pending_size.getD ⟨0, 0⟩).w, (l.attributes.pending_size.getD ⟨0, 0⟩).h⟩

/-- The box of a place; it is empty when the size is negative. -/
def placeBox (r : Rect) : Box := ⟨r.loc.x, r.loc.y, max r.size.w 0, max r.size.h 0⟩

/-- The surface `l` has the place `r`. -/
def Placed (l : LayerSurface) (r : Rect) : Prop :=
  l.location = some r.loc ∧ l.attributes.pending_size = some ⟨max r.size.w 0, max r.size.h 0⟩

theorem Placed.box {l : LayerSurface} {r : Rect} (h : Placed l r) : l.box = placeBox r := by
  unfold LayerSurface.box placeBox
  rw [h.1, h.2]
  rfl

namespace LayerSurfaceAttributes

/-- A configure that is sent has the size the compositor has set. -/
theorem pending_size_send_configure {a : LayerSurfaceAttributes} {serial : ℕ}
    (h : a.has_pending_changes = true) :
    (a.send_configure serial).2.1.pending_size = a.pending_size := by
  unfold send_configure get_pending_state pending_size
  dsimp only
  split_ifs with hsent hchanges
  · simp [current_server_state]
  · unfold has_changes at hchanges
    cases hpending : a.server_pending with
    | none => simp [hpending] at hchanges
    | some state => simp [current_server_state]
  · simp [has_pending_changes, hsent, hchanges] at h

end LayerSurfaceAttributes

namespace LayerShell

variable {s : LayerShell} {l l' : LayerSurface}

/-- What one turn of the loop does to the surfaces. -/
theorem mem_arrange_layer (h : l' ∈ (s.arrange_layer l).layers) :
    (l'.wl_surface = l.wl_surface ∧ l'.current = l.current ∧
      Placed l' (place s.output_rect s.zone l.current)) ∨
    (l'.wl_surface ≠ l.wl_surface ∧ l' ∈ s.layers) := by
  unfold arrange_layer at h
  dsimp only at h
  split_ifs at h with hsend
  · simp only [send_configure, modify, List.map_map, List.mem_map, Function.comp_apply] at h
    obtain ⟨m, hm, rfl⟩ := h
    by_cases hf : m.wl_surface = l.wl_surface
    · simp only [hf, reduceIte]
      refine .inl ⟨trivial, trivial, rfl, ?_⟩
      exact LayerSurfaceAttributes.pending_size_send_configure hsend.2.2
    · simp only [hf, reduceIte]
      exact .inr ⟨hf, hm⟩
  · simp only [modify, List.mem_map] at h
    obtain ⟨m, hm, rfl⟩ := h
    by_cases hf : m.wl_surface = l.wl_surface
    · simp only [hf, reduceIte]
      exact .inl ⟨trivial, trivial, rfl, rfl⟩
    · simp only [hf, reduceIte]
      exact .inr ⟨hf, hm⟩

/-- What the loop does to the surfaces: each has the place of its turn. -/
theorem placed_foldl {ls : List LayerSurface} (h : l' ∈ (ls.foldl arrange_layer s).layers) :
    (∃ pre l post, ls = pre ++ l :: post ∧ l'.wl_surface = l.wl_surface ∧
      l'.current = l.current ∧ Placed l'
        (place s.output_rect ((pre.map (·.current)).foldl shrink s.zone) l.current)) ∨
    ((∀ l ∈ ls, l'.wl_surface ≠ l.wl_surface) ∧ l' ∈ s.layers) := by
  induction ls generalizing s with
  | nil => exact .inr ⟨fun _ hl => (nomatch hl), h⟩
  | cons l ls ih =>
    have hrect : (s.arrange_layer l).output_rect = s.output_rect := by
      simp only [output_rect, output_size_arrange_layer]
    rcases ih h with ⟨pre, m, post, rfl, hf, hcurrent, hplaced⟩ | ⟨hno, hmem⟩
    · refine .inl ⟨l :: pre, m, post, rfl, hf, hcurrent, ?_⟩
      rwa [hrect, zone_arrange_layer] at hplaced
    · rcases mem_arrange_layer hmem with ⟨hf, hcurrent, hplaced⟩ | ⟨hf, hmem⟩
      · exact .inl ⟨[], l, ls, rfl, hf, hcurrent, hplaced⟩
      · refine .inr ⟨fun m hm => ?_, hmem⟩
        rcases List.mem_cons.mp hm with rfl | hm
        · exact hf
        · exact hno m hm

/-- The place of a surface after `arrange`. -/
theorem placed_arrange (honce : s.Once) (h : l' ∈ s.arrange.layers) :
    ∃ pre l post, order s.layers = pre ++ l :: post ∧ l'.wl_surface = l.wl_surface ∧
      l'.current = l.current ∧ Placed l'
        (place s.output_rect ((pre.map (·.current)).foldl shrink s.output_rect) l.current) := by
  have hasks := asks_arrange honce
  rcases placed_foldl h with hplaced | ⟨hno, -⟩
  · exact hplaced
  · have hmem : l'.wl_surface ∈ s.layers.map (·.wl_surface) :=
      surfaces_of_asks hasks ▸ List.mem_map_of_mem h
    obtain ⟨l, hl, hf⟩ := List.mem_map.mp hmem
    exact absurd hf.symm (hno l ((perm_order s.layers).mem_iff.mpr hl))

end LayerShell

/-! ### One axis -/

section axis

variable {near far : Bool} {mn mf loc len want p : ℤ}

/-- Half of a number, towards zero. -/
theorem half_bounds (x : ℤ) : (0 ≤ x → 0 ≤ x.tdiv 2 ∧ 2 * x.tdiv 2 ≤ x ∧ x ≤ 2 * x.tdiv 2 + 1) ∧
    (x ≤ 0 → x.tdiv 2 ≤ 0 ∧ x ≤ 2 * x.tdiv 2 ∧ 2 * x.tdiv 2 ≤ x + 1) := by
  constructor
  · intro h
    rw [Int.tdiv_eq_ediv_of_nonneg h]
    omega
  · intro h
    have hneg : x.tdiv 2 = -((-x) / 2) := by
      rw [← Int.tdiv_eq_ediv_of_nonneg (by omega), Int.neg_tdiv, neg_neg]
    rw [hneg]
    omega

/-- What is left of the source when the margins are off. -/
def sourceLen (near far : Bool) (mn mf len : ℤ) : ℤ :=
  let len := if near then sat (len - mn) else len
  if far then sat (len - mf) else len

/-- The length a surface gets. -/
def placeLen (near far : Bool) (src want : ℤ) : ℤ :=
  if near && far then src
  else if min want src = 0 then src.tdiv 2 else min want src

theorem place_axis_eq (near far : Bool) (mn mf loc len want : ℤ) :
    place_axis near far mn mf loc len want =
      let src := sourceLen near far mn mf len
      let size := placeLen near far src want
      (if near then sat (loc + mn) else if far then sat (loc + sat (src - size))
        else sat (loc + (src.tdiv 2 - size.tdiv 2)), size) := by
  unfold place_axis sourceLen placeLen
  cases near <;> cases far <;> rfl

/-- A surface that has pixels is not longer than its source. -/
theorem placeLen_le (near far : Bool) {src want : ℤ} (h : 0 < placeLen near far src want) :
    placeLen near far src want ≤ src := by
  have hhalf := half_bounds src
  unfold placeLen at h ⊢
  split_ifs at h ⊢ <;> omega

theorem placeLen_of_pos {near far : Bool} {src want : ℤ} (hone : (near && far) = false)
    (hwant : 0 < want) (h : 0 < placeLen near far src want) :
    placeLen near far src want ≤ want := by
  have hhalf := half_bounds src
  unfold placeLen at h ⊢
  rw [hone, if_neg Bool.false_ne_true] at h ⊢
  split_ifs at h ⊢ <;> omega

/-- The pixels of a surface are in the source. -/
theorem place_axis_mem (hloc : 0 ≤ loc) (hend : loc + len ≤ i32_max) (hlen : 0 ≤ len)
    (hmn : 0 ≤ mn) (hmf : 0 ≤ mf)
    (hp : (place_axis near far mn mf loc len want).1 ≤ p ∧
      p < (place_axis near far mn mf loc len want).1 +
        max (place_axis near far mn mf loc len want).2 0) :
    loc ≤ p ∧ p < loc + len := by
  rw [place_axis_eq] at hp
  dsimp only at hp
  have hpos : 0 < placeLen near far (sourceLen near far mn mf len) want := by omega
  have hle := placeLen_le near far hpos
  have hsrc := half_bounds (sourceLen near far mn mf len)
  have hsize := half_bounds (placeLen near far (sourceLen near far mn mf len) want)
  generalize hlen' : placeLen near far (sourceLen near far mn mf len) want = size at *
  unfold sourceLen at *
  cases near <;> cases far <;>
    simp only [Bool.false_eq_true, reduceIte, sat_eq] at hp hle hsrc <;>
    unfold i32_max at * <;> omega

/-- The pixels of a surface at the near edge, of at most `k` pixels. -/
theorem place_axis_near {k : ℤ} (hloc : 0 ≤ loc) (hend : loc + len ≤ i32_max)
    (hmn : 0 ≤ mn) (hwant : 0 < want ∧ want ≤ k)
    (hp : (place_axis true false mn mf loc len want).1 ≤ p ∧
      p < (place_axis true false mn mf loc len want).1 +
        max (place_axis true false mn mf loc len want).2 0) :
    p < loc + sat (k + mn) := by
  rw [place_axis_eq] at hp
  dsimp only at hp
  have hpos : 0 < placeLen true false (sourceLen true false mn mf len) want := by omega
  have hle := placeLen_le true false hpos
  have hle' := placeLen_of_pos rfl hwant.1 hpos
  generalize placeLen true false (sourceLen true false mn mf len) want = size at *
  simp only [sourceLen, Bool.false_eq_true, reduceIte, sat_eq] at hp hle ⊢
  unfold i32_max at *
  omega

/-- The pixels of a surface at the far edge, of at most `k` pixels. -/
theorem place_axis_far {k : ℤ} (hloc : 0 ≤ loc) (hend : loc + len ≤ i32_max) (hlen : 0 ≤ len)
    (hmf : 0 ≤ mf) (hwant : 0 < want ∧ want ≤ k)
    (hp : (place_axis false true mn mf loc len want).1 ≤ p ∧
      p < (place_axis false true mn mf loc len want).1 +
        max (place_axis false true mn mf loc len want).2 0) :
    loc + (len - sat (k + mf)) ≤ p := by
  rw [place_axis_eq] at hp
  dsimp only at hp
  have hpos : 0 < placeLen false true (sourceLen false true mn mf len) want := by omega
  have hle := placeLen_le false true hpos
  have hle' := placeLen_of_pos rfl hwant.1 hpos
  generalize placeLen false true (sourceLen false true mn mf len) want = size at *
  simp only [sourceLen, Bool.false_eq_true, reduceIte, sat_eq] at hp hle ⊢
  unfold i32_max at *
  omega

end axis

/-! ### One surface -/

/-- A zone with room in it, in the `i32`s. -/
structure Room (zone : Rect) : Prop where
  x : 0 ≤ zone.loc.x
  y : 0 ≤ zone.loc.y
  w : 0 ≤ zone.size.w
  h : 0 ≤ zone.size.h
  right : zone.loc.x + zone.size.w ≤ i32_max
  bottom : zone.loc.y + zone.size.h ≤ i32_max

/-- The size a surface asks for across an edge. -/
def across (size : Size) : Edge → ℤ
  | .TOP => size.h
  | .BOTTOM => size.h
  | .LEFT => size.w
  | .RIGHT => size.w

/-- A panel that reserves its own thickness at an edge it is anchored to. -/
def Thin (data : LayerSurfaceCachedState) : Prop :=
  ∃ amount e, data.exclusive_zone = .Exclusive amount ∧ effective_exclusive_edge data = some e ∧
    data.anchor.contains e = true ∧ data.anchor.contains e.opposite = false ∧
    0 < across data.size e ∧ across data.size e ≤ amount

/-- A surface that reserves nothing and asks to be moved out of the way. -/
def Moved (data : LayerSurfaceCachedState) : Prop :=
  reservation data = none ∧ data.exclusive_zone ≠ .DontCare

section one

variable {output_rect zone : Rect} {data : LayerSurfaceCachedState} {px py : ℤ}

/-- The two axes of a place. -/
theorem has_placeBox (hcare : data.exclusive_zone ≠ .DontCare)
    (hp : (placeBox (place output_rect zone data)).Has px py) :
    (∃ r, place_axis data.anchor.LEFT data.anchor.RIGHT data.margin.left data.margin.right
      zone.loc.x zone.size.w data.size.w = r ∧ r.1 ≤ px ∧ px < r.1 + max r.2 0) ∧
    ∃ r, place_axis data.anchor.TOP data.anchor.BOTTOM data.margin.top data.margin.bottom
      zone.loc.y zone.size.h data.size.h = r ∧ r.1 ≤ py ∧ py < r.1 + max r.2 0 := by
  unfold place at hp
  rw [if_neg hcare] at hp
  obtain ⟨hx, hx', hy, hy'⟩ := hp
  exact ⟨⟨_, rfl, hx, hx'⟩, _, rfl, hy, hy'⟩

/-- A surface that does not stay where it is has its pixels in the zone. -/
theorem has_zone_of_placeBox (hzone : Room zone) (hmargin : ∀ e, 0 ≤ data.margin.at_edge e)
    (hcare : data.exclusive_zone ≠ .DontCare)
    (hp : (placeBox (place output_rect zone data)).Has px py) : zone.toBox.Has px py := by
  obtain ⟨⟨_, rfl, hx⟩, _, rfl, hy⟩ := has_placeBox hcare hp
  obtain ⟨hx₁, hx₂⟩ :=
    place_axis_mem hzone.x hzone.right hzone.w (hmargin .LEFT) (hmargin .RIGHT) hx
  obtain ⟨hy₁, hy₂⟩ :=
    place_axis_mem hzone.y hzone.bottom hzone.h (hmargin .TOP) (hmargin .BOTTOM) hy
  exact ⟨hx₁, hx₂, hy₁, hy₂⟩

/-- A thin panel has its pixels in the strip it reserves. -/
theorem has_strip_of_placeBox (hzone : Room zone) (hmargin : ∀ e, 0 ≤ data.margin.at_edge e)
    (hamount : LayerShell.Amount data) (hthin : Thin data)
    (hp : (placeBox (place output_rect zone data)).Has px py) :
    ∃ c, reservation data = some c ∧ (zone.toBox.strip c.2 c.1).Has px py := by
  obtain ⟨amount, e, hexcl, hedge, hanchor, hopposite, hwant⟩ := hthin
  have hcare : data.exclusive_zone ≠ .DontCare := by simp [hexcl]
  obtain ⟨hx₁, hx₂, hy₁, hy₂⟩ := has_zone_of_placeBox hzone hmargin hcare hp
  have hres : reservation data = some (e.side, sat (as_i32 amount + data.margin.at_edge e)) := by
    unfold reservation
    rw [hexcl, hedge]
  refine ⟨_, hres, ?_⟩
  rw [LayerShell.as_i32_of_lt (hamount amount hexcl)]
  obtain ⟨⟨_, rfl, hx⟩, _, rfl, hy⟩ := has_placeBox hcare hp
  cases e <;> simp only [Anchor.contains, Edge.opposite, across] at hanchor hopposite hwant
  case TOP =>
    rw [hanchor, hopposite] at hy
    exact ⟨hx₁, hx₂, hy₁, place_axis_near hzone.y hzone.bottom (hmargin .TOP) hwant hy⟩
  case BOTTOM =>
    rw [hanchor, hopposite] at hy
    have hfar := place_axis_far hzone.y hzone.bottom hzone.h (hmargin .BOTTOM) hwant hy
    refine ⟨hx₁, hx₂, hfar, ?_⟩
    simp only [Box.strip, Edge.side, Rect.toBox] at hy₂ ⊢
    omega
  case LEFT =>
    rw [hanchor, hopposite] at hx
    exact ⟨hx₁, place_axis_near hzone.x hzone.right (hmargin .LEFT) hwant hx, hy₁, hy₂⟩
  case RIGHT =>
    rw [hanchor, hopposite] at hx
    have hfar := place_axis_far hzone.x hzone.right hzone.w (hmargin .RIGHT) hwant hx
    refine ⟨hfar, ?_, hy₁, hy₂⟩
    simp only [Box.strip, Edge.side, Rect.toBox] at hx₂ ⊢
    omega

end one

/-! ### All of them -/

/-- A surface has an exclusive zone in effect exactly when it reserves a strip. -/
theorem is_exclusive_iff (data : LayerSurfaceCachedState) :
    (effective_exclusive_zone data).is_exclusive = (reservation data).isSome := by
  unfold effective_exclusive_zone reservation
  cases hzone : data.exclusive_zone with
  | Exclusive amount =>
    cases hedge : effective_exclusive_edge data <;> rfl
  | Neutral => rfl
  | DontCare => rfl

namespace LayerShell

variable {s : LayerShell} {l m : LayerSurface} {pre mid post : List LayerSurface}

/-- The surfaces that reserve strips come first. -/
theorem reservations_of_moved (horder : order s.layers = pre ++ m :: post)
    (hm : reservation m.current = none) : reservations post = [] := by
  have hsorted : (order s.layers).Pairwise fun a b =>
      reservation a.current = none → reservation b.current = none := by
    unfold order
    simp only [is_exclusive_iff]
    refine List.pairwise_append.mpr ⟨?_, ?_, fun a ha b _ hnone => ?_⟩
    · refine List.pairwise_of_forall_mem_list fun a ha b _ hnone => ?_
      simp [hnone] at ha
    · refine List.pairwise_of_forall_mem_list fun a _ b hb _ => ?_
      simpa using (List.mem_filter.mp hb).2
    · simp [hnone] at ha
  rw [horder] at hsorted
  have htail := (List.pairwise_cons.mp (List.pairwise_append.mp hsorted).2.1).1
  exact List.filterMap_eq_nil_iff.mpr fun b hb => htail b hb hm

/-- The zone that is left when it is the turn of a surface behind `pre`. -/
def zoneBefore (s : LayerShell) (pre : List LayerSurface) : Rect :=
  (pre.map (·.current)).foldl shrink s.output_rect

/-- It is what the strips in front of it leave. -/
theorem zoneBefore_eq (hsized : s.Sized)
    (hfits : Guillotine.Fits s.outputBox (reservations (pre ++ post))) :
    (zoneBefore s pre).toBox = rest s.outputBox (reservations pre) ∧ Room (zoneBefore s pre) ∧
      Guillotine.Fits (rest s.outputBox (reservations pre)) (reservations post) := by
  rw [reservations_append] at hfits
  have hpost := hfits.append
  have hleft := hfits.left
  obtain ⟨hwithin, -⟩ := within_strips hleft
  obtain ⟨hw, hh⟩ := hpost.nonneg_size
  have hzone : zoneBefore s pre = satRect (rest s.outputBox (reservations pre)) := by
    unfold zoneBefore
    rw [output_rect_eq hsized, foldl_shrink hsized.cut, List.filterMap_map]
    · rfl
    · rw [List.filterMap_map]
      exact hleft.nonneg
  have hbox : (zoneBefore s pre).toBox = rest s.outputBox (reservations pre) := by
    rw [hzone]
    obtain ⟨⟨hw₀, hw₁⟩, hh₀, hh₁⟩ := hsized
    generalize rest s.outputBox (reservations pre) = b at *
    obtain ⟨x, y, w, h⟩ := b
    simp only [Rect.toBox, satRect, Rect.of, Box.mk.injEq, Box.Within, outputBox] at *
    unfold i32_max at *
    omega
  refine ⟨hbox, ?_, hpost⟩
  rw [← hbox] at hwithin hw hh
  obtain ⟨⟨hw₀, hw₁⟩, hh₀, hh₁⟩ := hsized
  simp only [Box.Within, outputBox, Rect.toBox] at hwithin hw hh
  constructor <;> omega

/-- What is known of a surface of the loop. -/
structure Turn (s : LayerShell) (l : LayerSurface) : Prop where
  amount : Amount l.current
  margin : ∀ e, 0 ≤ l.current.margin.at_edge e

theorem turn_of_mem (hs : s.Sound) (hpolite : s.Polite) (hl : l ∈ order s.layers) : s.Turn l :=
  have hmem := (perm_order s.layers).subset hl
  ⟨hs.current l hmem, hpolite.at_edge hmem⟩

variable {px py : ℤ}

/-- A surface that is moved out of the way is in what is left at its turn. -/
theorem has_rest_of_turn (hsized : s.Sized) (ht : s.Turn l)
    (hfits : Guillotine.Fits s.outputBox (reservations (pre ++ l :: post)))
    (hcare : l.current.exclusive_zone ≠ .DontCare)
    (hp : (placeBox (place s.output_rect (zoneBefore s pre) l.current)).Has px py) :
    (rest s.outputBox (reservations pre)).Has px py := by
  obtain ⟨hbox, hroom, -⟩ := zoneBefore_eq hsized hfits
  rw [← hbox]
  exact has_zone_of_placeBox hroom ht.margin hcare hp

/-- The pixels of a thin panel are not in what is left behind it. -/
theorem not_has_rest_of_thin (hsized : s.Sized) (ht : s.Turn l)
    (hfits : Guillotine.Fits s.outputBox (reservations (pre ++ l :: (mid ++ post))))
    (hthin : Thin l.current)
    (hp : (placeBox (place s.output_rect (zoneBefore s pre) l.current)).Has px py) :
    ¬(rest s.outputBox (reservations (pre ++ l :: mid))).Has px py := by
  obtain ⟨hbox, hroom, hpost⟩ := zoneBefore_eq hsized hfits
  obtain ⟨c, hc, hstrip⟩ := has_strip_of_placeBox hroom ht.margin ht.amount hthin hp
  rw [reservations_cons hc, reservations_append] at hpost
  rw [hbox] at hstrip
  obtain ⟨-, -, hapart⟩ := hpost.head
  have hwithin := (within_strips hpost.tail.left).1
  rw [reservations_append, reservations_cons hc, rest_append]
  exact (hapart.mono (.refl _) hwithin).clear px py hstrip

/-- A thin panel is clear of the surfaces behind it that are moved out of the way. -/
theorem clear_later (hsized : s.Sized) (hl : s.Turn l) (hm : s.Turn m)
    (hfits : Guillotine.Fits s.outputBox (reservations (pre ++ l :: (mid ++ m :: post))))
    (hthin : Thin l.current) (hcare : m.current.exclusive_zone ≠ .DontCare) :
    (placeBox (place s.output_rect (zoneBefore s pre) l.current)).Clear
      (placeBox (place s.output_rect (zoneBefore s (pre ++ l :: mid)) m.current)) := by
  intro px py hpl hpm
  have hfits' : Guillotine.Fits s.outputBox (reservations ((pre ++ l :: mid) ++ m :: post)) := by
    rwa [List.append_assoc, List.cons_append]
  exact not_has_rest_of_thin hsized hl hfits hthin hpl (has_rest_of_turn hsized hm hfits' hcare hpm)

/-- The place of a surface after `arrange`, as a turn of the loop. -/
theorem exists_turn (hs : s.Sound) (hpolite : s.Polite) (h : l' ∈ s.arrange.layers) :
    ∃ pre l post, order s.layers = pre ++ l :: post ∧ s.Turn l ∧ l'.wl_surface = l.wl_surface ∧
      l'.current = l.current ∧
      l'.box = placeBox (place s.output_rect (zoneBefore s pre) l.current) := by
  obtain ⟨pre, l, post, horder, hf, hcurrent, hplaced⟩ := placed_arrange hs.once h
  refine ⟨pre, l, post, horder, turn_of_mem hs hpolite ?_, hf, hcurrent, hplaced.box⟩
  rw [horder]
  exact List.mem_append_right _ List.mem_cons_self

/-- Two elements of a list, one of them first. -/
theorem order_or_order {α : Type*} {ls : List α} {pre pre' post post' : List α} {a b : α}
    (h : ls = pre ++ a :: post) (h' : ls = pre' ++ b :: post') (hne : a ≠ b) :
    (∃ mid, pre' = pre ++ a :: mid ∧ post = mid ++ b :: post') ∨
      ∃ mid, pre = pre' ++ b :: mid ∧ post' = mid ++ a :: post := by
  rcases List.append_eq_append_iff.mp (h.symm.trans h') with ⟨mid, hpre, hmid⟩ | ⟨mid, hpre, hmid⟩
  · cases mid with
    | nil => exact absurd (List.cons.inj hmid).1 hne
    | cons c mid =>
      obtain ⟨rfl, hpost⟩ := List.cons.inj hmid
      exact .inl ⟨mid, hpre, hpost⟩
  · cases mid with
    | nil => exact absurd (List.cons.inj hmid).1.symm hne
    | cons c mid =>
      obtain ⟨rfl, hpost⟩ := List.cons.inj hmid
      exact .inr ⟨mid, hpre, hpost⟩

/-- The strips fit in the order of the loop as well. -/
theorem fits_order (hfits : Guillotine.Fits s.outputBox (reservations s.layers)) :
    Guillotine.Fits s.outputBox (reservations (order s.layers)) :=
  hfits.of_perm (perm_reservations_order s.layers).symm

theorem rest_order (s : LayerShell) :
    rest s.outputBox (reservations (order s.layers)) = rest s.outputBox (reservations s.layers) :=
  rest_perm _ (perm_reservations_order s.layers)

/-- A thin panel reserves a strip. -/
theorem reserves_of_thin {data : LayerSurfaceCachedState} (h : Thin data) :
    reservation data ≠ none ∧ data.exclusive_zone ≠ .DontCare := by
  obtain ⟨amount, e, hexcl, hedge, -⟩ := h
  simp [reservation, hexcl, hedge]

/-- A thin panel is clear of the other thin panels and of the surfaces that are moved. -/
theorem box_clear (hs : s.Sound) (hsized : s.Sized) (hpolite : s.Polite)
    (hfits : Guillotine.Fits s.outputBox (reservations s.layers)) (hl : l ∈ s.arrange.layers)
    (hm : m ∈ s.arrange.layers) (hne : m.wl_surface ≠ l.wl_surface) (hthin : Thin l.current)
    (hother : Thin m.current ∨ Moved m.current) : l.box.Clear m.box := by
  obtain ⟨pre, l₀, post, horder, hturn, hf, hcurrent, hbox⟩ := exists_turn hs hpolite hl
  obtain ⟨pre', m₀, post', horder', hturn', hf', hcurrent', hbox'⟩ := exists_turn hs hpolite hm
  have hfits := fits_order hfits
  have hne' : l₀ ≠ m₀ := fun heq => hne (by rw [hf, hf', heq])
  rw [hcurrent] at hthin
  rw [hcurrent'] at hother
  rw [hbox, hbox']
  rcases order_or_order horder horder' hne' with ⟨mid, rfl, rfl⟩ | ⟨mid, rfl, rfl⟩
  · rw [horder] at hfits
    exact clear_later hsized hturn hturn' hfits hthin
      (hother.elim (fun h => (reserves_of_thin h).2) fun h => h.2)
  · rw [horder'] at hfits
    rcases hother with hthin' | hmoved
    · exact fun px py hp hp' =>
        clear_later hsized hturn' hturn hfits hthin' (reserves_of_thin hthin).2 px py hp' hp
    · -- a panel that reserves a strip has its turn in front of one that does not
      have hnil := reservations_of_moved horder' hmoved.1
      rw [reservations_append] at hnil
      obtain ⟨c, hc⟩ := Option.ne_none_iff_exists'.mp (reserves_of_thin hthin).1
      rw [reservations_cons hc] at hnil
      simp at hnil

/-- A thin panel is clear of the zone, and on the output. -/
theorem thin_clear_zone (hs : s.Sound) (hsized : s.Sized) (hpolite : s.Polite)
    (hfits : Guillotine.Fits s.outputBox (reservations s.layers)) (hl : l ∈ s.arrange.layers)
    (hthin : Thin l.current) {px py : ℤ} (hp : l.box.Has px py) :
    s.outputBox.Has px py ∧ ¬s.arrange.zone.toBox.Has px py := by
  obtain ⟨pre, l₀, post, horder, hturn, -, hcurrent, hbox⟩ := exists_turn hs hpolite hl
  have hfits' := fits_order hfits
  rw [hcurrent] at hthin
  rw [hbox] at hp
  rw [zone_arrange_of_fits hsized hfits, ← rest_order]
  rw [horder] at hfits' ⊢
  constructor
  · have hin := has_rest_of_turn hsized hturn hfits' (reserves_of_thin hthin).2 hp
    rw [reservations_append] at hfits'
    exact (has_iff_strips hfits'.left px py).mpr (.inl hin)
  · have hnil : post = post ++ [] := (List.append_nil post).symm
    rw [hnil] at hfits'
    exact not_has_rest_of_thin hsized hturn hfits' hthin hp

/-- A surface that is moved out of the way is in the zone. -/
theorem moved_in_zone (hs : s.Sound) (hsized : s.Sized) (hpolite : s.Polite)
    (hfits : Guillotine.Fits s.outputBox (reservations s.layers)) (hm : m ∈ s.arrange.layers)
    (hmoved : Moved m.current) {px py : ℤ} (hp : m.box.Has px py) :
    s.arrange.zone.toBox.Has px py := by
  obtain ⟨pre, m₀, post, horder, hturn, -, hcurrent, hbox⟩ := exists_turn hs hpolite hm
  have hfits' := fits_order hfits
  rw [hcurrent] at hmoved
  rw [hbox] at hp
  rw [zone_arrange_of_fits hsized hfits, ← rest_order]
  rw [horder] at hfits' ⊢
  have hnil : reservations (m₀ :: post) = [] := by
    have hpost := reservations_of_moved horder hmoved.1
    unfold reservations at hpost ⊢
    rw [List.filterMap_cons, hmoved.1, hpost]
  rw [reservations_append, hnil, List.append_nil]
  exact has_rest_of_turn hsized hturn hfits' hmoved.2 hp

/-- **Panels cover nothing that was moved out of their way.** In every run of the layer shell of
an output, while no client asks for a negative margin and the strips fit: a panel that reserves
its own thickness lies on the output, and covers no other such panel, no surface that asks to be
moved, and no pixel of the zone; the surfaces that ask to be moved are in the zone; and a monitor
whose layer surfaces commit keeps its windows off those panels. -/
theorem panels_clear {size : Size} {n : ℕ} (hs : Reach LayerShell.step (.new size n) s)
    (hsized : s.Sized) (hpolite : s.Polite)
    (hfits : Guillotine.Fits s.outputBox (reservations s.layers)) :
    (∀ l ∈ s.arrange.layers, Thin l.current →
      (∀ px py, l.box.Has px py → s.outputBox.Has px py) ∧ l.box.Clear s.arrange.zone.toBox ∧
      ∀ m ∈ s.arrange.layers, m.wl_surface ≠ l.wl_surface → Thin m.current ∨ Moved m.current →
        l.box.Clear m.box) ∧
    (∀ m ∈ s.arrange.layers, Moved m.current →
      ∀ px py, m.box.Has px py → s.arrange.zone.toBox.Has px py) ∧
    ∀ (d : Desk) (mon : Monitor), (d.output mon.output).zone = s.arrange.zone →
      0 < s.arrange.zone.size.w → 0 < s.arrange.zone.size.h →
      ∀ l ∈ s.arrange.layers, Thin l.current → ∀ px py, l.box.Has px py →
        ¬(Rwl.layerArea d mon).toBox.Has (mon.m.loc.x + px) (mon.m.loc.y + py) := by
  have hsound := sound_of_reach hs
  refine ⟨fun l hl hthin => ⟨fun px py hp => ?_, fun px py hp => ?_, fun m hm hne hother => ?_⟩,
    fun m hm hmoved px py hp => ?_, fun d mon hzone hw hh l hl hthin px py hp => ?_⟩
  · exact (thin_clear_zone hsound hsized hpolite hfits hl hthin hp).1
  · exact (thin_clear_zone hsound hsized hpolite hfits hl hthin hp).2
  · exact box_clear hsound hsized hpolite hfits hl hm hne hthin hother
  · exact moved_in_zone hsound hsized hpolite hfits hm hmoved hp
  · have hclear := (thin_clear_zone hsound hsized hpolite hfits hl hthin hp).2
    unfold Rwl.layerArea
    rw [hzone, if_pos ⟨hw, hh⟩]
    simp only [Rect.toBox, Box.Has] at hclear ⊢
    omega

theorem panels_clear_bar :
    (∀ l ∈ barShell.arrange.layers, Thin l.current →
      (∀ px py, l.box.Has px py → barShell.outputBox.Has px py) ∧
      l.box.Clear barShell.arrange.zone.toBox ∧
      ∀ m ∈ barShell.arrange.layers, m.wl_surface ≠ l.wl_surface →
        Thin m.current ∨ Moved m.current → l.box.Clear m.box) ∧
    (∀ m ∈ barShell.arrange.layers, Moved m.current →
      ∀ px py, m.box.Has px py → barShell.arrange.zone.toBox.Has px py) ∧
    ∀ (d : Desk) (mon : Monitor), (d.output mon.output).zone = barShell.arrange.zone →
      0 < barShell.arrange.zone.size.w → 0 < barShell.arrange.zone.size.h →
      ∀ l ∈ barShell.arrange.layers, Thin l.current → ∀ px py, l.box.Has px py →
        ¬(Rwl.layerArea d mon).toBox.Has (mon.m.loc.x + px) (mon.m.loc.y + py) :=
  panels_clear ⟨barEvents, rfl⟩ (by unfold Sized; decide +kernel)
    (by unfold Polite; decide +kernel)
    ⟨by decide +kernel, by decide +kernel, by decide +kernel⟩

end LayerShell

end Compositor.wlr_layer
