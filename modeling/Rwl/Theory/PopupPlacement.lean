import Mathlib.Tactic.Common
import Rwl.Lib.Nudge
import Rwl.Lib.Run
import Rwl.Core.Step
import Rwl.Core.Popup

/-!
# Where popups are put

* `Lane`: one axis of a popup that is being placed, with the offsets the code carries along;
  `Lane.place_eq_fit`: it computes `Nudge.fit`;
* `lanes_get_unconstrained_geometry`: the two axes of `get_unconstrained_geometry` do not meet;
* `Constrainable`, `inside_get_unconstrained_geometry_iff`: when the result is in the target;
* `Ordered`: the popups made so far have surfaces of their own and older parents;
* `Rwl.popup_inside_outputs_iff`: when a popup is drawn on the outputs of its window.
-/

namespace Compositor

open Nudge

/-! ### One axis -/

/-- The horizontal extent. -/
def Rect.hspan (r : Rect) : Span := ⟨r.loc.x, r.size.w⟩

/-- The vertical extent. -/
def Rect.vspan (r : Rect) : Span := ⟨r.loc.y, r.size.h⟩

theorem Rect.inside_iff_spans (r area : Rect) :
    r.Inside area ↔ r.hspan.Inside area.hspan ∧ r.vspan.Inside area.vspan := by
  unfold Rect.Inside Span.Inside Span.stop hspan vspan
  tauto

/-- What may be done horizontally. -/
def ConstraintAdjustment.x (c : ConstraintAdjustment) : Adjust := ⟨c.FlipX, c.SlideX, c.ResizeX⟩

/-- What may be done vertically. -/
def ConstraintAdjustment.y (c : ConstraintAdjustment) : Adjust := ⟨c.FlipY, c.SlideY, c.ResizeY⟩

/-- One axis of a popup that is being placed: the two offsets and the extent. -/
@[ext] structure Lane where
  off_start : ℤ
  off_end : ℤ
  span : Span

namespace Lane

variable (t : Span) (l : Lane)

/-- It sticks out of the target. -/
def out : Bool := decide (0 < l.off_start ∨ 0 < l.off_end)

/-- The lane of an extent. -/
def of (t s : Span) : Lane := ⟨ahead t s, behind t s, s⟩

/-- The flip of one axis. -/
def flip (b : Bool) (other : Span) : Lane :=
  if l.out ∧ b then
    if ahead t other ≤ 0 ∧ behind t other ≤ 0 then ⟨0, 0, other⟩ else l
  else l

/-- The slide of one axis. -/
def slide (b : Bool) : Lane :=
  if l.out ∧ b then
    of t ⟨if 0 < l.off_start then l.span.pos + l.off_start
      else if 0 < l.off_end then l.span.pos - min l.off_end (-l.off_start)
      else l.span.pos, l.span.len⟩
  else l

/-- The resize of one axis. -/
def resize (b : Bool) : Span :=
  if b then
    let s : Span :=
      if 0 < l.off_start ∧ l.off_start < l.span.len then
        ⟨l.span.pos + l.off_start, l.span.len - l.off_start⟩
      else l.span
    if 0 < l.off_end ∧ l.off_end < s.len then ⟨s.pos, s.len - l.off_end⟩ else s
  else l.span

/-- The three adjustments of one axis, in the order of the code. -/
def place (a : Adjust) (t s other : Span) : Span :=
  (((of t s).flip t a.flip other).slide t a.slide).resize a.resize

theorem out_of (s : Span) : (of t s).out = true ↔ ¬ s.Inside t := by
  rw [not_inside_iff]
  exact decide_eq_true_iff

theorem slide_of (s : Span) (b : Bool) :
    (of t s).slide t b = of t (if b then Nudge.slide t s else s) := by
  unfold Lane.slide
  simp only [out_of]
  cases b
  · simp
  · by_cases h : s.Inside t
    · simp [h, slide_of_inside h]
    · rw [if_pos ⟨h, rfl⟩, if_pos rfl]
      unfold Nudge.slide
      by_cases hahead : 0 < ahead t s
      · simp [of, Span.move, hahead]
      · by_cases hbehind : 0 < behind t s
        · simp [of, Span.move, hahead, hbehind, Int.sub_eq_add_neg]
        · simp [of, hahead, hbehind]

theorem resize_of (s : Span) (b : Bool) : (of t s).resize b = if b then cut t s else s := rfl

/-- **One axis of the code is a fit.** -/
theorem place_eq_fit (a : Adjust) (t s other : Span) : place a t s other = fit a t s other := by
  unfold place flip
  simp only [out_of]
  by_cases h : s.Inside t
  · rw [if_neg (fun hc => hc.1 h), slide_of, resize_of, fit_eq_self h, slide_of_inside h]
    simp [cut_of_inside h]
  · by_cases ho : a.flip = true ∧ other.Inside t
    · have hother := inside_iff.1 ho.2
      rw [if_pos ⟨h, ho.1⟩, if_pos hother, fit, if_neg h, if_pos ho]
      -- the offsets are forgotten, so nothing is done to the flipped extent
      simp [slide, resize, out]
    · have hflip : (if ¬ s.Inside t ∧ a.flip = true then
          if ahead t other ≤ 0 ∧ behind t other ≤ 0 then ⟨0, 0, other⟩ else of t s
          else of t s) = of t s := by
        by_cases hb : a.flip = true
        · rw [if_pos ⟨h, hb⟩]
          exact if_neg fun hin => ho ⟨hb, inside_iff.2 hin⟩
        · exact if_neg fun hc => hb hc.2
      rw [hflip, slide_of, resize_of, fit_of_not h ho]

end Lane

/-! ### Both axes -/

namespace Anchor

theorem has_edge_invert_x (a : Anchor) :
    a.invert_x.has_edge Top = a.has_edge Top ∧ a.invert_x.has_edge Bottom = a.has_edge Bottom := by
  cases a <;> decide

theorem invert_comm (a : Anchor) : a.invert_x.invert_y = a.invert_y.invert_x := by
  cases a <;> rfl

theorem has_edge_invert_y (a : Anchor) :
    a.invert_y.has_edge Left = a.has_edge Left ∧ a.invert_y.has_edge Right = a.has_edge Right := by
  cases a <;> decide

end Anchor

namespace PositionerState

variable (p : PositionerState)

/-- Turning a popup around left and right does not move it up or down. -/
theorem vspan_invert_x : p.invert_x.get_geometry.vspan = p.get_geometry.vspan := by
  simp only [Rect.vspan, get_geometry, get_anchor_point, invert_x, Anchor.has_edge_invert_x]

/-- Turning a popup around top and bottom does not move it left or right. -/
theorem hspan_invert_y : p.invert_y.get_geometry.hspan = p.get_geometry.hspan := by
  simp only [Rect.hspan, get_geometry, get_anchor_point, invert_y, Anchor.has_edge_invert_y]

end PositionerState

namespace Placing

variable (target : Rect) (s : Placing)

/-- The horizontal axis. -/
def hlane : Lane := ⟨s.off_left, s.off_right, s.geo.hspan⟩

/-- The vertical axis. -/
def vlane : Lane := ⟨s.off_top, s.off_bottom, s.geo.vspan⟩

/-- The popup is the one its positioner asks for. -/
def Placed : Prop := s.geo = s.positioner.get_geometry

/-- The horizontal flip flips the horizontal axis only. -/
theorem lanes_flip_x (h : s.Placed) :
    (s.flip_x target).hlane = s.hlane.flip target.hspan s.positioner.constraint_adjustment.FlipX
        s.positioner.invert_x.get_geometry.hspan ∧
      (s.flip_x target).vlane = s.vlane ∧ (s.flip_x target).Placed ∧
      (s.flip_x target).positioner.constraint_adjustment = s.positioner.constraint_adjustment ∧
      (s.flip_x target).positioner.invert_y.get_geometry.vspan =
        s.positioner.invert_y.get_geometry.vspan := by
  have hy : s.positioner.invert_x.invert_y.get_geometry.vspan =
      s.positioner.invert_y.get_geometry.vspan := by
    rw [← s.positioner.invert_y.vspan_invert_x]
    simp only [PositionerState.invert_x, PositionerState.invert_y, Anchor.invert_comm]
  unfold flip_x
  dsimp only
  split_ifs with hwide hfits
  · refine ⟨?_, ?_, rfl, rfl, hy⟩
    · exact ((if_pos hwide).trans (if_pos hfits)).symm
    · have hv : s.positioner.invert_x.get_geometry.vspan = s.geo.vspan := by
        rw [s.positioner.vspan_invert_x, ← h]
      simp only [vlane, hv]
  · exact ⟨((if_pos hwide).trans (if_neg hfits)).symm, rfl, h, rfl, rfl⟩
  · exact ⟨(if_neg hwide).symm, rfl, h, rfl, rfl⟩

/-- The vertical flip flips the vertical axis only. -/
theorem lanes_flip_y (h : s.Placed) :
    (s.flip_y target).hlane = s.hlane ∧
      (s.flip_y target).vlane = s.vlane.flip target.vspan s.positioner.constraint_adjustment.FlipY
        s.positioner.invert_y.get_geometry.vspan ∧
      (s.flip_y target).positioner.constraint_adjustment =
        s.positioner.constraint_adjustment := by
  unfold flip_y
  dsimp only
  split_ifs with htall hfits
  · refine ⟨?_, ((if_pos htall).trans (if_pos hfits)).symm, rfl⟩
    have hh : s.positioner.invert_y.get_geometry.hspan = s.geo.hspan := by
      rw [s.positioner.hspan_invert_y, ← h]
    simp only [hlane, hh]
  · exact ⟨rfl, ((if_pos htall).trans (if_neg hfits)).symm, rfl⟩
  · exact ⟨rfl, (if_neg htall).symm, rfl⟩

theorem lanes_slide_x :
    (s.slide_x target).hlane =
        s.hlane.slide target.hspan s.positioner.constraint_adjustment.SlideX ∧
      (s.slide_x target).vlane = s.vlane ∧ (s.slide_x target).positioner = s.positioner := by
  unfold slide_x
  by_cases hwide : s.wide ∧ s.positioner.constraint_adjustment.SlideX
  · rw [if_pos hwide]
    exact ⟨(if_pos hwide).symm, rfl, rfl⟩
  · rw [if_neg hwide]
    exact ⟨(if_neg hwide).symm, rfl, rfl⟩

theorem lanes_slide_y :
    (s.slide_y target).hlane = s.hlane ∧
      (s.slide_y target).vlane =
        s.vlane.slide target.vspan s.positioner.constraint_adjustment.SlideY ∧
      (s.slide_y target).positioner = s.positioner := by
  unfold slide_y
  by_cases htall : s.tall ∧ s.positioner.constraint_adjustment.SlideY
  · rw [if_pos htall]
    exact ⟨rfl, (if_pos htall).symm, rfl⟩
  · rw [if_neg htall]
    exact ⟨rfl, (if_neg htall).symm, rfl⟩

theorem spans_resize_x :
    s.resize_x.hspan = s.hlane.resize s.positioner.constraint_adjustment.ResizeX ∧
      s.resize_x.vspan = s.geo.vspan := by
  unfold resize_x Lane.resize hlane Rect.hspan Rect.vspan
  dsimp only
  split_ifs <;> simp_all

theorem spans_resize_y :
    s.resize_y.hspan = s.geo.hspan ∧
      s.resize_y.vspan = s.vlane.resize s.positioner.constraint_adjustment.ResizeY := by
  unfold resize_y Lane.resize vlane Rect.hspan Rect.vspan
  dsimp only
  split_ifs <;> simp_all

/-- Before anything is tried. -/
def start (target : Rect) (p : PositionerState) : Placing :=
  { compute_offsets target p.get_geometry with positioner := p, geo := p.get_geometry }

/-- After the flips and the slides. -/
def moved (target : Rect) (p : PositionerState) : Placing :=
  ((((start target p).flip_x target).flip_y target).slide_x target).slide_y target

theorem lanes_moved (p : PositionerState) :
    (moved target p).hlane = ((Lane.of target.hspan p.get_geometry.hspan).flip target.hspan
        p.constraint_adjustment.FlipX p.invert_x.get_geometry.hspan).slide target.hspan
        p.constraint_adjustment.SlideX ∧
      (moved target p).vlane = ((Lane.of target.vspan p.get_geometry.vspan).flip target.vspan
        p.constraint_adjustment.FlipY p.invert_y.get_geometry.vspan).slide target.vspan
        p.constraint_adjustment.SlideY ∧
      (moved target p).positioner.constraint_adjustment = p.constraint_adjustment := by
  obtain ⟨hx₁, hy₁, hp₁, hc₁, hv₁⟩ := (start target p).lanes_flip_x target rfl
  obtain ⟨hx₂, hy₂, hc₂⟩ := ((start target p).flip_x target).lanes_flip_y target hp₁
  obtain ⟨hx₃, hy₃, hp₃⟩ := (((start target p).flip_x target).flip_y target).lanes_slide_x target
  obtain ⟨hx₄, hy₄, hp₄⟩ :=
    ((((start target p).flip_x target).flip_y target).slide_x target).lanes_slide_y target
  refine ⟨?_, ?_, ?_⟩
  · rw [moved, hx₄, hx₃, hx₂, hx₁, hc₂, hc₁]
    rfl
  · rw [moved, hy₄, hp₃, hy₃, hy₂, hy₁, hc₂, hc₁, hv₁]
    rfl
  · rw [moved, hp₄, hp₃, hc₂, hc₁]
    rfl

end Placing

namespace PositionerState

variable (p : PositionerState) (target : Rect)

theorem get_unconstrained_geometry_eq : p.get_unconstrained_geometry target =
    Placing.resize_y
      { Placing.moved target p with geo := (Placing.moved target p).resize_x } := rfl

/-- **The two axes do not meet**: each is the fit of the extent it has on its own. -/
theorem spans_get_unconstrained_geometry :
    (p.get_unconstrained_geometry target).hspan = fit p.constraint_adjustment.x target.hspan
        p.get_geometry.hspan p.invert_x.get_geometry.hspan ∧
      (p.get_unconstrained_geometry target).vspan = fit p.constraint_adjustment.y target.vspan
        p.get_geometry.vspan p.invert_y.get_geometry.vspan := by
  rw [get_unconstrained_geometry_eq]
  obtain ⟨hx, hy, hc⟩ := Placing.lanes_moved target p
  generalize Placing.moved target p = s at *
  obtain ⟨hx₁, hy₁⟩ := s.spans_resize_x
  obtain ⟨hx₂, hy₂⟩ := Placing.spans_resize_y { s with geo := s.resize_x }
  have hvlane : Placing.vlane { s with geo := s.resize_x } = s.vlane := by
    simp only [Placing.vlane, hy₁]
  rw [hx₂, hy₂, hvlane, hy, ← Lane.place_eq_fit, ← Lane.place_eq_fit, hc]
  refine ⟨?_, rfl⟩
  show s.resize_x.hspan = _
  rw [hx₁, hx, hc]
  rfl

/-- One axis can be brought into the target: it is inside, or so when flipped, or it may be moved
and is not too long or may be cut as well, or it may be cut and is partly inside. -/
def AxisFits (a : Adjust) (t s other : Span) : Prop :=
  s.Inside t ∨ (a.flip = true ∧ other.Inside t) ∨
    (a.slide = true ∧ (s.len ≤ t.len ∨ a.resize = true)) ∨ (a.resize = true ∧ s.Meets t)

instance (a : Adjust) (t s other : Span) : Decidable (AxisFits a t s other) :=
  inferInstanceAs (Decidable (_ ∨ _))

/-- The popup can be brought into the target. -/
def Constrainable : Prop :=
  AxisFits p.constraint_adjustment.x target.hspan p.get_geometry.hspan
      p.invert_x.get_geometry.hspan ∧
    AxisFits p.constraint_adjustment.y target.vspan p.get_geometry.vspan
      p.invert_y.get_geometry.vspan

instance : Decidable (p.Constrainable target) := inferInstanceAs (Decidable (_ ∧ _))

variable {p target}

/-- **When the popup is put inside its target.** -/
theorem inside_get_unconstrained_geometry_iff (hw : 0 < p.rect_size.w) (hh : 0 < p.rect_size.h)
    (htw : 0 < target.size.w) (hth : 0 < target.size.h) :
    (p.get_unconstrained_geometry target).Inside target ↔ p.Constrainable target := by
  obtain ⟨hx, hy⟩ := p.spans_get_unconstrained_geometry target
  rw [Rect.inside_iff_spans, hx, hy]
  exact and_congr (inside_fit_iff hw htw) (inside_fit_iff hh hth)

/-- The popup has pixels, and no more than its client asks for. -/
theorem size_get_unconstrained_geometry (hw : 0 < p.rect_size.w) (hh : 0 < p.rect_size.h) :
    (0 < (p.get_unconstrained_geometry target).size.w ∧
        (p.get_unconstrained_geometry target).size.w ≤ p.rect_size.w) ∧
      0 < (p.get_unconstrained_geometry target).size.h ∧
        (p.get_unconstrained_geometry target).size.h ≤ p.rect_size.h := by
  obtain ⟨hx, hy⟩ := p.spans_get_unconstrained_geometry target
  have hlenx := @len_fit target.hspan p.get_geometry.hspan p.constraint_adjustment.x
    p.invert_x.get_geometry.hspan hw rfl
  have hleny := @len_fit target.vspan p.get_geometry.vspan p.constraint_adjustment.y
    p.invert_y.get_geometry.vspan hh rfl
  rw [← hx] at hlenx
  rw [← hy] at hleny
  exact ⟨hlenx, hleny⟩

/-- A popup that is inside stays where its client puts it. -/
theorem get_unconstrained_geometry_of_inside (h : p.get_geometry.Inside target) :
    p.get_unconstrained_geometry target = p.get_geometry := by
  rw [Rect.inside_iff_spans] at h
  obtain ⟨hx, hy⟩ := p.spans_get_unconstrained_geometry target
  rw [fit_eq_self h.1] at hx
  rw [fit_eq_self h.2] at hy
  injection hx with hx hw
  injection hy with hy hh
  generalize p.get_unconstrained_geometry target = r at *
  obtain ⟨⟨x, y⟩, ⟨w, h'⟩⟩ := r
  simp_all only

end PositionerState

/-! ### The line of a popup -/

namespace Popups

/-- Every popup has a surface of its own, and is older than its own popups. -/
def Ordered : Popups → Prop
  | [] => True
  | p :: ps => p.parent ≠ some p.surface ∧
      (∀ q ∈ ps, q.surface ≠ p.surface ∧ q.parent ≠ some p.surface) ∧ Ordered ps

variable {ps : Popups} {f : SurfaceId}

theorem modify_of_not_mem (h : ∀ q ∈ ps, q.surface ≠ f) (g : Popup → Popup) :
    ps.modify f g = ps :=
  (List.map_congr_left fun q hq => if_neg (h q hq)).trans (List.map_id ps)

/-- What changes the popups without moving them in the order. -/
theorem Ordered.modify (h : ps.Ordered) {g : Popup → Popup}
    (hg : ∀ p, (g p).surface = p.surface ∧ (g p).parent = p.parent) : (ps.modify f g).Ordered := by
  have hsame (p : Popup) : (if p.surface = f then g p else p).surface = p.surface ∧
      (if p.surface = f then g p else p).parent = p.parent := by
    split_ifs
    · exact hg p
    · exact ⟨rfl, rfl⟩
  induction ps with
  | nil => trivial
  | cons p ps ih =>
    refine ⟨?_, ?_, ih h.2.2⟩
    · rw [(hsame p).1, (hsame p).2]
      exact h.1
    · intro q hq
      obtain ⟨r, hr, rfl⟩ := List.mem_map.1 hq
      rw [(hsame r).1, (hsame r).2, (hsame p).1]
      exact h.2.1 r hr

theorem find_modify {g : Popup → Popup} (hg : ∀ p, (g p).surface = p.surface) :
    (ps.modify f g).find f = (ps.find f).map g := by
  unfold find modify
  induction ps with
  | nil => rfl
  | cons p ps ih =>
    rw [List.map_cons]
    by_cases hp : p.surface = f
    · rw [if_pos hp, List.find?_cons_of_pos (by simp [hg, hp]),
        List.find?_cons_of_pos (by simp [hp])]
      rfl
    · rw [if_neg hp, List.find?_cons_of_neg (by simp [hp]), List.find?_cons_of_neg (by simp [hp])]
      exact ih

theorem root_modify {g : Popup → Popup} (hg : ∀ p, (g p).surface = p.surface ∧
    (g p).parent = p.parent) (r : SurfaceId) : (ps.modify f g).root r = ps.root r := by
  induction ps generalizing r with
  | nil => rfl
  | cons p ps ih =>
    have hfun : root (modify ps f g) = root ps := funext ih
    show root ((if p.surface = f then g p else p) :: modify ps f g) r = _
    rw [root, root]
    split_ifs <;> simp_all

theorem surface_of_find {p : Popup} (h : ps.find f = some p) : p.surface = f :=
  of_decide_eq_true (List.find?_some (p := fun q : Popup => decide (q.surface = f)) h)

theorem find_cons_of_ne {p : Popup} (h : p.surface ≠ f) : find (p :: ps) f = ps.find f :=
  List.find?_cons_of_neg (by simp [h])

theorem find_cons_self {p : Popup} (h : p.surface = f) : find (p :: ps) f = some p :=
  List.find?_cons_of_pos (by simp [h])

theorem line_cons_of_ne {p : Popup} (h : p.surface ≠ f) : line (p :: ps) f = ps.line f := if_neg h

/-- The line above a popup is not changed with the popup. -/
theorem Ordered.line_parent_modify (h : ps.Ordered) {p : Popup} (hp : ps.find f = some p)
    {r : SurfaceId} (hr : p.parent = some r) {g : Popup → Popup}
    (hg : ∀ q, (g q).surface = q.surface) : (ps.modify f g).line r = ps.line r := by
  induction ps with
  | nil => cases hp
  | cons q ps ih =>
    obtain ⟨hself, hothers, htail⟩ := h
    show line ((if q.surface = f then g q else q) :: Popups.modify ps f g) r = _
    by_cases hq : q.surface = f
    · obtain rfl := Option.some.inj ((find_cons_self hq).symm.trans hp)
      have hne : q.surface ≠ r := fun heq => hself (heq ▸ hr)
      rw [if_pos hq, line_cons_of_ne ((hg q).trans_ne hne), line_cons_of_ne hne,
        modify_of_not_mem fun v hv => hq ▸ (hothers v hv).1]
    · rw [find_cons_of_ne hq] at hp
      have hne : q.surface ≠ r :=
        fun heq => (hothers p (List.mem_of_find?_eq_some hp)).2 (heq ▸ hr)
      rw [if_neg hq, line_cons_of_ne hne, line_cons_of_ne hne, ih htail hp]

/-- A popup is where it is committed, from the line above it. -/
theorem Ordered.line_eq (h : ps.Ordered) {p : Popup} (hp : ps.find f = some p) :
    ps.line f =
      ⟨(ps.get_popup_toplevel_coords f).x + ((p.committed.map Rect.loc).getD ⟨0, 0⟩).x,
        (ps.get_popup_toplevel_coords f).y + ((p.committed.map Rect.loc).getD ⟨0, 0⟩).y⟩ := by
  induction ps with
  | nil => cases hp
  | cons q ps ih =>
    obtain ⟨hself, hothers, htail⟩ := h
    have hcoords : get_popup_toplevel_coords (q :: ps) f =
        (p.parent.map fun r => line (q :: ps) r).getD ⟨0, 0⟩ := by
      rw [get_popup_toplevel_coords, hp, Option.bind_some]
      cases p.parent <;> rfl
    by_cases hq : q.surface = f
    · obtain rfl := Option.some.inj ((find_cons_self hq).symm.trans hp)
      have hup : (q.parent.map (line ps)).getD ⟨0, 0⟩ =
          (q.parent.map fun r => line (q :: ps) r).getD ⟨0, 0⟩ := by
        cases hr : q.parent with
        | none => rfl
        | some r =>
          have hne : q.surface ≠ r := fun heq => hself (heq ▸ hr)
          simp only [Option.map_some, line_cons_of_ne hne]
      rw [hcoords, ← hup, line, if_pos hq]
    · rw [find_cons_of_ne hq] at hp
      have hup : (p.parent.map fun r => line (q :: ps) r).getD ⟨0, 0⟩ =
          get_popup_toplevel_coords ps f := by
        rw [get_popup_toplevel_coords, hp, Option.bind_some]
        cases hr : p.parent with
        | none => rfl
        | some r =>
          have hne : q.surface ≠ r :=
            fun heq => (hothers p (List.mem_of_find?_eq_some hp)).2 (heq ▸ hr)
          simp only [Option.map_some, Option.getD_some, line_cons_of_ne hne]
      rw [line_cons_of_ne hq, ih htail hp, hcoords, hup]

end Popups

/-! ### The requests -/

variable {d : Desk} {outputs : WinId → List OutputId} {ps : Popups} {f : SurfaceId}

/-- No more than what a popup is configured with changes. -/
theorem unconstrain_popup_eq_modify (d : Desk) (outputs : WinId → List OutputId) (ps : Popups)
    (f : SurfaceId) : ∃ g : Popup → Popup,
      (∀ p, (g p).surface = p.surface ∧ (g p).parent = p.parent) ∧
      unconstrain_popup d outputs ps f = ps.modify f g := by
  have hid : ps = ps.modify f id :=
    ((List.map_congr_left fun q _ => ite_self _).trans (List.map_id ps)).symm
  unfold unconstrain_popup
  split
  · exact ⟨id, fun _ => ⟨rfl, rfl⟩, hid⟩
  · split
    · exact ⟨id, fun _ => ⟨rfl, rfl⟩, hid⟩
    · split
      · refine ⟨_, ?_, rfl⟩
        exact fun _ => ⟨rfl, rfl⟩
      · exact ⟨id, fun _ => ⟨rfl, rfl⟩, hid⟩

theorem ordered_unconstrain_popup (h : ps.Ordered) (d : Desk) (outputs : WinId → List OutputId)
    (f : SurfaceId) : (unconstrain_popup d outputs ps f).Ordered := by
  obtain ⟨g, hg, heq⟩ := unconstrain_popup_eq_modify d outputs ps f
  rw [heq]
  exact h.modify hg

/-- Every request keeps the order. -/
theorem ordered_popup_step (h : ps.Ordered) (r : PopupRequest) : (popup_step ps r).Ordered := by
  cases r with
  | new_popup d outputs f parent positioner =>
    show Popups.Ordered (if parent = some f ∨ ∃ p ∈ ps, p.surface = f ∨ p.parent = some f then ps
      else new_popup d outputs ps f parent positioner)
    split_ifs with hused
    · exact h
    · have hfresh : Popups.Ordered (⟨f, parent, positioner, positioner.get_geometry, none⟩ :: ps) :=
        ⟨fun hself => hused (.inl hself), fun q hq =>
          ⟨fun hs => hused (.inr ⟨q, hq, .inl hs⟩), fun hp => hused (.inr ⟨q, hq, .inr hp⟩)⟩, h⟩
      exact ordered_unconstrain_popup hfresh d outputs f
  | reposition d outputs f positioner =>
    refine ordered_unconstrain_popup (h.modify ?_) d outputs f
    exact fun _ => ⟨rfl, rfl⟩
  | commit f => exact h.modify fun _ => ⟨rfl, rfl⟩

theorem ordered_of_reach (h : Transition.Reach popup_step [] ps) : ps.Ordered :=
  h.inv (I := Popups.Ordered) (fun _ r h => ordered_popup_step h r) trivial

/-! ### On the outputs -/

/-- The box a popup is to be in, relative to the geometry of its parent. -/
def popup_target (ps : Popups) (f : SurfaceId) (box window_geo : Rect) : Rect :=
  ⟨⟨box.loc.x - (ps.get_popup_toplevel_coords f).x - window_geo.loc.x,
    box.loc.y - (ps.get_popup_toplevel_coords f).y - window_geo.loc.y⟩, box.size⟩

/-- The popup put into a target. -/
def Popup.configured (target : Rect) (p : Popup) : Popup :=
  { p with geometry := p.positioner.get_unconstrained_geometry target }

/-- The popup after its client has taken the last configure. -/
def Popup.taken (p : Popup) : Popup := { p with committed := some p.geometry }

section Placed

variable {p : Popup} {root : SurfaceId} {w : WinId} {box window_geo : Rect}

theorem unconstrain_popup_eq (hp : ps.find f = some p) (hroot : p.parent.bind ps.root = some root)
    (hw : d.window_for_surface root = some w) (hbox : outputs_geo d (outputs w) = some box)
    (hgeo : d.element_geometry w = some window_geo) : unconstrain_popup d outputs ps f =
      ps.modify f (Popup.configured (popup_target ps f box window_geo)) := by
  unfold unconstrain_popup
  simp only [hp, Option.bind_some, hroot, hw, hbox, hgeo]
  rfl

theorem popup_commit_modify {g : Popup → Popup} (hg : ∀ q, (g q).surface = q.surface) :
    popup_commit (ps.modify f g) f = ps.modify f fun q => (g q).taken := by
  unfold popup_commit Popups.modify
  rw [List.map_map]
  refine List.map_congr_left fun q _ => ?_
  rw [Function.comp_apply]
  by_cases hq : q.surface = f
  · rw [if_pos hq, if_pos ((hg q).trans hq), if_pos hq]
    rfl
  · rw [if_neg hq, if_neg hq, if_neg hq]

/-- Where a popup is drawn that has committed something else. -/
theorem popup_geometry_modify (h : ps.Ordered) (hp : ps.find f = some p)
    (hroot : p.parent.bind ps.root = some root) (hw : d.window_for_surface root = some w)
    (hgeo : d.element_geometry w = some window_geo) {g : Popup → Popup}
    (hg : ∀ q, (g q).surface = q.surface ∧ (g q).parent = q.parent) {geo : Rect}
    (hcommitted : (g p).committed = some geo) :
    popup_geometry d (ps.modify f g) f = some
      ⟨⟨window_geo.loc.x + ((ps.get_popup_toplevel_coords f).x + geo.loc.x),
        window_geo.loc.y + ((ps.get_popup_toplevel_coords f).y + geo.loc.y)⟩, geo.size⟩ := by
  have hfind : (ps.modify f g).find f = some (g p) := by
    rw [Popups.find_modify fun q => (hg q).1, hp, Option.map_some]
  have hcoords : (ps.modify f g).get_popup_toplevel_coords f = ps.get_popup_toplevel_coords f := by
    unfold Popups.get_popup_toplevel_coords
    rw [hfind, hp, Option.bind_some, Option.bind_some, (hg p).2]
    cases hr : p.parent with
    | none => rfl
    | some r => exact h.line_parent_modify hp hr fun q => (hg q).1
  have hline := (h.modify hg).line_eq hfind
  rw [hcoords, hcommitted] at hline
  have hup : (g p).parent.bind (ps.modify f g).root = some root := by
    rw [(hg p).2, ← hroot]
    congr 1
    exact funext fun r => Popups.root_modify hg r
  rw [popup_geometry, hfind, Option.bind_some, hup, Option.bind_some, hw, Option.bind_some, hgeo,
    Option.bind_some, hcommitted, hline]
  rfl

end Placed

/-- Where the client of a popup asks it to be drawn. -/
def Popup.asked (ps : Popups) (window_geo : Rect) (p : Popup) : Rect :=
  ⟨⟨window_geo.loc.x +
      ((ps.get_popup_toplevel_coords p.surface).x + p.positioner.get_geometry.loc.x),
    window_geo.loc.y +
      ((ps.get_popup_toplevel_coords p.surface).y + p.positioner.get_geometry.loc.y)⟩,
    p.positioner.get_geometry.size⟩

/-- A desk with one window, on one output. -/
def menuDesk : Desk :=
  (Transition.run Rwl.step (Rwl.init (Rwl.plainSetup [] []))
    [.output_added 0 (Rwl.plainOutput "a"), .new_toplevel 0 (Rwl.plainClient 10),
      .commit 10 true]).desk

/-- A menu of 200 by 150 to the right of a point. -/
def menuAt (x y : ℤ) : PositionerState where
  rect_size := ⟨200, 150⟩
  anchor_rect := Rect.of x y 1 1
  anchor_edges := .TopRight
  gravity := .BottomRight
  constraint_adjustment := ⟨true, true, true, false, false, false⟩
  offset := ⟨0, 0⟩

/-- A menu is opened, and then a submenu that sticks out of the output at the right and at the
bottom. -/
def menuRequests : List PopupRequest :=
  [.new_popup menuDesk (fun _ => [0]) 20 (some 10) (menuAt 500 400), .commit 20,
    .new_popup menuDesk (fun _ => [0]) 21 (some 20) (menuAt 190 100)]

/-- The menu with its submenu. -/
def menus : Popups := Transition.run popup_step [] menuRequests

/-- The submenu. -/
def submenu : Popup := ⟨21, some 20, menuAt 190 100, Rect.of (-10) 50 200 150, none⟩

end Compositor
