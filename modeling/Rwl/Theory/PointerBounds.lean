import Mathlib.Tactic.Common
import Mathlib.Tactic.Linarith
import Rwl.Core.Winit
import Rwl.Theory.MonitorBoxes
import Rwl.Theory.StepChanges

/-!
# The bounds of the pointer

The pointer is kept within the bounding box of the monitors, which is cached.

* `Desk.box`, `Fresh`: the bounding box, and a desk whose cached bounds are that;
* `Change.frame_or_fresh`, `fresh_step`: the events of the compositor keep the bounds fresh;
* `KeepsBox`: a resize of the nested window that leaves the box as it is;
* `Covered`: the points whose clamped position is on a monitor; `exists_not_covered`: never all;
* `pointer_on_monitor`: what both conditions give in a run, exactly.
-/

namespace Compositor

open Transition

/-! ### The bounding box -/

namespace Desk

/-- The rectangles of the monitors. -/
def rects (d : Desk) : List Rect := d.monitors.map Monitor.m

/-- The bounding box of the monitors. -/
def box (d : Desk) : ℤ × ℤ × ℤ × ℤ := d.update_monitor_bounds.monitor_bounds

/-- The cached bounds are those of the monitors. -/
def Fresh (d : Desk) : Prop := d.monitor_bounds = d.box

instance decidableFresh (d : Desk) : Decidable (Fresh d) := inferInstanceAs (Decidable (_ = _))

/-- The corners of a rectangle. -/
def corners (r : Rect) : ℤ × ℤ × ℤ × ℤ := (r.loc.x, r.loc.y, r.loc.x + r.size.w, r.loc.y + r.size.h)

/-- The smallest box around two boxes. -/
def join (a b : ℤ × ℤ × ℤ × ℤ) : ℤ × ℤ × ℤ × ℤ :=
  (min a.1 b.1, min a.2.1 b.2.1, max a.2.2.1 b.2.2.1, max a.2.2.2 b.2.2.2)

/-- The box around rectangles. -/
def around : List Rect → ℤ × ℤ × ℤ × ℤ
  | [] => (0, 0, 0, 0)
  | r :: rs => (rs.map corners).foldl join (corners r)

theorem box_eq_around (d : Desk) : d.box = around d.rects := by
  unfold box update_monitor_bounds rects
  cases d.monitors with
  | nil => rfl
  | cons m ms =>
    rw [List.map_cons, around, List.map_map]
    rfl

theorem box_congr {d d' : Desk} (h : d'.rects = d.rects) : d'.box = d.box := by
  rw [box_eq_around, box_eq_around, h]

theorem fresh_update_monitor_bounds (d : Desk) : d.update_monitor_bounds.Fresh := rfl

/-- The right and the bottom edge of a box only move outwards. -/
theorem le_foldl_join (bs : List (ℤ × ℤ × ℤ × ℤ)) (b : ℤ × ℤ × ℤ × ℤ) :
    (b.2.2.1 ≤ (bs.foldl join b).2.2.1 ∧ b.2.2.2 ≤ (bs.foldl join b).2.2.2) ∧
      ∀ c ∈ bs, c.2.2.1 ≤ (bs.foldl join b).2.2.1 ∧ c.2.2.2 ≤ (bs.foldl join b).2.2.2 := by
  induction bs generalizing b with
  | nil => simp
  | cons c bs ih =>
    obtain ⟨⟨hright, hbottom⟩, hrest⟩ := ih (join b c)
    rw [List.foldl_cons]
    refine ⟨⟨(le_max_left _ _).trans hright, (le_max_left _ _).trans hbottom⟩, ?_⟩
    intro x hx
    rcases List.mem_cons.1 hx with rfl | hx
    · exact ⟨(le_max_right _ _).trans hright, (le_max_right _ _).trans hbottom⟩
    · exact hrest x hx

/-- No monitor reaches over the right or the bottom edge of the box. -/
theorem le_box {d : Desk} {m : Monitor} (hm : m ∈ d.monitors) :
    m.m.loc.x + m.m.size.w ≤ d.box.2.2.1 ∧ m.m.loc.y + m.m.size.h ≤ d.box.2.2.2 := by
  rw [box_eq_around]
  unfold rects
  cases hms : d.monitors with
  | nil => simp [hms] at hm
  | cons m₀ ms =>
    obtain ⟨hfirst, hrest⟩ := le_foldl_join ((ms.map Monitor.m).map corners) (corners m₀.m)
    rw [hms] at hm
    rcases List.mem_cons.1 hm with rfl | hm
    · exact hfirst
    · exact hrest (corners m.m) (List.mem_map_of_mem (List.mem_map_of_mem hm))

/-! ### Clamped points -/

/-- The pixel of a point, seen from the left and the top edge of the box. -/
def pixel (d : Desk) (p : PointF) : Point :=
  ⟨truncZero (max p.x d.box.1), truncZero (max p.y d.box.2.1)⟩

/-- A monitor has the pixel of the point, once the point is moved right to the left edge of the box
and down to its top edge. -/
def Covered (d : Desk) (p : PointF) : Prop := ∃ m ∈ d.monitors, m.m.contains (d.pixel p) = true

instance decidableCovered (d : Desk) (p : PointF) : Decidable (d.Covered p) :=
  inferInstanceAs (Decidable (∃ m ∈ d.monitors, _))

end Desk

theorem le_truncZero {k : ℤ} {q : ℚ} (h : (k : ℚ) ≤ q) : k ≤ truncZero q := by
  unfold truncZero
  split_ifs
  · exact Int.le_floor.2 h
  · exact Int.le_ceil_iff.2 (by linarith)

/-- A clamped coordinate lies before an edge within the box exactly when the coordinate, moved up to
the lower bound, does: what is over the upper bound lies behind every edge. -/
theorem truncZero_clampQ_mem {lo hi a b : ℤ} (hb : b ≤ hi) (q : ℚ) :
    (a ≤ truncZero (clampQ q lo hi) ∧ truncZero (clampQ q lo hi) < b) ↔
      (a ≤ truncZero (max q lo) ∧ truncZero (max q lo) < b) := by
  unfold clampQ
  split_ifs with hlo hhi
  · rw [max_eq_right hlo.le]
  · -- both sides fail: the clamped coordinate is the upper bound
    have hover : hi ≤ truncZero (max q lo) := le_truncZero (hhi.le.trans (le_max_left _ _))
    rw [truncZero_intCast]
    omega
  · rw [max_eq_left (not_lt.1 hlo)]

namespace Desk

theorem clamp_pointer_eq {d : Desk} (hfresh : d.Fresh) (hne : d.monitors ≠ []) (p : PointF) :
    d.clamp_pointer p =
      ⟨clampQ p.x d.box.1 d.box.2.2.1, clampQ p.y d.box.2.1 d.box.2.2.2⟩ := by
  unfold clamp_pointer
  rw [if_neg (fun hempty => hne (List.isEmpty_iff.1 hempty)), hfresh]

theorem contains_clamp {d : Desk} (hfresh : d.Fresh) {m : Monitor} (hm : m ∈ d.monitors)
    (p : PointF) :
    m.m.contains ⟨truncZero (d.clamp_pointer p).x, truncZero (d.clamp_pointer p).y⟩ =
      m.m.contains (d.pixel p) := by
  obtain ⟨hright, hbottom⟩ := le_box hm
  rw [clamp_pointer_eq hfresh (List.ne_nil_of_mem hm)]
  refine decide_eq_decide.2 ?_
  rw [← and_assoc, truncZero_clampQ_mem hright, truncZero_clampQ_mem hbottom, and_assoc]
  rfl

theorem monitor_at_isSome (d : Desk) (p : PointF) : (d.monitor_at p).isSome = true ↔
    ∃ m ∈ d.monitors, m.m.contains ⟨truncZero p.x, truncZero p.y⟩ = true := by
  unfold monitor_at
  rw [List.findIdx?_isSome, List.any_eq_true]

/-- **Clamping to fresh bounds finds a monitor exactly for the covered points.** -/
theorem monitor_at_clamp_pointer {d : Desk} (hfresh : d.Fresh) (p : PointF) :
    (d.monitor_at (d.clamp_pointer p)).isSome = true ↔ d.Covered p := by
  rw [monitor_at_isSome]
  refine exists_congr fun m => and_congr_right fun hm => ?_
  rw [contains_clamp hfresh hm]

/-- The corner of the box is on no monitor: the rectangles are half-open. -/
theorem exists_not_covered (d : Desk) : ∃ p, ¬ d.Covered p := by
  refine ⟨⟨d.box.2.2.1, d.box.2.2.2⟩, ?_⟩
  rintro ⟨m, hm, hin⟩
  have hright : d.box.2.2.1 ≤ (d.pixel ⟨d.box.2.2.1, d.box.2.2.2⟩).x :=
    le_truncZero (le_max_left _ _)
  have hedge := (le_box hm).1
  have hbefore := (of_decide_eq_true hin).2.1
  omega

/-! ### Changes -/

theorem rects_modifyMonitor (d : Desk) (i : ℕ) {f : Monitor → Monitor} (h : ∀ m, (f m).m = m.m) :
    (d.modifyMonitor i f).rects = d.rects :=
  Recency.map_modify_eq Monitor.m f h d.monitors i

theorem rects_of_bare {d d' : Desk} (h : d'.bare = d.bare) : d'.rects = d.rects := by
  have hrects (d : Desk) : d.rects = d.bare.monitors.map Monitor.m := by
    show _ = (d.monitors.map bareMonitor).map Monitor.m
    rw [List.map_map]
    rfl
  rw [hrects d', hrects d, h]

/-- What decides whether the cached bounds are fresh. -/
def frame (d : Desk) : List Rect × (ℤ × ℤ × ℤ × ℤ) := (d.rects, d.monitor_bounds)

theorem Fresh.of_frame {d d' : Desk} (hd : d.Fresh) (h : d'.frame = d.frame) : d'.Fresh := by
  obtain ⟨hrects, hbounds⟩ := Prod.mk.inj h
  unfold Fresh
  rw [hbounds, hd, box_congr hrects]

theorem frame_on_unmap (d : Desk) (w : WinId) : (swallow.on_unmap d w).frame = d.frame := by
  unfold swallow.on_unmap
  dsimp only
  split <;> split_ifs <;> rfl

theorem frame_try_swallow (d : Desk) (w : WinId) : (swallow.try_swallow d w).frame = d.frame := by
  unfold swallow.try_swallow
  dsimp only
  split <;> rfl

theorem m_run (cfg : Config) (m : Monitor) (op : MonitorOp) : (op.run cfg m).m = m.m :=
  (reviewed_run cfg m op).sameOutput.2.1

/-- A small update keeps the bounds fresh. -/
theorem Change.keeps_fresh {file : Config} {L : Desk → Desk → Prop} {d d' : Desk}
    (hL : ∀ d d', L d d' → d.Fresh → d'.Fresh) (hc : Change file L d d') (h : d.Fresh) :
    d'.Fresh := by
  cases hc with
  | rules e _ => exact fresh_update_monitor_bounds e
  | relaid _ hb =>
    exact h.of_frame (Prod.ext (rects_of_bare hb) (congrArg Desk.monitor_bounds hb :))
  | monitor i op => exact h.of_frame (Prod.ext (rects_modifyMonitor d i fun m => m_run _ m op) rfl)
  | back i _ _ t =>
    exact h.of_frame (Prod.ext (rects_modifyMonitor d i fun m => m_run _ m (.retag t)) rfl)
  | tune i f hf => exact h.of_frame (Prod.ext (rects_modifyMonitor d i fun m => (hf m).2) rfl)
  | every =>
    refine h.of_frame (Prod.ext ?_ rfl)
    change (d.monitors.map _).map Monitor.m = _
    rw [List.map_map]
    exact congrArg (List.map · d.monitors) (funext fun m => m_run d.cfg m .apply)
  | history i tags =>
    unfold update_tag_history
    split
    · split_ifs <;> exact h
    · exact h
  | life _ hl => exact hL _ _ hl h
  | _ => exact h

theorem Changes.keeps_fresh {file : Config} {L : Desk → Desk → Prop} {d d' : Desk}
    (hL : ∀ d d', L d d' → d.Fresh → d'.Fresh) (hc : Changes file L d d') (h : d.Fresh) :
    d'.Fresh := by
  induction hc with
  | refl => exact h
  | tail _ hstep ih => exact hstep.keeps_fresh hL ih

end Desk

namespace Rwl

/-- What an event makes or removes keeps the bounds fresh. -/
theorem fresh_life {g : Grab} {e : Event} {d d' : Desk} (hl : Life g e d d') (h : d.Fresh) :
    d'.Fresh := by
  cases hl with
  | monitor | unplugged => exact Desk.fresh_update_monitor_bounds _
  | unmapped => exact h.of_frame (Desk.frame_on_unmap _ _)
  | swallowed => exact h.of_frame (Desk.frame_try_swallow _ _)
  | dragged_by _ _ _ _ hd | dragged_to _ _ _ _ hd =>
    obtain ⟨_, _, _, i, _, rfl⟩ := hd
    exact h.of_frame (Prod.ext (Desk.rects_modifyMonitor d i fun _ => rfl) rfl)
  | _ => exact h

/-- **Every event of the compositor keeps the bounds fresh.** -/
theorem fresh_step {s : Rwl} (e : Event) (h : s.desk.Fresh) : (step s e).desk.Fresh := by
  by_cases hcfg : ∃ cfg, e = .config_written cfg
  · obtain ⟨cfg, rfl⟩ := hcfg
    exact h
  · have hmoves := Moves.step s e (fun cfg heq => hcfg ⟨cfg, heq⟩) fun _ _ hl => hl
    exact hmoves.changes.keeps_fresh (fun _ _ hl => fresh_life hl) h

/-! ### The nested window -/

/-- The first monitor's new size leaves the bounding box of the monitors as it is; nothing else is
asked of an event. -/
def KeepsBox (s : Rwl) : NestedEvent → Prop
  | .resized size scale_factor => (s.desk.fill size scale_factor).box = s.desk.box
  | .event _ => True

instance decidableKeepsBox (s : Rwl) : ∀ e, Decidable (KeepsBox s e)
  | .resized _ _ => inferInstanceAs (Decidable (_ = _))
  | .event _ => .isTrue trivial

theorem frame_arrange_all (s : Rwl) : s.arrange_all.desk.frame = s.desk.frame := by
  rw [desk_arrange_all]
  refine Prod.ext ?_ (congrArg Desk.monitor_bounds (Desk.bare_arrangePasses s.desk) :)
  have hboxes := congrArg (List.map fun b : OutputId × Rect × Rect => b.2.1)
    (Desk.boxes_arrangePasses s.desk)
  unfold Desk.boxes at hboxes
  rw [List.map_map, List.map_map, Desk.update_work_areas, List.map_map] at hboxes
  exact hboxes

/-- A resize keeps the cached bounds and changes the first monitor. -/
theorem frame_resized (s : Rwl) (o : OutputId) (size : Size) (scale_factor : ℚ) :
    (s.resized o size scale_factor).desk.frame =
      ((s.desk.fill size scale_factor).rects, s.desk.monitor_bounds) :=
  frame_arrange_all _

theorem fresh_resized_iff {s : Rwl} (h : s.desk.Fresh) (o : OutputId) (size : Size)
    (scale_factor : ℚ) : (s.resized o size scale_factor).desk.Fresh ↔
      KeepsBox s (.resized size scale_factor) := by
  obtain ⟨hrects, hbounds⟩ := Prod.mk.inj (frame_resized s o size scale_factor)
  have hbox : (s.resized o size scale_factor).desk.box = (s.desk.fill size scale_factor).box :=
    Desk.box_congr hrects
  unfold Desk.Fresh KeepsBox
  rw [hbounds, hbox, h]
  exact eq_comm

/-- **One event keeps the bounds fresh exactly when it keeps the box or refreshes it.** -/
theorem fresh_nestedStep_iff {s : Rwl} (h : s.desk.Fresh) (o : OutputId) (e : NestedEvent) :
    (nestedStep o s e).desk.Fresh ↔ KeepsBox s e := by
  cases e with
  | resized size scale_factor => exact fresh_resized_iff h o size scale_factor
  | event e => exact iff_of_true (fresh_step e h) trivial

/-- Without monitors the bounds are fresh still after a resize. -/
theorem fresh_of_empty {s : Rwl} (h : s.desk.Fresh) (o : OutputId) (e : NestedEvent)
    (hempty : (nestedStep o s e).desk.monitors = []) : (nestedStep o s e).desk.Fresh := by
  refine (fresh_nestedStep_iff h o e).2 ?_
  cases e with
  | event => trivial
  | resized size scale_factor =>
    have hrects : ((s.resized o size scale_factor).desk.rects) =
        (s.desk.fill size scale_factor).rects :=
      (Prod.mk.inj (frame_resized s o size scale_factor)).1
    have hnone : (s.desk.fill size scale_factor).monitors = [] :=
      List.map_eq_nil_iff.1 (hrects.symm.trans (congrArg (List.map Monitor.m) hempty))
    have hbefore : s.desk.monitors = [] := List.modify_eq_nil_iff.1 hnone
    refine Desk.box_congr ?_
    unfold Desk.rects
    rw [hnone, hbefore]

/-- Resizes that keep the box keep the bounds fresh all along. -/
theorem always_fresh {o : OutputId} {env : Setup} {es : List NestedEvent}
    (h : Guarded (nestedStep o) KeepsBox (init env) es) :
    Always (nestedStep o) (fun s => s.desk.Fresh) (init env) es :=
  h.always (fun _ e hs he => (fresh_nestedStep_iff hs o e).2 he) rfl

theorem guarded_iff_always_fresh (o : OutputId) (env : Setup) (es : List NestedEvent) :
    Always (nestedStep o) (fun s => s.desk.monitors ≠ [] → s.desk.Fresh) (init env) es ↔
      Guarded (nestedStep o) KeepsBox (init env) es := by
  -- a state is fresh if it is so with monitors and without them
  have hfresh {s : Rwl} (hnone : s.desk.monitors = [] → s.desk.Fresh)
      (hsome : s.desk.monitors ≠ [] → s.desk.Fresh) : s.desk.Fresh := by
    by_cases h : s.desk.monitors = []
    · exact hnone h
    · exact hsome h
  refine always_iff_guarded (I := fun s => s.desk.monitors = [] → s.desk.Fresh)
    (fun s e hnone hsome hempty => fresh_of_empty (hfresh hnone hsome) o e hempty) ?_
    (fun _ => rfl) fun _ => rfl
  intro s e hnone hsome
  have hs := hfresh hnone hsome
  rw [← fresh_nestedStep_iff hs o e]
  exact ⟨hfresh fun hempty => fresh_of_empty hs o e hempty, fun h _ => h⟩

/-- The pointer is kept where it should be. -/
structure PointerSound (d : Desk) (p : PointF) : Prop where
  fresh : d.monitor_bounds = d.update_monitor_bounds.monitor_bounds
  inside : ∃ m ∈ d.monitors,
    m.m.contains ⟨truncZero (d.clamp_pointer p).x, truncZero (d.clamp_pointer p).y⟩ = true
  found : (d.monitor_at (d.clamp_pointer p)).isSome = true

/-- **The cached bounds are those of the monitors and the clamped point is on a monitor, all along
exactly the runs whose resizes keep the bounding box and where the point is covered.** -/
theorem pointer_on_monitor (o : OutputId) (env : Setup) (es : List NestedEvent) (p : PointF) :
    Always (nestedStep o) (fun s => s.desk.monitors ≠ [] → PointerSound s.desk p) (init env) es ↔
      Guarded (nestedStep o) KeepsBox (init env) es ∧
        Always (nestedStep o) (fun s => s.desk.monitors ≠ [] → s.desk.Covered p) (init env) es := by
  constructor
  · intro h
    have hguard := (guarded_iff_always_fresh o env es).1
      (h.mono fun s hs hne => (hs hne).fresh)
    refine ⟨hguard, ((always_fresh hguard).and h).mono ?_⟩
    rintro s ⟨hfresh, hs⟩ hne
    exact (Desk.monitor_at_clamp_pointer hfresh p).1 (hs hne).found
  · rintro ⟨hguard, h⟩
    refine ((always_fresh hguard).and h).mono ?_
    rintro s ⟨hfresh, hs⟩ hne
    have hfound := (Desk.monitor_at_clamp_pointer hfresh p).2 (hs hne)
    exact ⟨hfresh, (Desk.monitor_at_isSome _ _).1 hfound, hfound⟩

/-- The window opens at 800 by 600. -/
def openWindow : NestedEvent := .event (.output_added 0 (plainOutput "winit"))

/-- A window that grows leaves the bounds behind; and a point right of the only monitor is clamped to
its edge, which is outside. -/
theorem not_pointer_on_monitor :
    (¬ ∀ (env : Setup) (es : List NestedEvent), Always (nestedStep 0)
      (fun s => s.desk.monitors ≠ [] → PointerSound s.desk ⟨10, 10⟩) (init env) es) ∧
    (¬ ∀ (env : Setup) (es : List NestedEvent), Always (nestedStep 0)
      (fun s => s.desk.monitors ≠ [] → PointerSound s.desk ⟨900, 10⟩) (init env) es) := by
  constructor
  · intro h
    have hlast := (h (plainSetup [] []) [openWindow, .resized ⟨1000, 700⟩ 1]).last
    exact absurd (hlast (by decide +kernel)).fresh (by decide +kernel)
  · intro h
    have hlast := (h (plainSetup [] []) [openWindow]).last
    exact absurd (hlast (by decide +kernel)).found (by decide +kernel)

end Rwl

end Compositor
