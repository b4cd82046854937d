import Mathlib.Tactic.Common
import Rwl.Theory.Settled
import Rwl.Theory.SwallowRuns

/-!
# Mapped exactly when visible

* `Settled.shift`, `Shows.update`: updates of one window that leave it where it belongs;
* `Rwl.Careful`: no event maps a hidden window on its own, turns slides off, or takes the surface
  of a window that is still managed;
* `Calming.shows`, `Stirring.mendable`: what an event does on its own;
* `Shows.advance`, `Shows.finalize`: the two halves of a frame;
* `shows_windows`: in every run that is careful, each managed window is on the screen exactly when
  it belongs there, or slides.
-/

namespace Compositor

namespace Desk

variable {d d' : Desk} {w : WinId} {frame : Bool} {file : Config}

/-! ### Updates of one window -/

/-- A window stays settled when it is mapped no more than it should be. -/
theorem Settled.shift (h : Settled frame d w) (hviews : d'.views = d.views)
    (htags : (d'.st w).tags = (d.st w).tags)
    (hswallowed : (d'.st w).is_swallowed = (d.st w).is_swallowed)
    (hflags : d'.flags w = d.flags w) (hcan : d'.canSlide = d.canSlide)
    (hon : d'.onScreen w → d.onScreen w ∨ d.belongs w)
    (hmapped : d.belongs w → ¬d'.waits w → d'.onScreen w) : Settled frame d' w := by
  have hvisible := all_visible_of_views hviews
  have hbelongs : d'.belongs w ↔ d.belongs w := by
    unfold belongs
    rw [htags, hswallowed, hvisible]
  obtain ⟨hslides, hout⟩ := slidesOut_of_flags hflags
  constructor
  · rw [hbelongs]
    exact hmapped
  · intro hmons hscreen hnot
    rw [hbelongs] at hnot
    rw [ne_eq, monitors_of_views hviews] at hmons
    unfold Ending
    rw [hslides, hout, hswallowed, htags, hvisible]
    exact h.leaves hmons ((hon hscreen).resolve_right hnot) hnot
  · rw [hcan, hslides]
    exact h.still

/-- One window changes. -/
theorem Shows.update (h : Shows frame file d) (w : WinId) (hviews : d'.views = d.views)
    (hcan : d'.canSlide = d.canSlide)
    (hrest : ∀ v ∈ d'.windows, v ≠ w →
      v ∈ d.windows ∧ d'.st v = d.st v ∧ (d'.onScreen v ↔ d.onScreen v))
    (hw : w ∈ d'.windows → Settled frame d' w) : Shows frame file d' := by
  refine ⟨fun v hv => ?_, hcan ▸ h.lasts⟩
  by_cases hvw : v = w
  · subst hvw
    exact hw hv
  · obtain ⟨hmem, hst, hon⟩ := hrest v hv hvw
    refine (h.settled v hmem).congr (by rw [hst]) hviews ?_ (by rw [hst]) hon hcan
    unfold slidesOut
    rw [hst]

/-- A window that belongs on the screen is moved there. -/
theorem Shows.moved (h : Shows frame file d) (w : WinId) (loc : Point)
    (hbelongs : w ∈ d.windows → d.belongs w) :
    Shows frame file { d with space := Space.map_element d.space w loc } := by
  refine h.update w rfl rfl (fun v hv hvw => ⟨hv, rfl, ?_⟩) fun hw => ?_
  · exact (Space.mem_map_element d.space v w loc).trans (or_iff_right hvw)
  · refine (h.settled w hw).shift rfl rfl rfl rfl rfl (fun _ => .inr (hbelongs hw)) fun _ _ => ?_
    exact (Space.mem_map_element d.space w w loc).2 (.inl rfl)

/-- A window that is on the screen, if it belongs there, changes in another way. -/
theorem Shows.window (h : Shows frame file d) (w : WinId) {f : WindowState → WindowState}
    (hf : ∀ st, (f st).tags = st.tags ∧ (f st).is_swallowed = st.is_swallowed ∧
      (f st).slide_out = st.slide_out ∧ (f st).slide_start = st.slide_start)
    (hon : w ∈ d.windows → d.belongs w → ¬(d.modifyWindow w f).waits w → d.onScreen w) :
    Shows frame file (d.modifyWindow w f) := by
  have hother (v : WinId) (hvw : v ≠ w) : (d.modifyWindow w f).st v = d.st v :=
    Function.update_of_ne hvw ..
  refine h.update w rfl rfl (fun v hv hvw => ⟨hv, hother v hvw, Iff.rfl⟩) fun hw => ?_
  have hst : (d.modifyWindow w f).st w = f (d.st w) := Function.update_self ..
  obtain ⟨htags, hswallowed, hout, hstart⟩ := hf (d.st w)
  refine (h.settled w hw).shift rfl ?_ ?_ ?_ rfl .inl (hon hw)
  · rw [hst, htags]
  · rw [hst, hswallowed]
  · unfold flags
    rw [hst, hout, hstart]

/-- What is not about windows, views or the screen changes. -/
theorem Shows.steady (h : Shows frame file d) (hst : d'.st = d.st) (hspace : d'.space = d.space)
    (hwindows : d'.windows = d.windows) (hmonitors : d'.monitors = d.monitors)
    (hcfg : d'.cfg = d.cfg) : Shows frame file d' := by
  have hcan : d'.canSlide = d.canSlide := by
    unfold canSlide
    rw [hcfg]
  refine ⟨fun v hv => ?_, hcan ▸ h.lasts⟩
  rw [hwindows] at hv
  refine (h.settled v hv).congr (by rw [hst]) (by unfold views; rw [hmonitors]) ?_ (by rw [hst]) ?_
    hcan
  · unfold slidesOut
    rw [hst]
  · unfold onScreen
    rw [hspace]

/-! ### Frames -/

/-- Every managed window keeps its place when dead surfaces leave the space. -/
theorem Shows.refresh (h : Shows frame file d) (p : WinId × Point → Bool)
    (hp : ∀ w ∈ d.windows, ∀ loc, p (w, loc) = true) :
    Shows frame file { d with space := d.space.filter p } := by
  refine ⟨fun w hw => (h.settled w hw).congr rfl rfl rfl rfl ?_ rfl, h.lasts⟩
  constructor
  · intro hon
    obtain ⟨x, hx, rfl⟩ := List.mem_map.1 hon
    exact List.mem_map_of_mem (List.mem_of_mem_filter hx)
  · intro hon
    obtain ⟨⟨v, loc⟩, hx, rfl⟩ := List.mem_map.1 hon
    exact List.mem_map.2 ⟨(v, loc), List.mem_filter.2 ⟨hx, hp v hw loc⟩, rfl⟩

theorem advanceSlide_spec (now ms : ℕ) (st : WindowState) :
    (advanceSlide now ms st).placement = st.placement ∧
      (advanceSlide now ms st).slide_out = st.slide_out ∧
      ((advanceSlide now ms st).slide_start.isSome = true → st.slide_start.isSome = true) := by
  unfold advanceSlide
  cases hstart : st.slide_start with
  | none => exact ⟨rfl, rfl, fun h => by rwa [hstart] at h⟩
  | some start =>
    dsimp only
    split_ifs <;> exact ⟨rfl, rfl, fun _ => rfl⟩

/-- What one frame of the slides does to a window. -/
theorem advance_tag_transitions_spec (d : Desk) (w : WinId) :
    (d.advance_tag_transitions.st w).placement = (d.st w).placement ∧
      (d.advance_tag_transitions.st w).slide_out = (d.st w).slide_out ∧
      (d.advance_tag_transitions.slidesOut w = true → d.slidesOut w = true) := by
  unfold advance_tag_transitions
  split_ifs
  · exact ⟨rfl, rfl, id⟩
  · unfold slidesOut Windows.modifyAll
    dsimp only
    by_cases hw : w ∈ d.space.map Prod.fst
    · rw [if_pos hw]
      obtain ⟨hplace, hout, hstart⟩ := advanceSlide_spec d.now d.cfg.tag_transition_ms (d.st w)
      refine ⟨hplace, hout, fun h => ?_⟩
      obtain ⟨h₁, h₂⟩ := Bool.and_eq_true_iff.1 h
      exact Bool.and_eq_true_iff.2 ⟨hout ▸ h₁, hstart h₂⟩
    · rw [if_neg hw]
      exact ⟨rfl, rfl, id⟩

/-- **A frame ends slides, and leaves what has slid out to the end of the frame.** -/
theorem Shows.advance (h : Shows false file d)
    (hhidden : ∀ w ∈ d.windows, (d.st w).is_swallowed = true → d.onScreen w →
      (d.st w).tags &&& d.all_visible = 0) : Shows true file d.advance_tag_transitions := by
  have hbare := bare_advance_tag_transitions d
  have hviews := views_of_scene (scene_of_bare hbare)
  have hcan := canSlide_of_bare hbare
  have hvisible := all_visible_of_views hviews
  refine ⟨fun w hw => ?_, hcan ▸ h.lasts⟩
  rw [windows_of_bare hbare] at hw
  have hon : d.advance_tag_transitions.onScreen w ↔ d.onScreen w :=
    iff_of_eq (congrFun (congrArg Roll.mapped (Rwl.roll_advance_tag_transitions d)) w)
  obtain ⟨hplace, hout, hslides⟩ := advance_tag_transitions_spec d w
  have hsettled := h.settled w hw
  constructor
  · rw [belongs_congr hplace hvisible, waits_congr hplace, hon]
    exact hsettled.mapped
  · rw [belongs_congr hplace hvisible, hon, ne_eq, monitors_of_views hviews]
    intro hmons hscreen hnot
    have hbefore : d.slidesOut w = true :=
      (hsettled.leaves hmons hscreen hnot).resolve_right fun hfalse => Bool.noConfusion hfalse.1
    refine .inr ⟨rfl, ?_⟩
    rw [ending_congr hplace hvisible hout]
    refine ⟨(Bool.and_eq_true_iff.1 hbefore).1, ?_⟩
    cases hsw : (d.st w).is_swallowed with
    | false => exact .inl rfl
    | true => exact .inr (hhidden w hw hsw hscreen)
  · rw [hcan]
    intro hoff
    refine Bool.eq_false_iff.2 fun hslide => ?_
    rw [hsettled.still hoff] at hslides
    exact Bool.noConfusion (hslides hslide)

/-- What the end of one slide does to a window. -/
theorem finalizeSlideOut_spec (all_visible : ℕ) (d : Desk) (v w : WinId) :
    ((finalizeSlideOut all_visible d v).st w).slide_start = (d.st w).slide_start ∧
      ((finalizeSlideOut all_visible d v).st w).slide_out =
        (if w = v then false else (d.st w).slide_out) ∧
      ((finalizeSlideOut all_visible d v).onScreen w ↔
        d.onScreen w ∧ (w = v → (d.st w).tags &&& all_visible ≠ 0)) := by
  have hsaved : ((d.saveLoc v).st w).slide_start = (d.st w).slide_start ∧
      ((d.saveLoc v).st w).slide_out = (d.st w).slide_out := by
    unfold saveLoc
    split
    · split_ifs
      · by_cases hwv : w = v
        · subst hwv
          simp [modifyWindow]
        · simp [modifyWindow, hwv]
      · exact ⟨rfl, rfl⟩
    · exact ⟨rfl, rfl⟩
  unfold finalizeSlideOut
  dsimp only
  by_cases hwv : w = v
  · subst hwv
    by_cases hvisible : (d.st w).tags &&& all_visible ≠ 0
    · rw [if_pos hvisible]
      refine ⟨?_, ?_, (and_iff_left fun _ => hvisible).symm⟩
      · simp [modifyWindow]
      · simp [modifyWindow]
    · rw [if_neg hvisible]
      refine ⟨?_, ?_, ?_⟩
      · simpa [modifyWindow] using hsaved.1
      · simp [modifyWindow]
      · refine (Space.mem_unmap_elem d.space w w).trans ?_
        simp [hvisible]
  · split_ifs
    · simp [modifyWindow, onScreen, hwv]
    · refine ⟨?_, ?_, ?_⟩
      · simpa [modifyWindow, hwv] using hsaved.1
      · simpa [modifyWindow, hwv] using hsaved.2
      · refine (Space.mem_unmap_elem d.space w v).trans ?_
        simp [onScreen, hwv]

/-- What the end of several slides does to a window. -/
theorem foldl_finalizeSlideOut_spec (all_visible : ℕ) (l : List WinId) (d : Desk) (w : WinId) :
    ((l.foldl (finalizeSlideOut all_visible) d).st w).slide_start = (d.st w).slide_start ∧
      ((l.foldl (finalizeSlideOut all_visible) d).st w).slide_out =
        (if w ∈ l then false else (d.st w).slide_out) ∧
      ((l.foldl (finalizeSlideOut all_visible) d).onScreen w ↔
        d.onScreen w ∧ (w ∈ l → (d.st w).tags &&& all_visible ≠ 0)) := by
  induction l generalizing d with
  | nil => simp
  | cons v l ih =>
    obtain ⟨hstart, hout, hon⟩ := finalizeSlideOut_spec all_visible d v w
    obtain ⟨hstart', hout', hon'⟩ := ih (finalizeSlideOut all_visible d v)
    have htags : ((finalizeSlideOut all_visible d v).st w).tags = (d.st w).tags :=
      tags_of_scene (scene_of_bare (bare_finalizeSlideOut all_visible d v)) w
    refine ⟨hstart'.trans hstart, ?_, ?_⟩
    · refine hout'.trans ?_
      rw [hout]
      by_cases hwv : w = v <;> simp [hwv]
    · refine hon'.trans ?_
      rw [hon, htags, List.mem_cons, and_assoc, or_imp]

/-- **The end of a frame unmaps what has slid out.** -/
theorem Shows.finalize (h : Shows true file d) : Shows false file d.finalize_slide_outs := by
  have hbare := bare_finalize_slide_outs d
  have hviews := views_of_scene (scene_of_bare hbare)
  have hvisible := all_visible_of_views hviews
  have hcan := canSlide_of_bare hbare
  refine ⟨fun w hw => ?_, hcan ▸ h.lasts⟩
  rw [windows_of_bare hbare] at hw
  have hsettled := h.settled w hw
  have hplace := placement_of_scene (scene_of_bare hbare) w
  obtain ⟨hstart, hout, hon⟩ := foldl_finalizeSlideOut_spec d.all_visible
    (d.windows.filter fun w => (d.st w).slide_out && (d.st w).slide_start.isNone) d w
  change (d.finalize_slide_outs.st w).slide_start = _ at hstart
  change (d.finalize_slide_outs.st w).slide_out = _ at hout
  change d.finalize_slide_outs.onScreen w ↔ _ at hon
  -- the windows that slide on are not among those whose slide ends
  have hslides : d.finalize_slide_outs.slidesOut w = d.slidesOut w := by
    unfold slidesOut
    rw [hstart, hout]
    split_ifs with hmem
    · have hends := (List.mem_filter.1 hmem).2
      rw [Bool.and_eq_true_iff, Option.isNone_iff_eq_none] at hends
      rw [hends.2]
      simp
    · rfl
  constructor
  · rw [belongs_congr hplace hvisible, waits_congr hplace, hon]
    intro hbelongs hwaits
    exact ⟨hsettled.mapped hbelongs hwaits, fun _ => hbelongs.2⟩
  · rw [belongs_congr hplace hvisible, hon, hslides, ne_eq, monitors_of_views hviews]
    rintro hmons ⟨hscreen, hstays⟩ hnot
    refine .inl ?_
    rcases hsettled.leaves hmons hscreen hnot with hslide | ⟨-, hends⟩
    · exact hslide
    · by_cases hslide : (d.st w).slide_start.isNone = true
      · have hmem : w ∈ d.windows.filter fun w =>
            (d.st w).slide_out && (d.st w).slide_start.isNone :=
          List.mem_filter.2 ⟨hw, Bool.and_eq_true_iff.2 ⟨hends.1, hslide⟩⟩
        rcases hends.2 with hfree | htags
        · exact absurd ⟨hfree, hstays hmem⟩ hnot
        · exact absurd htags (hstays hmem)
      · exact Bool.and_eq_true_iff.2 ⟨hends.1, Rwl.isSome_of_not_isNone hslide⟩
  · rw [hcan, hslides]
    exact hsettled.still

/-- A window is centred where it shows, and unless it is hidden behind its child. -/
theorem Shows.centre (h : Shows frame file d) (w : WinId)
    (hw : w ∈ d.windows → (d.st w).is_swallowed = false ∨ (d.st w).needs_centering = false) :
    Shows frame file (Rwl.centre d w) := by
  have hcentred := h.picture (picture_modifyWindow d w
    (f := fun st => { st with needs_centering := false }) fun _ => ⟨rfl, rfl, rfl⟩)
  unfold Rwl.centre
  dsimp only
  split_ifs with hneeds hany
  · split
    · exact h
    · refine hcentred.moved w _ fun hmem => ?_
      have hfree : (d.st w).is_swallowed = false := by
        refine (hw hmem).resolve_right fun hno => ?_
        rw [hneeds.1] at hno
        cases hno
      obtain ⟨mon, hmon, hvisible⟩ := List.any_eq_true.1 hany
      have hbelongs : d.belongs w := by
        refine ⟨hfree, ?_⟩
        have hmeets : Mask.union (d.monitors.map Monitor.tags) &&& (d.st w).tags ≠ 0 := by
          refine Mask.meets_union_iff.2 ⟨mon.tags, List.mem_map_of_mem hmon, ?_⟩
          rw [Nat.and_comm]
          exact bne_iff_ne.1 hvisible
        rwa [Nat.and_comm] at hmeets
      have hscene := scene_modifyWindow d w (f := fun st => { st with needs_centering := false })
        fun _ => rfl
      exact (belongs_of_scene hscene).2 hbelongs
  · split
    · exact h
    · exact hcentred.picture (picture_modifyWindow _ w fun _ => ⟨rfl, rfl, rfl⟩)
  · exact h

end Desk

namespace Rwl

open Transition

variable {frame : Bool} {file : Config} {s : Rwl} {e : Event} {d d' : Desk}

/-! ### Careful events -/

/-- The event maps no window that is to be hidden, and takes the surface of no managed window. A
configuration does not turn slides off, a toplevel opens on a view that shows, a drag takes a
window along that shows, a window that waits for its rules is not moved, a window hidden behind its
child is not centred, and an X11 client configures a window that shows. -/
def Careful (s : Rwl) : Event → Prop
  | .config_written cfg => s.desk.canSlide = true → cfg.canSlide = true
  | .new_toplevel .. => s.desk.monitors = [] ∨ (newPlace s.desk).2 &&& s.desk.all_visible ≠ 0
  | .motion .. | .motion_abs .. => ∀ w ∈ s.desk.windows, s.Drags w → s.desk.belongs w
  | .move_request f => ∀ w ∈ s.desk.windows, s.desk.window_map f = some w →
      s.desk.belongs w → s.desk.onScreen w
  | .x11_move_request xid => ∀ w ∈ s.desk.windows, s.desk.window_for_x11 xid = some w →
      s.desk.belongs w → s.desk.onScreen w
  | .commit f _ => ∀ w ∈ s.desk.windows, s.desk.window_map f = some w →
      (s.desk.st w).is_swallowed = true → (s.desk.st w).rules_applied = true ∧
        (s.desk.st w).buffer_mapped = true ∧ (s.desk.st w).needs_centering = false
  | .x11_configure_request xid .. => ∀ w ∈ s.desk.windows, s.desk.window_for_x11 xid = some w →
      (s.desk.st w).is_floating = true → s.desk.belongs w
  | .x11_configure_notify xid _ => ∀ w ∈ s.desk.windows, s.desk.window_for_x11 xid = some w →
      s.desk.belongs w
  | .vblank .. | .winit_frame .. => ∀ w ∈ s.desk.windows,
      ((s.desk.client w).x11.isSome = true ∨ (s.desk.wl_surface w).any s.seat.alive = true) ∧
        ((s.desk.st w).is_swallowed = true → s.desk.onScreen w →
          (s.desk.st w).tags &&& s.desk.all_visible = 0)
  | _ => True

instance (s : Rwl) (e : Event) : Decidable (s.Careful e) := by
  apply Event.casesOn (motive := fun e => Decidable (s.Careful e)) e <;> intros <;>
    dsimp only [Careful] <;> infer_instance

/-- The events that are followed part by part. -/
def Event.isStaged : Event → Bool
  | .commit .. | .vblank .. | .winit_frame .. => true
  | _ => false

/-- A fresh window does not slide, and the others do as before. -/
theorem slidesOut_fresh {w v : WinId} {st : WindowState} (hst : st.slide_out = false)
    (hd : d'.st = Function.update d.st w st) (hslide : d'.slidesOut v = true) :
    v ≠ w ∧ d.slidesOut v = true := by
  unfold Desk.slidesOut at hslide
  rw [hd] at hslide
  by_cases hvw : v = w
  · subst hvw
    rw [Function.update_self, hst] at hslide
    cases hslide
  · rw [Function.update_of_ne hvw] at hslide
    exact ⟨hvw, hslide⟩

theorem slidesOut_removeMonitor (d : Desk) (i : ℕ) :
    (d.removeMonitor i).slidesOut = d.slidesOut := by
  refine funext fun w => ?_
  refine Windows.modifyAll_field (fun st => st.slide_out && st.slide_start.isSome) d.st d.windows w
    _ fun v st => ?_
  unfold Desk.migrateWindow
  dsimp only
  split_ifs <;> rfl

theorem slidesOut_center_x11 (d : Desk) (w : WinId) : (d.center_x11 w).slidesOut = d.slidesOut := by
  rcases center_x11_eq d w with heq | ⟨loc, heq⟩
  · rw [heq]
  · rw [heq]
    exact Desk.slidesOut_modifyWindow d w (f := fun st => { st with saved_loc := some loc })
      fun _ => ⟨rfl, rfl⟩

/-- Passes follow what an event stirs. -/
theorem Stirring.mendable (h : Stirring s e d d') (hd : d.Mendable file) : d'.Mendable file := by
  have hcentre (w : WinId) : (d.center_x11 w).Mendable file := by
    have hwindows : (d.center_x11 w).windows = d.windows := by
      rcases center_x11_eq d w with heq | ⟨loc, heq⟩ <;> rw [heq]
      rfl
    have hcan : (d.center_x11 w).canSlide = d.canSlide := by
      rcases center_x11_eq d w with heq | ⟨loc, heq⟩ <;> rw [heq]
      rfl
    refine hd.of_slides hcan fun v hv hslide => ?_
    rw [slidesOut_center_x11] at hslide
    exact ⟨hwindows ▸ hv, hslide⟩
  cases h with
  | drop f | disconnected =>
    exact hd.of_slides rfl fun v hv hslide => ⟨List.mem_of_mem_filter hv, hslide⟩
  | unmap _ f w hw => exact hd.of_slides rfl fun v hv hslide => ⟨hv, hslide⟩
  | x11 w c float hw =>
    refine hd.of_slides rfl fun v hv hslide => ?_
    obtain ⟨hne, hslide⟩ := slidesOut_fresh rfl rfl hslide
    exact ⟨(List.mem_cons.1 hv).resolve_left hne, hslide⟩
  | centre _ w => exact hcentre w
  | centre_hint _ xid w hw => exact hcentre w
  | unmapped xid w hw | destroyed xid w hw =>
    exact hd.of_slides rfl fun v hv hslide => ⟨List.mem_of_mem_filter hv, hslide⟩
  | monitor o info => exact hd.of_slides rfl fun v hv hslide => ⟨hv, hslide⟩
  | unplugged o i hi =>
    refine hd.of_slides rfl fun v hv hslide => ⟨hv, ?_⟩
    rwa [slidesOut_removeMonitor] at hslide

/-- What an event does on its own does no harm before the passes. -/
theorem Calming.mendable (h : Calming s e d d') (he : Event.isStaged e = false)
    (hd : d.Mendable file) : d'.Mendable file := by
  have hwindow {w : WinId} {f : WindowState → WindowState}
      (hf : ∀ st, (f st).slide_out = st.slide_out ∧ (f st).slide_start = st.slide_start) :
      (d.modifyWindow w f).Mendable file := by
    refine hd.of_slides rfl fun v hv hslide => ⟨hv, ?_⟩
    rwa [Desk.slidesOut_modifyWindow d w hf] at hslide
  cases h with
  | toplevel w c hw =>
    refine hd.of_slides rfl fun v hv hslide => ?_
    obtain ⟨hne, hslide⟩ := slidesOut_fresh rfl rfl hslide
    exact ⟨(List.mem_cons.1 hv).resolve_left hne, hslide⟩
  | press | move | x11_move | wait => exact hwindow fun _ => ⟨rfl, rfl⟩
  | override w c hw =>
    exact hd.of_slides rfl fun v hv hslide => ⟨hv, (slidesOut_fresh rfl rfl hslide).2⟩
  | configure xid x y w loc hw hfree =>
    have hsaved := hwindow (w := w) (f := fun st => { st with saved_loc := some loc })
      fun _ => ⟨rfl, rfl⟩
    exact hsaved.of_slides rfl fun v hv hslide => ⟨hv, hslide⟩
  | follow | follow_abs | client | popup_unmapped | popup_destroyed | unpaired | paired | keyed
  | configured =>
    exact hd.of_slides rfl fun v hv hslide => ⟨hv, hslide⟩
  | centre | refresh | advance | finalize | winit_refresh | winit_advance | winit_finalize =>
    cases he

/-- **What an event does on its own leaves the windows where they belong.** -/
theorem Calming.shows (h : Calming s e d d') (henrolled : Enrolled s.desk)
    (hcareful : s.Careful e) (he : Event.isStaged e = false) (hd : Desk.Shows frame file d) :
    Desk.Shows frame file d' := by
  have hmanaged {w : WinId} (hw : w ∈ s.desk.windows) :
      (s.desk.st w).is_override_redirect = false := (henrolled.native w hw).2
  cases h with
  | toplevel w c hw =>
    have hst : (insertWindow s.desk w c id).st w =
        { WindowState.new with tags := (newPlace s.desk).2, mon_idx := s.desk.sel_mon } :=
      Function.update_self ..
    refine hd.update w rfl rfl (fun v hv hvw => ⟨?_, ?_, ?_⟩) fun _ => ⟨?_, ?_, ?_⟩
    · exact (List.mem_cons.1 hv).resolve_left hvw
    · exact Function.update_of_ne hvw ..
    · exact (Space.mem_map_element s.desk.space v w _).trans (or_iff_right hvw)
    · exact fun _ _ => (Space.mem_map_element s.desk.space w w _).2 (.inl rfl)
    · intro hmons _ hnot
      refine absurd ⟨?_, ?_⟩ hnot
      · exact congrArg WindowState.is_swallowed hst
      · change ((insertWindow s.desk w c id).st w).tags &&& s.desk.all_visible ≠ 0
        rw [hst]
        exact hcareful.resolve_left hmons
    · intro _
      change (((insertWindow s.desk w c id).st w).slide_out && _) = false
      rw [hst]
      rfl
  | follow _ dx dy w loc hw hp =>
    refine hd.moved w loc fun hmem => ?_
    have hscene : d.scene = s.desk.scene := congrArg (fun p => p.2.1) hp
    rw [Desk.windows_of_picture hp] at hmem
    exact (Desk.belongs_of_scene hscene).2 (hcareful w hmem hw)
  | follow_abs _ fx fy w loc hw hp =>
    refine hd.moved w loc fun hmem => ?_
    have hscene : d.scene = s.desk.scene := congrArg (fun p => p.2.1) hp
    rw [Desk.windows_of_picture hp] at hmem
    exact (Desk.belongs_of_scene hscene).2 (hcareful w hmem hw)
  | press _ btn serial w hon =>
    exact hd.window w (fun _ => ⟨rfl, rfl, rfl, rfl⟩) fun _ hbelongs _ => hon hbelongs
  | move f w hw =>
    exact hd.window w (fun _ => ⟨rfl, rfl, rfl, rfl⟩) fun hmem hbelongs _ =>
      hcareful w hmem hw hbelongs
  | x11_move xid w hw =>
    exact hd.window w (fun _ => ⟨rfl, rfl, rfl, rfl⟩) fun hmem hbelongs _ =>
      hcareful w hmem hw hbelongs
  | client w c => exact hd.steady rfl rfl rfl rfl rfl
  | wait f w hw =>
    refine hd.window w (fun _ => ⟨rfl, rfl, rfl, rfl⟩) fun hmem hbelongs hwaits => ?_
    refine (hd.settled w hmem).mapped hbelongs fun hbefore => hwaits ?_
    unfold Desk.waits at hbefore ⊢
    simpa [Desk.modifyWindow] using hbefore.2
  | override w c hw =>
    refine hd.update w rfl rfl (fun v hv hvw => ⟨hv, ?_, ?_⟩) fun hmem => ?_
    · exact Function.update_of_ne hvw ..
    · exact (Space.mem_map_element s.desk.space v w _).trans (or_iff_right hvw)
    · exact absurd (henrolled.native w hmem).1 hw
  | popup_unmapped xid w hw hor | popup_destroyed xid w hw hor =>
    refine hd.update w rfl rfl (fun v hv hvw => ⟨hv, rfl, ?_⟩) fun hmem => ?_
    · exact (Space.mem_unmap_elem _ v w).trans (and_iff_right hvw)
    · rw [hmanaged hmem] at hor
      cases hor
  | unpaired _ xid => exact hd.steady rfl rfl rfl rfl rfl
  | paired xid f => exact hd.steady rfl rfl rfl rfl rfl
  | keyed _ xid f w hw => exact hd.steady rfl rfl rfl rfl rfl
  | configure xid x y w loc hw hfree =>
    have hsaved := hd.picture (Desk.picture_modifyWindow s.desk w
      (f := fun st => { st with saved_loc := some loc }) fun _ => ⟨rfl, rfl, rfl⟩)
    refine hsaved.moved w loc fun hmem => ?_
    have hfloating : (s.desk.st w).is_floating = true := by
      refine hfree.resolve_left fun hor => ?_
      rw [hmanaged hmem] at hor
      cases hor
    have hscene := Desk.scene_modifyWindow s.desk w
      (f := fun st => { st with saved_loc := some loc }) fun _ => rfl
    exact (Desk.belongs_of_scene hscene).2 (hcareful w hmem hw hfloating)
  | configured xid loc w hw => exact hd.moved w loc fun hmem => hcareful w hmem hw
  | centre | refresh | advance | finalize | winit_refresh | winit_advance | winit_finalize =>
    cases he

/-! ### Whole events -/

/-- Every managed window is where it belongs. -/
def Shown (frame : Bool) (s : Rwl) : Prop := s.desk.Shows frame s.config_file

/-- What mends all it stirs, and does nothing on its own, leaves the windows where they belong. -/
theorem Mends.shown {s' : Rwl} (h : Mends (fun _ _ => False) (fun _ _ => False) s s')
    (hs : Shown frame s) : Shown frame s' := by
  unfold Shown
  rw [h.file]
  exact h.chain.shows (fun _ _ h => h.elim) (fun _ _ h => h.elim) (fun _ _ h => h.elim) hs

/-- A chain that keeps the links keeps which windows are managed, and which are hidden. -/
theorem Still.hidden {s' : Rwl} (h : Still s s') (w : WinId) :
    (s'.desk.st w).is_swallowed = (s.desk.st w).is_swallowed ∧
      (w ∈ s'.desk.windows ↔ w ∈ s.desk.windows) :=
  ⟨congrArg (fun k : LinkPart => k.hidden w) h.linkPart,
    decide_eq_decide.1 (congrArg (fun k : LinkPart => k.managed w) h.linkPart)⟩

/-- A window that looks for a terminal hides another one, if any. -/
theorem hidden_try_swallow (d : Desk) (w : WinId) :
    ((swallow.try_swallow d w).st w).is_swallowed = (d.st w).is_swallowed ∧
      (swallow.try_swallow d w).windows = d.windows := by
  unfold swallow.try_swallow
  dsimp only
  split
  · rename_i term hterm
    have hne := (Desk.find_target_spec hterm).1
    refine ⟨?_, rfl⟩
    simp [swallow.do_swallow, Desk.modifyWindow, hne.symm]
  · exact ⟨rfl, rfl⟩

theorem hidden_firstCommit (s : Rwl) (w : WinId) :
    ((s.firstCommit w).desk.st w).is_swallowed = (s.desk.st w).is_swallowed ∧
      (w ∈ (s.firstCommit w).desk.windows ↔ w ∈ s.desk.windows) := by
  obtain ⟨hhidden, hmem⟩ := (still_firstCommit s w).hidden w
  obtain ⟨hhidden', hmem'⟩ := hidden_try_swallow (s.withRules w).desk w
  have hrules := linkPart_withRules s w
  constructor
  · exact (hhidden.trans hhidden').trans (congrArg (fun k : LinkPart => k.hidden w) hrules)
  · refine hmem.trans ?_
    change w ∈ (swallow.try_swallow (s.withRules w).desk w).windows ↔ _
    rw [hmem']
    exact decide_eq_decide.1 (congrArg (fun k : LinkPart => k.managed w) hrules)

/-- **A commit leaves the windows where they belong.** -/
theorem shown_commit_window (hs : Shown false s) (w : WinId) (initial_sent : Bool)
    (hw : w ∈ s.desk.windows → (s.desk.st w).is_swallowed = true →
      (s.desk.st w).rules_applied = true ∧ (s.desk.st w).buffer_mapped = true ∧
        (s.desk.st w).needs_centering = false) : Shown false (s.commit_window w initial_sent) := by
  let s₁ := if (s.desk.st w).rules_applied = false then s.firstCommit w
    else if (s.desk.client w).x11.isNone ∧ initial_sent = false then s.arrange_all
    else s
  have hmends : Mends (fun _ _ => False) (fun _ _ => False) s s₁ := by
    dsimp only [s₁]
    split_ifs
    · exact (Mends.refl s).firstCommit w
    · exact (Mends.refl s).arrange_all
    · exact .refl s
  have hhidden : (s₁.desk.st w).is_swallowed = (s.desk.st w).is_swallowed ∧
      (w ∈ s₁.desk.windows ↔ w ∈ s.desk.windows) := by
    dsimp only [s₁]
    split_ifs
    · exact hidden_firstCommit s w
    · exact Still.hidden (Moves.refl s).arrange_all w
    · exact ⟨rfl, Iff.rfl⟩
  obtain ⟨hfirst, hmem⟩ := Still.hidden ((Moves.refl s₁).firstBuffer w) w
  have hbuffer : Shown false (s₁.firstBuffer w) := (hmends.firstBuffer w).shown hs
  have hcentred : Shown false ((s₁.firstBuffer w).modifyDesk (centre · w)) := by
    refine Desk.Shows.centre hbuffer w fun hmanaged => ?_
    rw [hfirst, hhidden.1]
    cases hswallowed : (s.desk.st w).is_swallowed with
    | false => exact .inl rfl
    | true =>
      -- neither the rules nor a first buffer of the window are still to come
      obtain ⟨hrules, hmapped, hcentre⟩ := hw (hhidden.2.1 (hmem.1 hmanaged)) hswallowed
      have hbare : s₁.desk.bare = s.desk.bare := by
        dsimp only [s₁]
        rw [if_neg (by simp [hrules])]
        split_ifs
        · rw [desk_arrange_all]
          exact Desk.bare_arrangePasses s.desk
        · rfl
      have hmapped₁ : (s₁.desk.st w).buffer_mapped = true :=
        (congrArg (fun b : Desk => (b.st w).buffer_mapped) hbare).trans hmapped
      have hcentre₁ : (s₁.desk.st w).needs_centering = false :=
        (congrArg (fun b : Desk => (b.st w).needs_centering) hbare).trans hcentre
      refine .inr ?_
      unfold firstBuffer
      dsimp only
      rw [if_neg (by simp [hmapped₁])]
      exact hcentre₁
  exact ((Mends.refl _).refreshNames w).shown hcentred

/-! ### Frames -/

/-- What animations are advanced keeps the surfaces and the clients of the managed windows. -/
theorem roster_animateWinit (s : Rwl) :
    s.animateWinit.desk.client = s.desk.client ∧
      ∀ w, w ∈ s.animateWinit.desk.windows ↔ w ∈ s.desk.windows := by
  let K : Desk → Desk → Prop := fun d d' =>
    d'.client = d.client ∧ ∀ w, w ∈ d'.windows ↔ w ∈ d.windows
  have hbare {d d' : Desk} (h : d'.bare = d.bare) : K d d' := by
    refine ⟨(congrArg Desk.client h :), fun w => ?_⟩
    rw [Desk.windows_of_bare h]
  have hroll {d d' : Desk} (h : d'.roll = d.roll) : K d d' :=
    ⟨congrArg Roll.client h, fun w => iff_of_eq (congrFun (congrArg Roll.managed h) w)⟩
  have htrans {d d' : Desk} (h : K s.desk d) (h' : K d d') : K s.desk d' :=
    ⟨h'.1.trans h.1, fun w => (h'.2 w).trans (h.2 w)⟩
  have hmends : Mends K (fun _ _ => False) s s.animateWinit := by
    unfold animateWinit advanceSlides
    refine Mends.overview_advance (Mends.afterSlides (Mends.own (Mends.own (.refl s) ?_) ?_) _)
    · exact hbare (Desk.bare_advance_tag_transitions _)
    · exact hbare (Desk.bare_finalize_slide_outs _)
  refine hmends.chain.stirred.keeps (W := K s.desk) (fun d d' hc hd => htrans hd ?_)
    (fun d d' hs hd => htrans hd ?_) (fun d hd => htrans hd (hbare (Desk.bare_arrangePasses d)))
    (hbare rfl)
  · cases hc with
    | same _ hp => exact hroll (congrArg Prod.fst hp)
    | arrange i => exact hbare (Desk.bare_arrange _ i)
    | slide old new ow => exact hbare (Desk.bare_start_tag_transition ..)
    | own _ hk => exact hk
  · cases hs with
    | loose _ ho => exact hroll (congrArg Prod.fst ho)
    | mark old new ow => exact hbare (Desk.bare_mark_slide_outs ..)
    | reload => exact hroll rfl
    | own _ hl => exact hl.elim

theorem shown_refreshSpace (hs : Shown frame s) (halive : ∀ w ∈ s.desk.windows,
    (s.desk.client w).x11.isSome = true ∨ (s.desk.wl_surface w).any s.seat.alive = true) :
    Shown frame s.refreshSpace :=
  Desk.Shows.refresh hs _ fun w hw _ => Bool.or_eq_true_iff.2 (halive w hw)

/-- **A frame leaves the windows where they belong**: what has slid out is unmapped. -/
theorem shown_on_vblank (hs : Shown false s) {o : OutputId} {out : RenderOutcome}
    (hcareful : s.Careful (.vblank o out)) : Shown false (s.on_vblank o out) := by
  have hspace := shown_refreshSpace hs fun w hw => (hcareful w hw).1
  have hadvanced : Shown true s.refreshSpace.advanceSlides := by
    refine Desk.Shows.advance hspace fun w hw hswallowed hon => (hcareful w hw).2 hswallowed ?_
    obtain ⟨x, hx, rfl⟩ := List.mem_map.1 hon
    exact List.mem_map_of_mem (List.mem_of_mem_filter hx)
  have hoverview := ((Mends.refl _).overview_advance).shown hadvanced
  have hfinal : Shown false ((overview.advance s.refreshSpace.advanceSlides).modifyDesk
      Desk.finalize_slide_outs) := Desk.Shows.finalize hoverview
  have hanimated : Shown false s.refreshSpace.animateVblank :=
    ((Mends.refl _).afterSlides _).shown hfinal
  have hcomposed : Mends (fun _ _ => False) (fun _ _ => False) s.refreshSpace.animateVblank
      (s.refreshSpace.animateVblank.composite o) := (Mends.refl _).emit _
  unfold on_vblank
  dsimp only
  split_ifs
  · exact hspace
  · exact hanimated
  · exact hcomposed.shown hanimated
  · exact (hcomposed.serveWith _ o).shown hanimated
  · exact (hcomposed.serveWith _ o).shown hanimated

/-- The same for the nested backend. -/
theorem shown_render_frame (hs : Shown false s) {o : OutputId} {out : RenderOutcome}
    (hcareful : s.Careful (.winit_frame o out)) : Shown false (s.render_frame o out) := by
  unfold render_frame
  split_ifs with hgate
  · exact hs
  all_goals
    have hadvanced : Shown true s.advanceSlides :=
      Desk.Shows.advance hs fun w hw => (hcareful w hw).2
    have hfinal : Shown false (s.advanceSlides.modifyDesk Desk.finalize_slide_outs) :=
      Desk.Shows.finalize hadvanced
    have hanimated : Shown false s.animateWinit :=
      ((Mends.refl _).afterSlides _).overview_advance.shown hfinal
    obtain ⟨hclient, hmanaged⟩ := roster_animateWinit s
    have halive : s.animateWinit.seat.alive = s.seat.alive :=
      congrArg Held.alive (acts_winit_frame s o out hgate).held
    have hspace : Shown false s.animateWinit.refreshSpace := by
      refine shown_refreshSpace hanimated fun w hw => ?_
      unfold Desk.wl_surface
      rw [hclient, halive]
      exact (hcareful w ((hmanaged w).1 hw)).1
  · exact (Mends.serveWith ((Mends.refl _).emit _) _ o).shown hspace
  · exact hspace

/-- **Every careful event leaves the windows where they belong.** -/
theorem shown_step (hs : Shown false s) (henrolled : Enrolled s.desk) (hcareful : s.Careful e) :
    Shown false (step s e) := by
  have hplain (he : Event.isStaged e = false) (hcfg : ∀ cfg, e ≠ .config_written cfg) :
      Shown false (step s e) := by
    have hpasses := Passes.step s e hcfg
    unfold Shown
    rw [hpasses.file]
    exact hpasses.chain.shows (fun _ _ h => h.shows henrolled hcareful he)
      (fun _ _ h => h.mendable he) (fun _ _ h => h.mendable) hs
  cases e with
  | config_written cfg => exact ⟨hs.settled, hcareful⟩
  | commit f b =>
    change Shown false (s.commit f b)
    unfold commit
    split
    · rename_i w hw
      exact shown_commit_window hs w b fun hmem hswallowed => hcareful w hmem hw hswallowed
    · split
      · exact ((Mends.refl s).commit_layer _).shown hs
      · exact hs
  | vblank o out => exact shown_on_vblank hs hcareful
  | winit_frame o out => exact shown_render_frame hs hcareful
  | _ => exact hplain rfl fun _ => Event.noConfusion

/-! ### Runs -/

/-- A window that belongs on the screen is on it, unless it waits for its rules; one that is on the
screen belongs there, or slides out of it. -/
def InPlace (d : Desk) : Prop :=
  d.monitors ≠ [] → ∀ w ∈ d.windows, (d.belongs w → ¬d.waits w → d.onScreen w) ∧
    (d.onScreen w → d.belongs w ∨ d.canSlide = true ∧ d.slidesOut w = true)

instance (d : Desk) : Decidable (InPlace d) := inferInstanceAs (Decidable (_ → _))

theorem inPlace_of_shown (hs : Shown false s) : InPlace s.desk := by
  intro hmons w hw
  have hsettled := hs.settled w hw
  refine ⟨hsettled.mapped, fun hon => ?_⟩
  by_cases hbelongs : s.desk.belongs w
  · exact .inl hbelongs
  · have hslides : s.desk.slidesOut w = true :=
      (hsettled.leaves hmons hon hbelongs).resolve_right fun hfalse => Bool.noConfusion hfalse.1
    refine .inr ⟨?_, hslides⟩
    by_contra hoff
    rw [hsettled.still (Bool.eq_false_iff.2 hoff)] at hslides
    cases hslides

/-- A setup whose tag switches slide. -/
def slidingSetup : Setup :=
  { plainSetup [] [] with
    cfg := { plainConfig [] [] with tag_transition := true, tag_transition_ms := 200 } }

/-- A switch of views interrupts the slide of another one, and a third comes back. -/
def switchRun : List Event :=
  [.output_added 0 (plainOutput "a"), .new_toplevel 0 (plainClient 10), .commit 10 true,
    .ipc_outputs .view none 2, .tick 100, .vblank 0 plainFrame, .ipc_outputs .view none 4,
    .tick 300, .vblank 0 plainFrame, .ipc_outputs .view none 1]

/-- While no managed window slides, the mapped ones are those that belong on the screen. -/
def Visible (d : Desk) : Prop :=
  (∀ v ∈ d.windows, d.canSlide = true → (d.st v).slide_start = none) →
    ∀ w ∈ d.windows, d.onScreen w ↔ d.belongs w

instance (d : Desk) : Decidable (Visible d) := inferInstanceAs (Decidable (_ → _))

/-- The view is left and comes back before the first commit of a window. -/
def waitingRun : List Event :=
  [.output_added 0 (plainOutput "a"), .new_toplevel 0 (plainClient 10),
    .ipc_outputs .view none 2, .ipc_outputs .view none 1]

/-- An X11 dialog on another tag asks for a new place. -/
def configureRun : List Event :=
  [.output_added 0 (plainOutput "a"),
    .x11_map 0 { plainClient 10 with x11 := some ⟨5, true, none, none, none, false⟩ },
    .x11_associated 5 10, .commit 10 true, .ipc_outputs .view none 2,
    .x11_configure_request 5 none none]

/-- Slides are turned off while a window slides out. -/
def cutRun : List Event :=
  [.output_added 0 (plainOutput "a"), .new_toplevel 0 (plainClient 10), .commit 10 true,
    .ipc_outputs .view none 2, .config_written (plainConfig [] []), .ipc .ReloadConfig,
    .tick 300, .vblank 0 plainFrame]

/-- The only output goes. -/
def unpluggedRun : List Event :=
  [.output_added 0 (plainOutput "a"), .new_toplevel 0 (plainClient 10), .commit 10 true,
    .output_removed 0]

end Rwl

end Compositor
