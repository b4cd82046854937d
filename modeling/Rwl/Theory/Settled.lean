import Mathlib.Tactic.Common
import Rwl.Lib.Mask
import Rwl.Theory.Lost

/-!
# Windows that are where they belong

* `Desk.Settled`: a window that belongs on the screen is on it, one that does not is off it or
  slides out; `Settled.congr`: what that depends on;
* `settled_arrange`, `settled_arrangePasses`: a pass keeps windows settled, the passes over all
  monitors settle them;
* `Desk.Shows`, `Desk.Mendable`: the same of all managed windows, and what is left of it between an
  update and the passes; `Mended.shows`: a chain in which passes follow every stir keeps them
  settled.
-/

namespace Compositor

/-- Tag switches slide under a configuration. -/
def Config.canSlide (cfg : Config) : Bool :=
  cfg.tag_transition && decide (cfg.tag_transition_ms ≠ 0)

namespace Desk

variable {d d' : Desk} {w : WinId} {frame : Bool}

/-! ### One window -/

/-- A tiled window waits for its rules: layout passes leave it out. -/
def waits (d : Desk) (w : WinId) : Prop :=
  (d.st w).rules_applied = false ∧ (d.st w).is_floating = false ∧ (d.st w).is_fullscreen = false

instance (d : Desk) (w : WinId) : Decidable (d.waits w) := inferInstanceAs (Decidable (_ ∧ _))

/-- A slide of the window out of its view has ended in this frame, and the next step of the frame
unmaps the window if that is right. -/
def Ending (d : Desk) (w : WinId) : Prop :=
  (d.st w).slide_out = true ∧
    ((d.st w).is_swallowed = false ∨ (d.st w).tags &&& d.all_visible = 0)

/-- The window is where it belongs; `frame` is set in the middle of a frame. There is no pass, and
nothing to show, without a monitor. -/
structure Settled (frame : Bool) (d : Desk) (w : WinId) : Prop where
  mapped : d.belongs w → ¬d.waits w → d.onScreen w
  leaves : d.monitors ≠ [] → d.onScreen w → ¬d.belongs w →
    d.slidesOut w = true ∨ frame = true ∧ d.Ending w
  still : d.canSlide = false → d.slidesOut w = false

/-- The views of the monitors. -/
def views (d : Desk) : List ℕ := d.monitors.map Monitor.tags

theorem all_visible_of_views (h : d'.views = d.views) : d'.all_visible = d.all_visible :=
  congrArg Mask.union h

theorem monitors_of_views (h : d'.views = d.views) : d'.monitors = [] ↔ d.monitors = [] := by
  have hlen : d'.monitors.length = d.monitors.length := by
    simpa [views] using congrArg List.length h
  rw [← List.length_eq_zero_iff, ← List.length_eq_zero_iff, hlen]

theorem views_of_scene (h : d'.scene = d.scene) : d'.views = d.views := congrArg Scene.views h

theorem belongs_congr (hplace : (d'.st w).placement = (d.st w).placement)
    (hvisible : d'.all_visible = d.all_visible) : d'.belongs w ↔ d.belongs w := by
  have htags : (d'.st w).tags = (d.st w).tags := congrArg Placement.tags hplace
  have hswallowed : (d'.st w).is_swallowed = (d.st w).is_swallowed :=
    congrArg Placement.is_swallowed hplace
  unfold belongs
  rw [htags, hswallowed, hvisible]

theorem waits_congr (hplace : (d'.st w).placement = (d.st w).placement) :
    d'.waits w ↔ d.waits w := by
  have hrules : (d'.st w).rules_applied = (d.st w).rules_applied :=
    congrArg Placement.rules_applied hplace
  have hfloating : (d'.st w).is_floating = (d.st w).is_floating :=
    congrArg Placement.is_floating hplace
  have hfullscreen : (d'.st w).is_fullscreen = (d.st w).is_fullscreen :=
    congrArg Placement.is_fullscreen hplace
  unfold waits
  rw [hrules, hfloating, hfullscreen]

theorem slidesOut_of_flags (h : d'.flags w = d.flags w) :
    d'.slidesOut w = d.slidesOut w ∧ (d'.st w).slide_out = (d.st w).slide_out := by
  obtain ⟨hout, hstart⟩ := Prod.mk.inj h
  refine ⟨?_, hout⟩
  unfold slidesOut
  rw [hout, hstart]

theorem ending_congr (hplace : (d'.st w).placement = (d.st w).placement)
    (hvisible : d'.all_visible = d.all_visible)
    (hout : (d'.st w).slide_out = (d.st w).slide_out) : d'.Ending w ↔ d.Ending w := by
  have htags : (d'.st w).tags = (d.st w).tags := congrArg Placement.tags hplace
  have hswallowed : (d'.st w).is_swallowed = (d.st w).is_swallowed :=
    congrArg Placement.is_swallowed hplace
  unfold Ending
  rw [htags, hswallowed, hvisible, hout]

/-- Whether a window is settled depends on its placement, its slide, what the monitors show and
whether it is on the screen. -/
theorem Settled.congr (h : Settled frame d w)
    (hplace : (d'.st w).placement = (d.st w).placement) (hviews : d'.views = d.views)
    (hslides : d'.slidesOut w = d.slidesOut w)
    (hout : (d'.st w).slide_out = (d.st w).slide_out) (hon : d'.onScreen w ↔ d.onScreen w)
    (hcan : d'.canSlide = d.canSlide) : Settled frame d' w := by
  have hvisible := all_visible_of_views hviews
  constructor
  · rw [belongs_congr hplace hvisible, waits_congr hplace, hon]
    exact h.mapped
  · rw [belongs_congr hplace hvisible, ending_congr hplace hvisible hout, hon, hslides, ne_eq,
      monitors_of_views hviews]
    exact h.leaves
  · rw [hcan, hslides]
    exact h.still

theorem Settled.picture (h : Settled frame d w) (hp : d'.picture = d.picture) :
    Settled frame d' w := by
  unfold Desk.picture at hp
  simp only [Prod.mk.injEq] at hp
  obtain ⟨hroll, hscene, hflags, hcan⟩ := hp
  have hmapped : d'.onScreen = d.onScreen := congrArg Roll.mapped hroll
  obtain ⟨hslides, hout⟩ := slidesOut_of_flags (congrFun hflags w)
  exact h.congr (placement_of_scene hscene w) (views_of_scene hscene) hslides hout
    (iff_of_eq (congrFun hmapped w)) hcan

/-! ### One pass -/

theorem display_hidden_iff {tags visible : ℕ} {st : WindowState} :
    display tags visible st = .hidden ↔ ¬(st.is_swallowed = false ∧ st.tags &&& visible ≠ 0) := by
  unfold display
  split_ifs <;> simp_all

theorem mem_hidden {tags : ℕ} : w ∈ d.shown tags .hidden ↔ w ∈ d.windows ∧ ¬d.belongs w := by
  unfold shown belongs
  rw [List.mem_filter, decide_eq_true_eq, display_hidden_iff]

theorem belongs_of_maps {tags : ℕ} (h : d.Maps tags w) : d.belongs w := by
  have hshown {k : Display} (hk : k ≠ .hidden) (hw : w ∈ d.shown tags k) : d.belongs w := by
    by_contra hnot
    have hdisplay := of_decide_eq_true (List.mem_filter.1 hw).2
    have hhidden := of_decide_eq_true
      (List.mem_filter.1 (mem_hidden.2 ⟨List.mem_of_mem_filter hw, hnot⟩ :
        w ∈ d.shown tags .hidden)).2
    exact hk (hdisplay.symm.trans hhidden)
  rcases h with hw | hw | hw
  · exact hshown (by decide) hw
  · exact hshown (by decide) hw
  · exact hshown (by decide) hw

/-- A pass maps the windows that belong on the screen, show on its monitor and wait for nothing. -/
theorem maps_of_belongs {tags : ℕ} (hw : w ∈ d.windows) (hbelongs : d.belongs w)
    (hwaits : ¬d.waits w) (htags : (d.st w).tags &&& tags ≠ 0) : d.Maps tags w := by
  have hdisplay (k : Display) (hk : display tags d.all_visible (d.st w) = k) :
      w ∈ d.shown tags k := List.mem_filter.2 ⟨hw, decide_eq_true hk⟩
  have hswallowed : ¬(d.st w).is_swallowed = true := by simp [hbelongs.1]
  unfold Maps
  by_cases hfullscreen : (d.st w).is_fullscreen = true
  · refine .inr (.inr (hdisplay _ ?_))
    unfold display
    rw [if_neg hswallowed, if_neg hbelongs.2, if_pos htags, if_pos hfullscreen]
  · by_cases hfloating : (d.st w).is_floating = true
    · refine .inr (.inl (hdisplay _ ?_))
      unfold display
      rw [if_neg hswallowed, if_neg hbelongs.2, if_pos htags, if_neg hfullscreen, if_pos hfloating]
    · refine .inl (hdisplay _ ?_)
      have hrules : (d.st w).rules_applied = true := by
        by_contra hrules
        exact hwaits ⟨Bool.eq_false_iff.2 hrules, Bool.eq_false_iff.2 hfloating,
          Bool.eq_false_iff.2 hfullscreen⟩
      unfold display
      rw [if_neg hswallowed, if_neg hbelongs.2, if_pos htags, if_neg hfullscreen,
        if_neg hfloating, if_pos hrules]

theorem scene_arrange (d : Desk) (i : ℕ) : (d.arrange i).scene = d.scene :=
  scene_of_bare (bare_arrange d i)

theorem windows_arrange (d : Desk) (i : ℕ) : (d.arrange i).windows = d.windows :=
  congrArg Scene.windows (scene_arrange d i)

theorem belongs_arrange (i : ℕ) : (d.arrange i).belongs w ↔ d.belongs w :=
  belongs_of_scene (scene_arrange d i)

theorem waits_arrange (i : ℕ) : (d.arrange i).waits w ↔ d.waits w :=
  waits_congr (placement_of_scene (scene_arrange d i) w)

theorem canSlide_of_bare (h : d'.bare = d.bare) : d'.canSlide = d.canSlide := by
  have hcfg : d'.cfg = d.cfg := (congrArg Desk.cfg h :)
  unfold canSlide
  rw [hcfg]

theorem canSlide_arrange (d : Desk) (i : ℕ) : (d.arrange i).canSlide = d.canSlide :=
  canSlide_of_bare (bare_arrange d i)

/-- A pass leaves no window on the screen that does not belong there, but the sliding ones. -/
theorem leaves_arrange {i : ℕ} (hw : w ∈ d.windows) (hi : i < d.monitors.length)
    (hon : (d.arrange i).onScreen w) (hnot : ¬d.belongs w) : d.slidesOut w = true := by
  have hm : d.monitors[i]? = some d.monitors[i] := List.getElem?_eq_getElem hi
  rcases (onScreen_arrange hm).1 hon with ⟨-, hslides⟩ | hmaps
  · exact hslides (mem_hidden.2 ⟨hw, hnot⟩)
  · exact absurd (belongs_of_maps hmaps) hnot

/-- **A pass keeps the managed windows settled.** -/
theorem settled_arrange (i : ℕ) (hw : w ∈ d.windows) (h : Settled frame d w) :
    Settled frame (d.arrange i) w := by
  constructor
  · rw [belongs_arrange, waits_arrange]
    intro hbelongs hwaits
    exact onScreen_arrange_of_belongs hbelongs (h.mapped hbelongs hwaits) i
  · rw [belongs_arrange, slidesOut_arrange, ne_eq, monitors_of_views (views_of_scene
      (scene_arrange d i))]
    intro hmons hon hnot
    by_cases hi : i < d.monitors.length
    · exact .inl (leaves_arrange hw hi hon hnot)
    · have hid : d.arrange i = d := by
        unfold arrange
        rw [List.getElem?_eq_none (not_lt.1 hi)]
      rw [hid] at hon ⊢
      exact h.leaves hmons hon hnot
  · rw [canSlide_arrange, slidesOut_arrange]
    exact h.still

/-! ### The passes over all monitors -/

theorem length_monitors_arrange (d : Desk) (i : ℕ) :
    (d.arrange i).monitors.length = d.monitors.length := by
  have hviews := congrArg (fun sc : Scene => sc.views.length) (scene_arrange d i)
  simpa [scene] using hviews

/-- Passes map a window that belongs on the screen and shows on one of their monitors. -/
theorem onScreen_passes (l : List ℕ) {d : Desk} (hw : w ∈ d.windows) (hbelongs : d.belongs w)
    (hwaits : ¬d.waits w)
    (h : d.onScreen w ∨ ∃ i ∈ l, (d.st w).tags &&& d.tagsOf i ≠ 0) :
    (l.foldl arrange d).onScreen w := by
  induction l generalizing d with
  | nil => exact h.resolve_right fun ⟨i, hi, _⟩ => absurd hi List.not_mem_nil
  | cons j l ih =>
    have htags := tags_of_scene (scene_arrange d j) w
    have hviews (i : ℕ) := tagsOf_of_scene (scene_arrange d j) i
    refine ih ((windows_arrange d j).symm ▸ hw) ((belongs_arrange j).2 hbelongs)
      (fun hwait => hwaits ((waits_arrange j).1 hwait)) ?_
    rcases h with hon | ⟨i, hi, hmeets⟩
    · exact .inl (onScreen_arrange_of_belongs hbelongs hon j)
    · rcases List.mem_cons.1 hi with rfl | hi
      · cases hm : d.monitors[i]? with
        | none =>
          unfold tagsOf at hmeets
          rw [hm] at hmeets
          exact absurd (Nat.and_zero _) hmeets
        | some mon =>
          have hview : d.tagsOf i = mon.tags := by
            unfold tagsOf
            rw [hm]
            rfl
          rw [hview] at hmeets
          exact .inl ((onScreen_arrange hm).2 (.inr (maps_of_belongs hw hbelongs hwaits hmeets)))
      · refine .inr ⟨i, hi, ?_⟩
        rwa [htags, hviews]

/-- The first pass unmaps what does not belong on the screen, and no other pass maps it. -/
theorem leaves_passes (l : List ℕ) {d : Desk} (hw : w ∈ d.windows) (hnot : ¬d.belongs w)
    (h : (d.onScreen w → d.slidesOut w = true) ∨ ∃ i ∈ l, i < d.monitors.length)
    (hon : (l.foldl arrange d).onScreen w) : d.slidesOut w = true := by
  induction l generalizing d with
  | nil => exact h.resolve_right (fun ⟨i, hi, _⟩ => absurd hi List.not_mem_nil) hon
  | cons j l ih =>
    have hslides : (d.arrange j).slidesOut w = d.slidesOut w :=
      congrFun (slidesOut_arrange d j) w
    rw [← hslides]
    refine ih ((windows_arrange d j).symm ▸ hw) (fun hb => hnot ((belongs_arrange j).1 hb)) ?_ hon
    rw [hslides, length_monitors_arrange]
    by_cases hj : j < d.monitors.length
    · exact .inl fun hon => leaves_arrange hw hj hon hnot
    · have hid : d.arrange j = d := by
        unfold arrange
        rw [List.getElem?_eq_none (not_lt.1 hj)]
      rcases h with hleaves | ⟨i, hi, hlt⟩
      · rw [hid]
        exact .inl hleaves
      · rcases List.mem_cons.1 hi with rfl | hi
        · exact absurd hlt hj
        · exact .inr ⟨i, hi, hlt⟩

/-- A window that belongs on the screen shows on some monitor. -/
theorem exists_meets_of_belongs (h : d.belongs w) :
    ∃ i ∈ List.range d.monitors.length, (d.st w).tags &&& d.tagsOf i ≠ 0 := by
  have hmeets : (d.st w).tags &&& Mask.union (d.monitors.map Monitor.tags) ≠ 0 := h.2
  rw [Nat.and_comm, Mask.meets_union_iff] at hmeets
  obtain ⟨t, ht, hmeets⟩ := hmeets
  obtain ⟨mon, hmon, rfl⟩ := List.mem_map.1 ht
  obtain ⟨i, hi, rfl⟩ := List.mem_iff_getElem.1 hmon
  refine ⟨i, List.mem_range.2 hi, ?_⟩
  unfold tagsOf
  rw [List.getElem?_eq_getElem hi, Nat.and_comm]
  exact hmeets

/-- **One pass for each monitor settles a window.** -/
theorem settled_passes (hw : w ∈ d.windows) (h : d.canSlide = false → d.slidesOut w = false) :
    Settled frame ((List.range d.monitors.length).foldl arrange d) w := by
  have hscene : ((List.range d.monitors.length).foldl arrange d).scene = d.scene :=
    Recency.foldl_keeps scene arrange scene_arrange _ d
  have hslides : ((List.range d.monitors.length).foldl arrange d).slidesOut = d.slidesOut :=
    Recency.foldl_keeps slidesOut arrange slidesOut_arrange _ d
  have hcan : ((List.range d.monitors.length).foldl arrange d).canSlide = d.canSlide :=
    Recency.foldl_keeps canSlide arrange canSlide_arrange _ d
  constructor
  · rw [belongs_of_scene hscene, waits_congr (placement_of_scene hscene w)]
    intro hbelongs hwaits
    exact onScreen_passes _ hw hbelongs hwaits (.inr (exists_meets_of_belongs hbelongs))
  · rw [belongs_of_scene hscene, hslides, ne_eq, monitors_of_views (views_of_scene hscene)]
    intro hmons hon hnot
    have hfirst : 0 < d.monitors.length := List.length_pos_iff.2 hmons
    exact .inl (leaves_passes _ hw hnot (.inr ⟨0, List.mem_range.2 hfirst, hfirst⟩) hon)
  · rw [hcan, hslides]
    exact h

/-- The slide-ins of a view switch leave the windows that slide out alone. -/
theorem slidesOut_start_tag_transition (d : Desk) (old new : ℕ) (ow : ℚ) (w : WinId) :
    (d.start_tag_transition old new ow).slidesOut w = d.slidesOut w ∧
      ((d.start_tag_transition old new ow).st w).slide_out = (d.st w).slide_out := by
  have hfield {α : Type} (g : WindowState → α) (hg : ∀ (st : WindowState) (x y : ℚ) (t : Option ℕ),
      st.slide_out = false → g { st with
        slide_from_x := x, slide_to_x := 0, slide_offset_x := y, slide_start := t } = g st) :
      g ((d.start_tag_transition old new ow).st w) = g (d.st w) := by
    unfold start_tag_transition
    dsimp only
    split_ifs
    · dsimp only
      refine Windows.modifyAll_field g d.st d.windows w _ fun v st => ?_
      split_ifs with hst
      · exact hg st _ _ _ hst.2.2.1
      · rfl
    · rfl
  constructor
  · refine hfield (fun st => st.slide_out && st.slide_start.isSome) fun st x y t hst => ?_
    simp only [hst, Bool.false_and]
  · exact hfield WindowState.slide_out fun _ _ _ _ _ => rfl

theorem settled_start_tag_transition (old new : ℕ) (ow : ℚ) (h : Settled frame d w) :
    Settled frame (d.start_tag_transition old new ow) w := by
  have hbare := bare_start_tag_transition d old new ow
  have hmapped : (d.start_tag_transition old new ow).onScreen = d.onScreen :=
    congrArg Roll.mapped (roll_start_tag_transition d old new ow)
  obtain ⟨hslides, hout⟩ := slidesOut_start_tag_transition d old new ow w
  exact h.congr (placement_of_scene (scene_of_bare hbare) w) (views_of_scene (scene_of_bare hbare))
    hslides hout (iff_of_eq (congrFun hmapped w)) (canSlide_of_bare hbare)

/-- **The passes settle a window.** -/
theorem settled_arrangePasses (hw : w ∈ d.windows)
    (h : d.canSlide = false → d.slidesOut w = false) : Settled frame d.arrangePasses w := by
  have hpasses : Settled frame ((List.range d.update_work_areas.monitors.length).foldl arrange
      { d.update_work_areas with pending_tag_transition := none }) w :=
    settled_passes (d := { d.update_work_areas with pending_tag_transition := none }) hw h
  unfold arrangePasses
  dsimp only
  split
  · exact settled_start_tag_transition _ _ _ hpasses
  · exact hpasses

/-! ### All managed windows -/

/-- Every managed window is where it belongs, and the configuration file keeps the slides on. -/
structure Shows (frame : Bool) (file : Config) (d : Desk) : Prop where
  settled : ∀ w ∈ d.windows, Settled frame d w
  lasts : d.canSlide = true → file.canSlide = true

/-- The passes can settle every managed window. -/
structure Mendable (file : Config) (d : Desk) : Prop where
  still : ∀ w ∈ d.windows, d.canSlide = false → d.slidesOut w = false
  lasts : d.canSlide = true → file.canSlide = true

variable {file : Config} {K L : Desk → Desk → Prop} {d₀ : Desk}

theorem Shows.mendable (h : Shows frame file d) : Mendable file d :=
  ⟨fun w hw => (h.settled w hw).still, h.lasts⟩

theorem windows_of_picture (hp : d'.picture = d.picture) : d'.windows = d.windows := by
  unfold picture at hp
  simp only [Prod.mk.injEq] at hp
  exact congrArg Scene.windows hp.2.1

theorem Shows.picture (h : Shows frame file d) (hp : d'.picture = d.picture) :
    Shows frame file d' := by
  have hcan : d'.canSlide = d.canSlide := congrArg (fun p => p.2.2.2) hp
  refine ⟨fun w hw => ?_, hcan ▸ h.lasts⟩
  rw [windows_of_picture hp] at hw
  exact (h.settled w hw).picture hp

theorem Shows.arrange (h : Shows frame file d) (i : ℕ) : Shows frame file (d.arrange i) := by
  refine ⟨fun w hw => ?_, (canSlide_arrange d i) ▸ h.lasts⟩
  rw [windows_arrange] at hw
  exact settled_arrange i hw (h.settled w hw)

theorem windows_of_bare (h : d'.bare = d.bare) : d'.windows = d.windows :=
  congrArg Scene.windows (scene_of_bare h)

theorem Shows.start_tag_transition (h : Shows frame file d) (old new : ℕ) (ow : ℚ) :
    Shows frame file (d.start_tag_transition old new ow) := by
  have hbare := bare_start_tag_transition d old new ow
  refine ⟨fun w hw => ?_, canSlide_of_bare hbare ▸ h.lasts⟩
  rw [windows_of_bare hbare] at hw
  exact settled_start_tag_transition old new ow (h.settled w hw)

/-- **The passes mend what an update left.** -/
theorem Mendable.arrangePasses (h : Mendable file d) : Shows frame file d.arrangePasses := by
  have hbare := bare_arrangePasses d
  refine ⟨fun w hw => ?_, canSlide_of_bare hbare ▸ h.lasts⟩
  rw [windows_of_bare hbare] at hw
  exact settled_arrangePasses hw (h.still w hw)

/-- The windows stay mendable when no other one slides out. -/
theorem Mendable.of_slides (h : Mendable file d) (hcan : d'.canSlide = d.canSlide)
    (hslides : ∀ w ∈ d'.windows, d'.slidesOut w = true → w ∈ d.windows ∧ d.slidesOut w = true) :
    Mendable file d' := by
  refine ⟨fun w hw hoff => Bool.eq_false_iff.2 fun hslide => ?_, hcan ▸ h.lasts⟩
  obtain ⟨hbefore, hslide⟩ := hslides w hw hslide
  rw [hcan] at hoff
  rw [h.still w hbefore hoff] at hslide
  cases hslide

theorem Mendable.of_bare (h : Mendable file d) (hbare : d'.bare = d.bare)
    (hslides : ∀ w, d'.slidesOut w = d.slidesOut w) : Mendable file d' := by
  refine h.of_slides (canSlide_of_bare hbare) fun w hw hslide => ?_
  rw [windows_of_bare hbare] at hw
  exact ⟨hw, hslides w ▸ hslide⟩

theorem Mendable.arrange (h : Mendable file d) (i : ℕ) : Mendable file (d.arrange i) :=
  h.of_bare (bare_arrange d i) (congrFun (slidesOut_arrange d i))

theorem Mendable.start_tag_transition (h : Mendable file d) (old new : ℕ) (ow : ℚ) :
    Mendable file (d.start_tag_transition old new ow) :=
  h.of_bare (bare_start_tag_transition d old new ow)
    fun w => (slidesOut_start_tag_transition d old new ow w).1

/-- An update that keeps the outline leaves the windows mendable. -/
theorem Mendable.outline (h : Mendable file d) (ho : d'.outline = d.outline) :
    Mendable file d' := by
  unfold Desk.outline at ho
  simp only [Prod.mk.injEq] at ho
  obtain ⟨hroll, hflags, hcan, -⟩ := ho
  refine h.of_slides hcan fun w hw hslide => ⟨?_, ?_⟩
  · exact (iff_of_eq (congrFun (congrArg Roll.managed hroll) w)).1 hw
  · rwa [(slidesOut_of_flags (congrFun hflags w)).1] at hslide

/-- Marking the windows that slide out needs slides to be on. -/
theorem Mendable.mark_slide_outs (h : Mendable file d) (old new : ℕ) (ow : ℚ) :
    Mendable file (d.mark_slide_outs old new ow) := by
  have hcfg : (d.mark_slide_outs old new ow).cfg = d.cfg :=
    (congrArg Desk.cfg (bare_mark_slide_outs d old new ow) :)
  by_cases hslides : d.slides old (new &&& d.cfg.tag_mask)
  · have hcan : d.canSlide = true := by
      unfold canSlide
      simp [hslides.2.2.2.1, hslides.2.2.2.2]
    have hcan' : (d.mark_slide_outs old new ow).canSlide = true := by
      unfold canSlide at hcan ⊢
      rwa [hcfg]
    refine ⟨fun w _ hoff => ?_, fun _ => h.lasts hcan⟩
    rw [hcan'] at hoff
    cases hoff
  · unfold Desk.mark_slide_outs
    dsimp only
    rw [if_neg hslides]
    exact h

/-- What a reload reads keeps the slides on when they are on. -/
theorem Mendable.reload (h : Mendable file d) : Mendable file { d with cfg := file } := by
  refine ⟨fun w hw hoff => h.still w hw ?_, id⟩
  by_contra hon
  have hfile : file.canSlide = true := h.lasts (Bool.of_not_eq_false hon)
  change file.canSlide = false at hoff
  rw [hfile] at hoff
  cases hoff

/-- **A chain in which the passes follow every stir keeps the windows settled**, if what the event
does on its own does. -/
theorem Mended.shows (hK : ∀ d d', K d d' → Shows frame file d → Shows frame file d')
    (hweak : ∀ d d', K d d' → Mendable file d → Mendable file d')
    (hL : ∀ d d', L d d' → Mendable file d → Mendable file d')
    (h : Mended file K L d₀ d) (hd : Shows frame file d₀) : Shows frame file d := by
  refine h.keeps (P := Shows frame file) (W := Mendable file) ?_ ?_ ?_
    (fun _ hw => hw.arrangePasses) (fun _ hp => hp.mendable) hd
  · intro d d' hc hd
    cases hc with
    | same _ hp => exact hd.picture hp
    | arrange i => exact hd.arrange i
    | slide old new ow => exact hd.start_tag_transition old new ow
    | own _ hk => exact hK _ _ hk hd
  · intro d d' hc hd
    cases hc with
    | same _ hp => exact hd.outline (outline_of_picture hp)
    | arrange i => exact hd.arrange i
    | slide old new ow => exact hd.start_tag_transition old new ow
    | own _ hk => exact hweak _ _ hk hd
  · intro d d' hs hd
    cases hs with
    | loose _ ho => exact hd.outline ho
    | mark old new ow => exact hd.mark_slide_outs old new ow
    | reload => exact hd.reload
    | own _ hl => exact hL _ _ hl hd

end Desk

end Compositor
