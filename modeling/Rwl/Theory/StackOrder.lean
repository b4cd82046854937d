import Mathlib.Tactic.Common
import Rwl.Theory.Passes

/-!
# The stack of windows that `arrange_all` leaves

* `Desk.Resting`: a desk on which the work areas, the layouts and the hidden windows are settled;
  `resting_arrangePasses`: one round of passes brings it about;
* `Rwl.arrange_all_settles`: from the third round on, `arrange_all` changes nothing;
* `Desk.level`, `Desk.ShownLast`: the layer of a window on the last monitor that shows it;
* `Rwl.arrange_all_stack`: floating windows above the tiled ones, fullscreen ones above these and
  scratchpads on top, and where each of them is.
-/

namespace Compositor

open Stacking (Instr run)

namespace Desk

variable {d d' : Desk}

/-! ### The rounds of `arrange_all` -/

/-- The desk on which the passes of `arrange_all` start. -/
def beforePasses (d : Desk) : Desk := { d.update_work_areas with pending_tag_transition := none }

theorem arrangePasses_of_none (h : d.pending_tag_transition = none) :
    d.arrangePasses = (List.range d.beforePasses.monitors.length).foldl arrange d.beforePasses := by
  unfold arrangePasses
  rw [h]
  rfl

theorem alike_beforePasses (d : Desk) : Alike d d.beforePasses :=
  ⟨bare_update_work_areas d, rfl, fun _ _ => rfl⟩

/-- A work area that follows the layers of its output stays. -/
theorem workArea_workArea (info : OutputInfo) (mon : Monitor) :
    workArea info { mon with w := workArea info mon } = workArea info mon := by
  unfold workArea
  dsimp only
  split_ifs <;> simp_all

/-- The work area of a monitor is the one its layers leave. -/
def Fitted (d : Desk) (m : Monitor) : Prop := workArea (d.output m.output) m = m.w

/-- Nothing on the desk waits for a pass but the stack of windows. -/
structure Resting (d : Desk) : Prop where
  pending : d.pending_tag_transition = none
  fitted : ∀ m ∈ d.monitors, d.Fitted m
  passed : ∀ i m, d.monitors[i]? = some m → d.passed i m = m
  quiet : d.monitors ≠ [] → d.Quiet

/-- What a round of passes does to the stack. -/
def roundProgram (d : Desk) : List (Instr WinId Point) :=
  (List.range d.monitors.length).flatMap d.programOf

/-- The rectangles a round of passes asks for. -/
def roundPendings (d : Desk) : List (WinId × Option Rect) :=
  (List.range d.monitors.length).flatMap d.pendingsOf

/-- What one round of passes does to a desk at rest. -/
structure RestRound (d d' : Desk) : Prop where
  resting : Resting d'
  alike : Alike d d'
  monitors : d'.monitors = d.monitors
  space : d'.space = run d.space d.roundProgram
  st : ∀ w, d'.st w = pended d.roundPendings w (d.st w)

theorem fitted_passed {m : Monitor} (h : d.Fitted m) (i : ℕ) : d.Fitted (d.passed i m) := by
  have harea : workArea (d.output (d.passed i m).output) (d.passed i m) =
      workArea (d.output m.output) m :=
    passed_frame (fun m => workArea (d.output m.output) m) (fun _ _ _ _ => rfl) d i m
  unfold Fitted
  rw [harea, passed_w]
  exact h

/-- The passes bring a desk to rest. -/
theorem resting_passes {d₀ : Desk} (hsteady : d₀.Steady)
    (hpending : d₀.pending_tag_transition = none)
    (hfitted : ∀ m ∈ d₀.monitors, d₀.Fitted m) :
    Resting ((List.range d₀.monitors.length).foldl arrange d₀) := by
  have hpasses := passes hsteady d₀.monitors.length le_rfl
  set d' := (List.range d₀.monitors.length).foldl arrange d₀ with hd'
  have hmem {j : ℕ} {m : Monitor} (hj : d'.monitors[j]? = some m) :
      ∃ m₀, d₀.monitors[j]? = some m₀ ∧ d₀.passed j m₀ = m := by
    rw [hpasses.monitors] at hj
    obtain ⟨m₀, hm₀, rfl⟩ := Option.map_eq_some_iff.1 hj
    exact ⟨m₀, hm₀, (if_pos (List.getElem?_eq_some_iff.1 hm₀).1).symm⟩
  have houtput : d'.output = d₀.output := (congrArg Desk.output hpasses.alike.bare :)
  refine ⟨?_, fun m hm => ?_, fun i m hm => ?_, fun hne => hpasses.quiet (.inr ?_)⟩
  · exact (Recency.foldl_keeps Desk.pending_tag_transition arrange pending_arrange _ _).trans
      hpending
  · obtain ⟨j, hj⟩ := List.mem_iff_getElem?.1 hm
    obtain ⟨m₀, hm₀, rfl⟩ := hmem hj
    have := fitted_passed (hfitted m₀ (List.mem_of_getElem? hm₀)) j
    unfold Fitted at this ⊢
    rwa [houtput]
  · obtain ⟨m₀, hm₀, rfl⟩ := hmem hm
    rw [hpasses.alike.passed, passed_passed]
  · have hlen : d'.monitors.length = d₀.monitors.length :=
      Recency.foldl_keeps (fun d : Desk => d.monitors.length) arrange length_monitors_arrange _ _
    have hpos : 0 < d₀.monitors.length := hlen ▸ List.length_pos_iff.2 hne
    exact ⟨hpos, List.length_pos_iff.1 hpos⟩

theorem Resting.congr (h : Resting d) (halike : Alike d d') (hmonitors : d'.monitors = d.monitors)
    (hspace : d'.space = d.space) (hpending : d'.pending_tag_transition = none) : Resting d' := by
  have houtput : d'.output = d.output := (congrArg Desk.output halike.bare :)
  have hwindows : d'.windows = d.windows := (congrArg Desk.windows halike.bare :)
  have hmapped : d'.onScreen = d.onScreen := by
    unfold Desk.onScreen
    rw [hspace]
  refine ⟨hpending, ?_, ?_, ?_⟩
  · unfold Fitted
    rw [hmonitors, houtput]
    exact h.fitted
  · intro i m hm
    rw [halike.passed]
    exact h.passed i m (hmonitors ▸ hm)
  · rw [hmonitors]
    intro hne w hw hnot hon
    rw [halike.slides]
    exact h.quiet hne w (hwindows ▸ hw) (fun hb => hnot ((halike.belongs w).2 hb)) (hmapped ▸ hon)

theorem alike_start_tag_transition (d : Desk) (old new : ℕ) (ow : ℚ) :
    Alike d (d.start_tag_transition old new ow) := by
  refine ⟨bare_start_tag_transition d old new ow,
    funext fun w => (slidesOut_start_tag_transition d old new ow w).1, fun w _ => ?_⟩
  unfold start_tag_transition
  dsimp only
  split_ifs
  · refine Windows.modifyAll_field WindowState.saved_loc d.st d.windows w _ fun v st => ?_
    split_ifs <;> rfl
  · rfl

theorem start_tag_transition_rest (d : Desk) (old new : ℕ) (ow : ℚ) :
    (d.start_tag_transition old new ow).monitors = d.monitors ∧
      (d.start_tag_transition old new ow).space = d.space ∧
      (d.start_tag_transition old new ow).pending_tag_transition = d.pending_tag_transition := by
  unfold start_tag_transition
  dsimp only
  split_ifs <;> exact ⟨rfl, rfl, rfl⟩

/-- `arrange_all` is a round of passes, and the slide that waited starts after it. -/
theorem arrangePasses_cases (d : Desk) :
    ∃ d', d' = (List.range d.beforePasses.monitors.length).foldl arrange d.beforePasses ∧
      Alike d' d.arrangePasses ∧ d.arrangePasses.monitors = d'.monitors ∧
      d.arrangePasses.space = d'.space := by
  refine ⟨_, rfl, ?_⟩
  set d' := (List.range d.beforePasses.monitors.length).foldl arrange d.beforePasses
  have hcases : d.arrangePasses = d' ∨
      ∃ old new ow, d.arrangePasses = d'.start_tag_transition old new ow := by
    unfold arrangePasses
    dsimp only
    split
    · exact .inr ⟨_, _, _, rfl⟩
    · exact .inl rfl
  rcases hcases with heq | ⟨old, new, ow, heq⟩
  · rw [heq]
    exact ⟨Alike.refl d', rfl, rfl⟩
  · rw [heq]
    have hrest := start_tag_transition_rest d' old new ow
    exact ⟨alike_start_tag_transition d' old new ow, hrest.1, hrest.2.1⟩

theorem Steady.congr (hsteady : d.Steady) (h : Alike d d') : d'.Steady := fun k l =>
  (h.call hsteady k l).trans (h.call hsteady l l).symm

/-- **One round of passes brings the desk to rest.** -/
theorem resting_arrangePasses (hsteady : d.Steady) : Resting d.arrangePasses := by
  have hfitted : ∀ m ∈ d.beforePasses.monitors, d.beforePasses.Fitted m := by
    intro m hm
    obtain ⟨m₀, -, rfl⟩ := List.mem_map.1 hm
    exact workArea_workArea _ m₀
  have hrest := resting_passes (hsteady.congr (alike_beforePasses d)) rfl hfitted
  obtain ⟨d', rfl, halike, hmonitors, hspace⟩ := arrangePasses_cases d
  exact hrest.congr halike hmonitors hspace (Rwl.pending_arrangePasses d)

/-- The first round, which fits the work areas and the layouts, has the program of the next. -/
theorem first_round (hsteady : d.Steady) : Alike d d.arrangePasses ∧
    d.arrangePasses.roundProgram = d.beforePasses.roundProgram ∧
    d.arrangePasses.space = run d.space d.beforePasses.roundProgram := by
  have halike₀ := alike_beforePasses d
  have hpasses := passes (hsteady.congr halike₀) d.beforePasses.monitors.length le_rfl
  obtain ⟨d', rfl, halike, hmonitors, hspace⟩ := arrangePasses_cases d
  have hall := hpasses.alike.trans halike
  have hlen : d.arrangePasses.monitors.length = d.beforePasses.monitors.length := by
    rw [hmonitors]
    exact Recency.foldl_keeps (fun d : Desk => d.monitors.length) arrange
      length_monitors_arrange _ _
  refine ⟨halike₀.trans hall, ?_, hspace.trans hpasses.space⟩
  unfold roundProgram
  rw [hlen]
  refine List.flatMap_congr fun j hj => ?_
  have hlt : j < d.beforePasses.monitors.length := List.mem_range.1 hj
  unfold programOf
  rw [hmonitors, hpasses.monitors, List.getElem?_eq_getElem hlt]
  simp only [Option.map_some, Option.getD_some, if_pos hlt]
  rw [hall.program (hsteady.congr halike₀), hall.passed, passed_passed]

theorem round_of_resting (hsteady : d.Steady) (h : Resting d) : RestRound d d.arrangePasses := by
  have hwork : d.beforePasses = d := by
    have hmons : d.monitors.map (fun mon => { mon with w := workArea (d.output mon.output) mon }) =
        d.monitors := by
      refine (List.map_congr_left fun m hm => ?_).trans (List.map_id _)
      rw [h.fitted m hm]
      rfl
    unfold beforePasses update_work_areas
    rw [hmons, ← h.pending]
  have hpasses := passes hsteady d.monitors.length le_rfl
  have heq := arrangePasses_of_none h.pending
  rw [hwork] at heq
  rw [← heq] at hpasses
  refine ⟨resting_arrangePasses hsteady, hpasses.alike, List.ext_getElem? fun j => ?_,
    hpasses.space, ?_⟩
  · rw [hpasses.monitors]
    cases hj : d.monitors[j]? with
    | none => rfl
    | some m =>
      rw [Option.map_some, h.passed j m hj, ite_self]
  · by_cases hne : d.monitors = []
    · intro w
      unfold roundPendings
      rw [heq, hne]
      rfl
    · exact hpasses.st (h.quiet hne)

theorem RestRound.programs (h : RestRound d d') (hsteady : d.Steady) :
    d'.roundProgram = d.roundProgram ∧ d'.roundPendings = d.roundPendings := by
  have hprogram : d'.programOf = d.programOf := by
    funext j
    unfold programOf
    rw [h.monitors]
    simp only [h.alike.program hsteady, h.alike.passed]
  have hpendings : d'.pendingsOf = d.pendingsOf := by
    funext j
    unfold pendingsOf
    rw [h.monitors]
    simp only [h.alike.pendings hsteady, h.alike.passed]
  unfold roundProgram roundPendings
  rw [hprogram, hpendings, h.monitors]
  exact ⟨rfl, rfl⟩

/-- A desk is what a pass leaves alone, with the stack, the monitors, the states, the waiting slide
and the number of the layout call. -/
theorem eq_of_bare (hbare : d'.bare = d.bare) (hspace : d'.space = d.space) (hst : d'.st = d.st)
    (hmonitors : d'.monitors = d.monitors)
    (hpending : d'.pending_tag_transition = d.pending_tag_transition) :
    d' = { d with lua_calls := d'.lua_calls } := by
  cases d
  cases d'
  simp only [bare, Desk.mk.injEq] at hbare hspace hst hmonitors hpending ⊢
  simp [hbare, hspace, hst, hmonitors, hpending]

/-- **Two rounds of passes are enough.** -/
theorem arrangePasses_settles (hnodup : (Stacking.keys d.space).Nodup) (hsteady : d.Steady) :
    d.arrangePasses.arrangePasses.arrangePasses =
      { d.arrangePasses.arrangePasses with
        lua_calls := d.arrangePasses.arrangePasses.arrangePasses.lua_calls } := by
  obtain ⟨halike₁, hprogram₁, hspace₁⟩ := first_round hsteady
  have hsteady₁ := hsteady.congr halike₁
  have hround₂ := round_of_resting hsteady₁ (resting_arrangePasses hsteady)
  have hsteady₂ := hsteady₁.congr hround₂.alike
  have hround₃ := round_of_resting hsteady₂ hround₂.resting
  obtain ⟨hprogram₂, hpendings₂⟩ := hround₂.programs hsteady₁
  refine eq_of_bare hround₃.alike.bare ?_ (funext fun w => ?_) hround₃.monitors
    (hround₃.resting.pending.trans hround₂.resting.pending.symm)
  · rw [hround₃.space, hround₂.space, hprogram₂, hprogram₁, hspace₁,
      Stacking.run_run_run hnodup]
  · rw [hround₃.st, hround₂.st, hpendings₂, pended_pended]

/-! ### The layers of the stack -/

/-- The layer of a window on a monitor that shows `tags`: tiled, floating, fullscreen, scratchpad;
none when the monitor does not place it. -/
def level (d : Desk) (tags : ℕ) (w : WinId) : Option ℕ :=
  match display tags d.all_visible (d.st w) with
  | .tiled => some 0
  | .floating => if (d.st w).scratch_key = noScratch then some 1 else some 3
  | .fullscreen => some 2
  | .hidden | .off => none

/-- Monitor `i` shows the window, in layer `a`, and no later one does. -/
structure ShownLast (d : Desk) (i : ℕ) (w : WinId) (a : ℕ) : Prop where
  mem : w ∈ d.windows
  level : ∀ mon, d.monitors[i]? = some mon → d.level mon.tags w = some a
  last : ∀ j mon, i < j → d.monitors[j]? = some mon → d.level mon.tags w = none

theorem Alike.level (h : Alike d d') (tags : ℕ) (w : WinId) : d'.level tags w = d.level tags w := by
  have hdisplay : display tags d.all_visible (d'.st w) = display tags d.all_visible (d.st w) :=
    (congrArg (display tags d.all_visible) (h.bareWindow w) :)
  unfold Desk.level
  rw [h.all_visible, hdisplay, h.scratch_key]

/-- The windows of a layer. -/
theorem level_eq_some_iff {tags a : ℕ} {w : WinId} (hw : w ∈ d.windows) :
    d.level tags w = some a ↔
      a = 0 ∧ w ∈ d.shown tags .tiled ∨ a = 1 ∧ w ∈ d.floats tags ∨
        a = 2 ∧ w ∈ d.shown tags .fullscreen ∨ a = 3 ∧ w ∈ d.scratches tags := by
  unfold level floats scratches shown
  simp only [List.mem_filter, hw, true_and, decide_eq_true_eq]
  rcases display tags d.all_visible (d.st w) with _ | _ | _ | _ | _
  · simp
  · simp [eq_comm]
  · by_cases hkey : (d.st w).scratch_key = noScratch <;> simp [hkey, eq_comm]
  · simp [eq_comm]
  · simp

theorem mem_tiles {m : Monitor} {p : WinId × Rect} (h : p ∈ d.tiles m) :
    p.1 ∈ d.shown m.tags .tiled :=
  (List.of_mem_zip h).1

/-- A pass is about the windows it unmaps and the windows of its layers. -/
theorem mem_program {i : ℕ} {m : Monitor} {x : Instr WinId Point} (h : x ∈ d.program i m) :
    x.key ∈ d.windows ∧ (¬d.belongs x.key ∨ d.level m.tags x.key ≠ none) := by
  have hlevel {w : WinId} (hw : w ∈ d.windows) (hmem : w ∈ d.shown m.tags .tiled ∨
      w ∈ d.floats m.tags ∨ w ∈ d.shown m.tags .fullscreen ∨ w ∈ d.scratches m.tags) :
      w ∈ d.windows ∧ (¬d.belongs w ∨ d.level m.tags w ≠ none) := by
    refine ⟨hw, .inr ?_⟩
    rw [Option.ne_none_iff_exists']
    rcases hmem with h | h | h | h
    · exact ⟨0, (level_eq_some_iff hw).2 (.inl ⟨rfl, h⟩)⟩
    · exact ⟨1, (level_eq_some_iff hw).2 (.inr (.inl ⟨rfl, h⟩))⟩
    · exact ⟨2, (level_eq_some_iff hw).2 (.inr (.inr (.inl ⟨rfl, h⟩)))⟩
    · exact ⟨3, (level_eq_some_iff hw).2 (.inr (.inr (.inr ⟨rfl, h⟩)))⟩
  unfold program at h
  simp only [List.mem_append, List.mem_map] at h
  rcases h with (((⟨w, hw, rfl⟩ | ⟨p, hp, rfl⟩) | ⟨w, hw, rfl⟩) | ⟨w, hw, rfl⟩) | ⟨w, hw, rfl⟩
  · obtain ⟨hmem, hnot⟩ := mem_hidden.1 (List.mem_of_mem_filter hw)
    exact ⟨hmem, .inl hnot⟩
  · have htiled := mem_tiles hp
    exact hlevel (List.mem_of_mem_filter htiled) (.inl htiled)
  · exact hlevel (List.mem_of_mem_filter (List.mem_of_mem_filter hw)) (.inr (.inl hw))
  · exact hlevel (List.mem_of_mem_filter hw) (.inr (.inr (.inl hw)))
  · exact hlevel (List.mem_of_mem_filter (List.mem_of_mem_filter hw)) (.inr (.inr (.inr hw)))

/-- The windows a pass raises, in their order. -/
def raised (d : Desk) (tags : ℕ) : List WinId :=
  d.floats tags ++ d.shown tags .fullscreen ++ d.scratches tags

/-- The part of a pass that raises windows. -/
def raisings (d : Desk) (m : Monitor) : List (Instr WinId Point) :=
  (d.floats m.tags).map (d.lifted m) ++
    (d.shown m.tags .fullscreen).map (fun w => Instr.cover w m.m.loc) ++
    (d.scratches m.tags).map (d.lifted m)

theorem keys_raisings (d : Desk) (m : Monitor) :
    (d.raisings m).map Instr.key = d.raised m.tags := by
  unfold raisings raised
  simp only [List.map_append, List.map_map]
  have hid {f : WinId → Instr WinId Point} (hf : ∀ w, (f w).key = w) (l : List WinId) :
      l.map (Instr.key ∘ f) = l :=
    (List.map_congr_left fun w _ => hf w).trans (List.map_id l)
  rw [hid fun _ => rfl, hid fun _ => rfl, hid fun _ => rfl]

theorem raises_raisings {m : Monitor} : ∀ x ∈ d.raisings m, x.Raises := by
  intro x hx
  unfold raisings at hx
  simp only [List.mem_append, List.mem_map] at hx
  rcases hx with (⟨w, _, rfl⟩ | ⟨w, _, rfl⟩) | ⟨w, _, rfl⟩ <;> exact fun _ => rfl

theorem program_eq (d : Desk) (i : ℕ) (m : Monitor) :
    d.program i m = ((d.leaving m.tags).map Instr.drop ++ (d.tiles m).map (d.tiledAt i m)) ++
      d.raisings m := by
  unfold program raisings
  simp only [List.append_assoc]

/-- Every window is in one layer. -/
theorem nodup_raised (hwindows : d.windows.Nodup) (tags : ℕ) : (d.raised tags).Nodup := by
  have hfull : (d.shown tags .fullscreen).Nodup := hwindows.filter _
  have hfloats : (d.floats tags).Nodup := (hwindows.filter _).filter _
  have hscratches : (d.scratches tags).Nodup := (hwindows.filter _).filter _
  refine List.Nodup.append (List.Nodup.append hfloats hfull fun w hw hw' => ?_) hscratches
    fun w hw hw' => ?_
  · have hwin := List.mem_of_mem_filter hw'
    have h₁ := (@level_eq_some_iff d tags _ w hwin).2 (.inr (.inl ⟨rfl, hw⟩))
    have h₂ := (@level_eq_some_iff d tags _ w hwin).2 (.inr (.inr (.inl ⟨rfl, hw'⟩)))
    exact absurd (h₁.symm.trans h₂) (by decide)
  · have hwin := List.mem_of_mem_filter (List.mem_of_mem_filter hw')
    have h₃ := (@level_eq_some_iff d tags _ w hwin).2 (.inr (.inr (.inr ⟨rfl, hw'⟩)))
    rcases List.mem_append.1 hw with hw | hw
    · have h₁ := (@level_eq_some_iff d tags _ w hwin).2 (.inr (.inl ⟨rfl, hw⟩))
      exact absurd (h₁.symm.trans h₃) (by decide)
    · have h₂ := (@level_eq_some_iff d tags _ w hwin).2 (.inr (.inr (.inl ⟨rfl, hw⟩)))
      exact absurd (h₂.symm.trans h₃) (by decide)

theorem mem_raised_iff {tags : ℕ} {w : WinId} (hw : w ∈ d.windows) :
    w ∈ d.raised tags ↔ ∃ a, 0 < a ∧ d.level tags w = some a := by
  unfold raised
  simp only [List.mem_append, level_eq_some_iff hw]
  constructor
  · rintro ((h | h) | h)
    · exact ⟨1, one_pos, .inr (.inl ⟨rfl, h⟩)⟩
    · exact ⟨2, two_pos, .inr (.inr (.inl ⟨rfl, h⟩))⟩
    · exact ⟨3, three_pos, .inr (.inr (.inr ⟨rfl, h⟩))⟩
  · rintro ⟨a, ha, ⟨rfl, -⟩ | ⟨-, h⟩ | ⟨-, h⟩ | ⟨-, h⟩⟩
    · exact absurd ha (lt_irrefl 0)
    · exact .inl (.inl h)
    · exact .inl (.inr h)
    · exact .inr h

/-- The tiled windows and their rectangles are as many. -/
theorem map_fst_tiles (d : Desk) (m : Monitor) :
    (d.tiles m).map Prod.fst = d.shown m.tags .tiled := by
  refine List.map_fst_zip (le_of_eq ?_)
  unfold tiledGeoms
  rw [layout.length_arrange, List.length_map]

/-- A tiled window is put at the rectangle the layout gives it. -/
theorem loc_tiled (hwindows : d.windows.Nodup) {i : ℕ} {m : Monitor} {p : WinId × Rect}
    (hp : p ∈ d.tiles m) (s : Space) :
    Stacking.loc (run s ((d.leaving m.tags).map Instr.drop ++ (d.tiles m).map (d.tiledAt i m)))
      p.1 = some p.2.loc := by
  obtain ⟨l₁, l₂, hsplit⟩ := List.append_of_mem hp
  have hnodup : ((d.tiles m).map Prod.fst).Nodup := by
    rw [map_fst_tiles]
    exact hwindows.filter _
  have hlate : ∀ q ∈ l₂, q.1 ≠ p.1 := by
    rw [hsplit, List.map_append, List.map_cons, List.nodup_append] at hnodup
    intro q hq heq
    exact (List.nodup_cons.1 hnodup.2.1).1 (heq ▸ List.mem_map_of_mem hq)
  have hlast := Stacking.loc_run_last (p := (d.leaving m.tags).map Instr.drop ++
    l₁.map (d.tiledAt i m)) (i := d.tiledAt i m p) (q := l₂.map (d.tiledAt i m)) ?_ s
  · rw [hsplit, List.map_append, List.map_cons, ← List.append_assoc]
    exact hlast
  · intro x hx
    obtain ⟨q, hq, rfl⟩ := List.mem_map.1 hx
    exact hlate q hq

/-- **The layers of one pass.** -/
theorem order_pass (hwindows : d.windows.Nodup) {i a b : ℕ} {m : Monitor} {v w : WinId}
    (hv : v ∈ d.windows) (hw : w ∈ d.windows) (ha : d.level m.tags v = some a)
    (hb : d.level m.tags w = some b) (s : Space)
    (h : a < b ∨ a = b ∧ 0 < a ∧ [v, w].Sublist d.windows) :
    [v, w].Sublist (Stacking.keys (run s (d.program i m))) := by
  rw [program_eq, Stacking.run_append, Stacking.keys_run_raises raises_raisings, keys_raisings]
  swap
  · rw [keys_raisings]
    exact nodup_raised hwindows _
  have hpair {l l' : List WinId} (h₁ : v ∈ l) (h₂ : w ∈ l') : [v, w].Sublist (l ++ l') :=
    (List.singleton_sublist.2 h₁).append (List.singleton_sublist.2 h₂)
  have hfilter {l : List WinId} {p : WinId → Bool} (h : [v, w].Sublist l) (h₁ : p v = true)
      (h₂ : p w = true) : [v, w].Sublist (l.filter p) := by
    have := h.filter p
    rwa [List.filter_cons_of_pos h₁, List.filter_cons_of_pos h₂] at this
  rcases Nat.eq_zero_or_pos a with rfl | hpos
  · -- a tiled window is under everything that is raised
    have hbpos : 0 < b := by
      rcases h with h | ⟨-, h, -⟩
      · exact h
      · exact absurd h (lt_irrefl 0)
    refine hpair (List.mem_filter.2 ⟨?_, ?_⟩) ((mem_raised_iff hw).2 ⟨b, hbpos, hb⟩)
    · obtain ⟨-, htiled⟩ : (0 : ℕ) = 0 ∧ v ∈ d.shown m.tags .tiled := by
        rcases (level_eq_some_iff hv).1 ha with h | h | h | h
        · exact h
        all_goals exact absurd h.1 (by decide)
      rw [← map_fst_tiles] at htiled
      obtain ⟨p, hp, rfl⟩ := List.mem_map.1 htiled
      by_contra hnot
      have hloc := loc_tiled (i := i) hwindows hp s
      rw [Stacking.loc_eq_none_iff.2 hnot] at hloc
      cases hloc
    · refine decide_eq_true fun hmem => ?_
      obtain ⟨c, hc, hlevel⟩ := (mem_raised_iff hv).1 hmem
      rw [ha] at hlevel
      exact absurd (Option.some.inj hlevel) hc.ne
  · refine List.Sublist.trans ?_ (List.sublist_append_right _ _)
    have hshown {k : Display} (hv : v ∈ d.shown m.tags k) (hw : w ∈ d.shown m.tags k)
        (h : [v, w].Sublist d.windows) : [v, w].Sublist (d.shown m.tags k) :=
      hfilter h (List.mem_filter.1 hv).2 (List.mem_filter.1 hw).2
    unfold raised
    rcases (level_eq_some_iff hv).1 ha with ⟨rfl, -⟩ | ⟨rfl, hv'⟩ | ⟨rfl, hv'⟩ | ⟨rfl, hv'⟩
    · exact absurd hpos (lt_irrefl 0)
    · -- floating, under what is fullscreen and under the scratchpads
      rcases (level_eq_some_iff hw).1 hb with ⟨rfl, -⟩ | ⟨rfl, hw'⟩ | ⟨rfl, hw'⟩ | ⟨rfl, hw'⟩
      · omega
      · obtain ⟨-, -, hsub⟩ := h.resolve_left (lt_irrefl 1)
        have hfloating := hshown (List.mem_of_mem_filter hv') (List.mem_of_mem_filter hw') hsub
        have hfloats : [v, w].Sublist (d.floats m.tags) :=
          hfilter hfloating (List.mem_filter.1 hv').2 (List.mem_filter.1 hw').2
        rw [List.append_assoc]
        exact hfloats.trans (List.sublist_append_left _ _)
      · exact (hpair hv' hw').trans (List.sublist_append_left _ _)
      · exact hpair (List.mem_append_left _ hv') hw'
    · -- fullscreen, under the scratchpads
      rcases (level_eq_some_iff hw).1 hb with ⟨rfl, -⟩ | ⟨rfl, -⟩ | ⟨rfl, hw'⟩ | ⟨rfl, hw'⟩
      · omega
      · omega
      · obtain ⟨-, -, hsub⟩ := h.resolve_left (lt_irrefl 2)
        exact ((hshown hv' hw' hsub).trans (List.sublist_append_right _ _)).trans
          (List.sublist_append_left _ _)
      · exact hpair (List.mem_append_right _ hv') hw'
    · -- a scratchpad, on top
      rcases (level_eq_some_iff hw).1 hb with ⟨rfl, -⟩ | ⟨rfl, -⟩ | ⟨rfl, -⟩ | ⟨rfl, hw'⟩
      · omega
      · omega
      · omega
      · obtain ⟨-, -, hsub⟩ := h.resolve_left (lt_irrefl 3)
        have hfloating := hshown (List.mem_of_mem_filter hv') (List.mem_of_mem_filter hw') hsub
        have hscratches : [v, w].Sublist (d.scratches m.tags) :=
          hfilter hfloating (List.mem_filter.1 hv').2 (List.mem_filter.1 hw').2
        exact hscratches.trans (List.sublist_append_right _ _)

/-- Where a pass puts the windows of its layers. -/
theorem loc_pass (hwindows : d.windows.Nodup) {i a : ℕ} {m : Monitor} {v : WinId}
    (hv : v ∈ d.windows) (ha : d.level m.tags v = some a) (s : Space) :
    (a = 0 → ∃ r, (v, r) ∈ d.tiles m ∧
      Stacking.loc (run s (d.program i m)) v = some r.loc) ∧
    (a = 2 → Stacking.loc (run s (d.program i m)) v = some m.m.loc) := by
  constructor
  · rintro rfl
    have htiled : v ∈ d.shown m.tags .tiled := by
      rcases (level_eq_some_iff hv).1 ha with h | h | h | h
      · exact h.2
      all_goals exact absurd h.1 (by decide)
    rw [← map_fst_tiles] at htiled
    obtain ⟨p, hp, rfl⟩ := List.mem_map.1 htiled
    refine ⟨p.2, hp, ?_⟩
    rw [program_eq, Stacking.run_append, Stacking.loc_run_of_ne]
    · exact loc_tiled hwindows hp s
    · intro x hx heq
      have hmem : x.key ∈ d.raised m.tags := keys_raisings d m ▸ List.mem_map_of_mem hx
      obtain ⟨c, hc, hlevel⟩ := (mem_raised_iff hv).1 (heq ▸ hmem)
      rw [ha] at hlevel
      exact absurd (Option.some.inj hlevel) hc.ne
  · rintro rfl
    have hfull : v ∈ d.shown m.tags .fullscreen := by
      rcases (level_eq_some_iff hv).1 ha with h | h | h | h
      all_goals first | exact h.2 | exact absurd h.1 (by decide)
    obtain ⟨l₁, l₂, hsplit⟩ := List.append_of_mem hfull
    have hnodup : (l₁ ++ v :: l₂).Nodup := hsplit ▸ hwindows.filter _
    have hlate : v ∉ l₂ := (List.nodup_cons.1 (List.nodup_append.1 hnodup).2.1).1
    have hscratch : v ∉ d.scratches m.tags := by
      intro hmem
      have h₃ := (level_eq_some_iff hv).2 (.inr (.inr (.inr ⟨rfl, hmem⟩)))
      exact absurd (ha.symm.trans h₃) (by decide)
    have hlast := Stacking.loc_run_last
      (p := (d.leaving m.tags).map Instr.drop ++ (d.tiles m).map (d.tiledAt i m) ++
        (d.floats m.tags).map (d.lifted m) ++ l₁.map (fun w => Instr.cover w m.m.loc))
      (i := Instr.cover v m.m.loc)
      (q := l₂.map (fun w => Instr.cover w m.m.loc) ++ (d.scratches m.tags).map (d.lifted m)) ?_ s
    · unfold program
      rw [hsplit, List.map_append, List.map_cons]
      simp only [List.append_assoc, List.cons_append] at hlast ⊢
      exact hlast
    · intro x hx heq
      rcases List.mem_append.1 hx with hx | hx
      · obtain ⟨w, hw, rfl⟩ := List.mem_map.1 hx
        have hwv : w = v := heq
        exact hlate (hwv ▸ hw)
      · obtain ⟨w, hw, rfl⟩ := List.mem_map.1 hx
        have hwv : w = v := heq
        exact hscratch (hwv ▸ hw)

/-- The flags behind the categories of a pass. -/
theorem display_flags {tags visible : ℕ} {st : WindowState} {k : Display}
    (h : display tags visible st = k) :
    (k = .tiled → st.is_floating = false ∧ st.is_fullscreen = false) ∧
      (k = .fullscreen → st.is_fullscreen = true) ∧
      (k = .floating → st.is_floating = true ∧ st.is_fullscreen = false) := by
  subst h
  unfold display
  split_ifs <;> simp_all

theorem belongs_of_level {tags a : ℕ} {w : WinId} (hw : w ∈ d.windows)
    (h : d.level tags w = some a) : d.belongs w := by
  rcases (level_eq_some_iff hw).1 h with ⟨-, h⟩ | ⟨-, h⟩ | ⟨-, h⟩ | ⟨-, h⟩
  · exact belongs_of_maps (.inl h)
  · exact belongs_of_maps (.inr (.inl (List.mem_of_mem_filter h)))
  · exact belongs_of_maps (.inr (.inr h))
  · exact belongs_of_maps (.inr (.inl (List.mem_of_mem_filter h)))

/-- A floating window that is on the screen stays where it is. -/
theorem loc_floating {j a : ℕ} {m m' : Monitor} {v : WinId} (hv : v ∈ d.windows)
    (ha : d.level m.tags v = some a) (hfloat : a = 1 ∨ a = 3) {x : Instr WinId Point}
    (hx : x ∈ d.program j m') (hkey : x.key = v) (p : Point) : x.place (some p) = some p := by
  have hfloating : v ∈ d.shown m.tags .floating := by
    rcases (level_eq_some_iff hv).1 ha with h | h | h | h
    · omega
    · exact List.mem_of_mem_filter h.2
    · omega
    · exact List.mem_of_mem_filter h.2
  have hdisplay := of_decide_eq_true (List.mem_filter.1 hfloating).2
  obtain ⟨hflag, hflag'⟩ := (display_flags hdisplay).2.2 rfl
  unfold program at hx
  simp only [List.mem_append, List.mem_map] at hx
  rcases hx with (((⟨w, hw, rfl⟩ | ⟨q, hq, rfl⟩) | ⟨w, hw, rfl⟩) | ⟨w, hw, rfl⟩) | ⟨w, hw, rfl⟩
  · have hwv : w = v := hkey
    have hnot := (mem_hidden.1 (List.mem_of_mem_filter hw)).2
    exact absurd (belongs_of_maps (.inr (.inl hfloating))) (hwv ▸ hnot)
  · have hwv : q.1 = v := hkey
    have htiled := of_decide_eq_true (List.mem_filter.1 (mem_tiles hq)).2
    have := ((display_flags htiled).1 rfl).1
    rw [hwv, hflag] at this
    cases this
  · rfl
  · have hwv : w = v := hkey
    have hfull := of_decide_eq_true (List.mem_filter.1 hw).2
    have := (display_flags hfull).2.1 rfl
    rw [hwv, hflag'] at this
    cases this
  · rfl

/-- The round of passes seen from one monitor: what comes before its pass, the pass, and the passes
of later monitors, which leave the windows alone that it is the last to show. -/
theorem roundProgram_split {i : ℕ} {mon : Monitor} (hm : d.monitors[i]? = some mon) :
    ∃ p q, d.roundProgram = p ++ d.program i (d.passed i mon) ++ q ∧
      (∀ x ∈ p, ∃ j m, j < i ∧ d.monitors[j]? = some m ∧ x ∈ d.program j (d.passed j m)) ∧
      ∀ x ∈ q, ∃ j m, i < j ∧ d.monitors[j]? = some m ∧ x ∈ d.program j (d.passed j m) := by
  have hi : i < d.monitors.length := (List.getElem?_eq_some_iff.1 hm).1
  obtain ⟨l₁, l₂, hsplit⟩ := List.append_of_mem (List.mem_range.2 hi)
  have hsorted : (l₁ ++ i :: l₂).Pairwise (· < ·) := hsplit ▸ List.pairwise_lt_range
  have hlate : ∀ j ∈ l₂, i < j := fun j hj =>
    List.rel_of_pairwise_cons (List.pairwise_append.1 hsorted).2.1 hj
  have hearly : ∀ j ∈ l₁, j < i := fun j hj =>
    (List.pairwise_append.1 hsorted).2.2 j hj i List.mem_cons_self
  have hmem {l : List ℕ} {x : Instr WinId Point} (hx : x ∈ l.flatMap d.programOf) :
      ∃ j ∈ l, ∃ m, d.monitors[j]? = some m ∧ x ∈ d.program j (d.passed j m) := by
    obtain ⟨j, hj, hx⟩ := List.mem_flatMap.1 hx
    unfold programOf at hx
    cases hmj : d.monitors[j]? with
    | none =>
      rw [hmj] at hx
      exact absurd hx List.not_mem_nil
    | some m =>
      rw [hmj] at hx
      exact ⟨j, hj, m, hmj, hx⟩
  have hprogram : d.programOf i = d.program i (d.passed i mon) := by
    unfold programOf
    rw [hm]
    rfl
  refine ⟨l₁.flatMap d.programOf, l₂.flatMap d.programOf, ?_, fun x hx => ?_, fun x hx => ?_⟩
  · unfold roundProgram
    rw [hsplit, List.flatMap_append, List.flatMap_cons, hprogram, List.append_assoc]
  · obtain ⟨j, hj, m, hmj, hx⟩ := hmem hx
    exact ⟨j, m, hearly j hj, hmj, hx⟩
  · obtain ⟨j, hj, m, hmj, hx⟩ := hmem hx
    exact ⟨j, m, hlate j hj, hmj, hx⟩

theorem Alike.shownLast (h : Alike d d') {i b : ℕ} {w : WinId} (hw : d.ShownLast i w b) :
    d'.ShownLast i w b := by
  have hviews : d'.views = d.views := views_of_scene (scene_of_bare h.bare)
  have hwindows : d'.windows = d.windows := (congrArg Desk.windows h.bare :)
  have htags {j : ℕ} {m : Monitor} (hm : d'.monitors[j]? = some m) :
      ∃ m₀, d.monitors[j]? = some m₀ ∧ m₀.tags = m.tags := by
    have hview : (d'.monitors[j]?).map Monitor.tags = (d.monitors[j]?).map Monitor.tags := by
      simpa [views] using congrArg (fun l : List ℕ => l[j]?) hviews
    rw [hm] at hview
    exact Option.map_eq_some_iff.1 hview.symm
  refine ⟨hwindows ▸ hw.mem, fun m hm => ?_, fun j m hj hm => ?_⟩
  · obtain ⟨m₀, hm₀, htags⟩ := htags hm
    rw [← htags, h.level]
    exact hw.level m₀ hm₀
  · obtain ⟨m₀, hm₀, htags⟩ := htags hm
    rw [← htags, h.level]
    exact hw.last j m₀ hj hm₀

/-- The passes of later monitors are not about a window that a monitor is the last to show. -/
theorem Resting.later (h : Resting d) {i j b : ℕ} {m mon : Monitor} {w : WinId}
    (hm : d.monitors[i]? = some m) (hw : d.ShownLast i w b) (hj : i < j)
    (hmon : d.monitors[j]? = some mon) {x : Instr WinId Point}
    (hx : x ∈ d.program j (d.passed j mon)) : x.key ≠ w := by
  rintro rfl
  rw [h.passed j mon hmon] at hx
  rcases (mem_program hx).2 with hnot | hlevel
  · exact hnot (belongs_of_level hw.mem (hw.level m hm))
  · exact hlevel (hw.last j mon hj hmon)

/-- **The stack a round of passes leaves.** -/
theorem arrangePasses_stack {d₀ : Desk} (hwindows : d₀.windows.Nodup) (hsteady : d₀.Steady)
    {i a : ℕ} {v : WinId} (hv : d₀.ShownLast i v a) {m : Monitor}
    (hm : d₀.arrangePasses.monitors[i]? = some m) :
    (∀ b w, d₀.ShownLast i w b →
      a < b ∨ a = b ∧ 0 < a ∧ [v, w].Sublist d₀.windows →
        [v, w].Sublist (Stacking.keys d₀.arrangePasses.space)) ∧
    (a = 0 → ∃ r, (v, r) ∈ d₀.arrangePasses.tiles m ∧
      Stacking.loc d₀.arrangePasses.space v = some r.loc) ∧
    (a = 2 → Stacking.loc d₀.arrangePasses.space v = some m.m.loc) ∧
    (a = 1 ∨ a = 3 → ∀ p, Stacking.loc d₀.space v = some p →
      Stacking.loc d₀.arrangePasses.space v = some p) := by
  obtain ⟨halike, hprogram, hspace⟩ := first_round hsteady
  have hrest : Resting d₀.arrangePasses := resting_arrangePasses hsteady
  rw [← hprogram] at hspace
  set d := d₀.arrangePasses
  have hwindows' : d.windows = d₀.windows := (congrArg Desk.windows halike.bare :)
  have hwindows₂ : d.windows.Nodup := hwindows' ▸ hwindows
  obtain ⟨p, q, hsplit, hp, hq⟩ := roundProgram_split hm
  rw [hrest.passed i m hm] at hsplit
  rw [hsplit, Stacking.run_append, Stacking.run_append] at hspace
  have hlater {w : WinId} {b : ℕ} (h : d.ShownLast i w b) : ∀ x ∈ q, x.key ≠ w := by
    intro x hx
    obtain ⟨j, m', hj, hm', hx⟩ := hq x hx
    exact hrest.later hm h hj hm' hx
  have hv' := halike.shownLast hv
  have hlevel := hv'.level m hm
  have hplace := loc_pass hwindows₂ (i := i) hv'.mem hlevel (run d₀.space p)
  have hlast : Stacking.loc d.space v =
      Stacking.loc (run (run d₀.space p) (d.program i m)) v := by
    rw [hspace, Stacking.loc_run_of_ne (hlater hv')]
  refine ⟨fun b w hw h => ?_, fun ha => ?_, fun ha => hlast.trans (hplace.2 ha),
    fun ha x hx => ?_⟩
  · have hw' := halike.shownLast hw
    have horder := order_pass hwindows₂ (i := i) hv'.mem hw'.mem hlevel (hw'.level m hm)
      (run d₀.space p) (hwindows' ▸ h)
    rw [hspace]
    refine Stacking.sublist_run (fun c hc x hx => ?_) horder
    rcases List.mem_pair.1 hc with rfl | rfl
    · exact hlater hv' x hx
    · exact hlater hw' x hx
  · obtain ⟨r, hr, hloc⟩ := hplace.1 ha
    exact ⟨r, hr, hlast.trans hloc⟩
  · rw [hspace]
    have hlift {j : ℕ} {m' : Monitor} {y : Instr WinId Point} (hy : y ∈ d.program j m')
        (hkey : y.key = v) : y.place (some x) = some x :=
      loc_floating hv'.mem hlevel ha hy hkey x
    refine Stacking.loc_run_lifts (fun y hy hkey => absurd hkey (hlater hv' y hy))
      (Stacking.loc_run_lifts (fun y hy hkey => hlift hy hkey)
        (Stacking.loc_run_lifts (fun y hy hkey => ?_) hx))
    obtain ⟨j, m', -, -, hy⟩ := hp y hy
    exact hlift hy hkey

end Desk

namespace Rwl

open Desk

/-- **The stack that `arrange_all` leaves.** Of two windows that a monitor is the last to show, the
one in the lower layer is below the other; floating and fullscreen windows and scratchpads of one
layer keep the order of the window list. A tiled window is at the rectangle of the layout, a
fullscreen one at the corner of the monitor, and a floating one stays where it is. -/
theorem arrange_all_stack (s : Rwl) (hwindows : s.desk.windows.Nodup)
    (hsteady : ∀ k l, s.desk.on_arrange k = s.desk.on_arrange l) {i a : ℕ} {v : WinId} {m : Monitor}
    (hv : s.desk.ShownLast i v a) (hm : s.arrange_all.desk.monitors[i]? = some m) :
    let d := s.arrange_all.desk
    (∀ b w, s.desk.ShownLast i w b →
      a < b ∨ a = b ∧ 0 < a ∧ [v, w].Sublist s.desk.windows →
        [v, w].Sublist (d.space.map Prod.fst)) ∧
    (a = 0 → ∃ r, (v, r) ∈ d.tiles m ∧ Space.element_location d.space v = some r.loc) ∧
    (a = 2 → Space.element_location d.space v = some m.m.loc) ∧
    (a = 1 ∨ a = 3 → ∀ p, Space.element_location s.desk.space v = some p →
      Space.element_location d.space v = some p) := by
  rw [desk_arrange_all] at hm ⊢
  exact arrangePasses_stack hwindows hsteady hv hm

/-- A tiled, a floating and a fullscreen window, stacked the wrong way round. -/
def jumbled : Rwl :=
  let s := init (plainSetup [] [])
  { s with desk := { s.desk with
      windows := [0, 1, 2]
      st := fun w => { WindowState.new with
        tags := 1
        rules_applied := true
        is_floating := decide (w = 1)
        is_fullscreen := decide (w = 2) }
      space := [(2, ⟨9, 9⟩), (1, ⟨5, 5⟩), (0, ⟨1, 1⟩)]
      output := fun _ => plainOutput "a"
      monitors := [{ Monitor.new s.desk.cfg 0 "a" with
        m := Rect.of 0 0 800 600
        w := Rect.of 0 0 800 600 }] } }

theorem arrange_all_stack_jumbled :
    [(1 : WinId), 2].Sublist (jumbled.arrange_all.desk.space.map Prod.fst) := by
  have hshown (w : WinId) (a : ℕ) (hw : w ∈ jumbled.desk.windows)
      (h : jumbled.desk.level 1 w = some a) : jumbled.desk.ShownLast 0 w a := by
    refine ⟨hw, fun mon hm => ?_, fun j mon hj hm => ?_⟩
    · cases hm
      exact h
    · obtain ⟨k, rfl⟩ : ∃ k, j = k + 1 := ⟨j - 1, by omega⟩
      exact absurd hm (by simp [jumbled])
  exact (arrange_all_stack jumbled (by decide) (fun _ _ => rfl)
    (hshown 1 1 (by decide) (by decide)) rfl).1 2 2
    (hshown 2 2 (by decide) (by decide)) (.inl (by decide))

/-- **Two rounds are enough.** However windows, views, layouts and scratchpads lie, the third
`arrange_all` in a row moves no window, changes no order, no state and no monitor. -/
theorem arrange_all_settles (s : Rwl) (hnodup : (s.desk.space.map Prod.fst).Nodup)
    (hsteady : ∀ k l, s.desk.on_arrange k = s.desk.on_arrange l) :
    s.arrange_all.arrange_all.arrange_all.desk =
      { s.arrange_all.arrange_all.desk with
        lua_calls := s.arrange_all.arrange_all.arrange_all.desk.lua_calls } := by
  rw [desk_arrange_all, desk_arrange_all, desk_arrange_all]
  exact arrangePasses_settles hnodup hsteady

theorem arrange_all_settles_jumbled :
    jumbled.arrange_all.arrange_all.arrange_all.desk.space =
      jumbled.arrange_all.arrange_all.desk.space := by
  rw [arrange_all_settles jumbled (by decide) fun _ _ => rfl]

end Rwl

/-! ### The monocle layout -/

namespace Desk

/-- A tiled window is tiled by every pass that is about it. -/
theorem tile_of_tiled {d : Desk} {tags j : ℕ} {m : Monitor} {v : WinId} (hv : v ∈ d.windows)
    (h : d.level tags v = some 0) {x : Stacking.Instr WinId Point} (hx : x ∈ d.program j m)
    (hkey : x.key = v) : ∃ q ∈ d.tiles m, q.1 = v ∧ x = d.tiledAt j m q := by
  have htiled : v ∈ d.shown tags .tiled := by
    rcases (level_eq_some_iff hv).1 h with h | h | h | h
    · exact h.2
    all_goals exact absurd h.1 (by decide)
  obtain ⟨hfloating, hfullscreen⟩ :=
    (display_flags (of_decide_eq_true (List.mem_filter.1 htiled).2)).1 rfl
  have hnot {w : WinId} (hw : w ∈ d.shown m.tags .floating) (hwv : w = v) : False := by
    have := ((display_flags (of_decide_eq_true (List.mem_filter.1 hw).2)).2.2 rfl).1
    rw [hwv, hfloating] at this
    cases this
  unfold program at hx
  simp only [List.mem_append, List.mem_map] at hx
  rcases hx with (((⟨w, hw, rfl⟩ | ⟨q, hq, rfl⟩) | ⟨w, hw, rfl⟩) | ⟨w, hw, rfl⟩) | ⟨w, hw, rfl⟩
  · have hwv : w = v := hkey
    have hhidden := (mem_hidden.1 (List.mem_of_mem_filter hw)).2
    exact absurd (belongs_of_maps (.inl htiled)) (hwv ▸ hhidden)
  · exact ⟨q, hq, hkey, rfl⟩
  · exact (hnot (List.mem_of_mem_filter hw) hkey).elim
  · have hwv : w = v := hkey
    have := (display_flags (of_decide_eq_true (List.mem_filter.1 hw).2)).2.1 rfl
    rw [hwv, hfullscreen] at this
    cases this
  · exact (hnot (List.mem_of_mem_filter hw) hkey).elim

/-- On a desk at rest, a round raises the focused window of a monocle monitor over the others. -/
theorem Resting.monocle {d d' : Desk} (h : Desk.Resting d) (hround : Desk.RestRound d d')
    (hwindows : d.windows.Nodup) {i : ℕ} {m : Monitor} {f v : WinId} {r : Rect}
    (hm : d.monitors[i]? = some m) (hkind : m.layout_kind d.cfg = .Monocle)
    (hfocus : d.topOn m.tags i = some f) (hf : d.ShownLast i f 0) (hv : d.ShownLast i v 0)
    (hne : v ≠ f)
    (honly : ∀ j mon, j ≠ i → d.monitors[j]? = some mon → d.level mon.tags f = none)
    (hr : (f, r) ∈ d.tiles m) (hlocf : Stacking.loc d.space f = some r.loc)
    (hlocv : Stacking.loc d.space v ≠ none) : [v, f].Sublist (Stacking.keys d'.space) := by
  obtain ⟨p, q, hsplit, hp, hq⟩ := roundProgram_split hm
  rw [h.passed i m hm] at hsplit
  obtain ⟨t₁, t₂, htiles⟩ := List.append_of_mem hr
  have hlevelf := hf.level m hm
  have hlevelv := hv.level m hm
  have hbelongs := belongs_of_level hf.mem hlevelf
  have hnodup : ((t₁ ++ (f, r) :: t₂).map Prod.fst).Nodup := by
    rw [← htiles, map_fst_tiles]
    exact hwindows.filter _
  rw [List.map_append, List.map_cons, List.nodup_append] at hnodup
  obtain ⟨-, hlate, hearly⟩ := hnodup
  -- no other instruction is about the focused window
  have hearlier : ∀ x ∈ p, x.key ≠ f := by
    rintro x hx rfl
    obtain ⟨j, mon, hj, hmon, hx⟩ := hp x hx
    rw [h.passed j mon hmon] at hx
    rcases (mem_program hx).2 with hnot | hlevel
    · exact hnot hbelongs
    · exact hlevel (honly j mon hj.ne hmon)
  have hleaving : ∀ w ∈ d.leaving m.tags, w ≠ f := by
    rintro w hw rfl
    exact (mem_hidden.1 (List.mem_of_mem_filter hw)).2 hbelongs
  have ht₁ : ∀ x ∈ t₁, x.1 ≠ f := fun x hx =>
    hearly x.1 (List.mem_map_of_mem hx) f List.mem_cons_self
  have ht₂ : ∀ x ∈ t₂, x.1 ≠ f := by
    intro x hx heq
    have hmem : x.1 ∈ t₂.map Prod.fst := List.mem_map_of_mem hx
    exact (List.nodup_cons.1 hlate).1 (heq ▸ hmem)
  have hraised : ∀ x ∈ d.raisings m, x.key ≠ f := by
    intro x hx heq
    have hmem : x.key ∈ d.raised m.tags := keys_raisings d m ▸ List.mem_map_of_mem hx
    obtain ⟨c, hc, hlevel⟩ := (mem_raised_iff hf.mem).1 (heq ▸ hmem)
    rw [hlevelf] at hlevel
    exact absurd (Option.some.inj hlevel) hc.ne
  set before := p ++ ((d.leaving m.tags).map Stacking.Instr.drop ++ t₁.map (d.tiledAt i m))
  set after := t₂.map (d.tiledAt i m) ++ d.raisings m ++ q
  have hprogram : d.roundProgram = before ++ d.tiledAt i m (f, r) :: after := by
    rw [hsplit, program_eq, htiles]
    simp only [before, after, List.map_append, List.map_cons, List.append_assoc, List.cons_append]
  have hbefore : ∀ x ∈ before, x.key ≠ f := by
    intro x hx
    rcases List.mem_append.1 hx with hx | hx
    · exact hearlier x hx
    · rcases List.mem_append.1 hx with hx | hx
      · obtain ⟨w, hw, rfl⟩ := List.mem_map.1 hx
        exact hleaving w hw
      · obtain ⟨y, hy, rfl⟩ := List.mem_map.1 hx
        exact ht₁ y hy
  have hmove : (d.tiledAt i m (f, r)).move
      (Stacking.loc (Stacking.run d.space before) f) = .raise f := by
    rw [Stacking.loc_run_of_ne hbefore, hlocf]
    exact if_pos ⟨rfl, decide_eq_true ⟨hfocus, hkind⟩⟩
  rw [hround.space, hprogram]
  refine Stacking.sublist_run_raise (i := d.tiledAt i m (f, r)) hmove hne
    (Stacking.loc_run_ne_none (fun x hx hkey y => ?_) hlocv) (fun x hx => ?_) (fun x hx hkey => ?_)
  · -- every instruction about the other window tiles it
    obtain ⟨j, mon, hx⟩ : ∃ j mon, x ∈ d.program j mon := by
      rcases List.mem_append.1 hx with hx | hx
      · obtain ⟨j, mon, -, -, hx⟩ := hp x hx
        exact ⟨j, _, hx⟩
      · refine ⟨i, m, ?_⟩
        rw [program_eq, htiles, List.map_append, ← List.append_assoc]
        exact List.mem_append_left _ (List.mem_append_left _ hx)
    obtain ⟨z, -, -, rfl⟩ := tile_of_tiled hv.mem hlevelv hx hkey
    exact Option.some_ne_none _
  · rcases List.mem_append.1 hx with hx | hx
    · rcases List.mem_append.1 hx with hx | hx
      · obtain ⟨y, hy, rfl⟩ := List.mem_map.1 hx
        exact ht₂ y hy
      · exact hraised x hx
    · obtain ⟨j, mon, hj, hmon, hx⟩ := hq x hx
      exact h.later hm hf hj hmon hx
  · rcases List.mem_append.1 hx with hx | hx
    · have hmem : x ∈ d.program i m := by
        rw [program_eq, htiles, List.map_append, List.map_cons]
        rcases List.mem_append.1 hx with hx | hx
        · exact List.mem_append_left _ (List.mem_append_right _
            (List.mem_append_right _ (List.mem_cons_of_mem _ hx)))
        · exact List.mem_append_right _ hx
      obtain ⟨z, -, hz, rfl⟩ := tile_of_tiled hv.mem hlevelv hmem hkey
      refine ⟨z.2.loc, ?_⟩
      have hback : decide (d.topOn m.tags i = some z.1 ∧ m.layout_kind d.cfg = .Monocle) =
          false := by
        refine decide_eq_false fun hfront => ?_
        rw [hfocus, hz] at hfront
        exact hne (Option.some.inj hfront.1).symm
      unfold tiledAt
      rw [hback, hz]
    · obtain ⟨j, mon, hj, hmon, hx⟩ := hq x hx
      exact absurd hkey (h.later hm hv hj hmon hx)

end Desk

namespace Rwl

open Desk

/-- **The focused window of a monocle monitor comes on top.** Two rounds of `arrange_all` bring the
focused tiled window above every other tiled window of its monitor. The first round may leave it
below, since a window that is moved keeps its place in the stack. -/
theorem arrange_all_monocle (s : Rwl) (hwindows : s.desk.windows.Nodup)
    (hsteady : ∀ k l, s.desk.on_arrange k = s.desk.on_arrange l) {i : ℕ} {f v : WinId}
    {mon : Monitor}
    (hmon : s.desk.monitors[i]? = some mon) (hfocus : s.desk.topOn mon.tags i = some f)
    (hf : s.desk.ShownLast i f 0) (hv : s.desk.ShownLast i v 0) (hne : v ≠ f)
    (honly : ∀ j m, j ≠ i → s.desk.monitors[j]? = some m → s.desk.level m.tags f = none)
    (hmonocle : ∀ m, s.arrange_all.desk.monitors[i]? = some m →
      m.layout_kind s.desk.cfg = .Monocle) :
    [v, f].Sublist (s.arrange_all.arrange_all.desk.space.map Prod.fst) := by
  have hd : s.arrange_all.desk = s.desk.arrangePasses := desk_arrange_all s
  have hd₂ : s.arrange_all.arrange_all.desk = s.desk.arrangePasses.arrangePasses := by
    rw [desk_arrange_all, hd]
  rw [hd] at hmonocle
  rw [hd₂]
  obtain ⟨halike, -, -⟩ := first_round (d := s.desk) hsteady
  have hrest : Resting s.desk.arrangePasses := resting_arrangePasses hsteady
  have hround := round_of_resting (Steady.congr hsteady halike) hrest
  have hviews : s.desk.arrangePasses.views = s.desk.views :=
    views_of_scene (scene_of_bare halike.bare)
  have htags (j : ℕ) : (s.desk.arrangePasses.monitors[j]?).map Monitor.tags =
      (s.desk.monitors[j]?).map Monitor.tags := by
    simpa [views] using congrArg (fun l : List ℕ => l[j]?) hviews
  obtain ⟨m, hm, hmtags⟩ : ∃ m, s.desk.arrangePasses.monitors[i]? = some m ∧ m.tags = mon.tags := by
    have := htags i
    rw [hmon] at this
    exact Option.map_eq_some_iff.1 this
  -- after the first round both windows are at their rectangles
  obtain ⟨r, hr, hlocf⟩ := (arrangePasses_stack hwindows hsteady hf hm).2.1 rfl
  obtain ⟨rv, -, hlocv⟩ := (arrangePasses_stack hwindows hsteady hv hm).2.1 rfl
  have hf' := halike.shownLast hf
  have hv' := halike.shownLast hv
  have hwindows' : s.desk.arrangePasses.windows.Nodup := by
    rw [show s.desk.arrangePasses.windows = s.desk.windows from
      (congrArg Desk.windows halike.bare :)]
    exact hwindows
  have hcfg : s.desk.arrangePasses.cfg = s.desk.cfg := (congrArg Desk.cfg halike.bare :)
  have htop : s.desk.arrangePasses.topOn m.tags i = some f := by
    rw [halike.topOn, hmtags, hfocus]
  have halone (j : ℕ) (m' : Monitor) (hj : j ≠ i)
      (hm' : s.desk.arrangePasses.monitors[j]? = some m') :
      s.desk.arrangePasses.level m'.tags f = none := by
    have := htags j
    rw [hm'] at this
    obtain ⟨m₀, hm₀, heq⟩ := Option.map_eq_some_iff.1 this.symm
    rw [← heq, halike.level]
    exact honly j m₀ hj hm₀
  refine hrest.monocle hround hwindows' hm ?_ htop hf' hv' hne halone hr hlocf ?_
  · rw [hcfg]
    exact hmonocle m hm
  · rw [hlocv]
    exact Option.some_ne_none _

/-- Two tiled windows on a monocle monitor, the focused one at the bottom. -/
def buried : Rwl :=
  let s := init (plainSetup [] [])
  { s with desk := { s.desk with
      cfg := { s.desk.cfg with layouts := [⟨"[M]", .Monocle⟩] }
      windows := [0, 1]
      focus_stack := [0, 1]
      st := fun _ => { WindowState.new with tags := 1, rules_applied := true }
      space := [(0, ⟨9, 9⟩), (1, ⟨5, 5⟩)]
      output := fun _ => plainOutput "a"
      monitors := [{ Monitor.new s.desk.cfg 0 "a" with
        m := Rect.of 0 0 800 600
        w := Rect.of 0 0 800 600 }] } }

theorem arrange_all_monocle_buried :
    [(1 : WinId), 0].Sublist (buried.arrange_all.arrange_all.desk.space.map Prod.fst) := by
  have hshown (w : WinId) (hw : w ∈ buried.desk.windows)
      (h : buried.desk.level 1 w = some 0) : buried.desk.ShownLast 0 w 0 := by
    refine ⟨hw, fun mon hm => ?_, fun j mon hj hm => ?_⟩
    · cases hm
      exact h
    · obtain ⟨k, rfl⟩ : ∃ k, j = k + 1 := ⟨j - 1, by omega⟩
      exact absurd hm (by simp [buried])
  refine arrange_all_monocle buried (by decide) (fun _ _ => rfl) (i := 0) rfl rfl
    (hshown 0 (by decide) (by decide)) (hshown 1 (by decide) (by decide)) (by decide)
    (fun j m hj hm => ?_) fun m hm => ?_
  · obtain ⟨k, rfl⟩ : ∃ k, j = k + 1 := ⟨j - 1, by omega⟩
    exact absurd hm (by simp [buried])
  · have hkind : (buried.arrange_all.desk.monitors[0]?).map (Monitor.layout_kind buried.desk.cfg) =
        some .Monocle := by decide +kernel
    rw [hm] at hkind
    exact Option.some.inj hkind

/-- One round leaves the focused window of this desk under the other. -/
example : buried.arrange_all.desk.space.map Prod.fst = [0, 1] := by decide +kernel

end Rwl

end Compositor
