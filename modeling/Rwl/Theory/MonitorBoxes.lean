import Mathlib.Tactic.Common
import Mathlib.Tactic.Linarith
import Mathlib.Tactic.FieldSimp
import Rwl.Theory.ActionChanges

/-!
# The rectangles of the monitors

`output_added` and `reapply_monitor_rules` compute the logical size of a monitor from the raw mode
of its output; the space and the layer map compute it from the transformed mode.

* `boxes_arrangePasses`: a layout pass moves no monitor and sets the work areas first;
* `desk_reload_config`: the desk after a reload;
* `Exact`: the scale divides both sides of the mode, and the transform keeps them;
* `logicalSize_eq_iff`: the two computations agree exactly then;
* `monitor_geometry_iff`: so do the monitor and its output, after an addition and a reload.
-/

namespace Compositor

/-! ### Layout passes -/

/-- The output and the rectangles of a monitor. -/
def Monitor.boxes (m : Monitor) : OutputId × Rect × Rect := (m.output, m.m, m.w)

namespace Desk

/-- The outputs and the rectangles of the monitors. -/
def boxes (d : Desk) : List (OutputId × Rect × Rect) := d.monitors.map Monitor.boxes

theorem boxes_modifyMonitor (d : Desk) (i : ℕ) (f : Monitor → Monitor)
    (h : ∀ m, (f m).boxes = m.boxes) : (d.modifyMonitor i f).boxes = d.boxes :=
  Recency.map_modify_eq Monitor.boxes f h d.monitors i

theorem boxes_eq_of_sameOutput {m m' : Monitor} (h : Monitor.SameOutput m m') :
    m'.boxes = m.boxes := by
  unfold Monitor.boxes
  rw [h.1, h.2.1, h.2.2]

theorem boxes_applyDynamic (d : Desk) (i tags : ℕ) : (d.applyDynamic i tags).boxes = d.boxes := by
  unfold applyDynamic
  split_ifs
  · exact boxes_modifyMonitor d i _ fun m =>
      boxes_eq_of_sameOutput (Monitor.reviewed_apply_dynamic _ m _ _).sameOutput
  · rfl

theorem boxes_syncScrollCol (d : Desk) (i : ℕ) (focused : Option WinId) (tiled : List WinId) :
    (d.syncScrollCol i focused tiled).boxes = d.boxes := by
  refine boxes_modifyMonitor d i _ fun m => ?_
  dsimp only
  split_ifs <;> rfl

theorem boxes_saveLoc (d : Desk) (w : WinId) : (d.saveLoc w).boxes = d.boxes := by
  unfold saveLoc
  split
  · split_ifs <;> rfl
  · rfl

theorem boxes_hide (d : Desk) (w : WinId) : (d.hide w).boxes = d.boxes := by
  unfold hide
  split_ifs
  · rfl
  · exact boxes_saveLoc d w

theorem boxes_placeTiles (d : Desk) (i : ℕ) (focused : Option WinId) (tiled : List WinId) :
    (d.placeTiles i focused tiled).boxes = d.boxes := by
  unfold placeTiles
  split
  · rfl
  · exact Recency.foldl_keeps boxes (placeTiled focused _) (fun _ _ => rfl) _ d

theorem boxes_arrange (d : Desk) (i : ℕ) : (d.arrange i).boxes = d.boxes := by
  unfold arrange
  split
  · rfl
  · dsimp only
    rw [Recency.foldl_keeps boxes (placeScratch _) (fun _ _ => rfl),
      Recency.foldl_keeps boxes (placeFullscreen _) (fun _ _ => rfl),
      Recency.foldl_keeps boxes (placeFloating _) (fun _ _ => rfl), boxes_placeTiles,
      boxes_syncScrollCol, Recency.foldl_keeps boxes hide boxes_hide, boxes_applyDynamic]

theorem boxes_start_tag_transition (d : Desk) (old new : ℕ) (ow : ℚ) :
    (d.start_tag_transition old new ow).boxes = d.boxes := by
  unfold start_tag_transition
  dsimp only
  split_ifs <;> rfl

/-- Layout passes move no monitor; the work areas are computed first. -/
theorem boxes_arrangePasses (d : Desk) : d.arrangePasses.boxes = d.update_work_areas.boxes := by
  have hpasses (l : List ℕ) :
      (l.foldl arrange { d.update_work_areas with pending_tag_transition := none }).boxes =
        d.update_work_areas.boxes :=
    Recency.foldl_keeps boxes arrange boxes_arrange l _
  unfold arrangePasses
  dsimp only
  split
  · exact (boxes_start_tag_transition _ _ _ _).trans (hpasses _)
  · exact hpasses _

/-- The boxes of monitor `i` after the passes. -/
theorem boxes_getElem_arrangePasses (d : Desk) (i : ℕ) :
    (d.arrangePasses.monitors[i]?).map Monitor.boxes =
      (d.monitors[i]?).map fun m => (m.output, m.m, workArea (d.output m.output) m) := by
  have h := congrArg (fun l => l[i]?) (boxes_arrangePasses d)
  dsimp only [boxes] at h
  rw [List.getElem?_map, List.getElem?_map] at h
  rw [h, update_work_areas, List.getElem?_map, Option.map_map]
  rfl

theorem output_arrangePasses (d : Desk) : d.arrangePasses.output = d.output := by
  have h := congrArg Desk.output (bare_arrangePasses d)
  exact h

end Desk

namespace Rwl

/-- The desk once a reload has read the file and applied the monitor rules. -/
def reloadedDesk (s : Rwl) : Desk :=
  let d := ({ s.desk with cfg := s.config_file } : Desk).reapply_monitor_rules
  { d with monitors := d.monitors.map fun m => pertag_layouts.apply d.cfg m m.tags }

theorem desk_reload_config (s : Rwl) : s.reload_config.desk = s.reloadedDesk.arrangePasses := by
  unfold reload_config
  dsimp only
  change Rwl.desk (arrange_all _) = _
  rw [desk_arrange_all]
  rfl

end Rwl

/-! ### Sizes -/

/-- The scale divides both sides of the mode, and the transform keeps the mode as it is. -/
structure Exact (mode : Size) (scale : ℚ) (t : Transform) : Prop where
  width : ∃ k : ℤ, (mode.w : ℚ) / scale = k
  height : ∃ k : ℤ, (mode.h : ℚ) / scale = k
  upright : t.transform_size mode = mode

theorem transform_size_cases (t : Transform) :
    (∀ size, t.transform_size size = size) ∨ ∀ size, t.transform_size size = ⟨size.h, size.w⟩ := by
  by_cases ht : t = ._90 ∨ t = ._270 ∨ t = .Flipped90 ∨ t = .Flipped270
  · exact .inr fun _ => if_pos ht
  · exact .inl fun _ => if_neg ht

/-- Cutting the fraction of `x` off cannot reach `y` rounded up, unless they are one integer. -/
theorem int_of_trunc_eq_ceil {x y : ℚ} (hx : 0 ≤ x) (hxy : truncZero x = ⌈y⌉) : y ≤ x := by
  rw [truncZero, if_pos hx] at hxy
  calc y ≤ (⌈y⌉ : ℚ) := Int.le_ceil y
    _ = (⌊x⌋ : ℚ) := by rw [hxy]
    _ ≤ x := Int.floor_le x

theorem int_of_trunc_self {x : ℚ} (hx : 0 ≤ x) (h : truncZero x = ⌈x⌉) : ∃ k : ℤ, x = k := by
  rw [truncZero, if_pos hx] at h
  refine ⟨⌊x⌋, le_antisymm ?_ (Int.floor_le x)⟩
  rw [h]
  exact Int.le_ceil x

/-- **The raw mode cut by the scale is the size in the space exactly when the scale divides the
mode and the transform keeps it.** -/
theorem logicalSize_eq_iff {mode : Size} {scale : ℚ} (t : Transform) (hw : 0 ≤ mode.w)
    (hh : 0 ≤ mode.h) (hscale : 0 < scale) :
    Desk.logicalSize mode scale =
        ⟨⌈((t.transform_size mode).w : ℚ) / scale⌉, ⌈((t.transform_size mode).h : ℚ) / scale⌉⟩ ↔
      Exact mode scale t := by
  have hw' : 0 ≤ (mode.w : ℚ) / scale := div_nonneg (by exact_mod_cast hw) hscale.le
  have hh' : 0 ≤ (mode.h : ℚ) / scale := div_nonneg (by exact_mod_cast hh) hscale.le
  constructor
  · intro h
    rw [Desk.logicalSize, Size.mk.injEq] at h
    rcases transform_size_cases t with hid | hswap
    · rw [hid] at h
      exact ⟨int_of_trunc_self hw' h.1, int_of_trunc_self hh' h.2, hid mode⟩
    · rw [hswap] at h
      have heq : (mode.w : ℚ) / scale = mode.h / scale :=
        le_antisymm (int_of_trunc_eq_ceil hh' h.2) (int_of_trunc_eq_ceil hw' h.1)
      have hside : mode.w = mode.h := by
        rw [div_left_inj' hscale.ne'] at heq
        exact_mod_cast heq
      rw [← heq] at h
      refine ⟨int_of_trunc_self hw' h.1, heq ▸ int_of_trunc_self hw' h.1, ?_⟩
      rw [hswap]
      exact Size.mk.injEq .. ▸ ⟨hside.symm, hside⟩
  · intro h
    obtain ⟨k, hk⟩ := h.width
    obtain ⟨l, hl⟩ := h.height
    rw [h.upright, Desk.logicalSize, hk, hl, truncZero_intCast, truncZero_intCast,
      Int.ceil_intCast, Int.ceil_intCast]

/-! ### The monitor and its output -/

/-- An output with a mode and no layer surfaces. -/
structure Bare (info : OutputInfo) (mode : Size) : Prop where
  current : info.mode = some mode
  width : 0 ≤ mode.w
  height : 0 ≤ mode.h
  layers : info.layers = []

/-- Monitor `i` has the size of the geometry of its output, as a rectangle and as a work area. -/
def GeometryMatches (d : Desk) (i : ℕ) : Prop :=
  ∃ mon, d.monitors[i]? = some mon ∧
    (d.output mon.output).output_geometry_size = some mon.m.size ∧
    (d.output mon.output).output_geometry_size = some mon.w.size

/-- The work area of a monitor with the size its output has. -/
theorem workArea_size {info : OutputInfo} {mode : Size} {mon : Monitor} (hbare : Bare info mode)
    (hexact : Exact mode info.scale info.transform)
    (hsize : mon.m.size = Desk.logicalSize mode info.scale) :
    (Desk.workArea info mon).size = mon.m.size := by
  obtain ⟨k, hk⟩ := hexact.width
  obtain ⟨l, hl⟩ := hexact.height
  have hmode : info.transform.transform_size ⟨k, l⟩ = ⟨k, l⟩ := by
    rcases transform_size_cases info.transform with hid | hswap
    · exact hid _
    · have hside := hexact.upright
      rw [hswap, Size.mk.injEq] at hside
      have hkl : (k : ℚ) = l := by rw [← hk, ← hl, hside.1]
      rw [hswap, show l = k from by exact_mod_cast hkl.symm]
  have hsize' : mon.m.size = ⟨k, l⟩ := by
    rw [hsize, Desk.logicalSize, hk, hl, truncZero_intCast, truncZero_intCast]
  have hzone : info.zone = ⟨⟨0, 0⟩, ⟨k, l⟩⟩ := by
    rw [OutputInfo.zone, hbare.layers, OutputInfo.output_rect, hbare.current]
    simp only [List.isEmpty_nil, if_true, hk, hl, roundAway_intCast, hmode]
  unfold Desk.workArea
  rw [hzone, hbare.layers, hsize']
  simp only [List.isEmpty_nil, Bool.not_true, Bool.false_eq_true, false_and, if_false]
  split_ifs
  · rfl
  · exact hsize'

/-- A monitor sized from the raw mode matches its output exactly when the mode is exact. -/
theorem geometryMatches_iff {d : Desk} {i : ℕ} {o : OutputId} {info : OutputInfo} {mode : Size}
    (mon : Monitor) (hinfo : d.output o = info) (hbare : Bare info mode) (hscale : 0 < info.scale)
    (hbox : (d.monitors[i]?).map Monitor.boxes = some (o, mon.m, Desk.workArea info mon))
    (hsize : mon.m.size = Desk.logicalSize mode info.scale) :
    GeometryMatches d i ↔ Exact mode info.scale info.transform := by
  obtain ⟨m, hm, hmon⟩ := Option.map_eq_some_iff.mp hbox
  rw [Monitor.boxes, Prod.mk.injEq, Prod.mk.injEq] at hmon
  obtain ⟨ho, hmm, hmw⟩ := hmon
  have hgeom : (d.output m.output).output_geometry_size =
      some ⟨⌈((info.transform.transform_size mode).w : ℚ) / info.scale⌉,
        ⌈((info.transform.transform_size mode).h : ℚ) / info.scale⌉⟩ := by
    rw [ho, hinfo, OutputInfo.output_geometry_size, hbare.current]
    rfl
  have hiff := logicalSize_eq_iff info.transform hbare.width hbare.height hscale
  constructor
  · rintro ⟨m', hm', hrect, -⟩
    obtain rfl : m = m' := Option.some.inj (hm.symm.trans hm')
    rw [hgeom, Option.some_inj, hmm, hsize] at hrect
    exact hiff.mp hrect.symm
  · intro hexact
    have hlogical := hiff.mpr hexact
    refine ⟨m, hm, ?_, ?_⟩
    · rw [hgeom, hmm, hsize, hlogical]
    · rw [hgeom, hmw, workArea_size hbare hexact hsize, hsize, hlogical]

namespace Desk

theorem newMonitor_boxes (d : Desk) (o : OutputId) (info : OutputInfo) :
    (d.newMonitor o info).output = o ∧
      (d.newMonitor o info).m = ⟨d.outputLoc (matching_rule d.cfg info.name),
        logicalSize (info.mode.getD ⟨1920, 1080⟩) (matching_rule d.cfg info.name).scale⟩ := by
  unfold newMonitor
  dsimp only
  split <;> exact ⟨rfl, rfl⟩

/-- The monitors of `d` belong to the same outputs, with the same names, modes and layers. -/
structure SameOutputs (d d' : Desk) : Prop where
  cfg : d'.cfg = d.cfg
  monitors : d'.monitors.map Monitor.output = d.monitors.map Monitor.output
  name : ∀ o, (d'.output o).name = (d.output o).name
  mode : ∀ o, (d'.output o).mode = (d.output o).mode
  layers : ∀ o, (d'.output o).layers = (d.output o).layers

theorem SameOutputs.refl (d : Desk) : SameOutputs d d :=
  ⟨rfl, rfl, fun _ => rfl, fun _ => rfl, fun _ => rfl⟩

theorem SameOutputs.trans {d d' d'' : Desk} (h : SameOutputs d d') (h' : SameOutputs d' d'') :
    SameOutputs d d'' where
  cfg := h'.cfg.trans h.cfg
  monitors := h'.monitors.trans h.monitors
  name o := (h'.name o).trans (h.name o)
  mode o := (h'.mode o).trans (h.mode o)
  layers o := (h'.layers o).trans (h.layers o)

theorem SameOutputs.monitor_for_output {d d' : Desk} (h : SameOutputs d d') (o : OutputId) :
    d'.monitor_for_output o = d.monitor_for_output o := by
  have hfind (e : Desk) : e.monitor_for_output o =
      (e.monitors.map Monitor.output).findIdx? fun p => decide (p = o) := by
    rw [List.findIdx?_map]
    rfl
  rw [hfind, hfind, h.monitors]

/-- What one round does to the monitor it is about: the rule's position, if it has one, and the
size of the mode at the rule's scale. -/
def ruled (rule : MonitorRule) (mode : Option Size) (m : Monitor) : Monitor :=
  let loc : Point := ⟨rule.x, rule.y⟩
  let placed := if 0 ≤ rule.x ∧ 0 ≤ rule.y then
      { m with m := { m.m with loc := loc }, w := { m.w with loc := loc } }
    else m
  match mode with
  | some mode => { placed with m := { placed.m with size := logicalSize mode rule.scale } }
  | none => placed

/-- What one round does to the output it is about. -/
def ruledInfo (rule : MonitorRule) (info : OutputInfo) : OutputInfo :=
  { info with
    scale := rule.scale
    transform := rule.transform
    location := if 0 ≤ rule.x ∧ 0 ≤ rule.y then ⟨rule.x, rule.y⟩ else info.location }

theorem reapplyRule_of_some {d : Desk} {i : ℕ} {mon : Monitor} (h : d.monitors[i]? = some mon) :
    d.reapplyRule i =
      { d.modifyMonitor ((d.monitor_for_output mon.output).getD i)
          (ruled (matching_rule d.cfg (d.output mon.output).name) (d.output mon.output).mode) with
        output := Function.update d.output mon.output
          (ruledInfo (matching_rule d.cfg (d.output mon.output).name) (d.output mon.output)) } := by
  unfold reapplyRule
  rw [h]
  unfold ruled ruledInfo
  cases hmode : (d.output mon.output).mode <;>
    by_cases hpos : 0 ≤ (matching_rule d.cfg (d.output mon.output).name).x ∧
      0 ≤ (matching_rule d.cfg (d.output mon.output).name).y <;>
    simp [hpos, hmode]

theorem output_ruled (rule : MonitorRule) (mode : Option Size) (m : Monitor) :
    (ruled rule mode m).output = m.output := by
  unfold ruled
  dsimp only
  split <;> split_ifs <;> rfl

theorem size_ruled (rule : MonitorRule) (mode : Size) (m : Monitor) :
    (ruled rule (some mode) m).m.size = logicalSize mode rule.scale := rfl

theorem sameOutputs_reapplyRule (d : Desk) (i : ℕ) : SameOutputs d (d.reapplyRule i) := by
  cases hm : d.monitors[i]? with
  | none =>
    have hd : d.reapplyRule i = d := by
      unfold reapplyRule
      rw [hm]
    rw [hd]
    exact .refl d
  | some mon =>
    have hfield {α : Type} (f : OutputInfo → α)
        (hf : ∀ rule info, f (ruledInfo rule info) = f info) (o : OutputId) :
        f ((d.reapplyRule i).output o) = f (d.output o) := by
      rw [reapplyRule_of_some hm]
      dsimp only
      by_cases ho : o = mon.output
      · subst ho
        rw [Function.update_self, hf]
      · rw [Function.update_of_ne ho]
    refine ⟨?_, ?_, hfield _ fun _ _ => rfl, hfield _ fun _ _ => rfl, hfield _ fun _ _ => rfl⟩
    · rw [reapplyRule_of_some hm]
      rfl
    · rw [reapplyRule_of_some hm]
      exact Recency.map_modify_eq Monitor.output _ (fun m => output_ruled _ _ m) d.monitors _

theorem rect_ruled_congr (rule : MonitorRule) (mode : Option Size) {m m' : Monitor}
    (h : m'.m = m.m) : (ruled rule mode m').m = (ruled rule mode m).m := by
  unfold ruled
  dsimp only
  by_cases hpos : 0 ≤ rule.x ∧ 0 ≤ rule.y
  · rw [if_pos hpos, if_pos hpos]
    cases mode <;> simp [h]
  · rw [if_neg hpos, if_neg hpos]
    cases mode <;> simp [h]

theorem ruled_ruled (rule : MonitorRule) (mode : Option Size) {m m' : Monitor}
    (h : m'.m = (ruled rule mode m).m) : (ruled rule mode m').m = (ruled rule mode m).m := by
  unfold ruled at h ⊢
  cases mode with
  | none =>
    dsimp only at h ⊢
    split_ifs at h ⊢ <;> simp [h]
  | some mode =>
    dsimp only at h ⊢
    split_ifs at h ⊢ <;> simp [h]

theorem ruledInfo_ruledInfo (rule : MonitorRule) (info : OutputInfo) :
    ruledInfo rule (ruledInfo rule info) = ruledInfo rule info := by
  unfold ruledInfo
  split_ifs <;> rfl

/-- The state before round `k`, as seen by the monitor `i` of the output `o`: untouched up to its
own round, and ruled from then on. -/
structure Round (d₀ : Desk) (o : OutputId) (mon₀ : Monitor) (i k : ℕ) (d : Desk) : Prop where
  same : SameOutputs d₀ d
  rect : ∃ m, d.monitors[i]? = some m ∧ m.output = o ∧ m.m =
    if i < k then (ruled (matching_rule d₀.cfg (d₀.output o).name) (d₀.output o).mode mon₀).m
    else mon₀.m
  info : d.output o =
    if i < k then ruledInfo (matching_rule d₀.cfg (d₀.output o).name) (d₀.output o)
    else d₀.output o

theorem round_reapplyRule {d₀ d : Desk} {o : OutputId} {mon₀ : Monitor} {i k : ℕ}
    (hfor : d₀.monitor_for_output o = some i) (hk : k < d₀.monitors.length)
    (h : Round d₀ o mon₀ i k d) : Round d₀ o mon₀ i (k + 1) (d.reapplyRule k) := by
  have hsame := h.same.trans (sameOutputs_reapplyRule d k)
  have hlen : d.monitors.length = d₀.monitors.length := by
    have hmaps := congrArg List.length h.same.monitors
    rwa [List.length_map, List.length_map] at hmaps
  have hk' : k < d.monitors.length := hlen ▸ hk
  have hmon : d.monitors[k]? = some d.monitors[k] := List.getElem?_eq_getElem hk'
  set mon := d.monitors[k]
  obtain ⟨m, hm, hmo, hrect⟩ := h.rect
  by_cases ho : mon.output = o
  · -- a round of the output itself, its own one or a repeated one
    have hat : (d.monitor_for_output mon.output).getD k = i := by
      rw [ho, h.same.monitor_for_output, hfor]
      rfl
    have hreached : i ≤ k := by
      obtain ⟨_, _, hfirst⟩ := List.findIdx?_eq_some_iff_getElem.1
        ((h.same.monitor_for_output o).trans hfor)
      by_contra hlt
      exact hfirst k (not_le.mp hlt) (decide_eq_true ho)
    have hrule : matching_rule d.cfg (d.output mon.output).name =
        matching_rule d₀.cfg (d₀.output o).name := by
      rw [ho, h.same.cfg, h.same.name]
    have hmode : (d.output mon.output).mode = (d₀.output o).mode := by rw [ho, h.same.mode]
    have hstep := reapplyRule_of_some hmon
    rw [hat, hrule, hmode] at hstep
    refine ⟨hsame, ⟨ruled (matching_rule d₀.cfg (d₀.output o).name) (d₀.output o).mode m, ?_,
      ?_, ?_⟩, ?_⟩
    · rw [hstep]
      dsimp only [modifyMonitor]
      rw [List.getElem?_modify_eq, hm]
      rfl
    · rw [output_ruled, hmo]
    · rw [if_pos (Nat.lt_succ_of_le hreached)]
      by_cases hik : i < k
      · rw [if_pos hik] at hrect
        exact ruled_ruled _ _ hrect
      · rw [if_neg hik] at hrect
        exact rect_ruled_congr _ _ hrect
    · rw [hstep, if_pos (Nat.lt_succ_of_le hreached), ho]
      dsimp only
      rw [Function.update_self, h.info]
      split_ifs
      · exact ruledInfo_ruledInfo _ _
      · rfl
  · -- a round of another output
    have hne : (d.monitor_for_output mon.output).getD k ≠ i := by
      intro hat
      cases hj : d.monitor_for_output mon.output with
      | none =>
        have hnone := List.findIdx?_eq_none_iff.1 hj mon (List.mem_of_getElem? hmon)
        exact of_decide_eq_false hnone rfl
      | some j =>
        rw [hj, Option.getD_some] at hat
        subst hat
        obtain ⟨hlt, hj', -⟩ := List.findIdx?_eq_some_iff_getElem.1 hj
        rw [List.getElem?_eq_getElem hlt, Option.some_inj] at hm
        rw [hm] at hj'
        exact ho ((of_decide_eq_true hj').symm.trans hmo)
    have hik : i ≠ k := by
      rintro rfl
      exact ho ((congrArg Monitor.output (Option.some.inj (hmon.symm.trans hm))).trans hmo)
    have hlt : i < k + 1 ↔ i < k := by omega
    refine ⟨hsame, ⟨m, ?_, hmo, ?_⟩, ?_⟩
    · rw [reapplyRule_of_some hmon]
      dsimp only [modifyMonitor]
      rw [List.getElem?_modify_ne _ _ hne, hm]
    · simp only [hlt]
      exact hrect
    · rw [reapplyRule_of_some hmon]
      dsimp only
      rw [Function.update_of_ne (Ne.symm ho), h.info]
      simp only [hlt]

/-- All rounds: the monitor of each output is ruled once and for all. -/
theorem round_reapply_monitor_rules (d : Desk) {o : OutputId} {mon : Monitor} {i : ℕ}
    (hfor : d.monitor_for_output o = some i) (hmon : d.monitors[i]? = some mon) :
    Round d o mon i d.monitors.length d.reapply_monitor_rules := by
  have hrounds (k : ℕ) (hk : k ≤ d.monitors.length) :
      Round d o mon i k ((List.range k).foldl reapplyRule d) := by
    induction k with
    | zero =>
      have ho : mon.output = o := by
        obtain ⟨hlt, ho, -⟩ := List.findIdx?_eq_some_iff_getElem.1 hfor
        rw [List.getElem?_eq_getElem hlt, Option.some_inj] at hmon
        exact hmon ▸ of_decide_eq_true ho
      exact ⟨.refl d, ⟨mon, hmon, ho, rfl⟩, rfl⟩
    | succ k ih =>
      rw [List.range_succ, List.foldl_append]
      exact round_reapplyRule hfor hk (ih (Nat.le_of_succ_le hk))
  have hall := hrounds _ le_rfl
  have hsame := hall.same
  exact ⟨⟨hsame.cfg, hsame.monitors, hsame.name, hsame.mode, hsame.layers⟩, hall.rect, hall.info⟩

end Desk

namespace Rwl

open Desk

/-- After an addition the new monitor matches its output exactly when the mode is exact. -/
theorem output_added_geometry_iff (s : Rwl) (o : OutputId) {info : OutputInfo} {mode : Size}
    (hbare : Bare info mode) (hscale : 0 < (matching_rule s.desk.cfg info.name).scale) :
    GeometryMatches (s.output_added o info).desk s.desk.monitors.length ↔
      Exact mode (matching_rule s.desk.cfg info.name).scale
        (matching_rule s.desk.cfg info.name).transform := by
  set rule := matching_rule s.desk.cfg info.name with hrule
  have hnew := newMonitor_boxes s.desk o info
  have hinfo : (s.desk.addMonitor o info).arrangePasses.output o = { info with
      scale := rule.scale
      transform := rule.transform
      location := s.desk.outputLoc rule } := by
    rw [output_arrangePasses]
    exact Function.update_self ..
  rw [desk_output_added]
  refine geometryMatches_iff (s.desk.newMonitor o info) hinfo
    ⟨hbare.current, hbare.width, hbare.height, hbare.layers⟩ hscale ?_ ?_
  · rw [boxes_getElem_arrangePasses]
    have hget : (s.desk.addMonitor o info).monitors[s.desk.monitors.length]? =
        some (s.desk.newMonitor o info) := List.getElem?_concat_length
    have houtput : (s.desk.addMonitor o info).output o = _ :=
      (congrFun (output_arrangePasses _) o).symm.trans hinfo
    rw [hget, Option.map_some, hnew.1, houtput]
  · rw [hnew.2, hbare.current]
    rfl

/-- After a reload a monitor matches its output exactly when the mode is exact. -/
theorem reload_geometry_iff (s : Rwl) {o : OutputId} {i : ℕ} {mode : Size}
    (hfor : s.desk.monitor_for_output o = some i) (hbare : Bare (s.desk.output o) mode)
    (hscale : 0 < (matching_rule s.config_file (s.desk.output o).name).scale) :
    GeometryMatches s.reload_config.desk i ↔
      Exact mode (matching_rule s.config_file (s.desk.output o).name).scale
        (matching_rule s.config_file (s.desk.output o).name).transform := by
  set rule := matching_rule s.config_file (s.desk.output o).name with hrule
  obtain ⟨hi, _, _⟩ := List.findIdx?_eq_some_iff_getElem.1 hfor
  have hround := round_reapply_monitor_rules ({ s.desk with cfg := s.config_file } : Desk) hfor
    (List.getElem?_eq_getElem hi)
  obtain ⟨m, hm, ho, hrect⟩ := hround.rect
  have hget : s.reloadedDesk.monitors[i]? = some (pertag_layouts.apply s.config_file m m.tags) := by
    have hcfg := hround.same.cfg
    unfold reloadedDesk
    dsimp only at hcfg ⊢
    rw [List.getElem?_map, hm, hcfg]
    rfl
  have hkeep := (Monitor.reviewed_apply s.config_file m m.tags).sameOutput
  have hinfo : s.reloadedDesk.arrangePasses.output o = ruledInfo rule (s.desk.output o) := by
    rw [output_arrangePasses]
    exact hround.info.trans (if_pos hi)
  rw [desk_reload_config]
  refine geometryMatches_iff (pertag_layouts.apply s.config_file m m.tags) hinfo
    ⟨hbare.current, hbare.width, hbare.height, hbare.layers⟩ hscale ?_ ?_
  · have houtput : s.reloadedDesk.output o = ruledInfo rule (s.desk.output o) :=
      (congrFun (output_arrangePasses _) o).symm.trans hinfo
    rw [boxes_getElem_arrangePasses, hget, Option.map_some, hkeep.1, ho, houtput]
  · rw [hkeep.2.1, hrect, if_pos hi]
    dsimp only
    rw [hbare.current, size_ruled]
    rfl

/-- A configuration whose outputs are turned by a quarter. -/
def turnedConfig : Config :=
  { plainConfig [] [] with monitor_rules := [{ MonitorRule.default with transform := ._90 }] }

theorem bare_plainOutput (name : String) : Bare (plainOutput name) ⟨800, 600⟩ :=
  ⟨rfl, by decide, by decide, rfl⟩

theorem turned_not_exact : ¬ Exact ⟨800, 600⟩ 1 ._90 := by
  intro h
  have hsides := congrArg Size.w h.upright
  exact absurd hsides (by decide)

end Rwl

end Compositor
