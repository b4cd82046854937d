import Mathlib.Tactic.Common
import Rwl.Theory.MonitorBoxes

/-!
# Automatic positions

An output whose rule has no position goes right of the monitors that are there; a reload gives its
monitor a new size at the old position.

* `OutputOp`, `outputStep`: additions, removals and reloads;
* `spots`: the output and the rectangle of each monitor;
* `Placed`: the monitors stand from left to right, where their outputs are;
* `Automatic`: the rules an operation applies have no position;
* `Fits`: no reload makes a monitor reach over a later one;
* `monitors_disjoint`: with both, the monitors never overlap.
-/

namespace Compositor

open Transition

/-- The operations that place monitors. -/
inductive OutputOp
  | added (o : OutputId) (info : OutputInfo)
  | removed (o : OutputId)
  | reload (file : Config)

namespace Desk

/-- The output and the rectangle of each monitor. -/
def spots (d : Desk) : List (OutputId × Rect) := d.monitors.map fun m => (m.output, m.m)

theorem spots_eq_boxes (d : Desk) : d.spots = d.boxes.map fun b => (b.1, b.2.1) := by
  rw [boxes, List.map_map]
  rfl

theorem spots_arrangePasses (d : Desk) : d.arrangePasses.spots = d.spots := by
  rw [spots_eq_boxes, boxes_arrangePasses, ← spots_eq_boxes, spots, update_work_areas,
    List.map_map]
  rfl

theorem map_fst_spots (d : Desk) : d.spots.map Prod.fst = d.monitors.map Monitor.output := by
  rw [spots, List.map_map]
  rfl

theorem spots_addMonitor (d : Desk) (o : OutputId) (info : OutputInfo) :
    (d.addMonitor o info).spots = d.spots ++ [(o, ⟨d.outputLoc (matching_rule d.cfg info.name),
      logicalSize (info.mode.getD ⟨1920, 1080⟩) (matching_rule d.cfg info.name).scale⟩)] := by
  have hnew := newMonitor_boxes d o info
  have hspots : (d.addMonitor o info).spots =
      (d.monitors ++ [d.newMonitor o info]).map fun m => (m.output, m.m) := rfl
  rw [hspots, List.map_append, List.map_singleton, hnew.1, hnew.2]
  rfl

theorem spots_removeMonitor (d : Desk) (idx : ℕ) :
    (d.removeMonitor idx).spots = d.spots.eraseIdx idx := by
  have hspots : (d.removeMonitor idx).spots =
      (d.monitors.eraseIdx idx).map fun m => (m.output, m.m) := rfl
  rw [hspots, spots, List.eraseIdx_map]

/-! ### From left to right -/

/-- The monitors stand from left to right, each where its output is. -/
structure Placed (d : Desk) : Prop where
  nodup : (d.spots.map Prod.fst).Nodup
  ordered : d.spots.Pairwise fun a b => a.2.loc.x + a.2.size.w ≤ b.2.loc.x
  located : ∀ p ∈ d.spots, p.2.loc = (d.output p.1).location

/-- No pixel belongs to two monitors. -/
def MonitorsDisjoint (d : Desk) : Prop :=
  d.monitors.Pairwise fun a b => ∀ p, ¬ (a.m.contains p = true ∧ b.m.contains p = true)

/-- Every monitor is recorded where its output is. -/
def LocationsAgree (d : Desk) : Prop :=
  ∀ m ∈ d.monitors, m.m.loc = (d.output m.output).location

theorem Placed.disjoint {d : Desk} (h : Placed d) : MonitorsDisjoint d := by
  have hord := h.ordered
  rw [spots, List.pairwise_map] at hord
  refine hord.imp fun {a b} hab p => ?_
  rintro ⟨ha, hb⟩
  rw [Rect.contains, decide_eq_true_iff] at ha hb
  dsimp only at hab
  omega

theorem Placed.locations {d : Desk} (h : Placed d) : LocationsAgree d := fun m hm =>
  h.located (m.output, m.m) (List.mem_map.mpr ⟨m, hm, rfl⟩)

theorem Placed.of_same {d d' : Desk} (h : Placed d) (hspots : d'.spots = d.spots)
    (houtput : d'.output = d.output) : Placed d' := by
  refine ⟨?_, ?_, ?_⟩
  · rw [hspots]
    exact h.nodup
  · rw [hspots]
    exact h.ordered
  · rw [hspots, houtput]
    exact h.located

theorem Placed.arrangePasses {d : Desk} (h : Placed d) : Placed d.arrangePasses :=
  h.of_same (spots_arrangePasses d) (output_arrangePasses d)

/-- The automatic position is right of every monitor. -/
theorem le_outputLoc {d : Desk} {rule : MonitorRule} (hauto : ¬ (0 ≤ rule.x ∧ 0 ≤ rule.y))
    {p : OutputId × Rect} (hp : p ∈ d.spots) :
    p.2.loc.x + p.2.size.w ≤ (d.outputLoc rule).x := by
  obtain ⟨m, hm, rfl⟩ := List.mem_map.mp hp
  have hedge : m.m.loc.x + m.m.size.w ∈ d.monitors.map fun m => m.m.loc.x + m.m.size.w :=
    List.mem_map.mpr ⟨m, hm, rfl⟩
  rw [outputLoc, if_neg hauto]
  cases hmax : (d.monitors.map fun m => m.m.loc.x + m.m.size.w).max? with
  | none =>
    rw [List.max?_eq_none_iff] at hmax
    rw [hmax] at hedge
    exact absurd hedge List.not_mem_nil
  | some x => exact (List.max?_eq_some_iff.mp hmax).2 _ hedge

theorem Placed.addMonitor {d : Desk} (h : Placed d) {o : OutputId} {info : OutputInfo}
    (hauto : ¬ (0 ≤ (matching_rule d.cfg info.name).x ∧ 0 ≤ (matching_rule d.cfg info.name).y))
    (hnew : d.monitor_for_output o = none) : Placed (d.addMonitor o info) := by
  have hfresh : o ∉ d.spots.map Prod.fst := by
    rw [map_fst_spots, List.mem_map]
    rintro ⟨m, hm, rfl⟩
    exact of_decide_eq_false (List.findIdx?_eq_none_iff.1 hnew m hm) rfl
  have houtput : (d.addMonitor o info).output = Function.update d.output o { info with
      scale := (matching_rule d.cfg info.name).scale
      transform := (matching_rule d.cfg info.name).transform
      location := d.outputLoc (matching_rule d.cfg info.name) } := rfl
  refine ⟨?_, ?_, ?_⟩
  · rw [spots_addMonitor, List.map_append, List.nodup_append]
    refine ⟨h.nodup, by simp, ?_⟩
    intro a ha b hb hab
    rw [List.map_singleton, List.mem_singleton] at hb
    subst hab
    rw [hb] at ha
    exact hfresh ha
  · rw [spots_addMonitor, List.pairwise_append]
    refine ⟨h.ordered, List.pairwise_singleton _ _, ?_⟩
    intro a ha b hb
    rw [List.mem_singleton.mp hb]
    exact le_outputLoc hauto ha
  · intro p hp
    rw [spots_addMonitor, List.mem_append, List.mem_singleton] at hp
    rw [houtput]
    rcases hp with hp | rfl
    · have hne : p.1 ≠ o := fun ho => hfresh (List.mem_map.mpr ⟨p, hp, ho⟩)
      rw [Function.update_of_ne hne]
      exact h.located p hp
    · rw [Function.update_self]

theorem Placed.removeMonitor {d : Desk} (h : Placed d) (idx : ℕ) :
    Placed (d.removeMonitor idx) := by
  have hsub : (d.removeMonitor idx).spots.Sublist d.spots := by
    rw [spots_removeMonitor]
    exact List.eraseIdx_sublist ..
  exact ⟨h.nodup.sublist (hsub.map _), h.ordered.sublist hsub, fun p hp =>
    h.located p (hsub.subset hp)⟩

/-! ### Reloads -/

/-- The rule of the configuration `file` for the output of a monitor. -/
def ruleIn (d : Desk) (file : Config) (m : Monitor) : MonitorRule :=
  matching_rule file (d.output m.output).name

/-- The width a reload of `file` gives the monitor. -/
def widthIn (d : Desk) (file : Config) (m : Monitor) : ℤ :=
  match (d.output m.output).mode with
  | some mode => (logicalSize mode (d.ruleIn file m).scale).w
  | none => m.m.size.w

/-- With the widths of `file`, every monitor ends where a later one begins, or before. -/
def Fits (d : Desk) (file : Config) : Prop :=
  d.monitors.Pairwise fun a b => a.m.loc.x + d.widthIn file a ≤ b.m.loc.x

instance (d : Desk) (file : Config) : Decidable (d.Fits file) :=
  inferInstanceAs (Decidable (List.Pairwise _ _))

/-- Every output has its monitor, so a reload rules each of them. -/
theorem monitor_for_output_of_nodup {d : Desk} (h : (d.monitors.map Monitor.output).Nodup)
    {i : ℕ} {m : Monitor} (hm : d.monitors[i]? = some m) :
    d.monitor_for_output m.output = some i := by
  obtain ⟨hi, rfl⟩ := List.getElem?_eq_some_iff.mp hm
  refine List.findIdx?_eq_some_iff_getElem.2 ⟨hi, decide_eq_true rfl, ?_⟩
  intro j hj hsame
  have hout := of_decide_eq_true hsame
  have hlen : (d.monitors.map Monitor.output).length = d.monitors.length := List.length_map _
  have hij := h.getElem_inj_iff.mp (show (d.monitors.map Monitor.output)[j] =
    (d.monitors.map Monitor.output)[i] by simpa using hout)
  exact absurd hij hj.ne

theorem rect_ruled {rule : MonitorRule} (hauto : ¬ (0 ≤ rule.x ∧ 0 ≤ rule.y))
    (mode : Option Size) (m : Monitor) :
    (ruled rule mode m).m.loc = m.m.loc ∧ (ruled rule mode m).m.size =
      match mode with
      | some mode => logicalSize mode rule.scale
      | none => m.m.size := by
  unfold ruled
  dsimp only
  rw [if_neg hauto]
  cases mode <;> exact ⟨rfl, rfl⟩

/-- A reload of `file` with automatic positions: the monitors keep their places. -/
theorem reapply_monitor_rules_spots {d : Desk} (hnd : (d.monitors.map Monitor.output).Nodup)
    (hauto : ∀ m ∈ d.monitors, ¬ (0 ≤ (d.ruleIn d.cfg m).x ∧ 0 ≤ (d.ruleIn d.cfg m).y)) {i : ℕ}
    {m : Monitor} (hm : d.monitors[i]? = some m) :
    ∃ m', d.reapply_monitor_rules.monitors[i]? = some m' ∧ m'.output = m.output ∧
      m'.m.loc = m.m.loc ∧ m'.m.size.w = d.widthIn d.cfg m ∧
        (d.reapply_monitor_rules.output m.output).location = (d.output m.output).location := by
  have hround := round_reapply_monitor_rules d (monitor_for_output_of_nodup hnd hm) hm
  obtain ⟨m', hm', ho, hrect⟩ := hround.rect
  have hi : i < d.monitors.length := (List.getElem?_eq_some_iff.mp hm).1
  have hrule := hauto m (List.mem_of_getElem? hm)
  have hkeep := rect_ruled hrule (d.output m.output).mode m
  have hinfo := hround.info
  rw [if_pos hi] at hrect hinfo
  refine ⟨m', hm', ho, ?_, ?_, ?_⟩
  · rw [hrect]
    exact hkeep.1
  · have hsize : m'.m.size = _ := (congrArg Rect.size hrect).trans hkeep.2
    rw [hsize, widthIn]
    cases (d.output m.output).mode <;> rfl
  · rw [hinfo, ruledInfo]
    exact if_neg hrule

theorem Placed.reapply_monitor_rules {d : Desk} (h : Placed d)
    (hauto : ∀ m ∈ d.monitors, ¬ (0 ≤ (d.ruleIn d.cfg m).x ∧ 0 ≤ (d.ruleIn d.cfg m).y))
    (hfits : d.Fits d.cfg) : Placed d.reapply_monitor_rules := by
  have hnd : (d.monitors.map Monitor.output).Nodup := map_fst_spots d ▸ h.nodup
  have hsame : d.reapply_monitor_rules.monitors.map Monitor.output =
      d.monitors.map Monitor.output := by
    have hfold (l : List ℕ) (e : Desk) :
        (l.foldl reapplyRule e).monitors.map Monitor.output = e.monitors.map Monitor.output :=
      Recency.foldl_keeps (fun e : Desk => e.monitors.map Monitor.output) reapplyRule
        (fun e i => (sameOutputs_reapplyRule e i).monitors) l e
    exact hfold _ d
  have hlen : d.reapply_monitor_rules.monitors.length = d.monitors.length := by
    have hmaps := congrArg List.length hsame
    rwa [List.length_map, List.length_map] at hmaps
  -- each monitor after the reload, with the one it was
  have hfrom {i : ℕ} {m' : Monitor} (hm' : d.reapply_monitor_rules.monitors[i]? = some m') :
      ∃ m, d.monitors[i]? = some m ∧ m'.output = m.output ∧ m'.m.loc = m.m.loc ∧
        m'.m.size.w = d.widthIn d.cfg m ∧
          (d.reapply_monitor_rules.output m.output).location = (d.output m.output).location := by
    have hi : i < d.monitors.length := hlen ▸ (List.getElem?_eq_some_iff.mp hm').1
    obtain ⟨m'', hm'', hrest⟩ :=
      reapply_monitor_rules_spots hnd hauto (List.getElem?_eq_getElem hi)
    obtain rfl : m' = m'' := Option.some.inj (hm'.symm.trans hm'')
    exact ⟨_, List.getElem?_eq_getElem hi, hrest⟩
  refine ⟨?_, ?_, ?_⟩
  · rw [map_fst_spots, hsame]
    exact hnd
  · rw [spots, List.pairwise_map, List.pairwise_iff_getElem]
    intro i j hi hj hij
    obtain ⟨a, ha, -, hloca, hwa, -⟩ := hfrom (List.getElem?_eq_getElem hi)
    obtain ⟨b, hb, -, hlocb, -, -⟩ := hfrom (List.getElem?_eq_getElem hj)
    obtain ⟨hi', rfl⟩ := List.getElem?_eq_some_iff.mp ha
    obtain ⟨hj', rfl⟩ := List.getElem?_eq_some_iff.mp hb
    dsimp only
    rw [hloca, hwa, hlocb]
    exact List.pairwise_iff_getElem.mp hfits i j hi' hj' hij
  · intro p hp
    obtain ⟨m', hm', rfl⟩ := List.mem_map.mp hp
    obtain ⟨i, hi⟩ := List.getElem?_of_mem hm'
    obtain ⟨m, hm, ho, hloc, -, houtput⟩ := hfrom hi
    dsimp only
    rw [hloc, ho, houtput]
    exact h.located (m.output, m.m) (List.mem_map.mpr ⟨m, List.mem_of_getElem? hm, rfl⟩)

end Desk

namespace Rwl

/-- One operation. -/
def outputStep (s : Rwl) : OutputOp → Rwl
  | .added o info => step s (.output_added o info)
  | .removed o => step s (.output_removed o)
  | .reload file => ({ s with config_file := file } : Rwl).reload_config

/-- The rules the operation applies have no position. -/
def Automatic (s : Rwl) : OutputOp → Prop
  | .added _ info =>
      ¬ (0 ≤ (matching_rule s.desk.cfg info.name).x ∧ 0 ≤ (matching_rule s.desk.cfg info.name).y)
  | .removed _ => True
  | .reload file => ∀ m ∈ s.desk.monitors,
      ¬ (0 ≤ (s.desk.ruleIn file m).x ∧ 0 ≤ (s.desk.ruleIn file m).y)

/-- A reload makes no monitor reach over a later one. -/
def Fits (s : Rwl) : OutputOp → Prop
  | .reload file => s.desk.Fits file
  | _ => True

instance (s : Rwl) (op : OutputOp) : Decidable (s.Automatic op) := by
  cases op <;> unfold Automatic <;> infer_instance

instance (s : Rwl) (op : OutputOp) : Decidable (s.Fits op) := by
  cases op <;> unfold Fits <;> infer_instance

theorem placed_outputStep {s : Rwl} {op : OutputOp} (h : s.desk.Placed)
    (hauto : s.Automatic op) (hfits : s.Fits op) : (s.outputStep op).desk.Placed := by
  cases op with
  | added o info =>
    rw [outputStep, step]
    split_ifs with hknown
    · exact h
    · rw [desk_output_added]
      exact (h.addMonitor hauto (Option.not_isSome_iff_eq_none.mp hknown)).arrangePasses
  | removed o =>
    rw [outputStep, step]
    unfold output_removed
    rw [desk_arrange_all]
    apply Desk.Placed.arrangePasses
    split
    · exact h.removeMonitor _
    · exact h
  | reload file =>
    rw [outputStep, desk_reload_config]
    apply Desk.Placed.arrangePasses
    have hruled := Desk.Placed.reapply_monitor_rules (d := { s.desk with cfg := file })
      ⟨h.nodup, h.ordered, h.located⟩ hauto hfits
    refine hruled.of_same ?_ rfl
    unfold reloadedDesk Desk.spots
    dsimp only
    rw [List.map_map]
    congr 1
    funext m
    have hkeep := (Monitor.reviewed_apply
      ({ s.desk with cfg := file } : Desk).reapply_monitor_rules.cfg m m.tags).sameOutput
    dsimp only [Function.comp_apply]
    rw [hkeep.1, hkeep.2.1]

/-- **Automatic monitors never overlap and stay where their outputs are, in every run whose
reloads leave each monitor short of the later ones.** -/
theorem monitors_disjoint (env : Setup) (ops : List OutputOp)
    (h : Guarded outputStep (fun s op => s.Automatic op ∧ s.Fits op) (init env) ops) :
    Always outputStep (fun s => s.desk.MonitorsDisjoint ∧ s.desk.LocationsAgree) (init env) ops := by
  have hstart : (init env).desk.Placed :=
    ⟨List.nodup_nil, List.Pairwise.nil, fun _ hp => absurd hp List.not_mem_nil⟩
  exact (h.always (I := fun s => s.desk.Placed)
    (fun _ _ hs hg => placed_outputStep hs hg.1 hg.2) hstart).mono
      fun _ hs => ⟨hs.disjoint, hs.locations⟩

/-- A configuration whose outputs have the scale `scale`. -/
def scaledConfig (scale : ℚ) : Config :=
  { plainConfig [] [] with monitor_rules := [{ MonitorRule.default with scale := scale }] }

/-- Two outputs, a removal, the same output again and a reload that makes all of them smaller. -/
def shrinkingOps : List OutputOp :=
  [.added 0 (plainOutput "a"), .added 1 (plainOutput "b"), .removed 0, .added 0 (plainOutput "a"),
    .reload (scaledConfig 2)]

theorem monitors_disjoint_shrinking :
    Always outputStep (fun s => s.desk.MonitorsDisjoint ∧ s.desk.LocationsAgree)
      (init (plainSetup [] [])) shrinkingOps :=
  monitors_disjoint (plainSetup [] []) shrinkingOps (by decide +kernel)

/-- Two outputs at scale 2 side by side, and a reload to scale 1. -/
def growingOps : List OutputOp :=
  [.added 0 (plainOutput "a"), .added 1 (plainOutput "b"), .reload (scaledConfig 1)]

/-- The grown first monitor covers the second one. -/
theorem not_monitors_disjoint :
    ¬ ∀ (env : Setup) (ops : List OutputOp), Guarded outputStep Automatic (init env) ops →
      Always outputStep (fun s => s.desk.MonitorsDisjoint ∧ s.desk.LocationsAgree)
        (init env) ops := by
  intro h
  have hall := h { plainSetup [] [] with cfg := scaledConfig 2 } growingOps (by decide +kernel)
  have hend := hall.2.2.2.1
  rw [Desk.MonitorsDisjoint, List.pairwise_iff_getElem] at hend
  refine hend 0 1 (by decide +kernel) (by decide +kernel) Nat.one_pos ⟨400, 0⟩ ?_
  decide +kernel

end Rwl

end Compositor
