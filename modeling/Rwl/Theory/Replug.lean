import Mathlib.Tactic.Common
import Rwl.Theory.Connectors
import Rwl.Theory.Reload

/-!
# Outputs that come back

* `MonitorView.Restorable`: the layouts of a monitor that `restore` gives back as they are;
  `snapshot_restore`;
* `Desk.remembered`: what is remembered of the outputs, and the names of the outputs; only
  outputs that come and go change it;
* `Parked`: an output is not plugged in, and its monitor is remembered;
* `replug_restores`: an output that is plugged in again has the layouts it had.
-/

namespace Compositor

open Transition

/-! ### What is restored -/

/-- The layouts and the pins are layouts of the configuration, and each tag has its place for a
pin; without any layout, the first one stands for the one in use. -/
structure MonitorView.Restorable (cfg : Config) (v : MonitorView) : Prop where
  layout : ∀ slot, v.lt slot ≤ cfg.layouts.length - 1
  pins : ∀ idx, some idx ∈ v.tag_lt_override → idx ≤ cfg.layouts.length - 1
  tags : v.tag_lt_override.length = cfg.tag_count

namespace Monitor

/-- **What was remembered of a monitor is restored.** -/
theorem snapshot_restore {cfg : Config} {m : Monitor} (h : m.viewed.Restorable cfg)
    (mon : Monitor) : (mon.restore cfg m.snapshot).snapshot = m.snapshot := by
  have hlt : (fun slot => min (m.lt slot) (cfg.layouts.length - 1)) = m.lt :=
    funext fun slot => Nat.min_eq_left (h.layout slot)
  have hpins : ((List.range cfg.tag_count).map fun i => ((m.tag_lt_override[i]?).join).map
      fun idx => min idx (cfg.layouts.length - 1)) = m.tag_lt_override := by
    have htags : m.tag_lt_override.length = cfg.tag_count := h.tags
    refine List.ext_getElem (by simp [htags]) fun i hi hi' => ?_
    rw [List.getElem_map, List.getElem_range, List.getElem?_eq_getElem hi']
    cases hpin : m.tag_lt_override[i] with
    | none => rfl
    | some idx =>
      have hle := h.pins idx (hpin ▸ List.getElem_mem hi')
      exact congrArg some (Nat.min_eq_left hle)
  unfold restore snapshot
  dsimp only
  rw [hlt, hpins]

theorem keeps_restorable (cfg : Config) : Keeps cfg fun m => m.viewed.Restorable cfg where
  pushTags _ _ _ _ h := ⟨h.layout, h.pins, h.tags⟩
  flipTags _ h := ⟨h.layout, h.pins, h.tags⟩
  pushLayout m idx hidx h := by
    refine ⟨fun slot => ?_, h.pins, h.tags⟩
    show Function.update m.lt (!m.sel_lt) idx slot ≤ _
    by_cases hslot : slot = !m.sel_lt
    · rw [hslot, Function.update_self]
      omega
    · rw [Function.update_of_ne hslot]
      exact h.layout slot
  flipLayout _ h := ⟨h.layout, h.pins, h.tags⟩
  setPin m i pin hpin h := by
    refine ⟨h.layout, fun idx hidx => ?_, (List.length_set ..).trans h.tags⟩
    rcases List.mem_or_eq_of_mem_set hidx with hidx | hidx
    · exact h.pins idx hidx
    · rcases hpin with rfl | rfl
      · cases hidx
      · obtain rfl := Option.some.inj hidx
        exact h.layout m.sel_lt

end Monitor

namespace Desk

/-- The layouts of every monitor can be restored. -/
def Restorable (cfg : Config) (d : Desk) : Prop := ∀ v ∈ d.viewed, v.Restorable cfg

variable {cfg : Config} {d : Desk}

theorem restorable_newMonitor (hd : d.cfg = cfg) (o : OutputId) (info : OutputInfo) :
    (d.newMonitor o info).viewed.Restorable cfg := by
  unfold newMonitor
  dsimp only
  rw [hd]
  split
  · refine ⟨fun _ => Nat.min_le_right .., fun idx hidx => ?_, by simp [Monitor.viewed,
      Monitor.restore]⟩
    obtain ⟨i, -, hi⟩ := List.mem_map.1 hidx
    obtain ⟨j, -, rfl⟩ := Option.map_eq_some_iff.1 hi
    exact Nat.min_le_right ..
  · refine ⟨fun _ => Nat.min_le_right .., fun idx hidx => ?_, List.length_replicate ..⟩
    cases List.eq_of_mem_replicate hidx

theorem Restorable.modifyMonitor (h : d.Restorable cfg) (i : ℕ) {f : Monitor → Monitor}
    (hf : ∀ m : Monitor, m.viewed.Restorable cfg → (f m).viewed.Restorable cfg) :
    (d.modifyMonitor i f).Restorable cfg := by
  intro v hv
  obtain ⟨m, hm, rfl⟩ := List.mem_map.1 hv
  exact Recency.forall_mem_modify (P := fun m => m.viewed.Restorable cfg) hf
    (fun m hm => h _ (List.mem_map_of_mem hm)) i m hm

theorem restorable_life {g : Grab} {e : Rwl.Event} {d' : Desk} (hd : d.cfg = cfg)
    (hl : Rwl.Life g e d d') (h : d.Restorable cfg) : d'.Restorable cfg := by
  have hsame (hmon : d'.monitors = d.monitors) : d'.Restorable cfg := by
    unfold Restorable viewed
    rw [hmon]
    exact h
  cases hl with
  | monitor _ o info =>
    intro v hv
    obtain ⟨m, hm, rfl⟩ := List.mem_map.1 hv
    rcases List.mem_append.1 hm with hm | hm
    · exact h _ (List.mem_map_of_mem hm)
    · obtain rfl := List.mem_singleton.1 hm
      exact restorable_newMonitor hd o info
  | unplugged _ o i =>
    intro v hv
    obtain ⟨m, hm, rfl⟩ := List.mem_map.1 hv
    exact h _ (List.mem_map_of_mem (List.mem_of_mem_eraseIdx hm))
  | unmapped => exact hsame (swallow.monitors_on_unmap _ _)
  | swallowed => exact hsame (swallow.monitors_try_swallow _ _)
  | dragged_by _ _ _ _ hd | dragged_to _ _ _ _ hd =>
    obtain ⟨_, _, _, i, _, rfl⟩ := hd
    exact h.modifyMonitor i fun _ hm => hm
  | _ => exact hsame rfl

theorem restorable_change {file : Config} {L : Desk → Desk → Prop} {d' : Desk} (hd : d.cfg = cfg)
    (hL : L d d' → d'.Restorable cfg) (hc : Change file L d d') (h : d.Restorable cfg) :
    d'.Restorable cfg := by
  have hkeeps := Monitor.keeps_restorable cfg
  cases hc with
  | relaid _ _ hviews =>
    unfold Restorable
    rw [hviews]
    exact h
  | monitor i op hop =>
    rw [hd]
    exact h.modifyMonitor i fun m hm => hkeeps.run hm op fun t heq => absurd heq (hop t)
  | back i cur w t =>
    rw [hd]
    exact h.modifyMonitor i fun m hm => hkeeps.run hm _ fun _ _ => ⟨hm.layout, hm.pins, hm.tags⟩
  | tune i f hf =>
    refine h.modifyMonitor i fun m hm => ?_
    have hviewed : (f m).viewed = m.viewed := congrArg Prod.fst (hf m).1
    rwa [hviewed]
  | rules e hr =>
    change ∀ v ∈ e.viewed, _
    rw [hr.viewed]
    exact h
  | every =>
    intro v hv
    obtain ⟨m, hm, rfl⟩ := List.mem_map.1 hv
    obtain ⟨m', hm', rfl⟩ := List.mem_map.1 hm
    rw [hd]
    exact hkeeps.run (h _ (List.mem_map_of_mem hm')) .apply nofun
  | history i tags =>
    unfold Restorable viewed
    rw [monitors_update_tag_history]
    exact h
  | life _ hl => exact hL hl
  | _ => exact h

/-! ### What is remembered -/

/-- The name of an output. -/
def nameOf (d : Desk) (o : OutputId) : String := (d.output o).name

/-- What is remembered of the outputs, and their names. -/
def remembered (d : Desk) : (String → Option MonitorMemory) × (OutputId → String) :=
  (d.monitor_memory, d.nameOf)

theorem remembered_of_bare {d d' : Desk} (h : d'.bare = d.bare) : d'.remembered = d.remembered :=
  (congrArg (fun b : Desk => (b.monitor_memory, fun o => (b.output o).name)) h :)

/-- A small update remembers nothing and names nothing. -/
theorem Change.keeps_remembered {file : Config} {L : Desk → Desk → Prop} {d d' : Desk}
    (h : Change file L d d') (hL : L d d' → d'.remembered = d.remembered) :
    d'.remembered = d.remembered := by
  cases h with
  | relaid _ hb => exact remembered_of_bare hb
  | outputs _ hname => exact Prod.ext rfl (funext hname)
  | rules _ h =>
    obtain ⟨ms, o, rfl, -, ho⟩ := h
    exact Prod.ext rfl (funext ho)
  | history i tags =>
    unfold update_tag_history
    split
    · split_ifs <;> rfl
    · rfl
  | life _ h => exact hL h
  | _ => rfl

end Desk

namespace Rwl

/-- Only outputs that come and go are remembered or named. -/
theorem remembered_step (s : Rwl) (e : Event) (hadd : ∀ o info, e ≠ .output_added o info)
    (hremove : ∀ o, e ≠ .output_removed o) :
    (step s e).desk.remembered = s.desk.remembered := by
  by_cases hcfg : ∃ cfg, e = .config_written cfg
  · obtain ⟨cfg, rfl⟩ := hcfg
    rfl
  · have hmoves := Moves.step s e (fun cfg h => hcfg ⟨cfg, h⟩) fun _ _ h => h
    have hlife {d d' : Desk} (hl : Life s.grab e d d') : d'.remembered = d.remembered := by
      cases hl with
      | monitor => exact absurd rfl (hadd _ _)
      | unplugged => exact absurd rfl (hremove _)
      | unmapped _ f w =>
        unfold swallow.on_unmap
        dsimp only
        split <;> split_ifs <;> rfl
      | swallowed _ f b w =>
        unfold swallow.try_swallow
        dsimp only
        split <;> rfl
      | dragged_by _ _ _ _ hd | dragged_to _ _ _ _ hd =>
        obtain ⟨_, _, _, _, _, rfl⟩ := hd
        rfl
      | _ => rfl
    have hchain {d : Desk} (hc : Desk.Changes s.config_file (Life s.grab e) s.desk d) :
        d.remembered = s.desk.remembered := by
      induction hc with
      | refl => rfl
      | tail _ hstep ih => exact (hstep.keeps_remembered hlife).trans ih
    exact hchain hmoves.changes

theorem desk_output_removed (s : Rwl) (o : OutputId) : (s.output_removed o).desk =
    (((s.desk.monitor_for_output o).map s.desk.removeMonitor).getD s.desk).arrangePasses := by
  unfold output_removed
  rw [desk_arrange_all]
  cases s.desk.monitor_for_output o <;> rfl

theorem remembered_output_added (s : Rwl) {o : OutputId} (info : OutputInfo)
    (ho : o ∉ s.desk.outputs) : (step s (.output_added o info)).desk.remembered =
      (Function.update s.desk.monitor_memory info.name none,
        Function.update s.desk.nameOf o info.name) := by
  have hnew : ¬(s.desk.monitor_for_output o).isSome = true := by
    rwa [Desk.monitor_for_output_eq, List.isSome_idxOf?]
  rw [step, if_neg hnew, desk_output_added, Desk.remembered_of_bare (Desk.bare_arrangePasses _)]
  refine Prod.ext rfl (funext fun o' => ?_)
  show (Function.update s.desk.output o _ o').name = Function.update s.desk.nameOf o info.name o'
  by_cases ho' : o' = o
  · subst ho'
    rw [Function.update_self, Function.update_self]
  · rw [Function.update_of_ne ho', Function.update_of_ne ho']
    rfl

/-- The monitor of a removed output is remembered under its name. -/
theorem remembered_output_removed (s : Rwl) (o : OutputId) :
    (step s (.output_removed o)).desk.remembered =
      (((s.desk.monitors.find? fun m => decide (m.output = o)).map fun m =>
          Function.update s.desk.monitor_memory (s.desk.nameOf o) (some m.snapshot)).getD
        s.desk.monitor_memory, s.desk.nameOf) := by
  show (s.output_removed o).desk.remembered = _
  rw [desk_output_removed, Desk.remembered_of_bare (Desk.bare_arrangePasses _)]
  unfold Desk.monitor_for_output
  cases hidx : s.desk.monitors.findIdx? fun m => decide (m.output = o) with
  | none =>
    have hnone : (s.desk.monitors.find? fun m => decide (m.output = o)) = none :=
      List.find?_eq_none.2 fun m hm => by
        simpa using List.findIdx?_eq_none_iff.1 hidx m hm
    rw [hnone]
    rfl
  | some i =>
    obtain ⟨hlt, ho, hfirst⟩ := List.findIdx?_eq_some_iff_getElem.1 hidx
    have hfind : (s.desk.monitors.find? fun m => decide (m.output = o)) =
        some s.desk.monitors[i] := by
      rw [List.find?_eq_some_iff_getElem]
      exact ⟨ho, i, hlt, rfl, fun j hj => by simpa using hfirst j hj⟩
    rw [hfind]
    refine Prod.ext ?_ rfl
    show (Desk.removeMonitor s.desk i).monitor_memory = _
    unfold Desk.removeMonitor
    rw [List.getElem?_eq_getElem hlt]
    dsimp only
    rw [of_decide_eq_true ho]
    rfl

end Rwl

/-! ### Layout passes -/

/-- No tag has a layout that depends on the number of windows. -/
def Config.NoCounts (cfg : Config) : Prop := ∀ list, some (.ByCount list) ∉ cfg.pertag_layouts

theorem Config.NoCounts.apply_dynamic_eq {cfg : Config} (h : cfg.NoCounts) (m : Monitor)
    (tags count : ℕ) : pertag_layouts.apply_dynamic cfg m tags count = m := by
  unfold pertag_layouts.apply_dynamic
  dsimp only
  split_ifs
  · rfl
  · rfl
  · split
    · rename_i list hlist
      have hrule := Option.join_eq_some_iff.1 hlist
      exact absurd (List.mem_of_getElem? hrule) (h list)
    · rfl
    · rfl

namespace Desk

/-- The layout state of output `o`: what would be remembered of it. -/
def layoutsOf (d : Desk) (o : OutputId) : Option MonitorMemory :=
  (d.monitors.find? fun m => decide (m.output = o)).map Monitor.snapshot

/-- The layout state of each output. -/
def layouts (d : Desk) : List (OutputId × MonitorMemory) :=
  d.monitors.map fun m => (m.output, m.snapshot)

theorem layoutsOf_eq (d : Desk) (o : OutputId) :
    d.layoutsOf o = (d.layouts.find? fun p => decide (p.1 = o)).map Prod.snd := by
  unfold layoutsOf layouts
  rw [List.find?_map, Option.map_map]
  rfl

/-- Without layouts that depend on the number of windows, layout passes change none. -/
theorem layouts_arrangePasses {d : Desk} (h : d.cfg.NoCounts) :
    d.arrangePasses.layouts = d.layouts := by
  refine List.ext_getElem? fun j => ?_
  unfold layouts
  rw [List.getElem?_map, List.getElem?_map]
  have hviewed := viewed_arrangePasses d j
  have hbare : (d.arrangePasses.monitors[j]?).map bareMonitor = (d.monitors[j]?).map bareMonitor := by
    rw [← List.getElem?_map, ← List.getElem?_map]
    exact (congrArg (fun b : Desk => b.monitors[j]?) (bare_arrangePasses d) :)
  cases hm : d.monitors[j]? with
  | none =>
    rw [hm, Option.map_none, Option.map_eq_none_iff] at hbare
    rw [hbare]
  | some m =>
    rw [hm, Option.map_some] at hviewed hbare
    obtain ⟨m', hm', hbare⟩ := Option.map_eq_some_iff.1 hbare
    rw [hm', Option.map_some, h.apply_dynamic_eq, Option.some.injEq] at hviewed
    rw [hm']
    refine congrArg some (Prod.ext (congrArg Monitor.output hbare :) ?_)
    have hmfact : m'.mfact = m.mfact := (congrArg Monitor.mfact hbare :)
    have hnmaster : m'.nmaster = m.nmaster := (congrArg Monitor.nmaster hbare :)
    have hlt : m'.lt = m.lt := (congrArg MonitorView.lt hviewed :)
    have hsel : m'.sel_lt = m.sel_lt := (congrArg MonitorView.sel_lt hviewed :)
    have hpins : m'.tag_lt_override = m.tag_lt_override :=
      (congrArg MonitorView.tag_lt_override hviewed :)
    show m'.snapshot = m.snapshot
    unfold Monitor.snapshot
    rw [hmfact, hnmaster, hlt, hsel, hpins]

/-- The names of the outputs that are plugged in. -/
def names (d : Desk) : List String := d.outputs.map d.nameOf

/-- Output `n` is not plugged in, and `mem` is remembered of it. -/
structure Parked (n : String) (mem : MonitorMemory) (d : Desk) : Prop where
  unplugged : n ∉ d.names
  memory : d.monitor_memory n = some mem

end Desk

namespace Rwl

open Desk (Parked)

/-- An output that comes is not plugged in and has a name that no other one has. -/
def Fresh (s : Rwl) : Event → Prop
  | .output_added o info => o ∉ s.desk.outputs ∧ info.name ∉ s.desk.names
  | _ => True

instance decidableFresh (s : Rwl) (e : Event) : Decidable (Fresh s e) := by
  unfold Fresh
  split <;> infer_instance

/-- The configuration stays, and the names of the outputs are distinct. -/
def Hotplugs (s : Rwl) (e : Event) : Prop := KeepsConfig s e ∧ Fresh s e

variable {s : Rwl} {n : String} {mem : MonitorMemory}

theorem names_output_added {o : OutputId} {info : OutputInfo} (ho : o ∉ s.desk.outputs) :
    (step s (.output_added o info)).desk.names = s.desk.names ++ [info.name] := by
  have hname : (step s (.output_added o info)).desk.nameOf =
      Function.update s.desk.nameOf o info.name :=
    congrArg Prod.snd (s.remembered_output_added info ho)
  unfold Desk.names
  rw [outputs_output_added, if_neg ho, hname, List.map_append, List.map_singleton,
    Function.update_self]
  refine congrArg (· ++ [info.name]) (List.map_congr_left fun o' ho' => ?_)
  exact Function.update_of_ne (ne_of_mem_of_not_mem ho' ho) ..

theorem names_output_removed (s : Rwl) (o : OutputId) :
    (step s (.output_removed o)).desk.names = (s.desk.outputs.erase o).map s.desk.nameOf := by
  have hname : (step s (.output_removed o)).desk.nameOf = s.desk.nameOf :=
    congrArg Prod.snd (s.remembered_output_removed o)
  unfold Desk.names
  rw [outputs_output_removed, hname]

theorem names_step {e : Event} (hadd : ∀ o info, e ≠ .output_added o info)
    (hremove : ∀ o, e ≠ .output_removed o) : (step s e).desk.names = s.desk.names := by
  have hname : (step s e).desk.nameOf = s.desk.nameOf :=
    congrArg Prod.snd (s.remembered_step e hadd hremove)
  unfold Desk.names
  rw [outputs_step s e hadd hremove, hname]

/-- The names stay distinct. -/
theorem nodup_names_step {e : Event} (he : Hotplugs s e) (h : s.desk.names.Nodup) :
    (step s e).desk.names.Nodup := by
  by_cases hadd : ∃ o info, e = .output_added o info
  · obtain ⟨o, info, rfl⟩ := hadd
    obtain ⟨ho, hnew⟩ := he.2
    rw [names_output_added ho]
    refine List.nodup_append.2 ⟨h, List.nodup_singleton _, fun a ha b hb => ?_⟩
    obtain rfl := List.mem_singleton.1 hb
    exact fun hab => hnew (hab ▸ ha)
  · by_cases hremove : ∃ o, e = .output_removed o
    · obtain ⟨o, rfl⟩ := hremove
      rw [names_output_removed]
      exact h.sublist (List.erase_sublist.map _)
    · rw [names_step (fun o info h => hadd ⟨o, info, h⟩) fun o h => hremove ⟨o, h⟩]
      exact h

theorem mem_outputs_of_find? {o : OutputId} {m : Monitor}
    (h : (s.desk.monitors.find? fun m => decide (m.output = o)) = some m) : o ∈ s.desk.outputs := by
  have hm := List.find?_some h
  exact List.mem_map.2 ⟨m, List.mem_of_find?_eq_some h, of_decide_eq_true hm⟩

/-- A removed output is remembered as it was. -/
theorem parked_output_removed {o : OutputId} (h : s.desk.names.Nodup)
    (ho : s.desk.layoutsOf o = some mem) :
    Parked (s.desk.nameOf o) mem (step s (.output_removed o)).desk := by
  obtain ⟨m, hfound, rfl⟩ := Option.map_eq_some_iff.1 ho
  have hplugged : o ∈ s.desk.outputs := mem_outputs_of_find? hfound
  refine ⟨fun hmember => ?_, ?_⟩
  · rw [names_output_removed] at hmember
    obtain ⟨o₁, ho₁, hname⟩ := List.mem_map.1 hmember
    have hsame : o₁ = o :=
      List.inj_on_of_nodup_map h (List.mem_of_mem_erase ho₁) hplugged hname
    have hnodup : s.desk.outputs.Nodup := h.of_map _
    exact hnodup.not_mem_erase (hsame ▸ ho₁)
  · refine (congrFun (congrArg Prod.fst (s.remembered_output_removed o)) _).trans ?_
    rw [hfound]
    exact Function.update_self ..

/-- What is remembered stays until the output comes back. -/
theorem parked_step {e : Event} (he : Hotplugs s e) (hback : ∀ o info, e = .output_added o info →
    info.name ≠ n) (h : Parked n mem s.desk) : Parked n mem (step s e).desk := by
  by_cases hadd : ∃ o info, e = .output_added o info
  · obtain ⟨o, info, rfl⟩ := hadd
    obtain ⟨ho, -⟩ := he.2
    have hother := hback o info rfl
    refine ⟨?_, ?_⟩
    · rw [names_output_added ho, List.mem_append, List.mem_singleton]
      rintro (hn | hn)
      · exact h.unplugged hn
      · exact hother hn.symm
    · refine (congrFun (congrArg Prod.fst (s.remembered_output_added info ho)) n).trans ?_
      exact (Function.update_of_ne (Ne.symm hother) ..).trans h.memory
  · by_cases hremove : ∃ o, e = .output_removed o
    · obtain ⟨o, rfl⟩ := hremove
      refine ⟨fun hmember => ?_, ?_⟩
      · rw [names_output_removed] at hmember
        exact h.unplugged ((List.erase_sublist.map s.desk.nameOf).subset hmember)
      · refine (congrFun (congrArg Prod.fst (s.remembered_output_removed o)) n).trans ?_
        cases hfind : s.desk.monitors.find? fun m => decide (m.output = o) with
        | none => exact h.memory
        | some m =>
          have hplugged : s.desk.nameOf o ∈ s.desk.names :=
            List.mem_map_of_mem (mem_outputs_of_find? hfind)
          have hne : n ≠ s.desk.nameOf o := fun hn => h.unplugged (hn ▸ hplugged)
          exact (Function.update_of_ne hne ..).trans h.memory
    · have hnot := s.remembered_step e (fun o info h => hadd ⟨o, info, h⟩) fun o h => hremove ⟨o, h⟩
      refine ⟨?_, (congrFun (congrArg Prod.fst hnot) n).trans h.memory⟩
      rw [names_step (fun o info h => hadd ⟨o, info, h⟩) fun o h => hremove ⟨o, h⟩]
      exact h.unplugged

/-! ### Runs -/

/-- What holds all along a run under one configuration whose outputs have distinct names. -/
structure Pluggable (cfg : Config) (d : Desk) : Prop where
  config : d.cfg = cfg
  restorable : d.Restorable cfg
  names : d.names.Nodup

theorem pluggable_step {cfg : Config} {e : Event} (he : Hotplugs s e) (h : Pluggable cfg s.desk) :
    Pluggable cfg (step s e).desk := by
  refine ⟨he.1.trans h.config, ?_, nodup_names_step he h.names⟩
  exact step_under_config (I := fun d => d.Restorable cfg) (fun d d' hd hm hc =>
    Desk.restorable_change hd (fun hl => Desk.restorable_life hd hl hm) hc hm) h.config h.restorable he.1

theorem pluggable_run {cfg : Config} {es : List Event} (hes : Guarded step Hotplugs s es)
    (h : Pluggable cfg s.desk) : Pluggable cfg (run step s es).desk :=
  hes.inv_run (I := fun s => Pluggable cfg s.desk) (fun _ _ hs he => pluggable_step he hs) h

theorem parked_run {es : List Event} (hes : Guarded step Hotplugs s es)
    (hback : ∀ o info, .output_added o info ∈ es → info.name ≠ n) (h : Parked n mem s.desk) :
    Parked n mem (run step s es).desk := by
  induction es generalizing s with
  | nil => exact h
  | cons e es ih =>
    refine ih hes.2 (fun o info hmem => hback o info (List.mem_cons_of_mem e hmem)) ?_
    refine parked_step hes.1 (fun o info he => hback o info ?_) h
    exact he ▸ List.mem_cons_self

/-- **An output that is plugged in again has its layout state back.** -/
theorem layoutsOf_output_added {cfg : Config} (hcfg : cfg.NoCounts) (h : Pluggable cfg s.desk)
    {o : OutputId} {info : OutputInfo} (ho : o ∉ s.desk.outputs) {m : Monitor}
    (hm : m.viewed.Restorable cfg) (hmemory : s.desk.monitor_memory info.name = some m.snapshot) :
    (step s (.output_added o info)).desk.layoutsOf o = some m.snapshot := by
  have hnew : ¬(s.desk.monitor_for_output o).isSome = true := by
    rwa [Desk.monitor_for_output_eq, List.isSome_idxOf?]
  have hnocounts : (s.desk.addMonitor o info).cfg.NoCounts := by
    show s.desk.cfg.NoCounts
    rw [h.config]
    exact hcfg
  have hrestored : (s.desk.newMonitor o info).snapshot = m.snapshot := by
    unfold Desk.newMonitor
    rw [hmemory]
    dsimp only
    rw [h.config]
    exact Monitor.snapshot_restore hm _
  rw [Desk.layoutsOf_eq, step, if_neg hnew, desk_output_added, Desk.layouts_arrangePasses hnocounts,
    ← Desk.layoutsOf_eq]
  show ((s.desk.monitors ++ [s.desk.newMonitor o info]).find? _).map _ = _
  have hbefore : (s.desk.monitors.find? fun m => decide (m.output = o)) = none :=
    List.find?_eq_none.2 fun m hm hmo =>
      ho (List.mem_map.2 ⟨m, hm, of_decide_eq_true hmo⟩)
  have houtput : (s.desk.newMonitor o info).output = o := (Desk.newMonitor_boxes s.desk o info).1
  rw [List.find?_append, hbefore, Option.none_or, List.find?_singleton, if_pos (decide_eq_true houtput),
    Option.map_some, hrestored]

/-- **Outputs come back with the layout state they had when they were last removed**, whatever
happened to the others in between: under one configuration without layouts that depend on the
number of windows, and with distinct names. -/
theorem replug_restores (env : Setup) (hcfg : env.cfg.NoCounts) (before between : List Event)
    (o o' : OutputId) (info : OutputInfo)
    (hrun : Guarded step Hotplugs (init env)
      (before ++ .output_removed o :: (between ++ [.output_added o' info])))
    (ho : o ∈ (run step (init env) before).desk.outputs)
    (hname : info.name = (run step (init env) before).desk.nameOf o)
    (hbetween : ∀ o₁ info₁, .output_added o₁ info₁ ∈ between → info₁.name ≠ info.name) :
    (run step (init env)
        (before ++ .output_removed o :: (between ++ [.output_added o' info]))).desk.layoutsOf o' =
      (run step (init env) before).desk.layoutsOf o := by
  let s := run step (init env) before
  obtain ⟨hbefore, hremove, hrest⟩ := guarded_append.1 hrun
  obtain ⟨hguard, hadd, -⟩ := guarded_append.1 hrest
  have hinit : Pluggable env.cfg (init env).desk := ⟨rfl, nofun, List.nodup_nil⟩
  have hs : Pluggable env.cfg s.desk := pluggable_run hbefore hinit
  obtain ⟨m, hfound⟩ : ∃ m, (s.desk.monitors.find? fun m => decide (m.output = o)) = some m := by
    obtain ⟨m, hm, hmo⟩ := List.mem_map.1 ho
    exact Option.isSome_iff_exists.1 (List.find?_isSome.2 ⟨m, hm, decide_eq_true hmo⟩)
  have hlayouts : s.desk.layoutsOf o = some m.snapshot := by
    unfold Desk.layoutsOf
    rw [hfound]
    rfl
  have hm : m.viewed.Restorable env.cfg :=
    hs.restorable _ (List.mem_map_of_mem (List.mem_of_find?_eq_some hfound))
  -- the output is remembered until it comes back
  have hremoved : Pluggable env.cfg (step s (.output_removed o)).desk ∧
      Parked info.name m.snapshot (step s (.output_removed o)).desk :=
    ⟨pluggable_step hremove hs, hname ▸ parked_output_removed hs.names hlayouts⟩
  have hkept := parked_run hguard hbetween hremoved.2
  have hplug := pluggable_run hguard hremoved.1
  rw [run_append, run_cons, run_append, hlayouts]
  exact layoutsOf_output_added hcfg hplug hadd.2.1 hm hkept.memory

/-- A setup with three layouts. -/
def threeLayouts : Setup :=
  { plainSetup [] [] with
    cfg := { plainConfig [] [] with
      layouts := [⟨"[]=", .Tile⟩, ⟨"[M]", .Monocle⟩, ⟨"|||", .Col⟩] } }

/-- Two outputs; the layout state of the first one changes. -/
def unplugRun : List Event :=
  [.output_added 0 (plainOutput "a"), .output_added 1 (plainOutput "b"),
    .ipc_outputs .setlayout (some 0) 1, .ipc (.IncNmaster 2), .ipc (.SetMfact (1 / 10))]

/-- The second output changes and goes, too, and comes back. -/
def meanwhileRun : List Event :=
  [.ipc (.IncNmaster 1), .ipc_outputs .setlayout none 2, .output_removed 1,
    .output_added 2 (plainOutput "b"), .ipc_outputs .view none 4]

theorem replug_restores_two :
    (run step (init threeLayouts) (unplugRun ++ .output_removed 0 ::
        (meanwhileRun ++ [.output_added 3 (plainOutput "a")]))).desk.layoutsOf 3 =
      (run step (init threeLayouts) unplugRun).desk.layoutsOf 0 := by
  have hconfig : Guarded step KeepsConfig (init threeLayouts) (unplugRun ++
      .output_removed 0 :: (meanwhileRun ++ [.output_added 3 (plainOutput "a")])) :=
    guarded_keepsConfig rfl (by simp [unplugRun, meanwhileRun])
  have hfresh : Guarded step Fresh (init threeLayouts) (unplugRun ++
      .output_removed 0 :: (meanwhileRun ++ [.output_added 3 (plainOutput "a")])) := by
    decide +kernel
  exact replug_restores threeLayouts (fun _ => List.not_mem_nil) unplugRun meanwhileRun 0 3
    (plainOutput "a") (hconfig.and hfresh) (by decide +kernel) (by decide +kernel)
    (by simp [meanwhileRun, plainOutput])

end Rwl

end Compositor
