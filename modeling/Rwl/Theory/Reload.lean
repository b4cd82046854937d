import Mathlib.Tactic.Common
import Rwl.Theory.Views

/-!
# Reloading the configuration

A reload replaces the configuration that the views, the layout slots, the pins and the tags of the
windows refer to.

* `pertag_layouts.wanted`: the layout the per-tag rules ask for, and what `apply` and
  `apply_dynamic` together make of it;
* `viewed_passes`: what one round of layout passes does to the layout slots;
* `Fits`: what a monitor must look like before the reload;
* `reload_fits`: after a reload everything refers to the new configuration exactly when it fitted
  before.
-/

namespace Compositor

/-! ### Per-tag layouts -/

namespace pertag_layouts

/-- The layout the rules ask for: the pin of the single tag shown, else its fixed layout, else the
one for the number of tiled windows. -/
def wanted (cfg : Config) (mon : Monitor) (count : ℕ) : Option ℕ :=
  if is_single mon.tags = false then none
  else match pin mon (trailing_zeros mon.tags) with
    | some idx => some idx
    | none =>
      match (cfg.pertag_layouts[trailing_zeros mon.tags]?).join with
      | some (.Fixed idx) => some idx
      | some (.ByCount list) => list.getLast?.map fun fallback => (list[count - 1]?).getD fallback
      | none => none

/-- The pin of a tag survives a change of the layout slots. -/
theorem pin_set_monitor_layout (cfg : Config) (mon : Monitor) (idx tag_idx : ℕ) :
    pin (set_monitor_layout cfg mon idx) tag_idx = pin mon tag_idx := by
  unfold set_monitor_layout
  split_ifs <;> rfl

/-- `apply` and then `apply_dynamic` choose the layout the rules ask for. -/
theorem apply_dynamic_apply (cfg : Config) (mon : Monitor) (count : ℕ) :
    apply_dynamic cfg (apply cfg mon mon.tags) mon.tags count =
      ((wanted cfg mon count).map (set_monitor_layout cfg mon)).getD mon := by
  unfold wanted apply apply_dynamic
  dsimp only
  by_cases hsingle : is_single mon.tags = false
  · simp [hsingle]
  · rw [if_neg hsingle, if_neg hsingle, if_neg hsingle]
    cases hpin : pin mon (trailing_zeros mon.tags) with
    | some idx =>
      simp [pin_set_monitor_layout, hpin]
    | none =>
      cases hrule : (cfg.pertag_layouts[trailing_zeros mon.tags]?).join with
      | none => simp [hpin]
      | some rule =>
        cases rule with
        | Fixed idx => simp [pin_set_monitor_layout, hpin]
        | ByCount list => cases hlast : list.getLast? <;> simp [hpin, hlast]

end pertag_layouts

namespace Monitor

theorem viewed_set_monitor_layout {cfg : Config} {m m' : Monitor} (h : m'.viewed = m.viewed)
    (idx : ℕ) : (pertag_layouts.set_monitor_layout cfg m' idx).viewed =
      (pertag_layouts.set_monitor_layout cfg m idx).viewed := by
  have hidx : m'.layout_idx = m.layout_idx := (congrArg (fun v : MonitorView => v.lt v.sel_lt) h :)
  unfold pertag_layouts.set_monitor_layout
  rw [hidx]
  split_ifs
  · exact (congrArg (fun v : MonitorView =>
      { v with sel_lt := !v.sel_lt, lt := Function.update v.lt (!v.sel_lt) idx }) h :)
  · exact h

theorem viewed_apply_dynamic {cfg : Config} {m m' : Monitor} (h : m'.viewed = m.viewed)
    (mask count : ℕ) : (pertag_layouts.apply_dynamic cfg m' mask count).viewed =
      (pertag_layouts.apply_dynamic cfg m mask count).viewed := by
  have hpin (i : ℕ) : pertag_layouts.pin m' i = pertag_layouts.pin m i :=
    (congrArg (fun v : MonitorView => (v.tag_lt_override[i]?).join) h :)
  unfold pertag_layouts.apply_dynamic
  dsimp only
  rw [hpin]
  split_ifs
  · exact h
  · exact h
  · split
    · split
      · exact h
      · exact viewed_set_monitor_layout h _
    · exact h
    · exact h

end Monitor

namespace Monitor

theorem viewed_apply {cfg : Config} {m m' : Monitor} (h : m'.viewed = m.viewed) (mask : ℕ) :
    (pertag_layouts.apply cfg m' mask).viewed = (pertag_layouts.apply cfg m mask).viewed := by
  have hpin (i : ℕ) : pertag_layouts.pin m' i = pertag_layouts.pin m i :=
    (congrArg (fun v : MonitorView => (v.tag_lt_override[i]?).join) h :)
  unfold pertag_layouts.apply
  dsimp only
  rw [hpin]
  split_ifs
  · exact h
  · split
    · exact viewed_set_monitor_layout h _
    · split
      · exact viewed_set_monitor_layout h _
      · exact h
      · exact h

theorem tags_of_viewed {m m' : Monitor} (h : m'.viewed = m.viewed) : m'.tags = m.tags :=
  (congrArg (fun v : MonitorView => v.tagset v.sel_tags) h :)

end Monitor

/-! ### Layout passes -/

namespace Desk

/-- Only what a layout pass leaves alone is counted. -/
theorem count_tiled_congr {d d' : Desk} (h : d'.bare = d.bare) (tags : ℕ) :
    d'.count_tiled tags = d.count_tiled tags := by
  have hst (w : WinId) : bareWindow (d'.st w) = bareWindow (d.st w) :=
    (congrArg (fun b : Desk => b.st w) h :)
  have hwindows : d'.windows = d.windows := (congrArg Desk.windows h :)
  unfold count_tiled
  rw [hwindows]
  refine List.countP_congr fun w _ => ?_
  have hcount : countsAsTiled (d'.st w) tags = countsAsTiled (d.st w) tags :=
    (congrArg (fun s => countsAsTiled s tags) (hst w) :)
  rw [hcount]

/-- The layout pass of a monitor chooses its count-based layout and no other monitor's. -/
theorem viewed_arrange_getElem? (d : Desk) (i j : ℕ) :
    ((d.arrange i).monitors[j]?).map Monitor.viewed = (d.monitors[j]?).map fun m =>
      if i = j then (pertag_layouts.apply_dynamic d.cfg m m.tags (d.count_tiled m.tags)).viewed
      else m.viewed := by
  have hlist := congrArg (fun l : List MonitorView => l[j]?) (viewed_arrange d i)
  simp only [viewed, List.getElem?_map] at hlist
  rw [hlist]
  unfold applyDynamic
  by_cases hsingle : pertag_layouts.is_single (d.tagsOf i) = true
  · rw [if_pos hsingle]
    change (((d.monitors.modify i _)[j]?).map Monitor.viewed) = _
    rw [List.getElem?_modify]
    by_cases hij : i = j
    · subst hij
      cases hm : d.monitors[i]? with
      | none => rfl
      | some m => simp [tagsOf, hm]
    · simp [hij]
  · rw [if_neg hsingle]
    by_cases hij : i = j
    · subst hij
      cases hm : d.monitors[i]? with
      | none => rfl
      | some m =>
        have hfalse : pertag_layouts.is_single m.tags = false := by
          simpa [tagsOf, hm] using hsingle
        simp [pertag_layouts.apply_dynamic, hfalse]
    · simp [hij]

/-- A round of layout passes chooses the count-based layout of each monitor it comes to. -/
theorem viewed_passes (d : Desk) (k j : ℕ) :
    (((List.range k).foldl arrange d).monitors[j]?).map Monitor.viewed =
      (d.monitors[j]?).map fun m =>
        if j < k then (pertag_layouts.apply_dynamic d.cfg m m.tags (d.count_tiled m.tags)).viewed
        else m.viewed := by
  induction k with
  | zero => simp
  | succ k ih =>
    have hbare : ((List.range k).foldl arrange d).bare = d.bare :=
      Recency.foldl_keeps bare arrange bare_arrange _ d
    have hcfg : ((List.range k).foldl arrange d).cfg = d.cfg := (congrArg Desk.cfg hbare :)
    rw [List.range_succ, List.foldl_append, List.foldl_cons, List.foldl_nil,
      viewed_arrange_getElem?, hcfg]
    simp only [count_tiled_congr hbare]
    generalize ((List.range k).foldl arrange d).monitors[j]? = after at ih ⊢
    cases hm : d.monitors[j]? with
    | none =>
      rw [hm] at ih
      rw [Option.map_eq_none_iff.1 ih]
      rfl
    | some m =>
      rw [hm] at ih
      obtain ⟨m', rfl, hviewed⟩ := Option.map_eq_some_iff.1 ih
      dsimp only at hviewed
      by_cases hjk : k = j
      · subst hjk
        rw [if_neg (lt_irrefl k)] at hviewed
        simp [Monitor.tags_of_viewed hviewed, Monitor.viewed_apply_dynamic hviewed]
      · have hlt : j < k + 1 ↔ j < k := by omega
        simp [hjk, hviewed, hlt]

/-- `arrange_all` chooses the count-based layout of every monitor. -/
theorem viewed_arrangePasses (d : Desk) (j : ℕ) :
    (d.arrangePasses.monitors[j]?).map Monitor.viewed = (d.monitors[j]?).map fun m =>
      (pertag_layouts.apply_dynamic d.cfg m m.tags (d.count_tiled m.tags)).viewed := by
  have hpasses (n : ℕ) (hn : n = d.monitors.length) :
      (((List.range n).foldl arrange
        { d.update_work_areas with pending_tag_transition := none }).monitors[j]?).map
          Monitor.viewed = (d.monitors[j]?).map fun m =>
            (pertag_layouts.apply_dynamic d.cfg m m.tags (d.count_tiled m.tags)).viewed := by
    rw [viewed_passes]
    change ((d.monitors.map _)[j]?).map _ = _
    rw [List.getElem?_map]
    cases hm : d.monitors[j]? with
    | none => rfl
    | some m =>
      have hlt : j < n := hn ▸ (List.getElem?_eq_some_iff.1 hm).1
      have hviewed : Monitor.viewed { m with w := workArea (d.output m.output) m } = m.viewed := rfl
      simp only [Option.map_some, if_pos hlt, Option.some_inj]
      exact Monitor.viewed_apply_dynamic hviewed _ _
  have hlen : d.update_work_areas.monitors.length = d.monitors.length := List.length_map ..
  unfold arrangePasses
  dsimp only
  split
  · unfold start_tag_transition
    dsimp only
    split_ifs <;> exact hpasses _ hlen
  · exact hpasses _ hlen

/-- One round of `reapply_monitor_rules` keeps the views, the windows and the configuration. -/
theorem keep_reapplyRule (d : Desk) (i : ℕ) :
    ((d.reapplyRule i).cfg, (d.reapplyRule i).windows, (d.reapplyRule i).st,
      (d.reapplyRule i).viewed) = (d.cfg, d.windows, d.st, d.viewed) := by
  unfold reapplyRule
  split
  · rfl
  · rename_i mon _
    refine Prod.ext rfl (Prod.ext rfl (Prod.ext rfl ?_))
    refine viewed_modifyMonitor d _ _ fun m => ?_
    dsimp only
    split <;> split_ifs <;> rfl

theorem keep_reapply_monitor_rules (d : Desk) :
    (d.reapply_monitor_rules.cfg, d.reapply_monitor_rules.windows, d.reapply_monitor_rules.st,
      d.reapply_monitor_rules.viewed) = (d.cfg, d.windows, d.st, d.viewed) :=
  Recency.foldl_keeps (fun d : Desk => (d.cfg, d.windows, d.st, d.viewed)) reapplyRule
    keep_reapplyRule _ d

end Desk

/-! ### The reload -/

/-- What a monitor must look like for a reload of `cfg` to leave it in order, with `count` tiled
windows on its view: its view, its pins and its active layout are made of what `cfg` has, and so
is its other layout, unless the reload replaces it. -/
structure Monitor.Fits (cfg : Config) (mon : Monitor) (count : ℕ) : Prop where
  shows : ∀ slot, mon.tagset slot ≠ 0
  within : ∀ slot, Mask.Within cfg.tag_mask (mon.tagset slot)
  active : mon.layout_idx < cfg.layouts.length
  other : mon.lt (!mon.sel_lt) < cfg.layouts.length ∨
    ∃ idx, pertag_layouts.wanted cfg mon count = some idx ∧ idx < cfg.layouts.length ∧
      idx ≠ mon.layout_idx
  pins : ∀ idx, some idx ∈ mon.tag_lt_override → idx < cfg.layouts.length
  covers : cfg.tag_count ≤ mon.tag_lt_override.length

/-- A monitor with a pin slot for every tag, and everything within the configuration. -/
def Monitor.Covered (cfg : Config) (mon : Monitor) : Prop :=
  mon.Valid cfg ∧ cfg.tag_count ≤ mon.tag_lt_override.length

/-- Switching to the layout the rules want leaves a monitor in order exactly when it fitted. -/
theorem Monitor.covered_wanted_iff (cfg : Config) (mon : Monitor) (count : ℕ) :
    (((pertag_layouts.wanted cfg mon count).map (pertag_layouts.set_monitor_layout cfg mon)).getD
      mon).Covered cfg ↔ mon.Fits cfg count := by
  have hkeep (hw : ∀ idx, pertag_layouts.wanted cfg mon count = some idx →
      ¬(idx < cfg.layouts.length ∧ mon.layout_idx ≠ idx)) :
      mon.Covered cfg ↔ mon.Fits cfg count := by
    constructor
    · rintro ⟨h, hcovers⟩
      exact ⟨h.shows, h.within, h.layout _, .inl (h.layout _), h.pins, hcovers⟩
    · rintro ⟨hshows, hwithin, hactive, hother, hpins, hcovers⟩
      have hother : mon.lt (!mon.sel_lt) < cfg.layouts.length := by
        rcases hother with hother | ⟨idx, hidx, hlt, hne⟩
        · exact hother
        · exact absurd ⟨hlt, hne.symm⟩ (hw idx hidx)
      refine ⟨⟨hshows, hwithin, fun slot => ?_, hpins⟩, hcovers⟩
      by_cases hslot : slot = mon.sel_lt
      · exact hslot ▸ hactive
      · obtain rfl : slot = !mon.sel_lt := Bool.eq_not_of_ne hslot
        exact hother
  cases hw : pertag_layouts.wanted cfg mon count with
  | none => exact hkeep fun idx hidx => absurd (hidx.symm.trans hw) (by simp)
  | some idx =>
    rw [Option.map_some, Option.getD_some]
    unfold pertag_layouts.set_monitor_layout
    split_ifs with hidx
    · constructor
      · rintro ⟨h, hcovers⟩
        have hactive : Function.update mon.lt (!mon.sel_lt) idx mon.sel_lt < _ :=
          h.layout mon.sel_lt
        rw [Function.update_of_ne (by simp)] at hactive
        exact ⟨h.shows, h.within, hactive, .inr ⟨idx, hw, hidx.1, hidx.2.symm⟩, h.pins, hcovers⟩
      · rintro ⟨hshows, hwithin, hactive, -, hpins, hcovers⟩
        refine ⟨⟨hshows, hwithin, fun slot => ?_, hpins⟩, hcovers⟩
        change Function.update mon.lt (!mon.sel_lt) idx slot < _
        by_cases hslot : slot = !mon.sel_lt
        · rw [hslot, Function.update_self]
          exact hidx.1
        · rw [Function.update_of_ne hslot]
          obtain rfl : slot = mon.sel_lt := by simpa using Bool.eq_not_of_ne hslot
          exact hactive
    · exact hkeep fun idx' hidx' => by
        obtain rfl := Option.some.inj (hidx'.symm.trans hw)
        exact hidx

theorem Monitor.covered_congr {cfg : Config} {m m' : Monitor} (h : m'.viewed = m.viewed) :
    m'.Covered cfg ↔ m.Covered cfg := by
  have hpins : m'.tag_lt_override = m.tag_lt_override :=
    (congrArg MonitorView.tag_lt_override h :)
  unfold Covered Valid
  rw [h, hpins]

namespace Desk

/-- The desk after a reload of `file`. -/
def reload (d : Desk) (file : Config) : Desk :=
  let d₁ := { d with cfg := file }.reapply_monitor_rules
  { d₁ with monitors := d₁.monitors.map fun m => pertag_layouts.apply d₁.cfg m m.tags }.arrangePasses

/-- A reload changes no view and no tags: of what monitors show, it only switches to the layouts
the rules of the new configuration want. -/
theorem reload_spec (d : Desk) (file : Config) :
    (d.reload file).cfg = file ∧ (d.reload file).windows = d.windows ∧
      (∀ w, ((d.reload file).st w).tags = (d.st w).tags) ∧
        ∀ j : ℕ, ((d.reload file).monitors[j]?).map Monitor.viewed = (d.monitors[j]?).map fun m =>
          (((pertag_layouts.wanted file m (d.count_tiled m.tags)).map
            (pertag_layouts.set_monitor_layout file m)).getD m).viewed := by
  have hkeep := keep_reapply_monitor_rules { d with cfg := file }
  unfold reload
  dsimp only
  generalize ({ d with cfg := file } : Desk).reapply_monitor_rules = d₁ at hkeep ⊢
  obtain ⟨hcfg, hkeep⟩ := Prod.mk.inj hkeep
  obtain ⟨hwindows, hkeep⟩ := Prod.mk.inj hkeep
  obtain ⟨hst, hviewed⟩ := Prod.mk.inj hkeep
  have hbare := bare_arrangePasses
    { d₁ with monitors := d₁.monitors.map fun m => pertag_layouts.apply d₁.cfg m m.tags }
  refine ⟨?_, ?_, fun w => ?_, fun j => ?_⟩
  · exact (congrArg Desk.cfg hbare :).trans hcfg
  · exact (congrArg Desk.windows hbare :).trans hwindows
  · refine (congrArg (fun b : Desk => (b.st w).tags) hbare :).trans ?_
    exact (congrArg (fun st : Windows => (st w).tags) hst :)
  · have hcount (tags : ℕ) : count_tiled
        { d₁ with monitors := d₁.monitors.map fun m => pertag_layouts.apply d₁.cfg m m.tags } tags =
          d.count_tiled tags := by
      unfold count_tiled
      dsimp only
      rw [hwindows, hst]
    have hj : (d₁.monitors[j]?).map Monitor.viewed = (d.monitors[j]?).map Monitor.viewed := by
      have hlist := congrArg (fun l : List MonitorView => l[j]?) hviewed
      simpa only [viewed, List.getElem?_map] using hlist
    rw [viewed_arrangePasses]
    simp only [hcount]
    change ((d₁.monitors.map _)[j]?).map _ = _
    rw [List.getElem?_map, hcfg]
    generalize d₁.monitors[j]? = m₁ at hj ⊢
    cases hm : d.monitors[j]? with
    | none =>
      rw [hm] at hj
      rw [Option.map_eq_none_iff.1 hj]
      rfl
    | some m =>
      rw [hm] at hj
      obtain ⟨m', rfl, hm'⟩ := Option.map_eq_some_iff.1 hj
      have htags := Monitor.tags_of_viewed hm'
      simp only [Option.map_some, Option.some_inj]
      rw [Monitor.tags_apply, htags, ← pertag_layouts.apply_dynamic_apply]
      exact Monitor.viewed_apply_dynamic (Monitor.viewed_apply hm' _) _ _

end Desk

namespace Rwl

theorem desk_reload (s : Rwl) : (s.dispatch .ReloadConfig).desk = s.desk.reload s.config_file := by
  have hreload (s : Rwl) : s.reload_config.desk = s.desk.reload s.config_file := by
    unfold reload_config arrange_all
    refine (?_ : (refresh_pointer_focus _).desk = _)
    unfold refresh_pointer_focus
    split_ifs <;> rfl
  have hnotify (s s' : Rwl) : (s.notifyChanges s').desk = s'.desk :=
    (Prod.mk.inj (store_of_ground (ground_notifyChanges s s'))).1
  unfold dispatch dispatchWith
  split_ifs with hov hkill
  · exact (hnotify s _).trans (hreload s)
  · cases hkill
  · exact (hnotify _ _).trans (hreload (overview.force_close s))

/-- Everything on the desk refers to the configuration in force; a window has lost no tags. -/
def Reestablished (before after : Rwl) : Prop :=
  (∀ mon ∈ after.desk.monitors, mon.Covered after.desk.cfg) ∧
    ∀ w ∈ after.desk.windows, Mask.Within after.desk.cfg.tag_mask (after.desk.st w).tags ∧
      ((after.desk.st w).tags = 0 → (before.desk.st w).tags = 0)

/-- **A reload re-establishes what depends on the configuration exactly when everything fitted the
new one before**: it clamps nothing but the layout slot it replaces. -/
theorem reload_reestablishes (s : Rwl) : Reestablished s (s.dispatch .ReloadConfig) ↔
    (∀ mon ∈ s.desk.monitors, mon.Fits s.config_file (s.desk.count_tiled mon.tags)) ∧
      ∀ w ∈ s.desk.windows, Mask.Within s.config_file.tag_mask (s.desk.st w).tags := by
  obtain ⟨hcfg, hwindows, htags, hviewed⟩ := s.desk.reload_spec s.config_file
  unfold Reestablished
  rw [desk_reload, hcfg, hwindows]
  refine and_congr ?_ ?_
  · constructor
    · intro h mon hmon
      obtain ⟨j, hj⟩ := List.mem_iff_getElem?.1 hmon
      have hj' := hviewed j
      rw [hj] at hj'
      obtain ⟨mon', hmon', heq⟩ := Option.map_eq_some_iff.1 hj'
      rw [← Monitor.covered_wanted_iff]
      exact (Monitor.covered_congr heq).1 (h mon' (List.mem_of_getElem? hmon'))
    · intro h mon' hmon'
      obtain ⟨j, hj⟩ := List.mem_iff_getElem?.1 hmon'
      have hj' := hviewed j
      rw [hj] at hj'
      obtain ⟨mon, hmon, heq⟩ := Option.map_eq_some_iff.1 hj'.symm
      refine (Monitor.covered_congr heq.symm).2 ?_
      rw [Monitor.covered_wanted_iff]
      exact h mon (List.mem_of_getElem? hmon)
  · constructor
    · intro h w hw
      exact htags w ▸ (h w hw).1
    · intro h w hw
      rw [htags w]
      exact ⟨h w hw, id⟩

/-- The view is on tag 2 when the new file has one tag. -/
def shrinkRun : List Event :=
  [.output_added 0 (plainOutput "a"), .ipc_outputs .view none 2,
    .config_written { plainConfig [] [] with tag_count := 1 }]

/-- A reload to fewer tags leaves a view on a tag that no longer exists. -/
theorem not_reload_reestablishes :
    ¬∀ s, Reachable s → s.config_file.Usable → Reestablished s (s.dispatch .ReloadConfig) := by
  intro h
  let s := Transition.run step (init (plainSetup [] [])) shrinkRun
  have hfile : s.config_file = { plainConfig [] [] with tag_count := 1 } := rfl
  have husable : s.config_file.Usable := by
    rw [hfile]
    exact ⟨by decide, List.cons_ne_nil _ _⟩
  obtain ⟨hmonitors, -⟩ := h s ⟨_, shrinkRun, rfl⟩ husable
  have hview : ((s.dispatch .ReloadConfig).desk.monitors[0]?).map Monitor.tags = some 2 ∧
      (s.dispatch .ReloadConfig).desk.cfg.tag_mask = 1 := by decide +kernel
  obtain ⟨hview, hmask⟩ := hview
  obtain ⟨mon, hmon, htags⟩ := Option.map_eq_some_iff.1 hview
  have hwithin := (hmonitors mon (List.mem_of_getElem? hmon)).1.within_tags
  rw [htags, hmask] at hwithin
  exact absurd hwithin (by decide)

end Rwl

end Compositor
