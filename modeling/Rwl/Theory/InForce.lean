import Mathlib.Tactic.Common
import Rwl.Theory.Pins

/-!
# Layouts in force and slides that wait

* `pertag_layouts.counted`, `pertag_layouts.resting`: the layout a count-based rule asks for, and
  the one a monitor comes to rest on;
* `Desk.InForce`: every monitor has it; layout passes bring it about, and then they and focusing
  change no view and no layout;
* `Rwl.pending_step`: no slide waits between two events.
-/

namespace Compositor

/-! ### Count-based layouts -/

namespace pertag_layouts

/-- The layout the count-based rule of an unpinned single tag asks for. -/
def counted (cfg : Config) (overrides : List (Option ℕ)) (tags count : ℕ) : Option ℕ :=
  if is_single tags = false then none
  else if ((overrides[trailing_zeros tags]?).join).isSome then none
  else match (cfg.pertag_layouts[trailing_zeros tags]?).join with
    | some (.ByCount list) => list.getLast?.map fun fallback => (list[count - 1]?).getD fallback
    | some (.Fixed _) | none => none

/-- The layout a monitor with the layout `chosen` comes to rest on. -/
def resting (cfg : Config) (overrides : List (Option ℕ)) (tags count chosen : ℕ) : ℕ :=
  match counted cfg overrides tags count with
  | some idx => if idx < cfg.layouts.length then idx else chosen
  | none => chosen

theorem apply_dynamic_eq (cfg : Config) (mon : Monitor) (tags count : ℕ) :
    apply_dynamic cfg mon tags count =
      ((counted cfg mon.tag_lt_override tags count).map (set_monitor_layout cfg mon)).getD mon := by
  unfold apply_dynamic counted pin
  dsimp only
  split_ifs
  · rfl
  · rfl
  · cases (cfg.pertag_layouts[trailing_zeros tags]?).join with
    | none => rfl
    | some rule =>
      cases rule with
      | Fixed idx => rfl
      | ByCount list => cases hlast : list.getLast? <;> simp [hlast]

theorem layout_idx_apply_dynamic (cfg : Config) (mon : Monitor) (tags count : ℕ) :
    (apply_dynamic cfg mon tags count).layout_idx =
      resting cfg mon.tag_lt_override tags count mon.layout_idx := by
  rw [apply_dynamic_eq]
  unfold resting
  cases counted cfg mon.tag_lt_override tags count with
  | none => rfl
  | some idx =>
    rw [Option.map_some, Option.getD_some]
    unfold set_monitor_layout
    dsimp only
    by_cases hlt : idx < cfg.layouts.length
    · by_cases heq : mon.layout_idx = idx
      · simp [hlt, heq]
      · rw [if_pos ⟨hlt, heq⟩, if_pos hlt]
        exact Function.update_self ..
    · simp [hlt]

/-- A monitor at rest stays as it is. -/
theorem apply_dynamic_eq_self {cfg : Config} {mon : Monitor} {tags count : ℕ}
    (h : resting cfg mon.tag_lt_override tags count mon.layout_idx = mon.layout_idx) :
    apply_dynamic cfg mon tags count = mon := by
  rw [apply_dynamic_eq]
  unfold resting at h
  cases hcounted : counted cfg mon.tag_lt_override tags count with
  | none => rfl
  | some idx =>
    rw [hcounted] at h
    rw [Option.map_some, Option.getD_some]
    unfold set_monitor_layout
    rw [if_neg]
    rintro ⟨hlt, hne⟩
    exact hne (h.symm.trans (if_pos hlt))

/-- A count-based rule brings a monitor to rest. -/
theorem resting_resting (cfg : Config) (overrides : List (Option ℕ)) (tags count chosen : ℕ) :
    resting cfg overrides tags count (resting cfg overrides tags count chosen) =
      resting cfg overrides tags count chosen := by
  unfold resting
  cases counted cfg overrides tags count with
  | none => rfl
  | some idx =>
    dsimp only
    split_ifs <;> rfl

end pertag_layouts

open pertag_layouts (resting)

/-- The layout a view comes to rest on with `count` tiled windows. -/
def MonitorView.resting (cfg : Config) (v : MonitorView) (count : ℕ) : ℕ :=
  pertag_layouts.resting cfg v.tag_lt_override (v.tagset v.sel_tags) count (v.lt v.sel_lt)

namespace Desk

/-- Every monitor has the layout its view comes to rest on. -/
def InForce (d : Desk) : Prop :=
  ∀ v ∈ d.viewed, v.resting d.cfg (d.count_tiled (v.tagset v.sel_tags)) = v.lt v.sel_lt

theorem inForce_congr {d d' : Desk} (hcfg : d'.cfg = d.cfg) (hviewed : d'.viewed = d.viewed)
    (hcount : ∀ tags, d'.count_tiled tags = d.count_tiled tags) : d'.InForce ↔ d.InForce := by
  unfold InForce
  rw [hcfg, hviewed]
  simp only [hcount]

theorem InForce.monitor {d : Desk} (h : d.InForce) {m : Monitor} (hm : m ∈ d.monitors) :
    pertag_layouts.apply_dynamic d.cfg m m.tags (d.count_tiled m.tags) = m :=
  pertag_layouts.apply_dynamic_eq_self (h m.viewed (List.mem_map_of_mem hm))

theorem InForce.viewed_arrange {d : Desk} (h : d.InForce) (i : ℕ) :
    (d.arrange i).viewed = d.viewed := by
  refine List.ext_getElem? fun j => ?_
  unfold viewed
  rw [List.getElem?_map, List.getElem?_map, viewed_arrange_getElem?]
  cases hm : d.monitors[j]? with
  | none => rfl
  | some m =>
    rw [Option.map_some, Option.map_some, h.monitor (List.mem_of_getElem? hm), ite_self]

theorem InForce.arrange {d : Desk} (h : d.InForce) (i : ℕ) : (d.arrange i).InForce := by
  have hcfg : (d.arrange i).cfg = d.cfg := (congrArg Desk.cfg (bare_arrange d i) :)
  have hcount := count_tiled_congr (bare_arrange d i)
  exact (inForce_congr hcfg (h.viewed_arrange i) hcount).2 h

/-- **A round of layout passes puts every layout in force.** -/
theorem inForce_arrangePasses (d : Desk) : d.arrangePasses.InForce := by
  intro v hv
  obtain ⟨j, hj⟩ := List.mem_iff_getElem?.1 hv
  unfold viewed at hj
  rw [List.getElem?_map, viewed_arrangePasses] at hj
  obtain ⟨m, -, rfl⟩ := Option.map_eq_some_iff.1 hj
  have htags := m.tags_apply_dynamic d.cfg m.tags (d.count_tiled m.tags)
  have hpins : (pertag_layouts.apply_dynamic d.cfg m m.tags
      (d.count_tiled m.tags)).tag_lt_override = m.tag_lt_override := by
    rw [pertag_layouts.apply_dynamic_eq]
    cases pertag_layouts.counted d.cfg m.tag_lt_override m.tags (d.count_tiled m.tags) with
    | none => rfl
    | some idx =>
      rw [Option.map_some, Option.getD_some]
      unfold pertag_layouts.set_monitor_layout
      split_ifs <;> rfl
  have hcfg : d.arrangePasses.cfg = d.cfg := (congrArg Desk.cfg (bare_arrangePasses d) :)
  change resting _ (Monitor.tag_lt_override _) (Monitor.tags _) _ (Monitor.layout_idx _) =
    Monitor.layout_idx _
  rw [hcfg, hpins]
  change resting _ _ (Monitor.tags _) (d.arrangePasses.count_tiled (Monitor.tags _)) _ = _
  rw [htags, count_tiled_congr (bare_arrangePasses d), pertag_layouts.layout_idx_apply_dynamic,
    pertag_layouts.resting_resting]

end Desk

namespace Rwl

/-! ### Focusing with the layouts in force -/

/-- Raising a window counts no other window. -/
theorem inForce_raise {d : Desk} (h : d.InForce) (w : WinId) : (raise d w).InForce := by
  have hcount (tags : ℕ) : (raise d w).count_tiled tags = d.count_tiled tags := by
    unfold Desk.count_tiled
    refine List.countP_congr fun v _ => ?_
    have hst : Desk.countsAsTiled ((raise d w).st v) tags = Desk.countsAsTiled (d.st v) tags :=
      Windows.modify_field (fun s => Desk.countsAsTiled s tags) d.st w v _ fun _ => rfl
    rw [hst]
  have hiff : (raise d w).InForce ↔ d.InForce := Desk.inForce_congr rfl rfl hcount
  exact hiff.2 h

theorem viewed_followFocus {s : Rwl} (h : s.desk.InForce) (w : WinId) (prev : Option WinId) :
    (s.followFocus w prev).desk.viewed = s.desk.viewed ∧
      (s.followFocus w prev).desk.sel_mon = (s.desk.st w).mon_idx := by
  let d : Desk := { s.desk with sel_mon := (s.desk.st w).mon_idx }
  have hd : d.InForce := h
  have hsel (d : Desk) (i : ℕ) : (d.arrange i).sel_mon = d.sel_mon :=
    (congrArg Desk.sel_mon (Desk.bare_arrange d i) :)
  have hone : (d.arrange (s.desk.st w).mon_idx).viewed = s.desk.viewed := hd.viewed_arrange _
  unfold followFocus
  dsimp only
  split
  · split_ifs
    · exact ⟨((hd.arrange _).viewed_arrange _).trans hone, (hsel _ _).trans (hsel d _)⟩
    · exact ⟨hone, hsel d _⟩
  · exact ⟨hone, hsel d _⟩

/-- What focusing a window does to views, layouts and the selection. -/
theorem viewed_focus_window {s : Rwl} (h : s.desk.InForce) (window : Option WinId) :
    (s.focus_window window).desk.viewed = s.desk.viewed ∧
      ((s.focus_window window).desk.sel_mon = s.desk.sel_mon ∨
        ∃ w, window = some w ∧ (s.focus_window window).desk.sel_mon = (s.desk.st w).mon_idx) := by
  cases window with
  | none =>
    unfold focus_window
    dsimp only
    split_ifs with hlocked hhead
    · exact ⟨rfl, .inl rfl⟩
    · exact ⟨rfl, .inl rfl⟩
    · exact absurd rfl hhead
  | some w =>
    have hmon : ((raise s.desk w).st w).mon_idx = (s.desk.st w).mon_idx :=
      Windows.modify_field WindowState.mon_idx s.desk.st w w _ fun _ => rfl
    unfold focus_window
    dsimp only
    split_ifs
    · exact ⟨rfl, .inl rfl⟩
    · exact ⟨rfl, .inl rfl⟩
    · have hraised : ((s.modifyDesk (raise · w)).kb_set_focus (s.desk.wl_surface
          w)).notifyFocus.desk.InForce := by
        rw [desk_notifyFocus]
        exact inForce_raise h w
      obtain ⟨hviewed, hsel⟩ := viewed_followFocus hraised w s.desk.focus_stack.head?
      rw [desk_notifyFocus] at hviewed hsel
      exact ⟨hviewed, .inr ⟨w, rfl, hsel.trans hmon⟩⟩

theorem mon_idx_focused_window {d : Desk} {w : WinId} (h : d.focused_window = some w) :
    (d.st w).mon_idx = d.sel_mon := by
  have hfound := List.find?_some h
  simp only [Bool.and_eq_true, decide_eq_true_eq] at hfound
  exact hfound.2

/-- Focusing the focused window changes no view, no layout and no selection. -/
theorem viewed_focus_top {s : Rwl} (h : s.desk.InForce) :
    s.focus_top.desk.viewed = s.desk.viewed ∧ s.focus_top.desk.sel_mon = s.desk.sel_mon := by
  obtain ⟨hviewed, hsel⟩ := viewed_focus_window h s.desk.focused_window
  refine ⟨hviewed, ?_⟩
  rcases hsel with hsel | ⟨w, hw, hsel⟩
  · exact hsel
  · exact hsel.trans (mon_idx_focused_window hw)

theorem inForce_arrange_all (s : Rwl) : s.arrange_all.desk.InForce := by
  rw [desk_arrange_all]
  exact s.desk.inForce_arrangePasses

/-! ### Waiting slides -/

theorem pending_arrangePasses (d : Desk) : d.arrangePasses.pending_tag_transition = none := by
  have hpasses (l : List ℕ) : (l.foldl Desk.arrange
      { d.update_work_areas with pending_tag_transition := none }).pending_tag_transition = none :=
    Recency.foldl_keeps Desk.pending_tag_transition Desk.arrange Desk.pending_arrange l _
  unfold Desk.arrangePasses
  dsimp only
  split
  · unfold Desk.start_tag_transition
    dsimp only
    split_ifs <;> exact hpasses _
  · exact hpasses _

theorem pending_arrange_all (s : Rwl) : s.arrange_all.desk.pending_tag_transition = none := by
  rw [desk_arrange_all]
  exact pending_arrangePasses s.desk

/-- A small update leaves no slide waiting. -/
theorem pending_change {file : Config} {L : Desk → Desk → Prop} {d d' : Desk}
    (hL : ∀ d d', L d d' → d.pending_tag_transition = none → d'.pending_tag_transition = none)
    (h : Desk.Change file L d d') (hd : d.pending_tag_transition = none) :
    d'.pending_tag_transition = none := by
  cases h with
  | unslide => rfl
  | relaid _ _ _ hp => exact hp.trans hd
  | rules _ hr =>
    obtain ⟨ms, o, rfl, -, -⟩ := hr
    exact hd
  | history i tags =>
    unfold Desk.update_tag_history
    split
    · split_ifs <;> exact hd
    · exact hd
  | life _ h => exact hL _ _ h hd
  | _ => exact hd

theorem Moves.pending {L : Desk → Desk → Prop} {s s' : Rwl} (h : Moves L s s')
    (hL : ∀ d d', L d d' → d.pending_tag_transition = none → d'.pending_tag_transition = none)
    (hs : s.desk.pending_tag_transition = none) : s'.desk.pending_tag_transition = none := by
  have hchain {d : Desk} (hc : Desk.Changes s.config_file L s.desk d) :
      d.pending_tag_transition = none := by
    induction hc with
    | refl => exact hs
    | tail _ hstep ih => exact pending_change hL hstep ih
  exact hchain h.changes

/-- What an event makes or removes leaves no slide waiting, but for the view jump of a rule and a
socket command, which arrange next. -/
theorem pending_life {g : Grab} {e : Event} {d d' : Desk} (h : Life g e d d')
    (hcommit : ∀ f b, e ≠ .commit f b)
    (hipc : ∀ cmd which val, e ≠ .ipc_outputs cmd which val)
    (hd : d.pending_tag_transition = none) : d'.pending_tag_transition = none := by
  cases h with
  | swallowed _ f b => exact absurd rfl (hcommit f b)
  | jump _ f b => exact absurd rfl (hcommit f b)
  | slide _ cmd which val => exact absurd rfl (hipc cmd which val)
  | unmapped _ f w =>
    unfold swallow.on_unmap
    dsimp only
    split
    · split_ifs <;> exact hd
    · split_ifs <;> exact hd
  | dragged_by _ _ _ _ h | dragged_to _ _ _ _ h =>
    obtain ⟨_, _, _, _, _, rfl⟩ := h
    exact hd
  | _ => exact hd

/-- Small updates that make and remove nothing. -/
abbrev Still : Rwl → Rwl → Prop := Moves fun _ _ => False

theorem Still.pending {s s' : Rwl} (h : Still s s') (hs : s.desk.pending_tag_transition = none) :
    s'.desk.pending_tag_transition = none :=
  Moves.pending h (fun _ _ h => h.elim) hs

theorem pending_commit_window {s : Rwl} (w : WinId) (b : Bool)
    (hs : s.desk.pending_tag_transition = none) :
    (s.commit_window w b).desk.pending_tag_transition = none := by
  have hrest {s₁ : Rwl} (h₁ : s₁.desk.pending_tag_transition = none) :
      (((s₁.firstBuffer w).modifyDesk (centre · w)).refreshNames w).desk.pending_tag_transition =
        none := by
    have hstill : Still s₁ (((s₁.firstBuffer w).modifyDesk (centre · w)).refreshNames w) :=
      (((Moves.refl s₁).firstBuffer w).centre w).refreshNames w
    exact hstill.pending h₁
  -- the layout pass starts the slide of a view jump
  have hfirst (s₁ : Rwl) (x : Effect) :
      (s₁.arrange_all.focus_top.emit x).desk.pending_tag_transition = none := by
    have hstill : Still s₁.arrange_all (s₁.arrange_all.focus_top.emit x) :=
      (Moves.refl s₁.arrange_all).focus_top.emit x
    exact hstill.pending (pending_arrange_all s₁)
  unfold commit_window
  refine hrest ?_
  split_ifs
  · exact hfirst _ _
  · exact pending_arrange_all s
  · exact hs

/-- **No slide waits between two events.** -/
theorem pending_step (s : Rwl) (e : Event) (hs : s.desk.pending_tag_transition = none) :
    (step s e).desk.pending_tag_transition = none := by
  have hother (hfile : ∀ cfg, e ≠ .config_written cfg) (hcommit : ∀ f b, e ≠ .commit f b)
      (hipc : ∀ cmd which val, e ≠ .ipc_outputs cmd which val) :
      (step s e).desk.pending_tag_transition = none :=
    (Moves.step s e hfile fun _ _ h => h).pending (fun _ _ h => pending_life h hcommit hipc) hs
  cases e with
  | config_written cfg => exact hs
  | commit f b =>
    change (s.commit f b).desk.pending_tag_transition = none
    unfold commit
    split
    · exact pending_commit_window _ b hs
    · split
      · exact Still.pending ((Moves.refl s).commit_layer _) hs
      · exact hs
  | ipc_outputs cmd which val =>
    change (s.ipc_command cmd which val).desk.pending_tag_transition = none
    have harranged := pending_arrange_all
      (s.modifyDesk fun d => (ipcOutputs s.desk which).foldl (ipcApply cmd val) d)
    unfold ipc_command
    dsimp only
    generalize arrange_all _ = s₁ at harranged ⊢
    have htop (p : Prop) [Decidable p] : Still s₁ (if p then s₁.focus_top else s₁) := by
      split_ifs
      · exact (Moves.refl s₁).focus_top
      · exact .refl s₁
    split
    · exact (htop _).pending harranged
    · exact Still.pending (Moves.foldl (fun _ _ h => h.emit _) _ (htop _)) harranged
  | _ => exact hother (fun _ h => by cases h) (fun _ _ h => by cases h) fun _ _ _ h => by cases h

/-- No slide waits in a reachable state. -/
theorem pending_reachable {s : Rwl} (hs : Reachable s) : s.desk.pending_tag_transition = none := by
  obtain ⟨env, hreach⟩ := hs
  exact hreach.inv (I := fun s => s.desk.pending_tag_transition = none) pending_step rfl

end Rwl

end Compositor
