import Mathlib.Tactic.Common
import Rwl.Theory.StepActs

/-!
# Monitor indices

`sel_mon` and the `mon_idx` of a window are positions in the list of monitors, which shifts when
an output goes.

* `IndicesValid`: the positions are valid and every monitor has its history;
* `KeepsOutputs`: a removed output leaves the windows of the others where they were;
* `monitor_indices`: both hold all along a run in which the windows taken from where handles are
  kept are managed or have a valid position.

A window that was destroyed keeps the position it had, whatever happens to the list: focusing it
afterwards selects a monitor that is not there.
-/

namespace Compositor

namespace Rwl

open Transition

/-- `sel_mon` and the monitor of every window are valid, and each monitor has a history. -/
structure IndicesValid (d : Desk) : Prop where
  sel_mon : d.monitors ≠ [] → d.sel_mon < d.monitors.length
  mon_idx : d.monitors ≠ [] → ∀ w ∈ d.windows, (d.st w).mon_idx < d.monitors.length
  tag_history : d.tag_history.length = d.monitors.length

/-- What the removal of output `o` may do to a desk: the windows and the selection of the other
outputs stay on them, and the windows of `o` end on another output, on the tags it shows, hidden
scratchpads staying hidden. -/
structure KeepsOutputs (o : OutputId) (d d' : Desk) : Prop where
  windows : d'.windows = d.windows
  survivors : ∀ w ∈ d.windows, ∀ m, d.monitors[(d.st w).mon_idx]? = some m → m.output ≠ o →
    (d'.monitors[(d'.st w).mon_idx]?).map Monitor.output = some m.output ∧
      (d'.st w).tags = (d.st w).tags
  selected : ∀ m, d.sel_monitor = some m → m.output ≠ o →
    d'.sel_monitor.map Monitor.output = some m.output
  moved : ∀ w ∈ d.windows, ∀ m, d.monitors[(d.st w).mon_idx]? = some m → m.output = o →
    (∃ n ∈ d.monitors, n.output ≠ o) →
      ∃ m', d'.monitors[(d'.st w).mon_idx]? = some m' ∧ m'.output ≠ o ∧
        (d'.st w).tags = if (d.st w).tags = 0 then 0 else m'.tags

/-- Every window the event takes from where handles are kept is managed, or its monitor is
there. With no monitor at all, position 0 stands for the first to come. -/
def HandlesInRange (s : Rwl) (e : Event) : Prop :=
  ∀ w, s.captured e = some w ∨ s.consulted e = some w →
    w ∈ s.desk.windows ∨ (s.desk.st w).mon_idx < max s.desk.monitors.length 1

instance (s : Rwl) (e : Event) : Decidable (s.HandlesInRange e) :=
  decidable_of_iff (∀ w ∈ (s.captured e).toList ++ (s.consulted e).toList,
      w ∈ s.desk.windows ∨ (s.desk.st w).mon_idx < max s.desk.monitors.length 1) <| by
    simp only [List.mem_append, Option.mem_toList]
    exact Iff.rfl

/-! ### The invariant -/

theorem inRange_iff (d : Desk) (i : ℕ) : d.registry.InRange i ↔ i < max d.monitors.length 1 := by
  unfold Registry.InRange
  rw [show d.registry.slots.length = d.monitors.length from List.length_map ..]

theorem indicesValid_of_indexed {d : Desk} (h : d.registry.Indexed) : IndicesValid d := by
  have hlt {i : ℕ} (hi : d.registry.InRange i) (hne : d.monitors ≠ []) : i < d.monitors.length := by
    have hpos := List.length_pos_of_ne_nil hne
    have := (inRange_iff d i).1 hi
    omega
  refine ⟨hlt h.current, fun hne w hw => hlt (h.slot w hw) hne, ?_⟩
  exact h.logs.trans (List.length_map ..)

theorem init_indexed (env : Setup) : (init env).desk.registry.Indexed :=
  ⟨(inRange_iff _ _).2 Nat.one_pos, fun _ hw => absurd hw List.not_mem_nil, rfl,
    List.nodup_nil⟩

/-- One event keeps every position in range. -/
theorem step_indexed {s : Rwl} {e : Event} (hs : s.desk.registry.Indexed)
    (h : HandlesInRange s e) : (step s e).desk.registry.Indexed := by
  refine ((step_registry s e).indexed ⟨hs, fun w hw => ?_⟩).1
  rcases h w hw with hmem | hlt
  · exact hs.slot w hmem
  · exact (inRange_iff _ _).2 hlt

/-! ### A removed output -/

/-- A layout pass does not change what a removed output may do. -/
theorem KeepsOutputs.of_bare {o : OutputId} {d d₁ d' : Desk} (h : KeepsOutputs o d d₁)
    (hb : d'.bare = d₁.bare) : KeepsOutputs o d d' := by
  have hmon : d'.monitors.map Desk.bareMonitor = d₁.monitors.map Desk.bareMonitor :=
    congrArg Desk.monitors hb
  have hst (w : WinId) : Desk.bareWindow (d'.st w) = Desk.bareWindow (d₁.st w) :=
    congrFun (congrArg Desk.st hb) w
  have hidx (w : WinId) : (d'.st w).mon_idx = (d₁.st w).mon_idx := by
    have := congrArg WindowState.mon_idx (hst w)
    exact this
  have htags (w : WinId) : (d'.st w).tags = (d₁.st w).tags := by
    have := congrArg WindowState.tags (hst w)
    exact this
  have hsel : d'.sel_mon = d₁.sel_mon := by
    have := congrArg Desk.sel_mon hb
    exact this
  have hwindows : d'.windows = d₁.windows := by
    have := congrArg Desk.windows hb
    exact this
  have hget (i : ℕ) : (d'.monitors[i]?).map Desk.bareMonitor =
      (d₁.monitors[i]?).map Desk.bareMonitor := by
    rw [← List.getElem?_map, ← List.getElem?_map, hmon]
  have houtput (i : ℕ) : (d'.monitors[i]?).map Monitor.output =
      (d₁.monitors[i]?).map Monitor.output := by
    have := congrArg (Option.map Monitor.output) (hget i)
    rwa [Option.map_map, Option.map_map] at this
  refine ⟨hwindows.trans h.windows, fun w hw m hm ho => ?_, fun m hm ho => ?_,
    fun w hw m hm ho hn => ?_⟩
  · rw [houtput, hidx, htags]
    exact h.survivors w hw m hm ho
  · unfold Desk.sel_monitor
    rw [houtput, hsel]
    exact h.selected m hm ho
  · obtain ⟨m', hm', ho', ht'⟩ := h.moved w hw m hm ho hn
    have hget' := hget (d₁.st w).mon_idx
    rw [hm', Option.map_some] at hget'
    obtain ⟨m'', hm'', hbare⟩ := Option.map_eq_some_iff.1 hget'
    have hout : m''.output = m'.output := by
      have := congrArg Monitor.output hbare
      exact this
    have htag : m''.tags = m'.tags := by
      have := congrArg Monitor.tags hbare
      exact this
    refine ⟨m'', by rw [hidx]; exact hm'', by rwa [hout], ?_⟩
    rw [htags, htag, ht']

theorem keepsOutputs_refl (o : OutputId) {d : Desk} (h : ∀ m ∈ d.monitors, m.output ≠ o) :
    KeepsOutputs o d d := by
  refine ⟨rfl, fun w _ m hm _ => ⟨by rw [hm]; rfl, rfl⟩, fun m hm _ => by rw [hm]; rfl,
    fun w _ m hm ho _ => absurd ho (h m (List.mem_of_getElem? hm))⟩

theorem tags_migrateWindow (idx target tags : ℕ) (st : WindowState) :
    (Desk.migrateWindow idx target tags st).tags =
      if st.mon_idx = idx ∧ st.tags ≠ 0 then tags else st.tags := by
  unfold Desk.migrateWindow
  by_cases hi : st.mon_idx = idx
  · by_cases ht : st.tags = 0 <;> simp [hi, ht]
  · simp [hi]

/-- The desk part of the removal, at the position `idx` of the output. -/
theorem keepsOutputs_removeMonitor {o : OutputId} {d : Desk} {idx : ℕ} {mon : Monitor}
    (hd : d.registry.Indexed) (hidx : d.monitors[idx]? = some mon) (ho : mon.output = o) :
    KeepsOutputs o d (d.removeMonitor idx) := by
  have hlen : d.registry.slots.length = d.monitors.length := List.length_map ..
  have hlt : idx < d.monitors.length := (List.getElem?_eq_some_iff.1 hidx).1
  have hslots (i : ℕ) : d.registry.slots[i]? = (d.monitors[i]?).map Monitor.output :=
    List.getElem?_map ..
  have hslots' (i : ℕ) : (d.removeMonitor idx).registry.slots[i]? =
      ((d.removeMonitor idx).monitors[i]?).map Monitor.output := List.getElem?_map ..
  -- an output sits at one position only
  have hpos {i : ℕ} {m : Monitor} (hm : d.monitors[i]? = some m) : m.output = o ↔ i = idx := by
    constructor
    · intro hmo
      obtain ⟨hi, h₁⟩ := List.getElem?_eq_some_iff.1
        (show d.registry.slots[i]? = some o by rw [hslots, hm, Option.map_some, hmo])
      obtain ⟨hj, h₂⟩ := List.getElem?_eq_some_iff.1
        (show d.registry.slots[idx]? = some o by rw [hslots, hidx, Option.map_some, ho])
      exact hd.slots.getElem_inj_iff.1 (h₁.trans h₂.symm)
    · rintro rfl
      rw [Option.some.inj (hm.symm.trans hidx), ho]
  refine ⟨rfl, fun w hw m hm hmo => ⟨?_, ?_⟩, fun m hm hmo => ?_, fun w hw m hm hmo hn => ?_⟩
  · have hne : d.registry.slot w ≠ idx := fun h => hmo ((hpos hm).2 h)
    have hkept := Registry.dropSlot_kept (d.migrationTarget idx)
      (show w ∈ d.registry.items from hw) hne
    rw [← Desk.registry_removeMonitor, hslots', hslots] at hkept
    exact hkept.trans (by rw [show d.registry.slot w = (d.st w).mon_idx from rfl, hm]; rfl)
  · rw [Desk.st_removeMonitor d idx w hw]
    exact (tags_migrateWindow ..).trans (if_neg fun h => hmo ((hpos hm).2 h.1))
  · have hne : d.registry.current ≠ idx := fun h => hmo ((hpos hm).2 h)
    have hcur := Registry.dropSlot_current (d.migrationTarget idx) (by rwa [hlen])
      hd.current hne
    rw [← Desk.registry_removeMonitor, hslots', hslots] at hcur
    exact hcur.trans (congrArg (Option.map Monitor.output) hm)
  · have hmi : (d.st w).mon_idx = idx := (hpos hm).1 hmo
    obtain ⟨n, hn, hno⟩ := hn
    obtain ⟨j, hj⟩ := List.getElem?_of_mem hn
    have hjlt := (List.getElem?_eq_some_iff.1 hj).1
    have hji : j ≠ idx := fun h => hno ((hpos hj).2 h)
    have htarget : d.migrationTarget idx ≠ idx ∧ d.migrationTarget idx < d.monitors.length := by
      rcases d.migrationTarget_spec idx with ⟨hone, _⟩ | ⟨hne, ht⟩
      · omega
      · refine ⟨hne, ?_⟩
        have hcur := (inRange_iff d d.sel_mon).1 hd.current
        omega
    have hm' : d.monitors[d.migrationTarget idx]? = some d.monitors[d.migrationTarget idx] :=
      List.getElem?_eq_getElem htarget.2
    refine ⟨d.monitors[d.migrationTarget idx], ?_, fun h => htarget.1 ((hpos hm').1 h), ?_⟩
    · rw [Desk.st_removeMonitor d idx w hw]
      dsimp only
      rw [Desk.mon_idx_migrateWindow, if_pos hmi]
      exact (Registry.getElem?_eraseIdx_shift htarget.1).trans hm'
    · rw [Desk.st_removeMonitor d idx w hw]
      refine (tags_migrateWindow ..).trans ?_
      have htags : d.migrationTags idx = d.monitors[d.migrationTarget idx].tags := by
        rw [Desk.migrationTags, hm']
        rfl
      rw [htags]
      by_cases ht : (d.st w).tags = 0 <;> simp [hmi, ht]

/-- **A removed output leaves the windows of the others where they were.** -/
theorem keepsOutputs_output_removed {s : Rwl} (hs : s.desk.registry.Indexed) (o : OutputId) :
    KeepsOutputs o s.desk (s.output_removed o).desk := by
  have harrange (s' : Rwl) : s'.arrange_all.desk.bare = s'.desk.bare := by
    rw [desk_arrange_all, Desk.bare_arrangePasses]
  unfold output_removed
  dsimp only
  split
  · rename_i idx hidx
    obtain ⟨hlt, ho, _⟩ := List.findIdx?_eq_some_iff_getElem.1 hidx
    refine (keepsOutputs_removeMonitor hs (List.getElem?_eq_getElem hlt)
      (of_decide_eq_true ho)).of_bare ?_
    exact harrange _
  · rename_i hnone
    refine (keepsOutputs_refl o fun m hm => ?_).of_bare (harrange s)
    exact of_decide_eq_false (List.findIdx?_eq_none_iff.1 hnone m hm)

/-! ### Runs -/

/-- **Every position is valid all along a run whose handles are in range, and a removed output
keeps the others' windows where they are.** -/
theorem monitor_indices (env : Setup) (es : List Event)
    (h : Guarded step HandlesInRange (init env) es) :
    Always step (fun s => IndicesValid s.desk ∧
      ∀ o, KeepsOutputs o s.desk (step s (.output_removed o)).desk) (init env) es :=
  (h.always (I := fun s => s.desk.registry.Indexed) (fun _ _ => step_indexed)
    (init_indexed env)).mono fun _ hs =>
      ⟨indicesValid_of_indexed hs, fun o => keepsOutputs_output_removed hs o⟩

/-- Two outputs with a window on each, moved by keys between them; the second output goes. -/
theorem monitor_indices_plain :
    Always step (fun s => IndicesValid s.desk ∧
      ∀ o, KeepsOutputs o s.desk (step s (.output_removed o)).desk)
      (init (plainSetup [⟨0, 5, .TagMon (-1), none⟩] []))
      [.output_added 0 (plainOutput "a"), .output_added 1 (plainOutput "b"),
        .new_toplevel 0 (plainClient 10), .commit 10 true, .ipc (.FocusMon 1),
        .new_toplevel 1 (plainClient 11), .commit 11 true, .key 5 true, .key 5 false,
        .toplevel_destroyed 10, .output_removed 1] :=
  monitor_indices _ _ (by decide +kernel)

/-- The overview closes on a window of the second output; the window and its output go while it
does. -/
def closingOnGone : List Event :=
  [.output_added 0 (plainOutput "a"), .output_added 1 (plainOutput "b"), .ipc (.FocusMon 1),
    .new_toplevel 0 (plainClient 10), .commit 10 true,
    .new_toplevel 1 (plainClient 11), .commit 11 true,
    .key 5 true, .key 5 false, .key 97 true, .key 97 false,
    .toplevel_destroyed 11, .output_removed 1, .tick 1000, .vblank 0 plainFrame]

/-- When the overview has closed, the monitor that is not there is selected. -/
theorem not_monitor_indices :
    ¬∀ env es, Always step (fun s => IndicesValid s.desk ∧
      ∀ o, KeepsOutputs o s.desk (step s (.output_removed o)).desk) (init env) es := by
  intro h
  have hend := (h (plainSetup [⟨0, 5, .ToggleOverview, none⟩] []) closingOnGone).last.1
  have hsel : (run step (init (plainSetup [⟨0, 5, .ToggleOverview, none⟩] []))
      closingOnGone).desk.sel_mon = 1 := by decide +kernel
  have hlen : (run step (init (plainSetup [⟨0, 5, .ToggleOverview, none⟩] []))
      closingOnGone).desk.monitors.length = 1 := by decide +kernel
  have hlt := hend.sel_mon (List.ne_nil_of_length_pos (by omega))
  omega

end Rwl

end Compositor
