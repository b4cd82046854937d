import Mathlib.Tactic.Common
import Rwl.Core.Masters
import Rwl.Lib.Run
import Rwl.Theory.Drags

/-!
# Runs of the master area

`set_mfact` and `inc_nmaster` clamp after they add. A clamp keeps NaN, and comes too late for a sum
past `i32::MAX`.

* `MasterArea.Valid`, `Masters.Valid`: the numbers the layouts expect, and no sum out of range;
* `Masters.Tame`: the event brings no NaN and no such sum;
* `Masters.step_valid_iff`: one event, from valid master areas;
* `Masters.valid_run_iff`: a run stays valid exactly when each of its events is tame;
* `Rwl.masters_set_mfact`, `Rwl.masters_inc_nmaster`, `masters_dragSplit`: on the numbers of the
  rest of the compositor this is what its own actions and motions do.
-/

namespace Compositor

open Transition

/-- `mfact` is a number between 0.05 and 0.95, and `nmaster` is not negative. -/
structure MasterArea.Valid (m : MasterArea) : Prop where
  mfact : m.mfact.Between (5 / 100) (95 / 100)
  nmaster : 0 ≤ m.nmaster.1

namespace Masters

/-- All master areas are valid, and so was each sum. -/
structure Valid (s : Masters) : Prop where
  monitors : ∀ m ∈ s.monitors, m.Valid
  sums : ∀ z ∈ s.sums, InI32 z

/-- A resize remembers a valid `mfact`. -/
def Based (s : Masters) : Prop := ∀ x, s.grab_mfact = some x → x.Between (5 / 100) (95 / 100)

/-- The event finds no selected monitor, or brings it neither NaN nor a sum past `i32::MAX`. -/
def Tame (s : Masters) : MasterEvent → Prop
  | .SetMfact delta => ∀ m, s.sel_monitor = some m → delta ≠ .nan
  | .IncNmaster delta => ∀ m, s.sel_monitor = some m → m.nmaster.1 + delta.1 ≤ 2 ^ 31 - 1
  | _ => True

/-! ### One event -/

/-- A step of `mfact` from a valid one ends on a valid one exactly when it is not NaN. -/
theorem between_add_clamp_iff {x : F64} (hx : x.Between (5 / 100) (95 / 100)) (delta : F64) :
    ((x.add delta).clamp (5 / 100) (95 / 100)).Between (5 / 100) (95 / 100) ↔ delta ≠ .nan := by
  obtain ⟨q, rfl, -⟩ := hx
  rw [F64.between_clamp_iff (by norm_num), ne_eq, F64.add_eq_nan_iff]

/-- The sum of `inc_nmaster` can only be too large. -/
theorem inI32_add_iff {a : I32} (ha : 0 ≤ a.1) (delta : I32) :
    InI32 (a.1 + delta.1) ↔ a.1 + delta.1 ≤ 2 ^ 31 - 1 := by
  obtain ⟨hlow, hhigh⟩ := delta.2
  unfold InI32
  omega

theorem nmaster_max0 (a : I32) : 0 ≤ a.max0.1 := le_max_right _ _

theorem valid_set_mfact_iff {s : Masters} (hs : s.Valid) (delta : F64) :
    (s.set_mfact delta).Valid ↔ s.Tame (.SetMfact delta) := by
  have hmonitors : (∀ m ∈ (s.set_mfact delta).monitors, m.Valid) ↔ s.Tame (.SetMfact delta) := by
    refine (Recency.forall_mem_modify_iff hs.monitors s.sel_mon).trans ?_
    refine forall₂_congr fun m hm => ?_
    have hvalid : m.Valid := hs.monitors m (List.mem_of_getElem? hm)
    rw [← between_add_clamp_iff hvalid.mfact delta]
    exact ⟨fun h => h.mfact, fun h => ⟨h, hvalid.nmaster⟩⟩
  exact ⟨fun h => hmonitors.1 h.monitors, fun h => ⟨hmonitors.2 h, hs.sums⟩⟩

theorem valid_inc_nmaster_iff {s : Masters} (hs : s.Valid) (delta : I32) :
    (s.inc_nmaster delta).Valid ↔ s.Tame (.IncNmaster delta) := by
  have hmonitors : ∀ m ∈ (s.inc_nmaster delta).monitors, m.Valid :=
    Recency.forall_mem_modify (fun m hm => ⟨hm.mfact, nmaster_max0 _⟩) hs.monitors s.sel_mon
  have hsums : (∀ z ∈ (s.inc_nmaster delta).sums, InI32 z) ↔ s.Tame (.IncNmaster delta) := by
    unfold inc_nmaster Tame
    rcases hm : s.sel_monitor with _ | m
    · refine iff_of_true hs.sums ?_
      intro m hm
      cases hm
    · have hvalid : m.Valid := hs.monitors m (List.mem_of_getElem? hm)
      have htame := inI32_add_iff hvalid.nmaster delta
      constructor
      · rintro h _ ⟨⟩
        exact htame.1 (h _ List.mem_cons_self)
      · intro h z hz
        rcases List.mem_cons.1 hz with rfl | hz
        · exact htame.2 (h m rfl)
        · exact hs.sums z hz
  exact ⟨fun h => hsums.1 h.sums, fun h => ⟨hmonitors, hsums.2 h⟩⟩

/-- A motion keeps the master areas valid, however far it goes. -/
theorem valid_handle_resize {s : Masters} (hs : s.Valid) (hbase : s.Based) (i : ℕ) (delta : ℚ)
    (area : ℤ) : (s.handle_resize i delta area).Valid := by
  refine ⟨?_, hs.sums⟩
  refine Recency.forall_mem_modify (fun m hm => ?_) hs.monitors i
  split_ifs
  · refine ⟨?_, hm.nmaster⟩
    have hfrom : (s.grab_mfact.getD m.mfact).Between (5 / 100) (95 / 100) := by
      rcases hgrab : s.grab_mfact with _ | x
      · exact hm.mfact
      · exact hbase x hgrab
    refine (between_add_clamp_iff hfrom _).2 ?_
    intro h
    cases h
  · exact hm

/-- **One event keeps valid master areas valid exactly when it is tame.** -/
theorem step_valid_iff {s : Masters} (hs : s.Valid) (hbase : s.Based) (e : MasterEvent) :
    (step s e).Valid ↔ s.Tame e := by
  cases e with
  | SetMfact delta => exact valid_set_mfact_iff hs delta
  | IncNmaster delta => exact valid_inc_nmaster_iff hs delta
  | handle_resize i delta area =>
    exact iff_of_true (valid_handle_resize hs hbase i delta area) trivial
  | focus_mon i => exact iff_of_true ⟨hs.monitors, hs.sums⟩ trivial
  | start_resize base => exact iff_of_true ⟨hs.monitors, hs.sums⟩ trivial
  | end_grab => exact iff_of_true ⟨hs.monitors, hs.sums⟩ trivial

/-- A resize that begins on valid master areas remembers a valid `mfact`. -/
theorem based_step {s : Masters} (hbase : s.Based) (hs : s.Valid) (e : MasterEvent) :
    (step s e).Based := by
  cases e with
  | start_resize base =>
    intro x hx
    obtain ⟨i, -, hi⟩ := Option.bind_eq_some_iff.1 hx
    obtain ⟨m, hm, rfl⟩ := Option.map_eq_some_iff.1 hi
    exact (hs.monitors m (List.mem_of_getElem? hm)).mfact
  | end_grab =>
    intro x hx
    cases hx
  | _ => exact hbase

/-! ### Runs -/

/-- **A run that begins on valid master areas stays on them exactly when each of its events is
tame.** -/
theorem valid_run_iff {s : Masters} (hs : s.Valid) (hgrab : s.grab_mfact = none)
    (es : List MasterEvent) : Always step Valid s es ↔ Guarded step Tame s es := by
  have hbase : s.Based := by
    intro x hx
    rw [hgrab] at hx
    cases hx
  exact always_iff_guarded (I := Based) (fun _ e h hs => based_step h hs e)
    (fun _ e h hs => step_valid_iff hs h e) hbase hs

/-- One monitor, as the configuration leaves it. -/
def single : Masters := ⟨[⟨.fin (55 / 100), .wrap 1⟩], 0, none, []⟩

theorem valid_single : single.Valid := by
  refine ⟨?_, fun z hz => ?_⟩
  · intro m hm
    obtain rfl := List.mem_singleton.1 hm
    exact ⟨⟨55 / 100, rfl, by norm_num⟩, by decide⟩
  · cases hz

/-- A run with infinite steps, and a resize. -/
theorem valid_run_single :
    Always step Valid single
      [.SetMfact (.inf false), .IncNmaster (.wrap (-2 ^ 31)), .start_resize (some 0),
        .handle_resize 0 (-5000) 800, .end_grab, .SetMfact (.inf true),
        .IncNmaster (.wrap (2 ^ 31 - 1))] := by
  refine (valid_run_iff valid_single rfl _).2 ⟨?_, ?_, trivial, trivial, trivial, ?_, ?_, trivial⟩
  · intro m _ h
    cases h
  · rintro m ⟨⟩
    decide
  · intro m _ h
    cases h
  · rintro m ⟨⟩
    decide

/-- `setmfact nan` leaves NaN. -/
theorem not_valid_run :
    ¬∀ s es, s.Valid → s.grab_mfact = none → Always step Valid s es := by
  intro h
  have hend := (h single [.SetMfact .nan] valid_single rfl).last
  obtain ⟨q, hq, -⟩ := (hend.monitors _ List.mem_cons_self).mfact
  cases hq

end Masters

/-! ### The rest of the compositor -/

/-- The master area of a monitor. -/
def Monitor.masterArea (m : Monitor) : MasterArea := ⟨.fin m.mfact, .wrap m.nmaster⟩

/-- The master areas of a state. -/
def Rwl.masters (s : Rwl) : Masters :=
  ⟨s.desk.monitors.map Monitor.masterArea, s.desk.sel_mon, s.grab.grab_mfact.map .fin, []⟩

namespace Rwl

/-- `arrange_all` leaves the master areas alone. -/
theorem masters_arrange_all (s : Rwl) : s.arrange_all.masters = s.masters := by
  have hbare : s.arrange_all.desk.bare = s.desk.bare := by
    rw [desk_arrange_all]
    exact Desk.bare_arrangePasses s.desk
  have hareas (d : Desk) :
      d.monitors.map Monitor.masterArea = d.bare.monitors.map Monitor.masterArea := by
    show _ = (d.monitors.map Desk.bareMonitor).map Monitor.masterArea
    rw [List.map_map]
    rfl
  have hsel : s.arrange_all.desk.sel_mon = s.desk.sel_mon := by
    show s.arrange_all.desk.bare.sel_mon = s.desk.bare.sel_mon
    rw [hbare]
  unfold masters
  rw [hareas, hbare, ← hareas, hsel, grab_arrange_all]

/-- A change of the selected monitor, arranged, is the change of its master area. -/
theorem masters_relayout (s : Rwl) {f : Config → Monitor → Monitor} {g : MasterArea → MasterArea}
    (h : ∀ m, s.desk.monitors[s.desk.sel_mon]? = some m →
      (f s.desk.cfg m).masterArea = g m.masterArea) :
    (s.relayout f).masters =
      { s.masters with monitors := s.masters.monitors.modify s.masters.sel_mon g } := by
  unfold relayout
  rw [masters_arrange_all]
  unfold masters
  rw [show (s.modifyDesk fun d => d.modifyMonitor d.sel_mon (f d.cfg)).desk.monitors =
    s.desk.monitors.modify s.desk.sel_mon (f s.desk.cfg) from rfl, Recency.map_modify _ h]
  rfl

theorem masters_set_mfact (s : Rwl) (delta : ℚ) :
    (s.set_mfact delta).masters = s.masters.set_mfact (.fin delta) :=
  masters_relayout s fun _ _ => rfl

/-- Without overflow `inc_nmaster` is the one on integers. -/
theorem masters_inc_nmaster (s : Rwl) (delta : I32)
    (h : ∀ m, s.desk.monitors[s.desk.sel_mon]? = some m →
      InI32 m.nmaster ∧ InI32 (m.nmaster + delta.1)) :
    (s.inc_nmaster delta.1).masters = { s.masters.inc_nmaster delta with sums := [] } := by
  refine masters_relayout s (g := fun a => { a with nmaster := (a.nmaster.add delta).max0 })
    fun m hm => ?_
  obtain ⟨hold, hsum⟩ := h m hm
  have hadd : ((I32.wrap m.nmaster).add delta).1 = m.nmaster + delta.1 := by
    rw [I32.add_val] <;> rw [I32.wrap_val hold]
    exact hsum
  have hmax : InI32 (max (m.nmaster + delta.1) 0) := by
    unfold InI32 at hsum ⊢
    omega
  have hval : I32.wrap (max (m.nmaster + delta.1) 0) = ((I32.wrap m.nmaster).add delta).max0 := by
    refine Subtype.ext ?_
    show _ = max ((I32.wrap m.nmaster).add delta).1 0
    rw [I32.wrap_val hmax, hadd]
  unfold Monitor.masterArea
  rw [← hval]

/-- A motion of a resize moves the split of one monitor. -/
theorem masters_dragSplit (s : Rwl) (i : ℕ) (delta : ℚ) (area : Monitor → ℤ) :
    (s.modifyDesk (grab.dragSplit s.grab i delta area)).masters =
      s.masters.handle_resize i delta ((s.desk.monitors[i]?).elim 0 area) := by
  unfold masters Masters.handle_resize
  rw [show (s.modifyDesk (grab.dragSplit s.grab i delta area)).desk.monitors =
    s.desk.monitors.modify i _ from rfl]
  dsimp only
  congr 1
  refine Recency.map_modify _ fun m hm => ?_
  rw [hm]
  unfold Monitor.masterArea
  by_cases harea : 0 < area m
  · rw [if_pos harea]
    refine Eq.trans ?_ (if_pos harea).symm
    rcases s.grab.grab_mfact <;> rfl
  · rw [if_neg harea]
    exact (if_neg harea).symm

/-- What a resize remembers when it begins. -/
theorem grab_mfact_start_resize (s : Rwl) (w : WinId) :
    ∃ base, (grab.start_resize s w).grab.grab_mfact.map F64.fin =
      (s.masters.start_resize base).grab_mfact := by
  unfold grab.start_resize grab.begin
  rw [grab_focus_window]
  unfold grab.resizeBase
  dsimp only
  split_ifs
  · exact ⟨none, rfl⟩
  · exact ⟨none, rfl⟩
  · refine ⟨some (s.desk.st w).mon_idx, ?_⟩
    unfold Masters.start_resize masters
    dsimp only [Option.bind]
    rw [List.getElem?_map]
    rcases s.desk.monitors[(s.desk.st w).mon_idx]? <;> rfl

end Rwl

end Compositor
