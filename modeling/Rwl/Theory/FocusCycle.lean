import Mathlib.Tactic.Common
import Mathlib.Data.List.Rotate
import Rwl.Theory.Refocus
import Rwl.Theory.StepActs
import Rwl.Theory.Swallowed

/-!
# Going round the windows of a monitor

* `nodup_windows`: no window is listed twice in a reachable state;
* `Desk.place`, `stepTarget_eq`: a step of `focus_stack_step` goes to the next place of the cycle;
* `focus_stack_step_spec`: it focuses the window there and changes neither the cycle nor the scene;
* `focused_iterate`, `focus_cycle`: as many forward steps as there are windows focus each of them
  once.
-/

namespace Compositor

namespace Rwl

open Transition

/-! ### The window list -/

/-- No window is listed twice in a reachable state. -/
theorem nodup_windows {s : Rwl} (hs : Reachable s) : s.desk.windows.Nodup := by
  obtain ⟨env, hreach⟩ := hs
  have hinit : (init env).desk.registry.Distinct :=
    ⟨List.nodup_nil, fun a ha => absurd ha List.not_mem_nil⟩
  exact (hreach.inv (I := fun s : Rwl => s.desk.registry.Distinct)
    (fun s e h => (step_registry s e).distinct h) hinit).1

/-! ### Places -/

/-- Where the walk round the cycle stands: at the focused window, or just before its first window
in the direction taken. -/
def place (d : Desk) (dir : ℤ) : ℕ :=
  ((d.focused_window.bind fun f => (focusCycle d).findIdx? fun w => decide (w = f))).getD
    (if 0 < dir then (focusCycle d).length - 1 else 0)

/-- The place after one step. -/
def turned (n : ℕ) (dir : ℤ) (p : ℕ) : ℕ := if 0 < dir then (p + 1) % n else (p + n - 1) % n

theorem place_lt {d : Desk} (hne : focusCycle d ≠ []) (dir : ℤ) :
    place d dir < (focusCycle d).length := by
  have hpos := List.length_pos_of_ne_nil hne
  unfold place
  cases hf : d.focused_window.bind fun f => (focusCycle d).findIdx? fun w => decide (w = f) with
  | none =>
    rw [Option.getD_none]
    split_ifs <;> omega
  | some i =>
    obtain ⟨f, _, hi⟩ := Option.bind_eq_some_iff.1 hf
    exact (List.findIdx?_eq_some_iff_getElem.1 hi).1

/-- The focused window stands at its own place. -/
theorem place_of_focused {d : Desk} (hn : (focusCycle d).Nodup) {i : ℕ} {w : WinId}
    (hi : (focusCycle d)[i]? = some w) (hf : d.focused_window = some w) (dir : ℤ) :
    place d dir = i := by
  obtain ⟨hlt, hw⟩ := List.getElem?_eq_some_iff.1 hi
  have hidx : (focusCycle d).findIdx? (fun v => decide (v = w)) = some i := by
    refine List.findIdx?_eq_some_iff_getElem.2 ⟨hlt, decide_eq_true hw, fun j hj => ?_⟩
    have hjl : j < (focusCycle d).length := by omega
    rw [decide_eq_true_eq, ← hw]
    exact List.pairwise_iff_getElem.1 hn j i hjl hlt hj
  unfold place
  rw [hf, Option.bind_some, hidx, Option.getD_some]

/-- A step goes to the next place. -/
theorem stepTarget_eq {d : Desk} (hne : focusCycle d ≠ []) (dir : ℤ) :
    stepTarget d dir = (focusCycle d)[turned (focusCycle d).length dir (place d dir)]? := by
  have hpos := List.length_pos_of_ne_nil hne
  unfold stepTarget place turned
  unfold focusCycle at hpos ⊢
  dsimp only
  generalize List.filter _ d.windows = l at hpos ⊢
  rw [if_neg hpos.ne']
  cases d.focused_window.bind fun f => l.findIdx? fun w => decide (w = f) with
  | none =>
    -- with nothing focused the walk starts at an end of the cycle
    dsimp only [Option.getD_none]
    split_ifs
    · rw [Nat.sub_add_cancel hpos, Nat.mod_self]
    · rw [Nat.zero_add, Nat.mod_eq_of_lt (by omega)]
  | some i => rfl

/-! ### One step -/

/-- The cycle depends on the scene and the selected monitor. -/
theorem focusCycle_of_scene {d d' : Desk} (h : d'.scene = d.scene) (hsel : d'.sel_mon = d.sel_mon) :
    focusCycle d' = focusCycle d := by
  have hwindows : d'.windows = d.windows := congrArg Scene.windows h
  unfold focusCycle
  rw [hwindows]
  refine List.filter_congr fun w _ => ?_
  have hrules : (d'.st w).rules_applied = (d.st w).rules_applied :=
    congrArg Placement.rules_applied (Desk.placement_of_scene h w)
  unfold WindowState.visible_on
  rw [Desk.tags_of_scene h, Desk.mon_idx_of_scene h, hsel, Desk.tagsOf_of_scene h, hrules]

/-- A visible window of the selected monitor, once focused, is the focused window, and the
selection stays. -/
theorem focus_window_of_visible {s : Rwl} {w : WinId}
    (hvisible : (s.desk.st w).visible_on (s.desk.tagsOf s.desk.sel_mon) = true)
    (hmon : (s.desk.st w).mon_idx = s.desk.sel_mon) :
    (s.focus_window (some w)).desk.focused_window = some w ∧
      (s.focus_window (some w)).desk.sel_mon = s.desk.sel_mon := by
  have hsel : (s.focus_window (some w)).desk.sel_mon = s.desk.sel_mon := by
    rw [sel_mon_focus_window]
    split_ifs
    · rfl
    · exact hmon
  refine ⟨?_, hsel⟩
  have hscene := scene_focus_window s (some w)
  unfold Desk.focused_window Desk.topOn
  rw [focus_stack_focus_window, hsel, Desk.tagsOf_of_scene hscene]
  refine List.find?_cons_of_pos ?_
  unfold WindowState.visible_on
  rw [Desk.tags_of_scene hscene, Desk.mon_idx_of_scene hscene, Bool.and_eq_true, decide_eq_true_eq]
  exact ⟨hvisible, hmon⟩

theorem focus_window_of_mem {s : Rwl} {w : WinId} (hw : w ∈ focusCycle s.desk) :
    (s.focus_window (some w)).desk.focused_window = some w ∧
      (s.focus_window (some w)).desk.sel_mon = s.desk.sel_mon := by
  have hview := (List.mem_filter.1 hw).2
  rw [Bool.and_eq_true, Bool.and_eq_true, decide_eq_true_eq] at hview
  exact focus_window_of_visible hview.1.1 hview.2

/-- The focused window is visible on the selected monitor. -/
theorem visible_focused_window {d : Desk} {w : WinId} (h : d.focused_window = some w) :
    (d.st w).visible_on (d.tagsOf d.sel_mon) = true ∧ (d.st w).mon_idx = d.sel_mon := by
  have hfound := List.find?_some h
  rwa [Bool.and_eq_true, decide_eq_true_eq] at hfound

/-- Refocusing keeps the focused window. -/
theorem focused_window_focus_top (s : Rwl) :
    s.focus_top.desk.focused_window = s.desk.focused_window := by
  unfold focus_top
  cases hf : s.desk.focused_window with
  | none =>
    rw [focus_window_none]
    split_ifs <;> exact hf
  | some w =>
    exact (focus_window_of_visible (visible_focused_window hf).1 (visible_focused_window hf).2).1

/-- What no step of the cycle changes. -/
def Same (s s' : Rwl) : Prop :=
  s'.desk.scene = s.desk.scene ∧ s'.desk.sel_mon = s.desk.sel_mon

theorem Same.trans {s₀ s s' : Rwl} (h : Same s₀ s) (h' : Same s s') : Same s₀ s' :=
  ⟨h'.1.trans h.1, h'.2.trans h.2⟩

/-- A step changes the focus only. -/
theorem same_focus_stack_step (s : Rwl) (dir : ℤ) :
    Same s (s.focus_stack_step dir) := by
  unfold focus_stack_step
  cases hw : stepTarget s.desk dir with
  | none => exact ⟨rfl, rfl⟩
  | some w =>
    exact ⟨scene_focus_window s (some w), (focus_window_of_mem (stepTarget_mem hw)).2⟩

theorem same_foldl (s : Rwl) (dirs : List ℤ) : Same s (dirs.foldl focus_stack_step s) := by
  induction dirs generalizing s with
  | nil => exact ⟨rfl, rfl⟩
  | cons dir dirs ih => exact (same_focus_stack_step s dir).trans (ih _)

/-- **One step** focuses the window at the next place. -/
theorem focused_focus_stack_step {s : Rwl} (hne : focusCycle s.desk ≠ []) (dir : ℤ) :
    (s.focus_stack_step dir).desk.focused_window =
      (focusCycle s.desk)[turned (focusCycle s.desk).length dir (place s.desk dir)]? := by
  have hpos := List.length_pos_of_ne_nil hne
  have hlt : turned (focusCycle s.desk).length dir (place s.desk dir) <
      (focusCycle s.desk).length := by
    unfold turned
    split_ifs
    · exact Nat.mod_lt _ hpos
    · exact Nat.mod_lt _ hpos
  have htarget := stepTarget_eq hne dir
  rw [List.getElem?_eq_getElem hlt] at htarget
  unfold focus_stack_step
  rw [htarget, List.getElem?_eq_getElem hlt]
  exact (focus_window_of_mem (List.getElem_mem hlt)).1

/-! ### A whole turn -/

/-- The state after `k` steps. -/
def steps (s : Rwl) (dir : ℤ) (k : ℕ) : Rwl := (fun s => s.focus_stack_step dir)^[k] s

theorem steps_succ (s : Rwl) (dir : ℤ) (k : ℕ) :
    steps s dir (k + 1) = (steps s dir k).focus_stack_step dir :=
  Function.iterate_succ_apply' _ _ _

theorem same_steps (s : Rwl) (dir : ℤ) (k : ℕ) :
    Same s (steps s dir k) := by
  induction k with
  | zero => exact ⟨rfl, rfl⟩
  | succ k ih =>
    rw [steps_succ]
    exact ih.trans (same_focus_stack_step _ dir)

/-- Forward steps go through the places in order. -/
theorem place_steps {s : Rwl} (hn : (focusCycle s.desk).Nodup) (hne : focusCycle s.desk ≠ []) {dir : ℤ} (hdir : 0 < dir)
    (k : ℕ) : place (steps s dir k).desk dir =
      (place s.desk dir + k) % (focusCycle s.desk).length := by
  have hpos := List.length_pos_of_ne_nil hne
  induction k with
  | zero => exact (Nat.mod_eq_of_lt (place_lt hne dir)).symm
  | succ k ih =>
    have hsame := same_steps s dir k
    have hcycle := focusCycle_of_scene hsame.1 hsame.2
    have hfocused := focused_focus_stack_step (by rwa [hcycle]) dir
    have hsame' := same_steps s dir (k + 1)
    have hcycle' := focusCycle_of_scene hsame'.1 hsame'.2
    rw [hcycle, ih, turned, if_pos hdir, Nat.mod_add_mod, ← steps_succ] at hfocused
    have hlt : (place s.desk dir + k + 1) % (focusCycle s.desk).length <
        (focusCycle s.desk).length := Nat.mod_lt _ hpos
    rw [List.getElem?_eq_getElem hlt] at hfocused
    refine place_of_focused (hcycle' ▸ hn) ?_ hfocused dir
    rw [hcycle']
    exact List.getElem?_eq_getElem hlt

theorem focused_steps {s : Rwl} (hn : (focusCycle s.desk).Nodup) (hne : focusCycle s.desk ≠ []) {dir : ℤ} (hdir : 0 < dir)
    (k : ℕ) : (steps s dir (k + 1)).desk.focused_window =
      (focusCycle s.desk)[(place s.desk dir + k + 1) % (focusCycle s.desk).length]? := by
  have hsame := same_steps s dir k
  have hcycle := focusCycle_of_scene hsame.1 hsame.2
  rw [steps_succ, focused_focus_stack_step (by rwa [hcycle]) dir, hcycle,
    place_steps hn hne hdir, turned, if_pos hdir, Nat.mod_add_mod]

/-- A whole turn focuses the windows in the order of the cycle, from the next place on. -/
theorem turn_eq_rotate {s : Rwl} (hn : (focusCycle s.desk).Nodup) (hne : focusCycle s.desk ≠ []) {dir : ℤ} (hdir : 0 < dir) :
    ((List.range (focusCycle s.desk).length).map fun k =>
        (steps s dir (k + 1)).desk.focused_window) =
      ((focusCycle s.desk).rotate (place s.desk dir + 1)).map some := by
  refine List.ext_getElem (by simp) fun k h₁ h₂ => ?_
  have hk : k < (focusCycle s.desk).length := by simpa using h₁
  rw [List.getElem_map, List.getElem_range, focused_steps hn hne hdir, List.getElem_map,
    List.getElem_rotate, List.getElem?_eq_getElem (Nat.mod_lt _ (by omega))]
  congr 3
  omega

/-- A whole turn ends at the place it started from. -/
theorem focused_turn {s : Rwl} (hn : (focusCycle s.desk).Nodup) (hne : focusCycle s.desk ≠ []) {dir : ℤ} (hdir : 0 < dir) :
    (steps s dir (focusCycle s.desk).length).desk.focused_window =
      (focusCycle s.desk)[place s.desk dir]? := by
  have hpos := List.length_pos_of_ne_nil hne
  obtain ⟨k, hk⟩ := Nat.exists_eq_add_one.2 hpos
  have hround : (place s.desk dir + k + 1) % (focusCycle s.desk).length = place s.desk dir := by
    rw [Nat.add_assoc, ← hk, Nat.add_mod_right, Nat.mod_eq_of_lt (place_lt hne dir)]
  have hend := focused_steps hn hne hdir k
  rwa [hround, ← hk] at hend

/-- A backward step returns to the place a forward step left. -/
theorem focused_back {s : Rwl} (hn : (focusCycle s.desk).Nodup) {fwd bwd : ℤ} (hf : 0 < fwd) (hb : bwd < 0) {f : WinId}
    (hmem : f ∈ focusCycle s.desk) (hfocused : s.desk.focused_window = some f) :
    ((s.focus_stack_step fwd).focus_stack_step bwd).desk.focused_window = some f := by
  have hne : focusCycle s.desk ≠ [] := List.ne_nil_of_mem hmem
  have hpos := List.length_pos_of_ne_nil hne
  obtain ⟨p, hp, hpf⟩ := List.getElem_of_mem hmem
  have hplace : place s.desk fwd = p :=
    place_of_focused hn (by rw [List.getElem?_eq_getElem hp, hpf]) hfocused fwd
  have hsame := same_focus_stack_step s fwd
  have hcycle := focusCycle_of_scene hsame.1 hsame.2
  have hlt : (p + 1) % (focusCycle s.desk).length < (focusCycle s.desk).length :=
    Nat.mod_lt _ hpos
  have hfirst := focused_focus_stack_step hne fwd
  rw [hplace, turned, if_pos hf, List.getElem?_eq_getElem hlt] at hfirst
  have hplace' : place (s.focus_stack_step fwd).desk bwd = (p + 1) % (focusCycle s.desk).length := by
    refine place_of_focused (hcycle ▸ hn) ?_ hfirst bwd
    rw [hcycle]
    exact List.getElem?_eq_getElem hlt
  rw [focused_focus_stack_step (by rwa [hcycle]), hplace', hcycle, turned,
    if_neg (by omega)]
  have hback : ((p + 1) % (focusCycle s.desk).length + (focusCycle s.desk).length - 1) %
      (focusCycle s.desk).length = p := by
    rcases Nat.lt_or_ge (p + 1) (focusCycle s.desk).length with hlast | hlast
    · rw [Nat.mod_eq_of_lt hlast, Nat.add_right_comm, Nat.add_sub_cancel, Nat.add_mod_right,
        Nat.mod_eq_of_lt hp]
    · have heq : p + 1 = (focusCycle s.desk).length := by omega
      rw [heq, Nat.mod_self, Nat.zero_add, Nat.mod_eq_of_lt (by omega)]
      omega
  rw [hback, List.getElem?_eq_getElem hp, hpf]

/-- The windows the selected monitor displays. -/
def displayed (d : Desk) : List WinId :=
  d.windows.filter fun w =>
    (d.st w).visible_on (d.tagsOf d.sel_mon) && !(d.st w).is_swallowed && (d.st w).rules_applied &&
      decide ((d.st w).mon_idx = d.sel_mon)

theorem displayed_eq {d : Desk} (h : ∀ w ∈ d.windows, (d.st w).is_swallowed = false) :
    displayed d = focusCycle d := by
  refine List.filter_congr fun w hw => ?_
  rw [h w hw, Bool.not_false, Bool.and_true]

/-- What going round the windows of the selected monitor does. -/
structure FullCycle (s : Rwl) (fwd bwd : ℤ) : Prop where
  /-- As many forward steps as there are windows focus each of them once. -/
  once : ((List.range (displayed s.desk).length).map fun k =>
    (steps s fwd (k + 1)).desk.focused_window).Perm ((displayed s.desk).map some)
  /-- They end where they started, when a displayed window was focused. -/
  ends : ∀ f ∈ displayed s.desk, s.desk.focused_window = some f →
    (steps s fwd (displayed s.desk).length).desk.focused_window = some f
  back : ∀ f ∈ displayed s.desk, s.desk.focused_window = some f →
    ((s.focus_stack_step fwd).focus_stack_step bwd).desk.focused_window = some f
  /-- Otherwise they start at the first window and end at the last. -/
  across : (∀ f ∈ displayed s.desk, s.desk.focused_window ≠ some f) →
    (steps s fwd 1).desk.focused_window = (displayed s.desk).head? ∧
      (steps s fwd (displayed s.desk).length).desk.focused_window = (displayed s.desk).getLast?
  /-- No step moves a window, changes a view or selects another monitor. -/
  frame : ∀ dirs : List ℤ,
    (dirs.foldl focus_stack_step s).desk.scene = s.desk.scene ∧
      (dirs.foldl focus_stack_step s).desk.sel_mon = s.desk.sel_mon

/-- **Focus cycling.** In a reachable state with no swallowed window, whose selected
monitor displays some window, `focus_stack_step` goes round the displayed windows. -/
theorem focus_cycle {s : Rwl} (hs : Reachable s)
    (hplain : ∀ w ∈ s.desk.windows, (s.desk.st w).is_swallowed = false)
    (hne : displayed s.desk ≠ []) {fwd bwd : ℤ} (hf : 0 < fwd) (hb : bwd < 0) :
    FullCycle s fwd bwd := by
  have hdisplayed := displayed_eq hplain
  have hn : (focusCycle s.desk).Nodup := (nodup_windows hs).filter _
  rw [hdisplayed] at hne
  have hpos := List.length_pos_of_ne_nil hne
  have hturn := focused_turn hn hne hf
  constructor
  · rw [hdisplayed, turn_eq_rotate hn hne hf]
    exact (List.rotate_perm _ _).map some
  · intro f hmem hfocused
    rw [hdisplayed] at hmem ⊢
    obtain ⟨p, hp, hpf⟩ := List.getElem_of_mem hmem
    have hat : (focusCycle s.desk)[p]? = some f := by rw [List.getElem?_eq_getElem hp, hpf]
    rw [hturn, place_of_focused hn hat hfocused, hat]
  · intro f hmem hfocused
    rw [hdisplayed] at hmem
    exact focused_back hn hf hb hmem hfocused
  · intro hnone
    rw [hdisplayed] at hnone ⊢
    have hplace : place s.desk fwd = (focusCycle s.desk).length - 1 := by
      have hidx : (s.desk.focused_window.bind fun f =>
          (focusCycle s.desk).findIdx? fun w => decide (w = f)) = none := by
        refine Option.bind_eq_none_iff.2 fun f hfocused => List.findIdx?_eq_none_iff.2 ?_
        exact fun w hw => decide_eq_false fun he => hnone w hw (he ▸ hfocused)
      unfold place
      rw [hidx, Option.getD_none, if_pos hf]
    refine ⟨?_, ?_⟩
    · have hfirst := focused_steps hn hne hf 0
      rw [hplace, Nat.add_zero, Nat.sub_add_cancel hpos, Nat.mod_self] at hfirst
      rw [List.head?_eq_getElem?]
      exact hfirst
    · rw [hturn, hplace, List.getLast?_eq_getElem?]
  · exact same_foldl s

/-- Three windows on one monitor. -/
def threeWindows : List Event :=
  [.output_added 0 (plainOutput "a"), .new_toplevel 0 (plainClient 10), .commit 10 true,
    .new_toplevel 1 (plainClient 11), .commit 11 true, .new_toplevel 2 (plainClient 12),
    .commit 12 true]

theorem focus_cycle_three : FullCycle (run step (init (plainSetup [] [])) threeWindows) 1 (-1) :=
  focus_cycle ⟨plainSetup [] [], threeWindows, rfl⟩ (by decide +kernel) (by decide +kernel)
    (by decide) (by decide)

/-- A window has just been made and waits for its rules, on top of the focus stack. -/
def freshWindow : List Event :=
  [.output_added 0 (plainOutput "a"), .new_toplevel 0 (plainClient 10), .commit 10 true,
    .new_toplevel 1 (plainClient 11)]

/-- A turn does not come back to a focused window that still waits for its rules. -/
theorem not_focus_cycle : ¬ ∀ s : Rwl, Reachable s → s.session.locked = false →
    (∀ w ∈ s.desk.windows, (s.desk.st w).is_swallowed = false) → displayed s.desk ≠ [] →
    (steps s 1 (displayed s.desk).length).desk.focused_window = s.desk.focused_window := by
  intro h
  have hend := h (run step (init (plainSetup [] [])) freshWindow)
    ⟨plainSetup [] [], freshWindow, rfl⟩ (by decide +kernel) (by decide +kernel)
    (by decide +kernel)
  revert hend
  decide +kernel

end Rwl

end Compositor
