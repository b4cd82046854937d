import Mathlib.Tactic.Common
import Rwl.Lib.Shares
import Rwl.Theory.Drags
import Rwl.Theory.StepChanges

/-!
# The fractions of the columns

A resize in the column layout edits the fractions it found when it began, and writes them to the
monitor the window is on by then.

* `grab.minFrac`, `grab.minFrac_ordered`: what both columns keep, and the order of the bounds;
* `grab.dragColumn_moved`: what a motion does to the fractions the resize began with;
* `Desk.facts`, `Desk.Change.facts`: only a motion and a new or removed output change fractions;
* `step_snapshot`: the fractions a resize begins with;
* `column_fractions`: in every run the fractions of every monitor are shares of its width.
-/

namespace Compositor

open Shares Transition

/-! ### One motion -/

namespace grab

/-- What a motion leaves both columns, which together have `total`. -/
def minFrac (total : ℚ) : ℚ := min (5 / 100) (total / 2)

theorem minFrac_pos (total : ℚ) (h : 0 < total) : 0 < minFrac total :=
  lt_min (by norm_num) (half_pos h)

/-- The bounds a motion is clamped between are ordered. -/
theorem minFrac_ordered (left right : ℚ) :
    minFrac (left + right) - left ≤ right - minFrac (left + right) := by
  have h : minFrac (left + right) ≤ (left + right) / 2 := min_le_right _ _
  linarith

/-- A motion moves the boundary right of the grabbed column, from where the resize found it. -/
theorem dragColumn_moved {g : Grab} {area_w : ℤ} {dx : ℚ} {facts : List ℚ}
    (h : dragColumn g area_w dx = some facts) :
    ∃ i snap, g.grab_col_idx = some i ∧ g.grab_col_facts = some snap ∧
      Moved snap i minFrac facts := by
  unfold dragColumn at h
  split at h
  · rename_i i snap hidx hsnap
    split at h
    · rename_i left right hleft hright
      dsimp only at h
      split_ifs at h
      obtain rfl := Option.some.inj h
      obtain ⟨hlo, hhi⟩ := clampQ_bounds (minFrac_ordered left right) (dx / area_w)
      refine ⟨i, snap, hidx, hsnap, moved_moveBoundary hleft hright ?_ ?_ ?_⟩
      · exact add_sub_cancel _ _
      · show minFrac (left + right) ≤ left + clampQ (dx / area_w) _ _
        exact sub_le_iff_le_add'.1 hlo
      · show minFrac (left + right) ≤ left + right - (left + clampQ (dx / area_w) _ _)
        change clampQ (dx / area_w) _ _ ≤ right - minFrac (left + right) at hhi
        change minFrac (left + right) ≤ left + right - (left + clampQ (dx / area_w)
          (minFrac (left + right) - left) (right - minFrac (left + right)))
        linarith
    · cases h
  · cases h

end grab

/-! ### The fractions of a desk -/

namespace Desk

/-- The fractions of each monitor. -/
def facts (d : Desk) : List (List ℚ) := d.monitors.map Monitor.col_facts

theorem facts_modifyMonitor (d : Desk) (i : ℕ) (f : Monitor → Monitor)
    (h : ∀ m, (f m).col_facts = m.col_facts) : (d.modifyMonitor i f).facts = d.facts :=
  Recency.map_modify_eq Monitor.col_facts f h d.monitors i

theorem getElem?_facts_modifyMonitor (d : Desk) (k i : ℕ) (facts : List ℚ) :
    (d.modifyMonitor k fun m => { m with col_facts := facts }).facts[i]? =
      if k = i then (d.facts[i]?).map fun _ => facts else d.facts[i]? := by
  unfold Desk.facts modifyMonitor
  rw [List.getElem?_map, List.getElem?_modify, List.getElem?_map]
  split_ifs
  · rcases d.monitors[i]? with _ | m <;> rfl
  · rcases d.monitors[i]? with _ | m <;> rfl

theorem facts_of_bare {d d' : Desk} (h : d'.bare = d.bare) : d'.facts = d.facts := by
  have hfacts (d : Desk) : d.facts = d.bare.monitors.map Monitor.col_facts := by
    show _ = (d.monitors.map bareMonitor).map Monitor.col_facts
    rw [List.map_map]
    rfl
  rw [hfacts d', hfacts d, h]

theorem col_facts_run (cfg : Config) (m : Monitor) (op : MonitorOp) :
    (op.run cfg m).col_facts = m.col_facts :=
  (reviewed_run cfg m op).keeps Monitor.col_facts fun _ _ => rfl

/-- A small update leaves the fractions alone. -/
theorem Change.keeps_facts {file : Config} {L : Desk → Desk → Prop} {d d' : Desk}
    (h : Change file L d d') : d'.facts = d.facts ∨ L d d' := by
  cases h with
  | relaid _ hb => exact .inl (facts_of_bare hb)
  | monitor i op => exact .inl (facts_modifyMonitor d i _ fun m => col_facts_run d.cfg m op)
  | back i cur w t => exact .inl (facts_modifyMonitor d i _ fun m => col_facts_run d.cfg m (.retag t))
  | tune i f hf => exact .inl (facts_modifyMonitor d i f fun m =>
      congrArg (·.2.2) (hf m).1)
  | rules _ h =>
    obtain ⟨ms, o, rfl, hms, -⟩ := h
    exact .inl (map_of_steady (·.2.2) hms)
  | history i tags =>
    refine .inl ?_
    unfold update_tag_history
    split
    · split_ifs <;> rfl
    · rfl
  | every =>
    refine .inl ?_
    unfold Desk.facts
    dsimp only
    rw [List.map_map]
    exact congrArg (List.map · d.monitors) (funext fun m => col_facts_run d.cfg m .apply)
  | life _ h => exact .inr h
  | _ => exact .inl rfl

theorem Changes.keeps_facts {file : Config} {L : Desk → Desk → Prop} {d d' : Desk}
    (h : Changes file L d d') (hL : ∀ d d', ¬L d d') : d'.facts = d.facts := by
  induction h with
  | refl => rfl
  | tail _ hc ih => exact (hc.keeps_facts.resolve_right (hL _ _)).trans ih

/-- Every fraction list comes from a property of fraction lists that all makers keep. -/
theorem Changes.all_facts {file : Config} {L : Desk → Desk → Prop} {d d' : Desk}
    (h : Changes file L d d') (P : List ℚ → Prop)
    (hL : ∀ d d', L d d' → (∀ l ∈ d.facts, P l) → ∀ l ∈ d'.facts, P l)
    (hd : ∀ l ∈ d.facts, P l) : ∀ l ∈ d'.facts, P l := by
  induction h with
  | refl => exact hd
  | tail _ hc ih =>
    rcases hc.keeps_facts with heq | hlife
    · rw [heq]
      exact ih
    · exact hL _ _ hlife ih

end Desk

namespace Rwl

/-- What an event leaves of the fractions: none for a new monitor, what a motion writes, or what
was there. -/
theorem Life.facts {g : Grab} {e : Event} {d d' : Desk} (h : Life g e d d') :
    ∀ l ∈ d'.facts, l = [] ∨ l ∈ d.facts ∨
      ∃ (area_w : ℤ) (dx : ℚ), grab.dragColumn g area_w dx = some l := by
  have hdragged (hd : grab.Dragged g d d') (l : List ℚ) (hl : l ∈ d'.facts) :
      l = [] ∨ l ∈ d.facts ∨ ∃ (area_w : ℤ) (dx : ℚ), grab.dragColumn g area_w dx = some l := by
    obtain ⟨area_w, dx, facts, i, hfacts, rfl⟩ := hd
    have hall : ∀ m ∈ (d.modifyMonitor i fun m => { m with col_facts := facts }).monitors,
        m.col_facts ∈ d.facts ∨ m.col_facts = facts :=
      Recency.forall_mem_modify (fun _ _ => .inr rfl) (fun m hm => .inl (List.mem_map_of_mem hm)) i
    obtain ⟨m, hm, rfl⟩ := List.mem_map.1 hl
    rcases hall m hm with hold | hnew
    · exact .inr (.inl hold)
    · exact .inr (.inr ⟨area_w, dx, hnew ▸ hfacts⟩)
  have hsame (heq : d'.facts = d.facts) (l : List ℚ) (hl : l ∈ d'.facts) :
      l = [] ∨ l ∈ d.facts ∨ ∃ (area_w : ℤ) (dx : ℚ), grab.dragColumn g area_w dx = some l :=
    .inr (.inl (heq ▸ hl))
  cases h with
  | monitor _ o info =>
    intro l hl
    have hnew : (d.newMonitor o info).col_facts = [] := by
      unfold Desk.newMonitor
      dsimp only
      split <;> rfl
    change l ∈ (d.monitors ++ [d.newMonitor o info]).map Monitor.col_facts at hl
    rw [List.map_append, List.mem_append, List.map_singleton, List.mem_singleton, hnew] at hl
    rcases hl with hl | hl
    · exact .inr (.inl hl)
    · exact .inl hl
  | unplugged _ o i =>
    intro l hl
    obtain ⟨m, hm, rfl⟩ := List.mem_map.1 hl
    exact .inr (.inl (List.mem_map_of_mem (List.mem_of_mem_eraseIdx hm)))
  | dragged_by _ _ dx dy hd => exact hdragged hd
  | dragged_to _ _ fx fy hd => exact hdragged hd
  | unmapped _ f w =>
    exact hsame (congrArg (List.map Monitor.col_facts) (swallow.monitors_on_unmap d w))
  | swallowed _ f b w =>
    exact hsame (congrArg (List.map Monitor.col_facts) (swallow.monitors_try_swallow d w))
  | _ => exact hsame rfl

/-! ### The fractions a resize begins with -/

/-- The fractions a resize of the column layout began with. -/
def snapshot (s : Rwl) : Option (List ℚ) := s.grab.grab_col_facts

/-- The event leaves the snapshot alone, or takes one of the fractions of the monitors. -/
def Snaps (s s' : Rwl) : Prop :=
  s'.snapshot = s.snapshot ∨ s'.snapshot = none ∨
    ∃ (d : Desk) (i : ℕ), d.facts = s.desk.facts ∧ s'.snapshot = some (grab.colSnapshot d i)

theorem whole_colSnapshot {d : Desk} (h : ∀ l ∈ d.facts, Whole l) (i : ℕ) :
    Whole (grab.colSnapshot d i) := by
  unfold grab.colSnapshot
  split
  · rename_i mon hmon
    dsimp only
    split_ifs
    · exact h _ (List.mem_map_of_mem (List.mem_of_getElem? hmon))
    · exact whole_replicate _
  · exact .inl rfl

theorem snaps_start_move (s : Rwl) (w : WinId) : s.Snaps (grab.start_move s w) := by
  refine .inl ?_
  unfold snapshot grab.start_move grab.begin
  rw [grab_focus_window]
  rfl

theorem snaps_start_resize (s : Rwl) (w : WinId) : s.Snaps (grab.start_resize s w) := by
  have hbase : (grab.start_resize s w).snapshot =
      (grab.resizeBase s.desk s.grab w).grab_col_facts := by
    unfold snapshot grab.start_resize grab.begin
    rw [grab_focus_window]
  unfold Snaps
  rw [hbase]
  unfold grab.resizeBase
  dsimp only
  split_ifs
  · exact .inr (.inl rfl)
  · exact .inr (.inr ⟨s.desk, _, rfl, rfl⟩)
  · exact .inr (.inl rfl)

/-- A freed pointer keeps the column and its snapshot. -/
theorem column_of_grab {g g' : Grab} {p : Prop}
    (h : g' = g ∨ p ∧ g' = { g with cursor_mode := .Normal }) :
    g'.grab_col_idx = g.grab_col_idx ∧ g'.grab_col_facts = g.grab_col_facts := by
  rcases h with rfl | ⟨-, rfl⟩
  · exact ⟨rfl, rfl⟩
  · exact ⟨rfl, rfl⟩

/-- Click-to-focus changes neither the fractions nor the snapshot. -/
theorem Snaps.of_pressFocus {s s' : Rwl} {under : Option WinId} (h : (s.pressFocus under).Snaps s') :
    s.Snaps s' := by
  have hmoves : Moves (fun _ _ => False) s (s.pressFocus under) := (Moves.refl s).pressFocus under
  have hfacts : (s.pressFocus under).desk.facts = s.desk.facts :=
    hmoves.changes.keeps_facts fun _ _ => id
  have hsnap : (s.pressFocus under).snapshot = s.snapshot := by
    unfold pressFocus
    split
    · split_ifs
      · rfl
      · unfold snapshot
        rw [grab_focus_window]
        rfl
    · rfl
  unfold Snaps at h
  rwa [hfacts, hsnap] at h

theorem snaps_runButton (s : Rwl) (under : Option WinId) (a : Action) :
    s.Snaps (s.runButton under a) := by
  unfold runButton
  split
  · split
    · exact snaps_start_move s _
    · exact .inl rfl
  · split
    · exact snaps_start_resize s _
    · exact .inl rfl
  · have hmends : Mends (fun _ _ => True) (fun _ _ => True) s (s.dispatch a) :=
      (Mends.refl s).dispatch a
    exact .inl (column_of_grab hmends.holds.grab).2

theorem snaps_releaseGrab (s : Rwl) : s.Snaps s.releaseGrab := by
  unfold releaseGrab
  split_ifs
  · refine .inr (.inl ?_)
    unfold grab.end_grab
    dsimp only
    split_ifs
    · exact congrArg Grab.grab_col_facts (grab_arrange_all _)
    · rfl
  · exact .inl rfl

theorem snaps_button (s : Rwl) (btn : ℕ) (pressed : Bool) (serial : ℕ) :
    s.Snaps (s.process_pointer_button btn pressed serial) := by
  unfold process_pointer_button
  dsimp only
  split_ifs
  · exact .inl rfl
  · have hclick := ground_handle_pointer_click (s.setModTap none) s.seat.location
    exact .inl (congrArg (fun g => g.2.2.grab_col_facts) hclick)
  · exact .inl rfl
  · split
    · exact (snaps_runButton _ _ _).of_pressFocus (s := s.setModTap none)
    · exact Snaps.of_pressFocus (s := s.setModTap none) (.inl rfl)
  · exact snaps_releaseGrab (s.setModTap none)

/-- **What an event does to the snapshot.** -/
theorem step_snaps (s : Rwl) (e : Event) : s.Snaps (step s e) := by
  cases e with
  | button btn pressed serial => exact snaps_button s btn pressed serial
  | move_request f =>
    change s.Snaps (s.move_request f)
    unfold move_request
    split
    · exact snaps_start_move s _
    · exact .inl rfl
  | resize_request f =>
    change s.Snaps (s.resize_request f)
    unfold resize_request
    split
    · exact snaps_start_resize s _
    · exact .inl rfl
  | x11_move_request xid =>
    change s.Snaps (s.x11_move_request xid)
    unfold x11_move_request
    split
    · exact snaps_start_move s _
    · exact .inl rfl
  | x11_resize_request xid =>
    change s.Snaps (s.x11_resize_request xid)
    unfold x11_resize_request
    split
    · exact snaps_start_resize s _
    · exact .inl rfl
  | _ =>
    refine .inl (column_of_grab (step_holds s _ ?_ ?_ ?_ ?_ ?_)).2 <;>
      (intros; intro heq; cases heq)

/-! ### Runs -/

/-- The fractions of the monitors, and those a resize began with, are shares of a width. -/
structure Shared (s : Rwl) : Prop where
  monitors : ∀ l ∈ s.desk.facts, Whole l
  snapshot : ∀ l, s.snapshot = some l → Whole l

theorem shared_init (env : Setup) : (init env).Shared where
  monitors _ hl := by cases hl
  snapshot _ hl := by cases hl

/-- **One event keeps the fractions shares of a width.** -/
theorem Shared.step {s : Rwl} (h : s.Shared) (e : Event) : (step s e).Shared := by
  refine ⟨?_, ?_⟩
  · by_cases hfile : ∃ cfg, e = .config_written cfg
    · obtain ⟨cfg, rfl⟩ := hfile
      exact h.monitors
    · have hmoves : Moves (Life s.grab e) s (Rwl.step s e) :=
        Moves.step s e (fun cfg he => hfile ⟨cfg, he⟩) fun _ _ => id
      refine hmoves.changes.all_facts Whole (fun d d' hlife hd l hl => ?_) h.monitors
      rcases hlife.facts l hl with rfl | hold | ⟨area_w, dx, hdrag⟩
      · exact .inl rfl
      · exact hd l hold
      · obtain ⟨i, snap, -, hsnap, hmoved⟩ := grab.dragColumn_moved hdrag
        exact hmoved.whole (h.snapshot snap hsnap) grab.minFrac_pos
  · intro l hl
    rcases step_snaps s e with hsame | hnone | ⟨d, i, hfacts, hsnap⟩
    · exact h.snapshot l (hsame ▸ hl)
    · rw [hnone] at hl
      cases hl
    · obtain rfl := Option.some.inj (hsnap.symm.trans hl)
      exact whole_colSnapshot (hfacts ▸ h.monitors) i

theorem shared_run (env : Setup) (es : List Event) : (run step (init env) es).Shared :=
  Reach.inv (fun _ e h => h.step e) ⟨es, rfl⟩ (shared_init env)

/-- The event is a pointer motion. -/
def IsMotion (e : Event) : Prop :=
  (∃ dx dy, e = .motion dx dy) ∨ ∃ fx fy, e = .motion_abs fx fy

/-- `facts` is what a motion makes of the fractions the resize began with. -/
def MovesColumn (s : Rwl) (facts : List ℚ) : Prop :=
  ∃ i snap, s.grab.grab_col_idx = some i ∧ s.snapshot = some snap ∧
    Moved snap i grab.minFrac facts

/-- The columns of a state: the fractions of a monitor, the bounds of the next motion, and what
that motion does. -/
structure Divided (s : Rwl) : Prop where
  fractions : ∀ mon ∈ s.desk.monitors, Whole mon.col_facts
  ordered : ∀ (snap : List ℚ) (i : ℕ) (left right : ℚ), s.snapshot = some snap →
    snap[i]? = some left → snap[i + 1]? = some right →
      min (5 / 100) ((left + right) / 2) - left ≤ right - min (5 / 100) ((left + right) / 2)
  kept : ∀ e, IsMotion e → (step s e).grab.grab_col_idx = s.grab.grab_col_idx ∧
    (step s e).snapshot = s.snapshot
  moved : ∀ e, IsMotion e → ∀ i : ℕ, (step s e).desk.facts[i]? = s.desk.facts[i]? ∨
    ∃ facts, (step s e).desk.facts[i]? = some facts ∧ s.MovesColumn facts

/-- A motion writes the fractions of one monitor. -/
theorem moved_of_motion {s : Rwl} {e : Event} (he : IsMotion e) (i : ℕ) :
    (step s e).desk.facts[i]? = s.desk.facts[i]? ∨
      ∃ facts, (step s e).desk.facts[i]? = some facts ∧ s.MovesColumn facts := by
  have hmoves : Moves (Life s.grab e) s (Rwl.step s e) := by
    refine Moves.step s e ?_ fun _ _ => id
    rcases he with ⟨dx, dy, rfl⟩ | ⟨fx, fy, rfl⟩ <;> (intro cfg hcfg; cases hcfg)
  -- what a chain of small updates leaves at position `i`
  suffices h : ∀ d, Desk.Changes s.config_file (Life s.grab e) s.desk d →
      d.facts[i]? = s.desk.facts[i]? ∨ ∃ facts, d.facts[i]? = some facts ∧ s.MovesColumn facts from
    h _ hmoves.changes
  intro d hd
  induction hd with
  | refl => exact .inl rfl
  | tail _ hc ih =>
    rename_i d d' _
    rcases hc.keeps_facts with heq | hlife
    · rw [heq]
      exact ih
    · have hdragged : grab.Dragged s.grab d d' := by
        rcases he with ⟨dx, dy, rfl⟩ | ⟨fx, fy, rfl⟩
        · cases hlife with
          | dragged_by _ _ _ _ h => exact h
        · cases hlife with
          | dragged_to _ _ _ _ h => exact h
      obtain ⟨area_w, dx, facts, k, hdrag, rfl⟩ := hdragged
      rw [Desk.getElem?_facts_modifyMonitor]
      split_ifs
      · rcases hi : d.facts[i]? with _ | old
        · rw [hi] at ih
          exact ih
        · exact .inr ⟨facts, rfl, grab.dragColumn_moved hdrag⟩
      · exact ih

/-- **In every run, a monitor's column fractions are empty or positive and add up to 1**, and each
motion moves the boundary right of the grabbed column, from where the resize found it. -/
theorem column_fractions (env : Setup) (es : List Event) :
    (run step (init env) es).Divided := by
  have h := shared_run env es
  refine ⟨fun mon hmon => ?_, fun _ _ left right _ _ _ => ?_, fun e he => ?_, fun e he i => ?_⟩
  · exact h.monitors _ (List.mem_map_of_mem hmon)
  · exact grab.minFrac_ordered left right
  · refine column_of_grab (step_holds _ e ?_ ?_ ?_ ?_ ?_)
    all_goals
      rcases he with ⟨dx, dy, rfl⟩ | ⟨fx, fy, rfl⟩ <;> (intros; intro heq; cases heq)
  · exact moved_of_motion he i

/-- A motion of 200 pixels on a monitor 1000 pixels wide, and one past the minimum. -/
example :
    grab.dragColumn { Grab.idle .Resize with
      grab_col_idx := some 0, grab_col_facts := some [1 / 2, 1 / 2] } 1000 200 =
        some [7 / 10, 3 / 10] ∧
    grab.dragColumn { Grab.idle .Resize with
      grab_col_idx := some 0, grab_col_facts := some [1 / 2, 1 / 2] } 1000 (-900) =
        some [1 / 20, 19 / 20] := by
  decide +kernel

end Rwl

end Compositor
