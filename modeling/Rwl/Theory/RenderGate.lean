import Mathlib.Tactic.Common
import Rwl.Core.Gate

/-!
# The render gate holds no output for long

* `Clocked`: the times of the frames never go back;
* `InTime`: between two frames of an output that are 100 milliseconds apart, both included, one is
  rendered if the output waits for a window all the while;
* `Watched`: beside the gate, the outputs whose last frame was held;
* `OthersSettled`: a frame that passes finds no other output waiting;
* `rendered_in_time`: with it, every run is in time.

A frame that passes clears the one start that all outputs share, so it gives the outputs that wait
a new while to wait.
-/

namespace Compositor

open Transition

namespace GatedEvent

/-- The time of a frame. -/
def time : GatedEvent → Option ℕ
  | .frame _ _ now _ => some now
  | .event _ => none

/-- The output of a frame. -/
def output : GatedEvent → Option OutputId
  | .frame _ o _ _ => some o
  | .event _ => none

end GatedEvent

/-- The clock never goes back. -/
def Clocked (es : List GatedEvent) : Prop := (es.filterMap GatedEvent.time).Pairwise (· ≤ ·)

instance (es : List GatedEvent) : Decidable (Clocked es) :=
  inferInstanceAs (Decidable (List.Pairwise _ _))

namespace Gated

/-- The gate condition of an output. -/
def pending (g : Gated) (o : OutputId) : Bool := Rwl.pendingResize g.rwl.desk o

/-- The frame is held. -/
def holds (g : Gated) : GatedEvent → Bool
  | .frame _ o now _ => (g.gateAt o now).1
  | .event _ => false

/-- An output with the gate condition has a monitor. -/
theorem exists_monitor_of_pending {g : Gated} {o : OutputId} (h : g.pending o = true) :
    ∃ m ∈ g.rwl.desk.monitors, m.output = o := by
  by_contra hno
  have hnone : g.rwl.desk.monitors.find? (fun m => decide (m.output = o)) = none := by
    rw [List.find?_eq_none]
    intro m hm ho
    exact hno ⟨m, hm, of_decide_eq_true ho⟩
  rw [pending, Rwl.pendingResize, hnone] at h
  simp [WindowState.visible_on] at h

/-! ### The gate -/

/-- The frame is held for less than 100 milliseconds after the start, which stays. -/
theorem gateAt_of_holds {g : Gated} {o : OutputId} {now : ℕ} (h : (g.gateAt o now).1 = true) :
    (g.gateAt o now).2 = some (g.layout_gate_since.getD now) ∧
      (now - g.layout_gate_since.getD now) / 1000000 < 100 := by
  unfold gateAt gate at h ⊢
  dsimp only at h ⊢
  split_ifs at h ⊢ with hp ht
  refine ⟨rfl, lt_of_lt_of_le ht ?_⟩
  unfold gate_timeout_ms
  split_ifs <;> omega

/-- The start is where it was, now, or nowhere. -/
theorem gateAt_since (g : Gated) (o : OutputId) (now : ℕ) :
    (g.gateAt o now).2 = none ∨ (g.gateAt o now).2 = some (g.layout_gate_since.getD now) := by
  unfold gateAt gate
  dsimp only
  split_ifs
  · exact .inr rfl
  · exact .inl rfl
  · exact .inl rfl

theorem since_frame (g : Gated) (nested : Bool) (o : OutputId) (now : ℕ) (out : RenderOutcome) :
    (gatedStep g (.frame nested o now out)).layout_gate_since = (g.gateAt o now).2 := rfl

theorem since_event (g : Gated) (e : Rwl.Event) :
    (gatedStep g (.event e)).layout_gate_since = g.layout_gate_since := by
  rw [gatedStep]
  split_ifs <;> rfl

/-- The gate did not start after `t`. -/
def StartedBy (t : ℕ) (g : Gated) : Prop := ∀ t', g.layout_gate_since = some t' → t' ≤ t

theorem startedBy_step {t : ℕ} {g : Gated} {e : GatedEvent} (h : StartedBy t g)
    (ht : ∀ now, e.time = some now → now ≤ t) : StartedBy t (gatedStep g e) := by
  intro t' ht'
  cases e with
  | event e =>
    rw [since_event] at ht'
    exact h t' ht'
  | frame nested o now out =>
    rw [since_frame] at ht'
    rcases gateAt_since g o now with hnone | hsome
    · rw [hnone] at ht'
      cases ht'
    · rw [hsome, Option.some_inj] at ht'
      subst ht'
      cases hs : g.layout_gate_since with
      | none => exact ht now rfl
      | some t'' => exact h t'' hs

end Gated

/-! ### Outputs that wait -/

/-- The compositor with the gate, and the outputs whose last frame was held. -/
structure Watched where
  gated : Gated
  waiting : OutputId → Bool

namespace Watched

open Gated

/-- One event, recorded. -/
def step (w : Watched) (e : GatedEvent) : Watched where
  gated := gatedStep w.gated e
  waiting := match e.output with
    | some o => Function.update w.waiting o (w.gated.holds e)
    | none => w.waiting

/-- Before the first frame. -/
def start (env : Rwl.Setup) : Watched := ⟨⟨Rwl.init env, none⟩, fun _ => false⟩

/-- A frame that passes finds no other output waiting for a window. -/
def OthersSettled (w : Watched) (e : GatedEvent) : Prop :=
  ∀ p, e.output = some p → w.gated.holds e = false →
    ∀ m ∈ w.gated.rwl.desk.monitors, m.output ≠ p →
      (w.waiting m.output && w.gated.pending m.output) = false

instance (w : Watched) (e : GatedEvent) : Decidable (w.OthersSettled e) :=
  inferInstanceAs (Decidable (∀ p ∈ e.output, w.gated.holds e = false →
    ∀ m ∈ w.gated.rwl.desk.monitors, m.output ≠ p →
      (w.waiting m.output && w.gated.pending m.output) = false))

theorem gated_run (w : Watched) (es : List GatedEvent) :
    (run step w es).gated = run gatedStep w.gated es := by
  induction es generalizing w with
  | nil => rfl
  | cons e es ih => exact ih (w.step e)

/-- While an output waits and its frames are held, it goes on waiting and the start stays. -/
theorem since_step {o : OutputId} {t : ℕ} {w : Watched} {e : GatedEvent}
    (h : w.gated.layout_gate_since = some t ∧ w.waiting o = true)
    (hpending : w.gated.pending o = true) (hheld : e.output = some o → w.gated.holds e = true)
    (hothers : w.OthersSettled e) :
    (w.step e).gated.layout_gate_since = some t ∧ (w.step e).waiting o = true := by
  obtain ⟨hsince, hwaits⟩ := h
  cases e with
  | event e => exact ⟨(since_event w.gated e).trans hsince, hwaits⟩
  | frame nested p now out =>
    have hholds : w.gated.holds (.frame nested p now out) = true := by
      by_cases hp : p = o
      · exact hheld (congrArg some hp)
      · by_contra hpass
        obtain ⟨m, hm, rfl⟩ := exists_monitor_of_pending hpending
        have hsettled := hothers p rfl (Bool.eq_false_iff.mpr hpass) m hm (Ne.symm hp)
        rw [hpending, hwaits] at hsettled
        cases hsettled
    constructor
    · refine (since_frame w.gated nested p now out).trans ?_
      rw [(gateAt_of_holds hholds).1, hsince]
      rfl
    · change Function.update w.waiting p (w.gated.holds (.frame nested p now out)) o = true
      rw [hholds]
      by_cases hp : o = p
      · rw [hp, Function.update_self]
      · rw [Function.update_of_ne hp, hwaits]

end Watched

namespace Gated

/-! ### Runs -/

/-- In the run of `es` from `g`, an output that waits from one of its frames to another one 100
milliseconds later gets a frame rendered in between. -/
def InTime (g : Gated) (es : List GatedEvent) : Prop :=
  ∀ pre nested o t₀ out mid nested' t₁ out' post,
    es = pre ++ .frame nested o t₀ out :: mid ++ .frame nested' o t₁ out' :: post →
    t₀ + 100 * 1000000 ≤ t₁ →
    Guarded gatedStep (fun g _ => g.pending o = true) (run gatedStep g pre)
      (.frame nested o t₀ out :: mid ++ [.frame nested' o t₁ out']) →
    ∃ before e after, .frame nested o t₀ out :: mid ++ [.frame nested' o t₁ out'] =
        before ++ e :: after ∧ e.output = some o ∧
      (run gatedStep g (pre ++ before)).holds e = false

end Gated

namespace Watched

open Gated

/-- A frame of an output whose frames were held since `t₀` or before is held no more after 100
milliseconds. -/
theorem not_all_held {o : OutputId} {t₀ t₁ : ℕ} {nested nested' : Bool} {out out' : RenderOutcome}
    {mid : List GatedEvent} {w : Watched} (hstart : StartedBy t₀ w.gated)
    (ht : t₀ + 100 * 1000000 ≤ t₁)
    (hwindow : Guarded step
      (fun w e => (w.gated.pending o = true ∧ (e.output = some o → w.gated.holds e = true)) ∧
        w.OthersSettled e)
      w (.frame nested o t₀ out :: mid ++ [.frame nested' o t₁ out'])) : False := by
  rw [List.cons_append, guarded_cons, guarded_append] at hwindow
  obtain ⟨⟨⟨-, hfirst⟩, -⟩, hmid, hlast, -⟩ := hwindow
  have hopen := (gateAt_of_holds (hfirst rfl)).1
  set since := w.gated.layout_gate_since.getD t₀ with hsince
  have hle : since ≤ t₀ := by
    cases hs : w.gated.layout_gate_since with
    | none => simp [hsince, hs]
    | some t => simpa [hsince, hs] using hstart t hs
  have hwaits : (w.step (.frame nested o t₀ out)).waiting o = true :=
    (Function.update_self ..).trans (hfirst rfl)
  -- the start outlives everything in between
  have hkept := hmid.inv_run
    (I := fun w => w.gated.layout_gate_since = some since ∧ w.waiting o = true)
    (fun _ _ hs hg => since_step hs hg.1.1 hg.1.2 hg.2) ⟨(since_frame ..).trans hopen, hwaits⟩
  have hheld := (gateAt_of_holds (hlast.1.2 rfl)).2
  rw [hkept.1, Option.getD_some] at hheld
  omega

/-- What holds of a run holds of it when it is recorded. -/
theorem guarded_of_gated {P : Gated → GatedEvent → Prop} {w : Watched} {es : List GatedEvent}
    (h : Guarded gatedStep P w.gated es) : Guarded step (fun w e => P w.gated e) w es := by
  induction es generalizing w with
  | nil => trivial
  | cons e es ih => exact ⟨h.1, ih h.2⟩

/-- **No output is held for more than 100 milliseconds in a run whose frames pass only while no
other output waits.** -/
theorem rendered_in_time (env : Rwl.Setup) (es : List GatedEvent) (hclock : Clocked es)
    (h : Guarded step OthersSettled (start env) es) : InTime ⟨Rwl.init env, none⟩ es := by
  intro pre nested o t₀ out mid nested' t₁ out' post hes ht hpending
  by_contra hnone
  have hheld : Guarded gatedStep (fun g e => e.output = some o → g.holds e = true)
      (run gatedStep ⟨Rwl.init env, none⟩ pre)
      (.frame nested o t₀ out :: mid ++ [.frame nested' o t₁ out']) := by
    refine guarded_of_split fun before e after hsplit ho => ?_
    rw [← run_append]
    by_contra hpass
    exact hnone ⟨before, e, after, hsplit, ho, Bool.eq_false_iff.mpr hpass⟩
  have hwhole : es = pre ++ ((.frame nested o t₀ out :: mid ++ [.frame nested' o t₁ out']) ++
      post) := by
    rw [hes]
    simp
  rw [hwhole, guarded_append, guarded_append] at h
  -- no frame of the first part comes after the first frame of the window
  have hbefore : ∀ e ∈ pre, ∀ now, e.time = some now → now ≤ t₀ := by
    intro e he now hnow
    rw [Clocked, hwhole, List.filterMap_append, List.pairwise_append] at hclock
    exact hclock.2.2 now (List.mem_filterMap.mpr ⟨e, he, hnow⟩) t₀ (by simp [GatedEvent.time])
  have hstart : StartedBy t₀ (run step (start env) pre).gated := by
    rw [gated_run]
    refine Guarded.inv_run (P := fun _ e => ∀ now, e.time = some now → now ≤ t₀)
      (fun _ _ hs he => startedBy_step hs he) ?_ ?_
    · refine guarded_of_split fun a e b hab => hbefore e ?_
      rw [hab]
      exact List.mem_append_right _ List.mem_cons_self
    · intro t' ht'
      cases ht'
  have hcalls := hpending.and hheld
  have hgated : run gatedStep ⟨Rwl.init env, none⟩ pre = (run step (start env) pre).gated :=
    (gated_run (start env) pre).symm
  rw [hgated] at hcalls
  exact not_all_held hstart ht ((guarded_of_gated hcalls).and h.2.1)

/-! ### Two outputs -/

/-- Two outputs that show different tags, the first with a window that has drawn nothing yet. -/
def drawingStart : List GatedEvent :=
  [.event (.output_added 0 (Rwl.plainOutput "a")), .event (.output_added 1 (Rwl.plainOutput "b")),
    .event (.ipc_outputs .view (some 1) 2),
    .event (.new_toplevel 0 { Rwl.plainClient 10 with geometry := Rect.zero }),
    .event (.commit 10 true)]

/-- A frame of the DRM backend, at a time in milliseconds. -/
def frameAt (o : OutputId) (ms : ℕ) : GatedEvent := .frame false o (ms * 1000000) Rwl.plainFrame

/-- With the other output at rest, the first one is rendered in time. -/
theorem rendered_in_time_alone :
    InTime ⟨Rwl.init (Rwl.plainSetup [] []), none⟩
      (drawingStart ++ [frameAt 0 0, frameAt 0 50, frameAt 0 100, frameAt 1 110]) :=
  rendered_in_time (Rwl.plainSetup [] []) _ (by decide) (by decide +kernel)

/-- A frame of the second output starts the while of the first one again. -/
theorem not_rendered_in_time :
    ¬ ∀ (env : Rwl.Setup) (es : List GatedEvent), Clocked es →
      InTime ⟨Rwl.init env, none⟩ es := by
  intro h
  have hwindow := h (Rwl.plainSetup [] [])
    (drawingStart ++ [frameAt 0 0, frameAt 1 50, frameAt 0 60, frameAt 0 110]) (by decide)
    drawingStart false 0 0 Rwl.plainFrame [frameAt 1 50, frameAt 0 60] false 110000000
    Rwl.plainFrame [] rfl (by decide) (by decide +kernel)
  have hheld : Guarded gatedStep (fun g e => e.output = some 0 → g.holds e = true)
      (run gatedStep ⟨Rwl.init (Rwl.plainSetup [] []), none⟩ drawingStart)
      [frameAt 0 0, frameAt 1 50, frameAt 0 60, frameAt 0 110] := by
    decide +kernel
  obtain ⟨before, e, after, hsplit, ho, hpass⟩ := hwindow
  rw [run_append] at hpass
  change [frameAt 0 0, frameAt 1 50, frameAt 0 60, frameAt 0 110] = _ at hsplit
  rw [hsplit, guarded_append, guarded_cons] at hheld
  rw [hheld.2.1 ho] at hpass
  cases hpass

end Watched

end Compositor
