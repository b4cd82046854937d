import Mathlib.Tactic.Common
import Mathlib.Data.List.Basic

/-!
# Runs of a deterministic machine

A machine is a step function `step : σ → ε → σ`; a run feeds it a list of events.

* `run`, `Reach`: the state after a list of events, and the states reached from a start;
* `Guarded P`: every step of a run meets the condition `P`, which may read the state before
  the step;
* `Always Q`: every state of a run, the first and the last included, satisfies `Q`;
* `AtFirst D Q`: the first state of a run that satisfies `D` satisfies `Q`;
* the invariant rules: `Guarded.inv_run` (an invariant kept by guarded steps holds at the
  end), `Guarded.always` (it holds all along), and `always_of_step` and `Reach.inv` (the
  unconditional case).
-/

namespace Transition

variable {σ ε : Type*}

/-- The state after the events `es`, taken in order. -/
def run (step : σ → ε → σ) : σ → List ε → σ
  | s, [] => s
  | s, e :: es => run step (step s e) es

variable {step : σ → ε → σ}

@[simp] theorem run_nil (s : σ) : run step s [] = s := rfl

@[simp] theorem run_cons (s : σ) (e : ε) (es : List ε) :
    run step s (e :: es) = run step (step s e) es := rfl

theorem run_append (s : σ) (es fs : List ε) :
    run step s (es ++ fs) = run step (run step s es) fs := by
  induction es generalizing s with
  | nil => rfl
  | cons e es ih => simp only [List.cons_append, run_cons, ih]

theorem run_concat (s : σ) (es : List ε) (e : ε) :
    run step s (es ++ [e]) = step (run step s es) e := by
  rw [run_append, run_cons, run_nil]

/-- `t` is reached from `s`. -/
def Reach (step : σ → ε → σ) (s t : σ) : Prop := ∃ es, run step s es = t

theorem Reach.refl (s : σ) : Reach step s s := ⟨[], rfl⟩

/-! ### Guarded runs -/

/-- Every step of the run of `es` from `s` meets `P`. -/
def Guarded (step : σ → ε → σ) (P : σ → ε → Prop) : σ → List ε → Prop
  | _, [] => True
  | s, e :: es => P s e ∧ Guarded step P (step s e) es

/-- Every state of the run of `es` from `s` satisfies `Q`. -/
def Always (step : σ → ε → σ) (Q : σ → Prop) : σ → List ε → Prop
  | s, [] => Q s
  | s, e :: es => Q s ∧ Always step Q (step s e) es

variable {P P' : σ → ε → Prop} {Q I : σ → Prop}

@[simp] theorem guarded_nil (s : σ) : Guarded step P s [] := trivial

@[simp] theorem guarded_cons {s : σ} {e : ε} {es : List ε} :
    Guarded step P s (e :: es) ↔ P s e ∧ Guarded step P (step s e) es := Iff.rfl

@[simp] theorem always_nil {s : σ} : Always step Q s [] ↔ Q s := Iff.rfl

@[simp] theorem always_cons {s : σ} {e : ε} {es : List ε} :
    Always step Q s (e :: es) ↔ Q s ∧ Always step Q (step s e) es := Iff.rfl

theorem guarded_append {s : σ} {es fs : List ε} :
    Guarded step P s (es ++ fs) ↔
      Guarded step P s es ∧ Guarded step P (run step s es) fs := by
  induction es generalizing s with
  | nil => simp
  | cons e es ih => simp only [List.cons_append, guarded_cons, run_cons, ih, and_assoc]

theorem Guarded.mono {s : σ} {es : List ε} (hPP : ∀ s e, P s e → P' s e)
    (h : Guarded step P s es) : Guarded step P' s es := by
  induction es generalizing s with
  | nil => trivial
  | cons e es ih => exact ⟨hPP _ _ h.1, ih h.2⟩

instance decidableGuarded [∀ s e, Decidable (P s e)] :
    ∀ (s : σ) (es : List ε), Decidable (Guarded step P s es)
  | _, [] => .isTrue trivial
  | s, e :: es =>
      have := decidableGuarded (step s e) es
      inferInstanceAs (Decidable (P s e ∧ Guarded step P (step s e) es))

/-- A guard that always holds is met by every run. -/
theorem guarded_of_forall (h : ∀ s e, P s e) (s : σ) (es : List ε) : Guarded step P s es := by
  induction es generalizing s with
  | nil => trivial
  | cons e es ih => exact ⟨h s e, ih _⟩

/-- A guard that is met wherever the events are cut is met by the run. -/
theorem guarded_of_split {s : σ} {es : List ε}
    (h : ∀ pre e post, es = pre ++ e :: post → P (run step s pre) e) : Guarded step P s es := by
  induction es generalizing s with
  | nil => trivial
  | cons e es ih =>
    refine ⟨h [] e es rfl, ih fun pre e' post hes => ?_⟩
    exact h (e :: pre) e' post (by rw [hes, List.cons_append])

theorem Guarded.and {s : σ} {es : List ε} (h : Guarded step P s es) (h' : Guarded step P' s es) :
    Guarded step (fun s e => P s e ∧ P' s e) s es := by
  induction es generalizing s with
  | nil => trivial
  | cons e es ih => exact ⟨⟨h.1, h'.1⟩, ih h.2 h'.2⟩

/-- An invariant that every guarded step keeps holds at the end of a guarded run. -/
theorem Guarded.inv_run (hstep : ∀ s e, I s → P s e → I (step s e)) {s : σ} {es : List ε}
    (h : Guarded step P s es) (hs : I s) : I (run step s es) := by
  induction es generalizing s with
  | nil => exact hs
  | cons e es ih => exact ih h.2 (hstep s e hs h.1)

/-- An invariant that every guarded step keeps holds all along a guarded run. -/
theorem Guarded.always (hstep : ∀ s e, I s → P s e → I (step s e)) {s : σ} {es : List ε}
    (h : Guarded step P s es) (hs : I s) : Always step I s es := by
  induction es generalizing s with
  | nil => exact hs
  | cons e es ih => exact ⟨hs, ih h.2 (hstep s e hs h.1)⟩

/-- What an invariant gives of every guarded step holds of every step of a guarded run. -/
theorem Guarded.of_inv (hstep : ∀ s e, I s → P s e → I (step s e))
    (hP : ∀ s e, I s → P s e → P' s e) {s : σ} {es : List ε} (h : Guarded step P s es)
    (hs : I s) : Guarded step P' s es := by
  induction es generalizing s with
  | nil => trivial
  | cons e es ih => exact ⟨hP s e hs h.1, ih h.2 (hstep s e hs h.1)⟩

/-- An invariant that every step keeps holds all along every run. -/
theorem always_of_step (hstep : ∀ s e, I s → I (step s e)) {s : σ} (hs : I s)
    (es : List ε) : Always step I s es :=
  (guarded_of_forall (P := fun _ _ => True) (fun _ _ => trivial) s es).always
    (fun s e h _ => hstep s e h) hs

theorem Always.mono {Q' : σ → Prop} {s : σ} {es : List ε} (hQ : ∀ s, Q s → Q' s)
    (h : Always step Q s es) : Always step Q' s es := by
  induction es generalizing s with
  | nil => exact hQ _ h
  | cons e es ih => exact ⟨hQ _ h.1, ih h.2⟩

theorem Always.and {Q' : σ → Prop} {s : σ} {es : List ε} (h : Always step Q s es)
    (h' : Always step Q' s es) : Always step (fun s => Q s ∧ Q' s) s es := by
  induction es generalizing s with
  | nil => exact ⟨h, h'⟩
  | cons e es ih => exact ⟨⟨h.1, h'.1⟩, ih h.2 h'.2⟩

theorem Always.last {s : σ} {es : List ε} (h : Always step Q s es) : Q (run step s es) := by
  induction es generalizing s with
  | nil => exact h
  | cons e es ih => exact ih h.2

/-- A property that a step keeps exactly when it meets `P` holds all along exactly the runs whose
steps all meet `P`. -/
theorem always_iff_guarded (hstep : ∀ s e, I s → Q s → I (step s e))
    (hQ : ∀ s e, I s → Q s → (Q (step s e) ↔ P s e)) {s : σ} {es : List ε} (hs : I s)
    (hq : Q s) : Always step Q s es ↔ Guarded step P s es := by
  induction es generalizing s with
  | nil => exact iff_of_true hq trivial
  | cons e es ih =>
    constructor
    · rintro ⟨_, h⟩
      have hq' : Q (step s e) := by
        cases es with
        | nil => exact h
        | cons => exact h.1
      exact ⟨(hQ s e hs hq).1 hq', (ih (hstep s e hs hq) hq').1 h⟩
    · rintro ⟨hp, h⟩
      have hq' := (hQ s e hs hq).2 hp
      exact ⟨hq, (ih (hstep s e hs hq) hq').2 h⟩

/-- `Q` holds of the first state of the run of `es` from `s` that satisfies `D`, if there is one. -/
def AtFirst (step : σ → ε → σ) (D Q : σ → Prop) : σ → List ε → Prop
  | s, [] => D s → Q s
  | s, e :: es => (D s → Q s) ∧ (¬D s → AtFirst step D Q (step s e) es)

/-- An invariant that guarded steps keep until `D` holds, and that gives `Q` then. -/
theorem Guarded.atFirst {D : σ → Prop} (hQ : ∀ s, I s → D s → Q s)
    (hstep : ∀ s e, I s → ¬D s → P s e → I (step s e)) {s : σ} {es : List ε}
    (h : Guarded step P s es) (hs : I s) : AtFirst step D Q s es := by
  induction es generalizing s with
  | nil => exact hQ s hs
  | cons e es ih => exact ⟨hQ s hs, fun hd => ih h.2 (hstep s e hs hd h.1)⟩

/-- A run beside which more is kept goes through the same states. -/
theorem always_map {τ : Type*} {stepT : τ → ε → τ} {f : τ → σ}
    (hf : ∀ t e, f (stepT t e) = step (f t) e) {t : τ} {es : List ε} :
    Always stepT (fun t => Q (f t)) t es ↔ Always step Q (f t) es := by
  induction es generalizing t with
  | nil => exact Iff.rfl
  | cons e es ih => rw [always_cons, always_cons, ih, hf]

/-- An invariant kept by every step holds of every reachable state. -/
theorem Reach.inv (hstep : ∀ s e, I s → I (step s e)) {s t : σ} (h : Reach step s t)
    (hs : I s) : I t := by
  obtain ⟨es, rfl⟩ := h
  exact (guarded_of_forall (P := fun _ _ => True) (fun _ _ => trivial) s es).inv_run
    (fun s e hi _ => hstep s e hi) hs

end Transition
