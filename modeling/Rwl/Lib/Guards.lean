import Mathlib.Tactic.Common
import Rwl.Lib.Run

/-!
# Guards held along the control flow of a program

A thread runs structured code that takes guards of a lock. A guard is held while the code it
protects runs, whatever that code calls.

* `Code`: the control flow of a function: sequences, branches, loops, calls, and code run under
  a guard;
* `Program`: the body of each function, and the code behind each question about the data;
* `Thread`, `Program.step`: what is left to do and the guards held, one instruction at a time; a
  moment resolves the branches;
* `Move`, `Thread.next`: what the next step takes, calls or asks;
* `Code.fits`: under a rule, all moves of a piece of code are allowed where it makes them;
* `Program.Sound`, `Program.always_obeys`: a program whose bodies fit obeys the rule in every run.
-/

namespace Guarding

open Transition

variable {F Q G M : Type*}

/-! ### Code -/

/-- The control flow of a function. -/
inductive Code (F Q G : Type*)
  /-- Nothing the lock is concerned with. -/
  | skip
  | seq (a b : Code F Q G)
  /-- A branch that may go either way. -/
  | alt (a b : Code F Q G)
  /-- A loop that may end before any round. -/
  | loop (a : Code F Q G)
  | call (f : F)
  /-- A branch decided by the data. -/
  | ask (q : Q)
  /-- `a` runs while a guard is held. -/
  | hold (g : G) (a : Code F Q G)

namespace Code

/-- One piece of code after the other. -/
def seqs : List (Code F Q G) → Code F Q G
  | [] => skip
  | a :: as => seq a (seqs as)

/-- Code that may be left out. -/
def opt (a : Code F Q G) : Code F Q G := alt a skip

/-- One of several branches, or none of them. -/
def pick : List (Code F Q G) → Code F Q G
  | [] => skip
  | a :: as => alt a (pick as)

end Code

/-- The bodies of the functions, and the code behind each question at a moment. -/
structure Program (F Q G M : Type*) where
  body : F → Code F Q G
  answer : Q → M → Code F Q G
  /-- Which way a branch goes, and whether a loop makes another round. -/
  turn : M → Bool

/-! ### Threads -/

/-- Something left to do: code to run, or the innermost guard to drop. -/
inductive Item (F Q G : Type*)
  | run (c : Code F Q G)
  | drop

/-- What a thread has left to do, and the guards it holds, the innermost first. -/
structure Thread (F Q G : Type*) where
  todo : List (Item F Q G)
  held : List G

/-- A thread that starts on `c`. -/
def Thread.start (c : Code F Q G) : Thread F Q G := ⟨[.run c], []⟩

namespace Program

/-- One step on a piece of code. -/
def exec (p : Program F Q G M) (rest : List (Item F Q G)) (held : List G) (m : M) :
    Code F Q G → Thread F Q G
  | .skip => ⟨rest, held⟩
  | .seq a b => ⟨.run a :: .run b :: rest, held⟩
  | .alt a b => ⟨.run (if p.turn m then a else b) :: rest, held⟩
  | .loop a => if p.turn m then ⟨.run a :: .run (.loop a) :: rest, held⟩ else ⟨rest, held⟩
  | .call f => ⟨.run (p.body f) :: rest, held⟩
  | .ask q => ⟨.run (p.answer q m) :: rest, held⟩
  | .hold g a => ⟨.run a :: .drop :: rest, g :: held⟩

/-- One step of a thread. -/
def step (p : Program F Q G M) (t : Thread F Q G) (m : M) : Thread F Q G :=
  match t.todo with
  | [] => t
  | .drop :: rest => ⟨rest, t.held.tail⟩
  | .run c :: rest => p.exec rest t.held m c

end Program

/-- What a step does besides resolving a branch. -/
inductive Move (F Q G : Type*)
  | take (g : G)
  | call (f : F)
  | ask (q : Q)
  deriving DecidableEq

/-- What code does first. -/
def Code.first : Code F Q G → Option (Move F Q G)
  | .call f => some (.call f)
  | .ask q => some (.ask q)
  | .hold g _ => some (.take g)
  | _ => none

/-- What the next step of a thread does. -/
def Thread.next (t : Thread F Q G) : Option (Move F Q G) :=
  match t.todo with
  | .run c :: _ => c.first
  | _ => none

/-! ### Rules -/

variable {R : List G → Move F Q G → Bool}

/-- The next step of a thread is allowed, given the guards it holds. -/
def Thread.Obeys (R : List G → Move F Q G → Bool) (t : Thread F Q G) : Prop :=
  ∀ x, t.next = some x → R t.held x = true

theorem Thread.Obeys.mono {R' : List G → Move F Q G → Bool}
    (hR : ∀ held x, R held x = true → R' held x = true) {t : Thread F Q G} (h : t.Obeys R) :
    t.Obeys R' :=
  fun x hx => hR _ _ (h x hx)

/-- Every move of the code is allowed, given the guards held when it starts. -/
def Code.fits (R : List G → Move F Q G → Bool) : List G → Code F Q G → Bool
  | _, .skip => true
  | held, .seq a b => a.fits R held && b.fits R held
  | held, .alt a b => a.fits R held && b.fits R held
  | held, .loop a => a.fits R held
  | held, .call f => R held (.call f)
  | held, .ask q => R held (.ask q)
  | held, .hold g a => R held (.take g) && a.fits R (g :: held)

/-- What a rule allows, a weaker rule allows. -/
theorem Code.fits_mono {R' : List G → Move F Q G → Bool}
    (hR : ∀ held x, R held x = true → R' held x = true) {c : Code F Q G} :
    ∀ {held : List G}, c.fits R held = true → c.fits R' held = true := by
  induction c with
  | skip => exact fun _ => rfl
  | seq a b iha ihb =>
    intro held h
    simp only [fits, Bool.and_eq_true] at h ⊢
    exact ⟨iha h.1, ihb h.2⟩
  | alt a b iha ihb =>
    intro held h
    simp only [fits, Bool.and_eq_true] at h ⊢
    exact ⟨iha h.1, ihb h.2⟩
  | loop a ih => exact fun h => ih h
  | call f => exact fun h => hR _ _ h
  | ask q => exact fun h => hR _ _ h
  | hold g a ih =>
    intro held h
    simp only [fits, Bool.and_eq_true] at h ⊢
    exact ⟨hR _ _ h.1, ih h.2⟩

/-- All that is left to do fits, with the guards held when it is reached. -/
def Tidy (R : List G → Move F Q G → Bool) : List (Item F Q G) → List G → Prop
  | [], _ => True
  | .run c :: rest, held => c.fits R held = true ∧ Tidy R rest held
  | .drop :: rest, held => Tidy R rest held.tail

/-- A function called where the rule allows it has a body that fits there. -/
def Program.Sound (p : Program F Q G M) (R : List G → Move F Q G → Bool) : Prop :=
  ∀ held f, R held (.call f) = true → (p.body f).fits R held = true

/-- A question asked where the rule allows it is answered at the moment `m` by code that fits. -/
def Program.AnswerFits (p : Program F Q G M) (R : List G → Move F Q G → Bool)
    (t : Thread F Q G) (m : M) : Prop :=
  ∀ q, t.next = some (.ask q) → R t.held (.ask q) = true → (p.answer q m).fits R t.held = true

theorem Thread.obeys_of_tidy {t : Thread F Q G} (h : Tidy R t.todo t.held) : t.Obeys R := by
  intro x hx
  obtain ⟨todo, held⟩ := t
  cases todo with
  | nil => cases hx
  | cons i rest =>
    cases i with
    | drop => cases hx
    | run c =>
      have hc := h.1
      cases c <;> simp only [next, Code.first, Option.some.injEq, reduceCtorEq] at hx <;> subst hx
      · exact hc
      · exact hc
      · simp only [Code.fits, Bool.and_eq_true] at hc
        exact hc.1

namespace Program

variable {p : Program F Q G M}

/-- A step keeps what is left to do fitting. -/
theorem tidy_step (hp : p.Sound R) {t : Thread F Q G} {m : M} (h : Tidy R t.todo t.held)
    (hm : p.AnswerFits R t m) : Tidy R (p.step t m).todo (p.step t m).held := by
  obtain ⟨todo, held⟩ := t
  cases todo with
  | nil => exact h
  | cons i rest =>
    cases i with
    | drop => exact h
    | run c =>
      obtain ⟨hc, hrest⟩ := h
      cases c with
      | skip => exact hrest
      | seq a b =>
        simp only [Code.fits, Bool.and_eq_true] at hc
        exact ⟨hc.1, hc.2, hrest⟩
      | alt a b =>
        simp only [Code.fits, Bool.and_eq_true] at hc
        refine ⟨?_, hrest⟩
        split
        · exact hc.1
        · exact hc.2
      | loop a =>
        simp only [step, exec]
        split
        · exact ⟨hc, hc, hrest⟩
        · exact hrest
      | call f => exact ⟨hp held f hc, hrest⟩
      | ask q => exact ⟨hm q rfl hc, hrest⟩
      | hold g a =>
        simp only [Code.fits, Bool.and_eq_true] at hc
        exact ⟨hc.2, hrest⟩

/-- A sound program obeys its rule in every run in which the answers fit. -/
theorem always_obeys (hp : p.Sound R) {c : Code F Q G} (hc : c.fits R [] = true) {ms : List M}
    (h : Guarded p.step (p.AnswerFits R) (Thread.start c) ms) :
    Always p.step (Thread.Obeys R) (Thread.start c) ms := by
  have h0 : Tidy R (Thread.start c).todo (Thread.start c).held := ⟨hc, trivial⟩
  have hstep (t : Thread F Q G) (m : M) (ht : Tidy R t.todo t.held) (hm : p.AnswerFits R t m) :
      Tidy R (p.step t m).todo (p.step t m).held := tidy_step hp ht hm
  exact (h.always hstep h0).mono fun t ht => t.obeys_of_tidy ht

end Program

end Guarding
