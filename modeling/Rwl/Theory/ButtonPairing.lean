import Mathlib.Tactic.Common
import Rwl.Lib.Pairing
import Rwl.Theory.Footprint

/-!
# Pairing of button events

The keyboard remembers which keys it intercepted. The pointer does not: who gets a button event
is decided for each event on its own.

* `buttonMarks`, `ButtonsPaired`: the log of button events, and that every release was delivered
  exactly when the latest press was;
* `Clicked`, `clickedStep`: the state beside what became of the latest press of each button;
* `SameTaker`: a release goes where its press went;
* `button_pairing`: the events of a run are paired exactly when they all meet `SameTaker`.
-/

namespace Compositor

namespace Rwl

open Transition Pairing

/-! ### The log -/

/-- What an effect says of a button event. -/
def buttonMark : Effect → Option (Mark ℕ)
  | .button btn pressed _ => some ⟨btn, pressed, true⟩
  | .buttonConsumed btn pressed => some ⟨btn, pressed, false⟩
  | _ => none

/-- The button events so far, the newest first. -/
def buttonMarks (s : Rwl) : List (Mark ℕ) := s.out.filterMap buttonMark

/-- Every release so far was delivered exactly when the latest press of its button before it
was. -/
structure ButtonsPaired (s : Rwl) : Prop where
  release : ∀ newer older btn seen, s.buttonMarks = newer ++ ⟨btn, false, seen⟩ :: older →
    seen = lastSeen btn older

theorem buttonsPaired_iff {s : Rwl} : ButtonsPaired s ↔ Paired s.buttonMarks :=
  ⟨fun h => paired_iff.2 h.release, fun h => ⟨paired_iff.1 h⟩⟩

/-! ### One event -/

theorem buttonMark_of_not_answer {x : Effect} (hx : x.isAnswer = false) : buttonMark x = none := by
  cases x <;> first | rfl | cases hx

/-- The event is a button event. -/
def Event.isButton : Event → Bool
  | .button .. => true
  | _ => false

/-- An event that is no button event leaves the log alone. -/
theorem ignores_buttonMarks {e : Event} (he : e.isButton = false) : Ignores e
    fun c => c.out.filterMap buttonMark := by
  refine ⟨fun _ _ => rfl, fun _ _ => rfl, fun _ _ _ => rfl, fun _ _ _ => rfl, fun _ _ _ => rfl,
    fun c x hx => ?_⟩
  have hnone : buttonMark x = none := by
    rcases hx with hx | hx
    · exact buttonMark_of_not_answer hx
    · cases x with
      | button | buttonConsumed =>
        cases e <;>
          first | exact absurd hx Bool.false_ne_true | exact absurd he.symm Bool.false_ne_true
      | _ => rfl
  rw [List.filterMap_cons_none hnone]

/-- A button event is logged as what becomes of it. -/
theorem buttonMarks_button (s : Rwl) (btn : ℕ) (pressed : Bool) (serial : ℕ) :
    (step s (.button btn pressed serial)).buttonMarks =
      ⟨btn, pressed, !decide (s.Consumes btn pressed)⟩ :: s.buttonMarks := by
  obtain ⟨s', hacts, hstep⟩ := acts_button s btn pressed serial
  have hout : s'.out.filterMap buttonMark = s.out.filterMap buttonMark :=
    hacts.filterMap_out buttonMark fun _ => buttonMark_of_not_answer
  simp only [step, hstep]
  split_ifs with hc
  · rw [decide_eq_true hc]
    exact congrArg _ hout
  · rw [decide_eq_false hc]
    exact congrArg _ hout

/-! ### What became of the press -/

/-- A state, and whether the latest press of each button was delivered. -/
structure Clicked where
  state : Rwl
  delivered : ℕ → Bool

/-- One event. -/
def clickedStep (s : Clicked) (e : Event) : Clicked where
  state := step s.state e
  delivered := match e with
    | .button btn true _ =>
        Function.update s.delivered btn (!decide (s.state.Consumes btn true))
    | _ => s.delivered

/-- The start: nothing was pressed. -/
def clickedInit (env : Setup) : Clicked := ⟨init env, fun _ => false⟩

/-- A release goes where its press went: it arrives on an open overview of an unlocked session
exactly when the press was not delivered. -/
def SameTaker (s : Clicked) : Event → Prop
  | .button btn false _ => s.state.Consumes btn false ↔ s.delivered btn = false
  | _ => True

instance (s : Clicked) (e : Event) : Decidable (SameTaker s e) := by
  unfold SameTaker
  split <;> infer_instance

/-- The table follows the log. -/
def Clicked.Follows (s : Clicked) : Prop := ∀ btn, s.delivered btn = lastSeen btn s.state.buttonMarks

theorem buttonMarks_other (s : Rwl) {e : Event} (he : e.isButton = false) :
    (step s e).buttonMarks = s.buttonMarks :=
  (ignores_buttonMarks he).step s

/-- **The table follows the log through every event.** -/
theorem clickedStep_follows {s : Clicked} {e : Event} (hs : s.Follows) :
    (clickedStep s e).Follows := by
  intro b
  cases e with
  | button btn pressed serial =>
    have hmarks : (clickedStep s (.button btn pressed serial)).state.buttonMarks = _ :=
      buttonMarks_button s.state btn pressed serial
    rw [hmarks]
    cases pressed with
    | true =>
      change Function.update s.delivered btn _ b = _
      by_cases hb : b = btn
      · rw [hb, Function.update_self, lastSeen_down_self]
      · rw [Function.update_of_ne hb, lastSeen_of_ne (Ne.symm hb), hs b]
    | false => rw [lastSeen_up, ← hs b]; rfl
  | _ => exact (hs b).trans (congrArg (lastSeen b) (buttonMarks_other s.state rfl)).symm

/-- **An event keeps the log paired exactly when it meets the guard.** -/
theorem paired_step_iff {s : Clicked} {e : Event} (hs : s.Follows)
    (hp : ButtonsPaired s.state) : ButtonsPaired (clickedStep s e).state ↔ SameTaker s e := by
  rw [buttonsPaired_iff] at hp ⊢
  cases e with
  | button btn pressed serial =>
    have hmarks : (clickedStep s (.button btn pressed serial)).state.buttonMarks = _ :=
      buttonMarks_button s.state btn pressed serial
    rw [hmarks]
    cases pressed with
    | true => exact iff_of_true ((paired_down ..).2 hp) trivial
    | false =>
      rw [paired_up, and_iff_left hp, ← hs btn]
      change _ ↔ (s.state.Consumes btn false ↔ s.delivered btn = false)
      by_cases hc : s.state.Consumes btn false <;> cases s.delivered btn <;> simp [hc]
  | _ =>
    refine iff_of_true ?_ trivial
    rwa [show (clickedStep s _).state.buttonMarks = s.state.buttonMarks from
      buttonMarks_other s.state rfl]

/-! ### Runs -/

/-- **The button events of a run are paired exactly when every release goes where its press
went.** -/
theorem button_pairing (env : Setup) (es : List Event) :
    Always step ButtonsPaired (init env) es ↔ Guarded clickedStep SameTaker (clickedInit env) es := by
  have hstate (s : Clicked) (e : Event) : (clickedStep s e).state = step s.state e := rfl
  have hstart : ButtonsPaired (clickedInit env).state := buttonsPaired_iff.2 trivial
  have hrun : Always clickedStep (fun s => ButtonsPaired s.state) (clickedInit env) es ↔
      Guarded clickedStep SameTaker (clickedInit env) es :=
    always_iff_guarded (I := Clicked.Follows) (fun _ _ h _ => clickedStep_follows h)
      (fun _ _ => paired_step_iff) (fun _ => rfl) hstart
  exact (always_map (Q := ButtonsPaired) hstate).symm.trans hrun

/-- A bound press, and its release to the client. -/
theorem not_button_pairing : ¬∀ env es, Always step ButtonsPaired (init env) es := by
  intro h
  have hend := (h (plainSetup [] [⟨0, 1, .Quit, none⟩]) [.button 1 true 1, .button 1 false 2]).last
  have hmarks : (run step (init (plainSetup [] [⟨0, 1, .Quit, none⟩]))
      [.button 1 true 1, .button 1 false 2]).buttonMarks =
    [⟨1, false, true⟩, ⟨1, true, false⟩] := by decide +kernel
  have hrelease := hend.release [] _ 1 true hmarks
  exact absurd hrelease (by decide)

end Rwl

end Compositor
