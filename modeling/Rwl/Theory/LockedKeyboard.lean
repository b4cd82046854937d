import Mathlib.Tactic.Common
import Rwl.Theory.Sessions

/-!
# The keyboard of a locked session

* `UserView`: what the user's actions change;
* `Inert`: a state that is still locked, with the view of an earlier one;
* `Disarmed`: the event fires no key repeat and ends no mod-tap gesture;
* `keyboard_inert`: from any locked state, keyboard events that meet `Disarmed` leave it inert.

The key filter of a locked session lets no binding through. The key repeat and the mod-tap
gesture do not go through the filter: `lock` stops the first, an external lock neither.
-/

namespace Compositor

namespace Rwl

open Transition

/-! ### What the user's actions change -/

/-- The parts of the state that actions are there to change, and what was started, closed or
reported. -/
structure UserView where
  desk : Desk
  grab : Grab
  pip : Option PipState
  passthrough : Bool
  hooks : Hooks
  config_file : Config
  running : Bool
  effects : List Effect

/-- The view of a state; the answers to devices are no part of it. -/
def userView (s : Rwl) : UserView where
  desk := s.desk
  grab := s.grab
  pip := s.pip
  passthrough := s.keys.passthrough
  hooks := s.hooks
  config_file := s.config_file
  running := s.running
  effects := s.out.filter fun e => !e.isAnswer

/-- A key event, or a tick of the key-repeat timer. -/
def Event.isKeyInput : Event → Bool
  | .key .. | .repeat_tick => true
  | _ => false

/-- The session is still locked, and no action ran since `s`: the overview is as it was or
closed without a selection. -/
structure Inert (s t : Rwl) : Prop where
  locked : t.session.locked = true
  view : t.userView = s.userView
  overview : t.overview = s.overview ∨ t.overview = none

/-- The release of `code` takes the mod key away. -/
def releasesMod (s : Rwl) (code : ℕ) : Prop :=
  mods_to_bits s.seat.modifier_state &&& MODKEY ≠ 0 ∧
    mods_to_bits (s.keyInput code false).1.seat.modifier_state &&& MODKEY = 0

/-- The event finds no key repeat armed, and ends no mod-tap gesture that is bound. -/
def Disarmed (s : Rwl) : Event → Prop
  | .repeat_tick => s.keys.key_repeat_timer = true → s.keys.key_repeat_action.isNone = true
  | .key code false => s.releasesMod code → s.modTapAction.isNone = true
  | _ => True

instance (s : Rwl) (code : ℕ) : Decidable (s.releasesMod code) :=
  inferInstanceAs (Decidable (_ ∧ _))

instance (s : Rwl) (e : Event) : Decidable (s.Disarmed e) := by
  unfold Disarmed
  split <;> infer_instance

/-! ### The key filter of a locked session -/

/-- On a locked session the filter forwards a key or takes it for nothing. -/
theorem filterAction_locked {s : Rwl} (hl : s.session.locked = true) (code : ℕ) (pressed : Bool) :
    s.filterAction code pressed = none ∨ s.filterAction code pressed = some .LockConsume ∨
      s.filterAction code pressed = some .Consumed := by
  unfold filterAction
  split_ifs
  · exact .inr (.inl rfl)
  · exact .inl rfl
  · exact .inr (.inr rfl)
  · exact .inl rfl
  · exact .inl rfl

theorem notifyChanges_self (s : Rwl) : s.notifyChanges s = s := by
  unfold notifyChanges
  split
  · rename_i m m' hm hm'
    obtain rfl := Option.some.inj (hm.symm.trans hm')
    simp
  · rfl

/-- Taking a key for nothing closes the overview at most. -/
theorem dispatch_consumed {s : Rwl} {a : Action} (ha : a = .LockConsume ∨ a = .Consumed) :
    s.dispatch a = s ∨ s.dispatch a = overview.force_close s := by
  have hact (t : Rwl) : t.act drain a = t := by
    rcases ha with rfl | rfl <;> exact notifyChanges_self t
  unfold dispatch dispatchWith
  split_ifs with ho hk
  · exact .inl (hact s)
  · subst hk
    rcases ha with h | h <;> cases h
  · exact .inr (hact _)

namespace Inert

variable {s t u : Rwl}

theorem refl (hl : s.session.locked = true) : Inert s s := ⟨hl, rfl, .inl rfl⟩

theorem trans (h : Inert s t) (h' : Inert t u) : Inert s u := by
  refine ⟨h'.locked, h'.view.trans h.view, ?_⟩
  rcases h'.overview with ho | ho
  · rw [ho]
    exact h.overview
  · exact .inr ho

/-- The lock state changes under the lock. -/
theorem modifySession (h : Inert s t) {f : Session → Session}
    (hf : (f t.session).locked = t.session.locked) : Inert s (t.modifySession f) :=
  ⟨hf.trans h.locked, h.view, h.overview⟩

/-- The seat is no part of the view. -/
theorem modifySeat (h : Inert s t) (f : Seat → Seat) : Inert s (t.modifySeat f) :=
  ⟨h.locked, h.view, h.overview⟩

/-- Answers are no part of the view. -/
theorem emit (h : Inert s t) {x : Effect} (hx : x.isAnswer = true) : Inert s (t.emit x) := by
  refine ⟨h.locked, ?_, h.overview⟩
  have hview : (t.emit x).userView = t.userView := by
    unfold userView Rwl.emit
    dsimp only
    rw [List.filter_cons_of_neg (by rw [hx]; decide)]
  rw [hview]
  exact h.view

/-- What the keyboard keeps, but for passthrough, is no part of the view. -/
theorem keys (h : Inert s t) {k : Keys} (hk : k.passthrough = t.keys.passthrough) :
    Inert s { t with keys := k } := by
  refine ⟨h.locked, ?_, h.overview⟩
  have hview : ({ t with keys := k } : Rwl).userView = t.userView := by
    unfold userView
    dsimp only
    rw [hk]
  rw [hview]
  exact h.view

theorem key_forward (h : Inert s t) (code : ℕ) (pressed : Bool) :
    Inert s (t.key_forward code pressed) :=
  (h.modifySeat _).emit rfl

theorem filterState (h : Inert s t) (code : ℕ) (pressed : Bool) :
    Inert s (t.filterState code pressed) := by
  unfold Rwl.filterState feed_key
  split_ifs
  · split
    · rename_i l _
      exact h.modifySession (feed_same t.session l _ _).1
    · exact h
  · exact h
  · exact h
  · exact h.keys rfl
  · exact h

theorem keyInput (h : Inert s t) (code : ℕ) (pressed : Bool) :
    Inert s (t.keyInput code pressed).1 := by
  have hfilter := (h.modifySeat (Seat.key_input · code pressed)).filterState code pressed
  unfold Rwl.keyInput
  split_ifs
  · dsimp only
    split
    · exact hfilter.emit rfl
    · exact hfilter.key_forward code pressed
  · exact h

theorem runAction (h : Inert s t) {a : Action} (ha : a = .LockConsume ∨ a = .Consumed) :
    Inert s (t.runAction a) := by
  have hclose : Inert s (overview.force_close t) := ⟨h.locked, h.view, .inr rfl⟩
  have hdispatch : Inert s (t.dispatch a) := by
    rcases dispatch_consumed (s := t) ha with hd | hd <;> rw [hd]
    · exact h
    · exact hclose
  have hrepeat : action_should_repeat a = false := by rcases ha with rfl | rfl <;> rfl
  unfold Rwl.runAction
  rw [if_neg (by rw [hrepeat]; decide)]
  exact hdispatch.keys rfl

theorem afterFilter (h : Inert s t) (code : ℕ) (pressed : Bool) {act : Option Action}
    (hact : act = none ∨ act = some .LockConsume ∨ act = some .Consumed) :
    Inert s (t.afterFilter code pressed act) := by
  have hkeys : Inert s (if pressed then (if act.isSome then t.rememberKey code else t)
      else t.cancelRepeat) := by
    split_ifs
    · exact h.keys rfl
    · exact h
    · exact h.keys rfl
  unfold Rwl.afterFilter
  rcases hact with rfl | rfl | rfl
  · exact hkeys
  · exact hkeys.runAction (.inl rfl)
  · exact hkeys.runAction (.inr rfl)

end Inert

/-- The filter takes a key for nothing on a locked session. -/
theorem keyInput_action {s : Rwl} (hl : s.session.locked = true) (code : ℕ) (pressed : Bool) :
    (s.keyInput code pressed).2 = none ∨ (s.keyInput code pressed).2 = some .LockConsume ∨
      (s.keyInput code pressed).2 = some .Consumed := by
  have hlocked : (s.modifySeat (Seat.key_input · code pressed)).session.locked = true := hl
  have hfilter := filterAction_locked hlocked code pressed
  unfold keyInput
  split_ifs
  · dsimp only
    split
    · rename_i a ha
      rw [ha] at hfilter
      exact hfilter
    · exact .inl rfl
  · exact .inl rfl

/-- What a mod-tap gesture reads. -/
def tapPart (s : Rwl) : Seat × Option (ℕ × ℕ) × Desk := (s.seat, s.keys.mod_tap, s.desk)

theorem tapPart_runAction {s : Rwl} {a : Action} (ha : a = .LockConsume ∨ a = .Consumed) :
    (s.runAction a).tapPart = s.tapPart := by
  have hrepeat : action_should_repeat a = false := by rcases ha with rfl | rfl <;> rfl
  unfold runAction
  rw [if_neg (by rw [hrepeat]; decide)]
  rcases dispatch_consumed (s := s) ha with hd | hd <;> rw [hd] <;> rfl

theorem tapPart_afterFilter (s : Rwl) (code : ℕ) (pressed : Bool) {act : Option Action}
    (hact : act = none ∨ act = some .LockConsume ∨ act = some .Consumed) :
    (s.afterFilter code pressed act).tapPart = s.tapPart := by
  have hkeys : (if pressed then (if act.isSome then s.rememberKey code else s)
      else s.cancelRepeat).tapPart = s.tapPart := by
    split_ifs <;> rfl
  unfold afterFilter
  rcases hact with rfl | rfl | rfl
  · exact hkeys
  · exact (tapPart_runAction (.inl rfl)).trans hkeys
  · exact (tapPart_runAction (.inr rfl)).trans hkeys

theorem mod_tap_keyInput (s : Rwl) (code : ℕ) (pressed : Bool) :
    ((s.keyInput code pressed).1.keys.mod_tap, (s.keyInput code pressed).1.desk) =
      (s.keys.mod_tap, s.desk) := by
  unfold keyInput
  split_ifs
  · dsimp only
    have hfilter : (((s.modifySeat (Seat.key_input · code pressed)).filterState code
        pressed).keys.mod_tap, ((s.modifySeat (Seat.key_input · code pressed)).filterState code
        pressed).desk) = (s.keys.mod_tap, s.desk) := by
      unfold filterState feed_key
      split_ifs
      · split <;> rfl
      · rfl
      · rfl
      · rfl
      · rfl
    split
    · exact hfilter
    · exact hfilter
  · rfl

/-- **A keyboard event of a locked session that meets the guard is inert.** -/
theorem step_inert {s t : Rwl} {e : Event} (h : Inert s t) (he : e.isKeyInput = true)
    (hd : t.Disarmed e) : Inert s (step t e) := by
  cases e with
  | repeat_tick =>
    change Inert s t.key_repeat_tick
    unfold key_repeat_tick
    split_ifs with htimer
    · have hnone := Option.isNone_iff_eq_none.1 (hd htimer)
      rw [hnone]
      exact h
    · exact h
  | key code pressed =>
    change Inert s (t.process_key_event code pressed)
    have hact := keyInput_action h.locked code pressed
    have hfiltered := (h.keyInput code pressed).afterFilter code pressed hact
    have htap := tapPart_afterFilter (t.keyInput code pressed).1 code pressed hact
    unfold process_key_event
    dsimp only
    generalize (t.keyInput code pressed).1.afterFilter code pressed _ = t₁ at hfiltered htap ⊢
    obtain ⟨hseat, hrest⟩ := Prod.mk.inj htap
    have hmod : (t₁.keys.mod_tap, t₁.desk) = (t.keys.mod_tap, t.desk) :=
      hrest.trans (mod_tap_keyInput t code pressed)
    unfold update_mod_tap
    cases pressed with
    | true =>
      rw [if_pos rfl]
      exact hfiltered.keys rfl
    | false =>
      rw [if_neg Bool.false_ne_true]
      split_ifs with hrelease
      · have hnone : t₁.modTapAction = none := by
          have hnone : t.modTapAction.isNone = true := hd (by rw [hseat] at hrelease; exact hrelease)
          rw [← Option.isNone_iff_eq_none]
          unfold modTapAction at hnone ⊢
          rw [(Prod.mk.inj hmod).1, (Prod.mk.inj hmod).2]
          exact hnone
        rw [hnone]
        exact hfiltered.keys rfl
      · exact hfiltered
  | _ => cases he

/-- **The keyboard of a locked session is inert all along a run that fires no key repeat and ends
no bound mod-tap gesture.** `es` is the run up to the lock, `keys` what the keyboard does then. -/
theorem keyboard_inert (env : Setup) (es keys : List Event)
    (hl : (run step (init env) es).session.locked = true) (hkeys : ∀ e ∈ keys, e.isKeyInput = true)
    (hg : Guarded step Disarmed (run step (init env) es) keys) :
    Always step (Inert (run step (init env) es)) (run step (init env) es) keys := by
  have hrun (s : Rwl) (keys : List Event) (hkeys : ∀ e ∈ keys, e.isKeyInput = true) {t : Rwl}
      (ht : Inert s t) (hg : Guarded step Disarmed t keys) : Always step (Inert s) t keys := by
    induction keys generalizing t with
    | nil => exact ht
    | cons e keys ih =>
      have hstep := step_inert ht (hkeys e List.mem_cons_self) hg.1
      exact ⟨ht, ih (fun e he => hkeys e (List.mem_cons_of_mem _ he)) hstep hg.2⟩
  exact hrun _ keys hkeys (.refl hl) hg

/-- A bound key under an external lock: the press reaches no binding. -/
theorem keyboard_inert_plain :
    Always step (Inert (run step (init (plainSetup [⟨0, 5, .Spawn ["foot"], none⟩] []))
        [.output_added 0 (plainOutput "a"), .ext_lock 0 1]))
      (run step (init (plainSetup [⟨0, 5, .Spawn ["foot"], none⟩] []))
        [.output_added 0 (plainOutput "a"), .ext_lock 0 1])
      [.key 5 true, .repeat_tick, .key 5 false] :=
  keyboard_inert _ _ _ (by decide +kernel) (by decide) (by decide +kernel)

/-- A client locks while a key is held; the key repeat goes on spawning. -/
theorem not_keyboard_inert : ¬∀ (env : Setup) (es keys : List Event),
    (run step (init env) es).session.locked = true → (∀ e ∈ keys, e.isKeyInput = true) →
    Always step (fun s => s.session.locked = true) (run step (init env) es) keys →
      Always step (Inert (run step (init env) es)) (run step (init env) es) keys := by
  intro h
  let env := plainSetup [⟨0, 5, .Spawn ["foot"], none⟩] []
  let es : List Event := [.key 5 true, .ext_lock 0 1]
  have hlocked : (run step (init env) es).session.locked = true ∧
      (step (run step (init env) es) .repeat_tick).session.locked = true := by decide +kernel
  have hinert := h env es [.repeat_tick] hlocked.1 (by decide) ⟨hlocked.1, hlocked.2⟩
  have hview := congrArg (fun v => v.effects.length) hinert.2.view
  have hspawned : (step (run step (init env) es) .repeat_tick).userView.effects.length ≠
      (run step (init env) es).userView.effects.length := by decide +kernel
  exact hspawned hview

end Rwl

end Compositor
