import Mathlib.Tactic.Common
import Rwl.Theory.LayerKeyboard
import Rwl.Theory.MarginEvents

/-!
# The mod-tap gesture

Pressing and releasing the mod key alone, or with other modifiers added in between, runs the
binding of those modifiers.

* `Touch`: what an event is to the gesture; `touches`: what the events of a run are to it;
* `Gesture l start peak`: the touches `l` end in a live gesture, whose last press was at `start`
  and whose presses held the modifiers `peak`;
* `track`, `tap_run`: the candidate of the compositor follows the touches;
* `track_eq_some_iff`: it is the live gesture;
* `mod_tap_law`: what the release of the mod key runs.
-/

namespace Compositor

open Transition

/-! ### Touches -/

/-- What an event is to the gesture: a press or a release with the modifiers before and after it,
a press also with its time, a pointer button, or nothing. -/
inductive Touch
  | press (time before after : ℕ)
  | release (before after : ℕ)
  | button
  | other

namespace Touch

/-- A press turns the mod key on. -/
def arms : Touch → Bool
  | press _ before after => decide ((after ^^^ (after &&& before)) &&& MODKEY ≠ 0)
  | _ => false

/-- A press adds no modifier, a button is used, or the mod key goes off with a release. -/
def ends : Touch → Bool
  | press _ before after => decide (after ^^^ (after &&& before) = 0)
  | release before after => decide (before &&& MODKEY ≠ 0 ∧ after &&& MODKEY = 0)
  | button => true
  | other => false

/-- The time of a press and the modifiers held after it. -/
def pressed : Touch → Option (ℕ × ℕ)
  | press time _ after => some (time, after)
  | _ => none

end Touch

/-- The modifiers held at any press. -/
def peakOf (l : List Touch) : ℕ := (l.filterMap Touch.pressed).foldl (fun peak p => peak ||| p.2) 0

/-- The time of the last press. -/
def lastPress (l : List Touch) : Option ℕ := (l.filterMap Touch.pressed).getLast?.map Prod.fst

/-- **A live gesture**: a press turned the mod key on, and since then every press added a modifier
other than it, no button was used and the mod key did not go off. -/
def Gesture (l : List Touch) (start peak : ℕ) : Prop :=
  ∃ before arm since, l = before ++ arm :: since ∧ arm.arms = true ∧
    (∀ x ∈ since, x.arms = false ∧ x.ends = false) ∧
    lastPress (arm :: since) = some start ∧ peakOf (arm :: since) = peak

/-- The candidate after a touch. -/
def track (cand : Option (ℕ × ℕ)) : Touch → Option (ℕ × ℕ)
  | .press time before after => Rwl.armModTap time before after cand
  | .release before after => if before &&& MODKEY ≠ 0 ∧ after &&& MODKEY = 0 then none else cand
  | .button => none
  | .other => cand

/-! ### The candidate is the live gesture -/

theorem lastPress_press (l : List Touch) (time before after : ℕ) :
    lastPress (l ++ [.press time before after]) = some time := by
  simp [lastPress, Touch.pressed]

theorem peakOf_press (l : List Touch) (time before after : ℕ) :
    peakOf (l ++ [.press time before after]) = peakOf l ||| after := by
  simp [peakOf, Touch.pressed]

theorem lastPress_concat (l : List Touch) {x : Touch} (h : x.pressed = none) :
    lastPress (l ++ [x]) = lastPress l := by
  simp [lastPress, h]

theorem peakOf_concat (l : List Touch) {x : Touch} (h : x.pressed = none) :
    peakOf (l ++ [x]) = peakOf l := by
  simp [peakOf, h]

/-- The last touch of a gesture is the arming press, or comes after it. -/
theorem concat_eq_append_cons {l before since : List Touch} {x arm : Touch}
    (h : l ++ [x] = before ++ arm :: since) :
    (since = [] ∧ arm = x) ∨ ∃ rest, since = rest ++ [x] ∧ l = before ++ arm :: rest := by
  rcases List.eq_nil_or_concat since with rfl | ⟨rest, y, rfl⟩
  · obtain ⟨-, hx⟩ := List.append_inj' h rfl
    exact .inl ⟨rfl, (List.singleton_inj.1 hx).symm⟩
  · rw [List.concat_eq_append, ← List.cons_append, ← List.append_assoc] at h
    obtain ⟨hl, hx⟩ := List.append_inj' h rfl
    rw [List.concat_eq_append, List.singleton_inj.1 hx]
    exact .inr ⟨rest, rfl, hl⟩

variable {l : List Touch} {x : Touch} {start peak : ℕ}

/-- An arming press starts a gesture of its own. -/
theorem gesture_concat_of_arms (hx : x.arms = true) :
    Gesture (l ++ [x]) start peak ↔ lastPress [x] = some start ∧ peakOf [x] = peak := by
  constructor
  · rintro ⟨before, arm, since, hl, -, hsince, htime, hpeak⟩
    rcases concat_eq_append_cons hl with ⟨rfl, rfl⟩ | ⟨rest, rfl, -⟩
    · exact ⟨htime, hpeak⟩
    · have hlast := (hsince x (by simp)).1
      rw [hx] at hlast
      cases hlast
  · rintro ⟨htime, hpeak⟩
    exact ⟨l, x, [], rfl, hx, by simp, htime, hpeak⟩

/-- After a touch that ends gestures there is none. -/
theorem not_gesture_concat (hx : x.arms = false) (hends : x.ends = true) :
    ¬ Gesture (l ++ [x]) start peak := by
  rintro ⟨before, arm, since, hl, harm, hsince, -⟩
  rcases concat_eq_append_cons hl with ⟨-, rfl⟩ | ⟨rest, rfl, -⟩
  · rw [hx] at harm
    cases harm
  · have hlast := (hsince x (by simp)).2
    rw [hends] at hlast
    cases hlast

/-- Any other touch carries a gesture on. -/
theorem gesture_concat (hx : x.arms = false) (hends : x.ends = false) :
    Gesture (l ++ [x]) start peak ↔ ∃ before arm since, l = before ++ arm :: since ∧
      arm.arms = true ∧ (∀ y ∈ since, y.arms = false ∧ y.ends = false) ∧
        lastPress (arm :: since ++ [x]) = some start ∧ peakOf (arm :: since ++ [x]) = peak := by
  constructor
  · rintro ⟨before, arm, since, hl, harm, hsince, htime, hpeak⟩
    rcases concat_eq_append_cons hl with ⟨-, rfl⟩ | ⟨rest, rfl, hrest⟩
    · rw [hx] at harm
      cases harm
    · exact ⟨before, arm, rest, hrest, harm, fun y hy => hsince y (by simp [hy]), htime, hpeak⟩
  · rintro ⟨before, arm, since, rfl, harm, hsince, htime, hpeak⟩
    refine ⟨before, arm, since ++ [x], by simp, harm, fun y hy => ?_, htime, hpeak⟩
    rcases List.mem_append.1 hy with hy | hy
    · exact hsince y hy
    · rw [List.mem_singleton.1 hy]
      exact ⟨hx, hends⟩

/-- There is a last press after an arming press. -/
theorem exists_lastPress {arm : Touch} (harm : arm.arms = true) (since : List Touch) :
    ∃ time, lastPress (arm :: since) = some time := by
  cases arm with
  | press time before after =>
    cases h : (since.filterMap Touch.pressed).getLast? with
    | none => exact ⟨time, by simp [lastPress, Touch.pressed, List.getLast?_cons, h]⟩
    | some p => exact ⟨p.1, by simp [lastPress, Touch.pressed, List.getLast?_cons, h]⟩
  | release | button | other => cases harm

/-- A touch that ends gestures drops the candidate. -/
theorem track_of_ends (hends : x.ends = true) (cand : Option (ℕ × ℕ)) :
    track cand x = none ∧ x.arms = false := by
  cases x with
  | press time before after =>
    have hnew : after ^^^ (after &&& before) = 0 := of_decide_eq_true hends
    refine ⟨if_pos hnew, ?_⟩
    simp [Touch.arms, hnew]
  | release before after => exact ⟨if_pos (of_decide_eq_true hends), rfl⟩
  | button => exact ⟨rfl, rfl⟩
  | other => cases hends

/-- An arming press replaces the candidate. -/
theorem track_of_arms (harms : x.arms = true) (cand : Option (ℕ × ℕ)) :
    ∃ time after, track cand x = some (time, after) ∧ lastPress [x] = some time ∧
      peakOf [x] = after := by
  cases x with
  | press time before after =>
    have hmod : (after ^^^ (after &&& before)) &&& MODKEY ≠ 0 := of_decide_eq_true harms
    have hnew : after ^^^ (after &&& before) ≠ 0 := by
      intro h
      rw [h] at hmod
      exact hmod (Nat.zero_and _)
    refine ⟨time, after, ?_, rfl, by simp [peakOf, Touch.pressed]⟩
    change Rwl.armModTap time before after cand = _
    unfold Rwl.armModTap
    dsimp only
    rw [if_neg hnew, if_pos hmod]
  | release | button | other => cases harms

/-- A press that adds another modifier adds to the candidate. -/
theorem track_press {time before after : ℕ} (harms : (Touch.press time before after).arms = false)
    (hends : (Touch.press time before after).ends = false) (cand : Option (ℕ × ℕ)) :
    track cand (.press time before after) = cand.map fun c => (time, c.2 ||| after) := by
  change Rwl.armModTap time before after cand = _
  unfold Rwl.armModTap
  dsimp only
  rw [if_neg (of_decide_eq_false hends), if_neg (of_decide_eq_false harms)]

/-- A touch that is no press and ends nothing leaves the candidate as it is. -/
theorem track_idle (hends : x.ends = false) (hx : x.pressed = none) (cand : Option (ℕ × ℕ)) :
    track cand x = cand := by
  cases x with
  | press => cases hx
  | release before after => exact if_neg (of_decide_eq_false hends)
  | button => cases hends
  | other => rfl

/-- **The candidate is the live gesture.** -/
theorem track_eq_some_iff (l : List Touch) (start peak : ℕ) :
    l.foldl track none = some (start, peak) ↔ Gesture l start peak := by
  -- by induction on the last touch, which ends, arms or carries on
  induction l using List.reverseRecOn generalizing start peak with
  | nil =>
    constructor
    · intro h
      cases h
    · rintro ⟨before, arm, since, h, -⟩
      exact absurd h (by simp)
  | append_singleton l x ih =>
    rw [List.foldl_append, List.foldl_cons, List.foldl_nil]
    cases hends : x.ends with
    | true =>
      obtain ⟨hnone, harms⟩ := track_of_ends hends (l.foldl track none)
      rw [hnone]
      exact iff_of_false (by simp) (not_gesture_concat harms hends)
    | false =>
      cases harms : x.arms with
      | true =>
        obtain ⟨time, after, htrack, htime, hpeak⟩ := track_of_arms harms (l.foldl track none)
        rw [gesture_concat_of_arms harms, htrack, htime, hpeak]
        simp
      | false =>
        cases hpressed : x.pressed with
        | none =>
          rw [track_idle hends hpressed, ih, gesture_concat harms hends]
          simp only [lastPress_concat _ hpressed, peakOf_concat _ hpressed]
          rfl
        | some p =>
          cases x with
          | press time before after =>
            rw [track_press harms hends, gesture_concat harms hends, Option.map_eq_some_iff]
            simp only [lastPress_press, peakOf_press]
            constructor
            · rintro ⟨⟨start', peak'⟩, hcand, heq⟩
              obtain ⟨pre, arm, since, hl, harm, hsince, -, hpeak⟩ := (ih start' peak').1 hcand
              obtain ⟨htime, hunion⟩ := Prod.mk.inj heq
              exact ⟨pre, arm, since, hl, harm, hsince, congrArg some htime, by rw [hpeak, hunion]⟩
            · rintro ⟨pre, arm, since, hl, harm, hsince, htime, hunion⟩
              obtain ⟨start', hstart⟩ := exists_lastPress harm since
              refine ⟨(start', peakOf (arm :: since)), ?_, ?_⟩
              · exact (ih _ _).2 ⟨pre, arm, since, hl, harm, hsince, hstart, rfl⟩
              · rw [Option.some.inj htime, hunion]
          | release | button | other => cases hpressed

namespace Rwl

/-! ### The touches of a run -/

/-- What a key event does before the gesture is updated. -/
def beforeTap (s : Rwl) (code : ℕ) (pressed : Bool) : Rwl :=
  (s.keyInput code pressed).1.afterFilter code pressed (s.keyInput code pressed).2

/-- What an event is to the gesture. -/
def touch (s : Rwl) : Event → Touch
  | .key code true => .press (s.beforeTap code true).desk.now (mods_to_bits s.seat.modifier_state)
      (mods_to_bits (s.beforeTap code true).seat.modifier_state)
  | .key code false => .release (mods_to_bits s.seat.modifier_state)
      (mods_to_bits (s.beforeTap code false).seat.modifier_state)
  | .button .. => .button
  | _ => .other

/-- What the events of a run are to the gesture. -/
def touches : Rwl → List Event → List Touch
  | _, [] => []
  | s, e :: es => s.touch e :: touches (step s e) es

/-- The mod key goes off with the release of `code`. -/
def releasesModKey (s : Rwl) (code : ℕ) : Prop :=
  mods_to_bits s.seat.modifier_state &&& MODKEY ≠ 0 ∧
    mods_to_bits (s.beforeTap code false).seat.modifier_state &&& MODKEY = 0

/-- A pointer button is used on an unlocked session. -/
def UnlockedButton (s : Rwl) : Event → Prop
  | .button .. => s.session.locked = false
  | _ => True

instance (s : Rwl) (e : Event) : Decidable (s.UnlockedButton e) := by
  unfold UnlockedButton
  split <;> infer_instance

theorem tap_beforeTap (s : Rwl) (code : ℕ) (pressed : Bool) : (s.beforeTap code pressed).tap = s.tap :=
  ((spares_afterFilter _ _ _ _).afterSame (margin_keyInput s code pressed)).tap

/-- What a release runs. -/
theorem release_eq (s : Rwl) (code : ℕ) : step s (.key code false) =
    (s.beforeTap code false).update_mod_tap false (mods_to_bits s.seat.modifier_state)
      (mods_to_bits (s.beforeTap code false).seat.modifier_state) := rfl

theorem tap_key (s : Rwl) (code : ℕ) (pressed : Bool) :
    (step s (.key code pressed)).tap = track s.tap (s.touch (.key code pressed)) := by
  cases pressed with
  | true =>
    rw [← tap_beforeTap s code true]
    rfl
  | false =>
    have hgone (t : Rwl) (a : Action) : ((t.setModTap none).dispatch a).tap = none :=
      (spares_dispatch _ a).tap.trans rfl
    rw [release_eq, ← tap_beforeTap s code false]
    change _ = if _ then _ else _
    unfold update_mod_tap
    rw [if_neg Bool.false_ne_true]
    split_ifs
    · split
      · exact hgone _ _
      · rfl
    · rfl

/-- **A button drops the candidate.** -/
theorem tap_button {s : Rwl} (hs : s.session.locked = false) (btn : ℕ) (pressed : Bool)
    (serial : ℕ) : (step s (.button btn pressed serial)).tap = none := by
  have hnone : (s.setModTap none).tap = none := rfl
  have hpress (under : Option WinId) : ((s.setModTap none).pressFocus under).tap = none :=
    (Spares.same (margin_pressFocus _ under)).tap.trans hnone
  change (s.process_pointer_button btn pressed serial).tap = none
  unfold process_pointer_button
  rw [if_neg (by rw [hs]; exact Bool.false_ne_true)]
  dsimp only
  split_ifs
  · exact (spares_handle_pointer_click _ _).tap.trans hnone
  · rfl
  · split
    · exact (spares_runButton _ _ _).tap.trans (hpress _)
    · exact hpress _
  · exact (Spares.same (margin_releaseGrab _)).tap.trans hnone

/-- The candidate follows the touches. -/
theorem tap_step_eq {s : Rwl} {e : Event} (hg : s.UnlockedButton e) :
    (step s e).tap = track s.tap (s.touch e) := by
  by_cases hkey : ∃ code pressed, e = .key code pressed
  · obtain ⟨code, pressed, rfl⟩ := hkey
    exact tap_key s code pressed
  · by_cases hbutton : ∃ btn pressed serial, e = .button btn pressed serial
    · obtain ⟨btn, pressed, serial, rfl⟩ := hbutton
      exact tap_button hg btn pressed serial
    · have hother : s.touch e = .other := by
        cases e with
        | key code pressed => exact absurd ⟨code, pressed, rfl⟩ hkey
        | button btn pressed serial => exact absurd ⟨btn, pressed, serial, rfl⟩ hbutton
        | _ => rfl
      rw [hother]
      exact (spares_step s e (fun code pressed h => hkey ⟨code, pressed, h⟩)
        fun btn pressed serial h => hbutton ⟨btn, pressed, serial, h⟩).tap

theorem tap_run {s : Rwl} {es : List Event} (hg : Guarded step UnlockedButton s es) :
    (run step s es).tap = (touches s es).foldl track s.tap := by
  induction es generalizing s with
  | nil => rfl
  | cons e es ih =>
    rw [run_cons, ih hg.2, tap_step_eq hg.1]
    rfl

/-- Without a candidate, none appears before an arming press. -/
theorem foldl_track_none {l : List Touch} (h : ∀ x ∈ l, x.arms = false) :
    l.foldl track none = none := by
  rw [Option.eq_none_iff_forall_ne_some]
  rintro ⟨start, peak⟩ hsome
  obtain ⟨before, arm, since, rfl, harm, -⟩ := (track_eq_some_iff l start peak).1 hsome
  rw [h arm (by simp)] at harm
  cases harm

/-! ### The law -/

/-- **The mod-tap law** for the release of the key `code` after the events `es`. -/
structure ModTapLaw (env : Setup) (es : List Event) (code : ℕ) : Prop where
  /-- The key filter runs nothing. -/
  filter_quiet : ∀ a, ((run step (init env) es).keyInput code false).2 = some a →
    a = .LockConsume ∨ a = .Consumed
  /-- Unless the mod key goes off, nothing more happens. -/
  other_release : ¬ (run step (init env) es).releasesModKey code →
    step (run step (init env) es) (.key code false) = (run step (init env) es).beforeTap code false
  /-- When it goes off, the candidate is dropped and its action runs, if there is one. -/
  mod_release : (run step (init env) es).releasesModKey code →
    step (run step (init env) es) (.key code false) =
      ((run step (init env) es).beforeTap code false).modTapAction.elim
        (((run step (init env) es).beforeTap code false).setModTap none)
        (((run step (init env) es).beforeTap code false).setModTap none).dispatch
  /-- The action is the one bound to the modifiers of a live gesture not older than 250 ms. -/
  action_iff : ∀ a, ((run step (init env) es).beforeTap code false).modTapAction = some a ↔
    ∃ start peak, Gesture (touches (init env) es) start peak ∧
      ((run step (init env) es).beforeTap code false).desk.now ≤ start + 250 ∧
        ∃ bind, mod_tap_bind ((run step (init env) es).beforeTap code false).desk.cfg.keys peak =
          some bind ∧ bind.action = a
  /-- The mod key does nothing more before it is pressed again. -/
  once : (run step (init env) es).releasesModKey code → ∀ more : List Event,
    Guarded step UnlockedButton (step (run step (init env) es) (.key code false)) more →
      (∀ x ∈ touches (step (run step (init env) es) (.key code false)) more, x.arms = false) →
        ∀ key, ((run step (step (run step (init env) es) (.key code false)) more).beforeTap key
          false).modTapAction = none

theorem modTapAction_eq_some_iff (s : Rwl) (a : Action) : s.modTapAction = some a ↔
    ∃ start peak, s.tap = some (start, peak) ∧ s.desk.now ≤ start + 250 ∧
      ∃ bind, mod_tap_bind s.desk.cfg.keys peak = some bind ∧ bind.action = a := by
  have hage (start : ℕ) : s.desk.now - start ≤ 250 ↔ s.desk.now ≤ start + 250 := by omega
  change s.tap.bind _ = some a ↔ _
  cases s.tap with
  | none => simp
  | some c =>
    obtain ⟨start, peak⟩ := c
    simp only [Option.bind_some, Option.some.injEq, Prod.mk.injEq]
    constructor
    · intro h
      split_ifs at h with hnow
      obtain ⟨bind, hbind, rfl⟩ := Option.map_eq_some_iff.1 h
      exact ⟨start, peak, ⟨rfl, rfl⟩, (hage start).1 hnow, bind, hbind, rfl⟩
    · rintro ⟨start', peak', ⟨rfl, rfl⟩, hnow, bind, hbind, rfl⟩
      rw [if_pos ((hage _).2 hnow), hbind]
      rfl

/-- **The release of the mod key runs the action bound to a live gesture, and nothing else.** -/
theorem mod_tap_law (env : Setup) (es : List Event) (code : ℕ)
    (hg : Guarded step UnlockedButton (init env) es) : ModTapLaw env es code := by
  have htap : ∀ key, ((run step (init env) es).beforeTap key false).tap =
      (touches (init env) es).foldl track none := fun key => by
    rw [tap_beforeTap, tap_run hg]
    rfl
  constructor
  · exact fun a ha => action_of_release ha
  · intro hkept
    rw [release_eq, update_mod_tap, if_neg Bool.false_ne_true]
    exact if_neg hkept
  · intro hrelease
    rw [release_eq, update_mod_tap, if_neg Bool.false_ne_true]
    refine (if_pos hrelease).trans ?_
    cases ((run step (init env) es).beforeTap code false).modTapAction with
    | none => rfl
    | some a => rfl
  · intro a
    rw [modTapAction_eq_some_iff, htap]
    simp only [track_eq_some_iff]
  · intro hrelease more hmore harms key
    have hgone : (step (run step (init env) es) (.key code false)).tap = none :=
      (tap_key _ code false).trans (if_pos hrelease)
    have hnone : ((run step (step (run step (init env) es) (.key code false)) more).beforeTap key
        false).tap = none := by
      rw [tap_beforeTap, tap_run hmore, hgone, foldl_track_none harms]
    exact congrArg (Option.bind · _) hnone

/-- The mod key is bound on its own, and is down for 100 ms. -/
def tapSetup : Setup := plainSetup [⟨MODKEY, MOD_TAP_KEYSYM, .TogglePassthrough, none⟩] []

/-- The mod key goes down and 100 ms pass. -/
def tapRun : List Event := [.key MODKEY true, .tick 100]

theorem mod_tap_law_alone : ModTapLaw tapSetup tapRun MODKEY ∧
    (step (run step (init tapSetup) tapRun) (.key MODKEY false)).keys.passthrough = true :=
  ⟨mod_tap_law tapSetup tapRun MODKEY (by decide +kernel), by decide +kernel⟩

end Rwl

end Compositor
