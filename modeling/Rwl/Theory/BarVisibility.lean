import Mathlib.Tactic.Common
import Rwl.Core.Panel
import Rwl.Lib.Run

/-!
# When the bar is shown

The prompt and the title of a bar each remember in a flag of their own that they found the bar
hidden, and each hides it again at its own end.

* `Episode`: what was issued since the first of them began;
* `Visible`: the bar has a surface while one of them is open, and is as before once both ended;
* `Steady`: no second `prompt` makes the bar forget, and neither end hides it under the other;
* `bar_visibility`: in every run of such steps the bar is visible as it should be.
-/

namespace Compositor

open Transition

/-! ### What was issued -/

/-- The history of a bar since the first of its prompt and its title began: whether it was shown
before, whether an explicit show, hide or toggle came since, and whether an explicit hide came
since the last `prompt` and since the last `title`. -/
structure Episode where
  before : Bool
  touched : Bool
  hidden_prompt : Bool
  hidden_title : Bool

/-- Neither the prompt nor a title is open. -/
def Panel.Idle (p : Panel) : Prop := p.is_prompt_active = false ∧ p.bar.title_override = none

instance decidableIdle (p : Panel) : Decidable p.Idle := by
  unfold Panel.Idle; infer_instance

namespace Episode

/-- Before the first prompt or title there is nothing to go back to. -/
def start : Episode := ⟨false, true, false, false⟩

/-- A prompt or a title comes: it begins an episode if none is under way. -/
def opened (ep : Episode) (p : Panel) : Episode :=
  if p.Idle then { ep with before := p.bar.shown, touched := false } else ep

/-- An explicit hide. -/
def hide (ep : Episode) : Episode :=
  { ep with touched := true, hidden_prompt := true, hidden_title := true }

/-- The bar is asked for something. -/
def obey (ep : Episode) (p : Panel) : BarCommand → Episode
  | .prompt => { ep.opened p with hidden_prompt := false }
  | .status _ => ep
  | .title _ _ _ => { ep.opened p with hidden_title := false }
  | .show_bar => { ep with touched := true }
  | .hide_bar => ep.hide
  | .toggle_visibility => if p.bar.shown then ep.hide else { ep with touched := true }

/-- One event of the thread, seen from the bar. -/
def after (ep : Episode) (p : Panel) : BarEvent → Episode
  | .command buf => ((p.asked buf).map (ep.obey p)).getD ep
  | _ => ep

end Episode

/-- The thread, and the history of one of its bars. -/
structure Watch where
  thread : BarThread
  episode : Episode

/-- One event, seen from bar `i`. -/
def watch (i : ℕ) (w : Watch) (e : BarEvent) : Watch where
  thread := w.thread.step e
  episode := ((w.thread.panels[i]?).map (w.episode.after · e)).getD w.episode

/-! ### The law -/

/-- The bar has a surface while the prompt is open or the title is not over, unless it was hidden
since; and once both ended it is as before, unless it was touched in between. -/
structure Panel.Visible (p : Panel) (now : ℕ) (ep : Episode) : Prop where
  prompt : p.is_prompt_active = true → ep.hidden_prompt = false → p.bar.shown = true
  title : p.Unexpired now → ep.hidden_title = false → p.bar.shown = true
  ended : p.Idle → ep.touched = false → p.bar.shown = ep.before

/-- Bar `i` is visible as it should be. -/
def BarVisible (i : ℕ) (w : Watch) : Prop :=
  ∀ p ∈ w.thread.panels[i]?, p.Visible w.thread.now w.episode

/-- The step does not make the bar forget that it was hidden, and does not hide it under an open
prompt or title: `first` says that the keys go to this bar. -/
def Panel.Steady (p : Panel) (now : ℕ) (ep : Episode) (first : Bool) : BarEvent → Prop
  | .command buf => p.asked buf = some .prompt →
      ¬(p.is_prompt_active = true ∧ p.was_hidden_before_prompt = true ∧ p.bar.shown = true ∧
        ep.touched = false)
  | .key key => (key = 1 ∨ key = 28) ∧ first = true →
      ¬(p.was_hidden_before_prompt = true ∧ p.bar.shown = true ∧ p.Unexpired now ∧
        ep.hidden_title = false)
  | .wait _ => True
  | .turn => p.Overdue now →
      ¬(p.bar.was_hidden_before_title = true ∧ p.bar.shown = true ∧ p.is_prompt_active = true ∧
        ep.hidden_prompt = false)

/-- The keys go to bar `i`. -/
def BarThread.first (s : BarThread) (i : ℕ) : Bool :=
  decide (s.panels.findIdx Panel.is_prompt_active = i)

/-- The step is a steady one for bar `i`. -/
def Steady (i : ℕ) (w : Watch) (e : BarEvent) : Prop :=
  ∀ p ∈ w.thread.panels[i]?, p.Steady w.thread.now w.episode (w.thread.first i) e

instance decidablePanelSteady (p : Panel) (now : ℕ) (ep : Episode) (first : Bool) (e : BarEvent) :
    Decidable (p.Steady now ep first e) := by
  cases e <;> unfold Panel.Steady <;> infer_instance

instance decidableSteady (i : ℕ) (w : Watch) (e : BarEvent) : Decidable (Steady i w e) := by
  unfold Steady; infer_instance

/-! ### One bar -/

/-- The time an event takes. -/
def BarEvent.passes : BarEvent → ℕ
  | .wait d => d
  | _ => 0

/-- What bar `i` does on an event. -/
def Panel.react (p : Panel) (now : ℕ) (first : Bool) : BarEvent → Panel
  | .command buf => ((p.asked buf).map (p.obey now)).getD p
  | .key key => if first then p.handle_key_input key else p
  | .wait _ => p
  | .turn => p.expire now

/-- The bars of a thread act apart; only the keys depend on the other bars. -/
theorem panels_step (s : BarThread) (e : BarEvent) (i : ℕ) :
    (s.step e).panels[i]? = (s.panels[i]?).map (Panel.react · s.now (s.first i) e) := by
  cases e with
  | command buf => exact List.getElem?_map
  | key key =>
    show (s.panels.modify _ _)[i]? = _
    rw [List.getElem?_modify]
    by_cases h : s.panels.findIdx Panel.is_prompt_active = i
    · simp only [BarThread.first, Panel.react, h, decide_true, if_true, Option.map_eq_map]
    · simp [BarThread.first, Panel.react, h]
  | wait d => exact (congrFun Option.map_id _).symm
  | turn => exact List.getElem?_map

namespace Panel

theorem hide_bar_bar (p : Panel) : p.hide_bar.bar = { p.bar with shown := false } := by
  unfold hide_bar
  split_ifs with h
  · rfl
  · rw [← Bool.eq_false_iff.mpr h]

theorem hide_bar_prompt (p : Panel) : p.hide_bar.is_prompt_active = p.is_prompt_active ∧
    p.hide_bar.was_hidden_before_prompt = p.was_hidden_before_prompt := by
  unfold hide_bar
  split_ifs <;> exact ⟨rfl, rfl⟩

theorem prompt_bar (p : Panel) : p.prompt.bar = { p.bar with shown := true, redraw := true } := by
  unfold prompt
  cases h : p.bar.shown
  · rfl
  · simp [h]

theorem prompt_prompt (p : Panel) : p.prompt.is_prompt_active = true ∧
    p.prompt.was_hidden_before_prompt = !p.bar.shown := by
  unfold prompt
  cases p.bar.shown <;> exact ⟨rfl, rfl⟩

/-- Escape and Enter close the prompt, and hide the bar if the prompt had shown it. -/
theorem close_prompt (p : Panel) {key : ℕ} (h : key = 1 ∨ key = 28) :
    (p.handle_key_input key).is_prompt_active = false ∧
      (p.handle_key_input key).was_hidden_before_prompt = p.was_hidden_before_prompt ∧
      (p.handle_key_input key).bar = { p.bar with
        shown := p.bar.shown && !p.was_hidden_before_prompt, redraw := true } := by
  simp only [handle_key_input, if_pos h]
  cases hp : p.was_hidden_before_prompt
  · simp only [Bool.false_eq_true, if_false, Bool.not_false, Bool.and_true, and_self]
  · simp only [if_true, hide_bar_prompt, hide_bar_bar, Bool.not_true, Bool.and_false, and_self]

/-- A title that has run out is taken down, and the bar hidden if the title had shown it. -/
theorem expire_overdue (p : Panel) {now : ℕ} (h : p.Overdue now) :
    (p.expire now).is_prompt_active = p.is_prompt_active ∧
      (p.expire now).was_hidden_before_prompt = p.was_hidden_before_prompt ∧
      (p.expire now).bar = { p.bar with
        shown := p.bar.shown && !p.bar.was_hidden_before_title, redraw := true,
        title_override := none, was_hidden_before_title := false } := by
  simp only [expire, if_pos h]
  cases hp : p.bar.was_hidden_before_title
  · simp only [Bool.false_eq_true, if_false, Bool.not_false, Bool.and_true, and_self]
  · simp only [if_true, hide_bar_prompt, hide_bar_bar, Bool.not_true, Bool.and_false, and_self]

end Panel

/-- The flags account for the surface: what is owed to the prompt or to the title is remembered by
exactly one of them. -/
structure Panel.Remembers (p : Panel) (now : ℕ) (ep : Episode) : Prop where
  prompt : p.is_prompt_active = true → ep.hidden_prompt = false → p.bar.shown = true
  title : p.Unexpired now → ep.hidden_title = false → p.bar.shown = true
  owed : p.bar.was_hidden_before_title = true → p.bar.title_override ≠ none
  seen_prompt : ep.touched = false → p.is_prompt_active = true → ep.hidden_prompt = false
  seen_title : ep.touched = false → p.bar.title_override ≠ none → ep.hidden_title = false
  one : ep.touched = false → p.is_prompt_active = true → p.was_hidden_before_prompt = true →
    p.bar.was_hidden_before_title = false
  shown : ep.touched = false → p.bar.shown = (ep.before ||
    (p.is_prompt_active && p.was_hidden_before_prompt) || p.bar.was_hidden_before_title)
  clean : ep.touched = false → ep.before = true →
    (p.is_prompt_active && p.was_hidden_before_prompt) = false ∧
      p.bar.was_hidden_before_title = false

namespace Panel

variable {p : Panel} {now : ℕ} {ep : Episode}

theorem Remembers.visible (h : p.Remembers now ep) : p.Visible now ep where
  prompt := h.prompt
  title := h.title
  ended := by
    rintro ⟨hprompt, htitle⟩ htouched
    have hwt : p.bar.was_hidden_before_title = false := by
      by_contra hne
      exact h.owed (by simpa using hne) htitle
    rw [h.shown htouched, hprompt, hwt]
    simp

/-! ### What each step keeps -/

/-- While nothing is open, the title has no flag set. -/
theorem Remembers.idle (h : p.Remembers now ep) (hidle : p.Idle) :
    p.bar.was_hidden_before_title = false := by
  by_contra hne
  exact h.owed (by simpa using hne) hidle.2

theorem Remembers.prompted (h : p.Remembers now ep)
    (hsteady : ¬(p.is_prompt_active = true ∧ p.was_hidden_before_prompt = true ∧
      p.bar.shown = true ∧ ep.touched = false)) :
    p.prompt.Remembers now (ep.obey p .prompt) := by
  obtain ⟨hactive, hhidden⟩ := prompt_prompt p
  have hbar := prompt_bar p
  have hshown : p.prompt.bar.shown = true := by rw [hbar]
  by_cases hidle : p.Idle
  · have hwt := h.idle hidle
    constructor <;> simp [Episode.obey, Episode.opened, hidle, hactive, hhidden, hbar, hidle.2, hwt]
  · have hep : ep.obey p .prompt = { ep with hidden_prompt := false } := by
      simp [Episode.obey, Episode.opened, hidle]
    rw [hep]
    refine ⟨fun _ _ => hshown, fun _ _ => hshown, ?_, fun _ _ => rfl, ?_, ?_, ?_, ?_⟩
    all_goals simp only [hactive, hhidden, hbar]
    · exact h.owed
    · exact h.seen_title
    · intro ht _ hnot
      have := h.shown ht
      grind
    · intro ht
      have := h.shown ht
      have := h.one ht
      have := h.clean ht
      grind
    · intro ht hbefore
      have := h.shown ht
      have := h.clean ht hbefore
      grind

theorem Remembers.titled (h : p.Remembers now ep) (text : Text) (secs : ℕ) (color : Option Color) :
    (p.title now text secs color).Remembers now (ep.obey p (.title text secs color)) := by
  by_cases hidle : p.Idle
  · have hwt := h.idle hidle
    have hactive := hidle.1
    constructor <;> simp [Episode.obey, Episode.opened, hidle, Panel.title, Bar.override, hactive, hwt]
  · have hep : ep.obey p (.title text secs color) = { ep with hidden_title := false } := by
      simp [Episode.obey, Episode.opened, hidle]
    rw [hep]
    refine ⟨fun _ _ => rfl, fun _ _ => rfl, fun _ => by simp [Panel.title, Bar.override],
      h.seen_prompt, fun _ _ => rfl, ?_, ?_, ?_⟩
    all_goals simp only [Panel.title, Bar.override]
    · intro ht hp hw
      have := h.shown ht
      have := h.one ht hp hw
      grind
    · intro ht
      have := h.shown ht
      grind
    · intro ht hbefore
      have := h.shown ht
      have := h.clean ht hbefore
      grind

theorem Remembers.shows (h : p.Remembers now ep) :
    p.show_bar.Remembers now (ep.obey p .show_bar) := by
  refine ⟨fun _ _ => rfl, fun _ _ => rfl, h.owed, ?_, ?_, ?_, ?_, ?_⟩ <;>
    exact fun ht => absurd ht (by simp [Episode.obey])

theorem Remembers.hides (h : p.Remembers now ep) : p.hide_bar.Remembers now ep.hide := by
  refine ⟨fun _ ht => ?_, fun _ ht => ?_, ?_, ?_, ?_, ?_, ?_, ?_⟩
  · simp [Episode.hide] at ht
  · simp [Episode.hide] at ht
  · rw [hide_bar_bar]
    exact h.owed
  all_goals exact fun ht => absurd ht (by simp [Episode.hide])

/-- A command, unless it is a second `prompt` that forgets that the bar was hidden. -/
theorem Remembers.obeyed (h : p.Remembers now ep) (c : BarCommand)
    (hsteady : c = .prompt → ¬(p.is_prompt_active = true ∧ p.was_hidden_before_prompt = true ∧
      p.bar.shown = true ∧ ep.touched = false)) :
    (p.obey now c).Remembers now (ep.obey p c) := by
  cases c with
  | prompt => exact h.prompted (hsteady rfl)
  | status text => exact ⟨h.1, h.2, h.3, h.4, h.5, h.6, h.7, h.8⟩
  | title text secs color => exact h.titled text secs color
  | show_bar => exact h.shows
  | hide_bar => exact h.hides
  | toggle_visibility =>
    by_cases hshown : p.bar.shown = true
    · simpa only [obey, Episode.obey, if_pos hshown] using h.hides
    · simpa only [obey, Episode.obey, if_neg hshown] using h.shows

theorem Remembers.closed (h : p.Remembers now ep) {key : ℕ} (hkey : key = 1 ∨ key = 28)
    (hactive : p.is_prompt_active = true)
    (hsteady : ¬(p.was_hidden_before_prompt = true ∧ p.bar.shown = true ∧ p.Unexpired now ∧
      ep.hidden_title = false)) :
    (p.handle_key_input key).Remembers now ep := by
  obtain ⟨hp, hw, hbar⟩ := p.close_prompt hkey
  have hun : (p.handle_key_input key).Unexpired now ↔ p.Unexpired now := by
    simp only [Unexpired, hbar]
  constructor
  · intro hnot
    rw [hp] at hnot
    cases hnot
  · intro hu hh
    have := h.title (hun.mp hu) hh
    grind
  all_goals simp only [hp, hw, hbar]
  · exact h.owed
  · exact fun _ hnot => by cases hnot
  · exact h.seen_title
  · exact fun _ hnot => by cases hnot
  · intro ht
    have := h.shown ht
    have := h.one ht hactive
    have := h.clean ht
    grind
  · intro ht hbefore
    have := h.clean ht hbefore
    grind

theorem Remembers.expired (h : p.Remembers now ep) (hover : p.Overdue now)
    (hsteady : ¬(p.bar.was_hidden_before_title = true ∧ p.bar.shown = true ∧
      p.is_prompt_active = true ∧ ep.hidden_prompt = false)) :
    (p.expire now).Remembers now ep := by
  obtain ⟨hp, hw, hbar⟩ := p.expire_overdue hover
  constructor
  · intro ha hh
    rw [hp] at ha
    have := h.prompt ha hh
    grind
  · rintro ⟨t, ht, -⟩
    simp [hbar] at ht
  all_goals simp only [hp, hw, hbar]
  · exact fun hnot => by cases hnot
  · exact h.seen_prompt
  · exact fun _ hnot => absurd rfl hnot
  · exact fun _ _ _ => trivial
  · intro ht
    have := h.shown ht
    have := h.one ht
    have := h.clean ht
    have := h.seen_prompt ht
    grind
  · intro ht hbefore
    have := h.clean ht hbefore
    grind

theorem Remembers.waited (h : p.Remembers now ep) (d : ℕ) : p.Remembers (now + d) ep := by
  refine ⟨h.1, ?_, h.3, h.4, h.5, h.6, h.7, h.8⟩
  rintro ⟨t, ht, hnow⟩ hh
  exact h.title ⟨t, ht, by omega⟩ hh

theorem Remembers.reacted (h : p.Remembers now ep) {first : Bool}
    (hfirst : first = true → p.is_prompt_active = true) {e : BarEvent}
    (hsteady : p.Steady now ep first e) :
    (p.react now first e).Remembers (now + e.passes) (ep.after p e) := by
  cases e with
  | command buf =>
    show (((p.asked buf).map (p.obey now)).getD p).Remembers now
      (((p.asked buf).map (ep.obey p)).getD ep)
    cases hc : p.asked buf with
    | none => exact h
    | some c => exact h.obeyed c fun hprompt => hsteady (hprompt ▸ hc)
  | key key =>
    show (if first then p.handle_key_input key else p).Remembers now ep
    by_cases hkey : key = 1 ∨ key = 28
    · by_cases hf : first = true
      · rw [if_pos hf]
        exact h.closed hkey (hfirst hf) (hsteady ⟨hkey, hf⟩)
      · rw [if_neg hf]
        exact h
    · rw [handle_key_input, if_neg hkey, ite_self]
      exact h
  | wait d => exact h.waited d
  | turn =>
    show (p.expire now).Remembers now ep
    by_cases hover : p.Overdue now
    · exact h.expired hover (hsteady hover)
    · rw [expire, if_neg hover]
      exact h

end Panel

/-! ### Runs -/

theorem first_active {s : BarThread} {i : ℕ} {p : Panel} (hp : s.panels[i]? = some p)
    (h : s.first i = true) : p.is_prompt_active = true := by
  obtain rfl := of_decide_eq_true h
  obtain ⟨hlt, rfl⟩ := List.getElem?_eq_some_iff.mp hp
  exact List.findIdx_getElem

theorem now_step (s : BarThread) (e : BarEvent) : (s.step e).now = s.now + e.passes := by
  cases e <;> rfl

/-- The invariant of a watched run. -/
def BarRemembers (i : ℕ) (w : Watch) : Prop :=
  ∀ p ∈ w.thread.panels[i]?, p.Remembers w.thread.now w.episode

theorem remembers_step {i : ℕ} {w : Watch} {e : BarEvent} (h : BarRemembers i w)
    (hsteady : Steady i w e) : BarRemembers i (watch i w e) := by
  intro q hq
  obtain ⟨p, hp, rfl⟩ : ∃ p, w.thread.panels[i]? = some p ∧
      p.react w.thread.now (w.thread.first i) e = q := by
    have hmap := panels_step w.thread e i
    rw [show (w.thread.step e).panels[i]? = some q from hq] at hmap
    exact Option.map_eq_some_iff.mp hmap.symm
  have hepisode : (watch i w e).episode = w.episode.after p e := by
    simp only [watch, hp, Option.map_some, Option.getD_some]
  rw [hepisode, show (watch i w e).thread.now = _ from now_step w.thread e]
  exact (h p hp).reacted (first_active hp) (hsteady p hp)

/-- A bar that was just made has nothing open. -/
theorem remembers_new (name : Text) (hidden : Bool) (height textpadding now : ℕ) :
    (Panel.new name hidden height textpadding).Remembers now .start := by
  constructor <;> simp [Panel.new, Bar.new, Episode.start, Panel.Unexpired]

/-- In every run of socket commands, prompt keys and title expirations in which no second `prompt`
makes a bar forget that it was hidden, and no end of the prompt or the title hides it under the
other, the bar has a surface while either is open and is as before once both ended. -/
theorem bar_visibility (outputs : List (Text × Bool × ℕ)) (textpadding i : ℕ) (es : List BarEvent)
    (h : Guarded (watch i) (Steady i) ⟨.init outputs textpadding, .start⟩ es) :
    Always (watch i) (BarVisible i) ⟨.init outputs textpadding, .start⟩ es := by
  have hinit : BarRemembers i ⟨.init outputs textpadding, .start⟩ := by
    intro p hp
    obtain ⟨o, -, rfl⟩ : ∃ o, outputs[i]? = some o ∧ Panel.new o.1 o.2.1 o.2.2 textpadding = p := by
      simpa [BarThread.init] using hp
    exact remembers_new _ _ _ _ _
  exact (h.always (fun _ _ hi hs => remembers_step hi hs) hinit).mono fun w hw p hp =>
    (hw p hp).visible

/-- A title over a hidden bar, with a prompt that ends before the title does. -/
theorem bar_visibility_overlap :
    Guarded (watch 0) (Steady 0) ⟨.init [("DP-1".toList, true, 24)] 8, .start⟩
        [.command "all title hello".toList, .command "all prompt".toList, .key 28, .wait 3, .turn] ∧
      Always (watch 0) (BarVisible 0) ⟨.init [("DP-1".toList, true, 24)] 8, .start⟩
        [.command "all title hello".toList, .command "all prompt".toList, .key 28, .wait 3,
          .turn] := by
  have hsteady : Guarded (watch 0) (Steady 0) ⟨.init [("DP-1".toList, true, 24)] 8, .start⟩
      [.command "all title hello".toList, .command "all prompt".toList, .key 28, .wait 3,
        .turn] := by
    refine ⟨?_, ?_, ?_, ?_, ?_, trivial⟩ <;> decide +kernel
  exact ⟨hsteady, bar_visibility _ _ _ _ hsteady⟩

/-- A second `prompt` on a hidden bar leaves the bar shown when the prompt ends. -/
theorem not_bar_visibility : ¬∀ (outputs : List (Text × Bool × ℕ)) (textpadding i : ℕ)
    (es : List BarEvent),
    Always (watch i) (BarVisible i) ⟨.init outputs textpadding, .start⟩ es := by
  intro h
  let w := run (watch 0) ⟨.init [("DP-1".toList, true, 24)] 8, .start⟩
    [.command "all prompt".toList, .command "all prompt".toList, .key 1]
  have hended : ∀ p ∈ w.thread.panels[0]?, p.Idle → w.episode.touched = false →
      p.bar.shown = w.episode.before :=
    fun p hp => ((h _ _ _ _).last p hp).ended
  exact absurd hended (by decide +kernel)

end Compositor
