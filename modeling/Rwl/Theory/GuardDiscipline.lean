import Mathlib.Tactic.Common
import Rwl.Core.ConfigLock
import Rwl.Core.Step
import Rwl.Theory.ShellChanges

/-!
# No guard is alive when the configuration is locked

* `Disciplined`: the lock is not taken, and no child is configured, while a guard is held;
* `Spares`: showing a tag starts no program; `view_tag_spawn_eq_ite`: what that means for the
  action;
* `bare`, `strict`, `lenient`: with a guard alive nothing is done, or only what `apply_rules` does;
* `program_sound`: every function fits these rules;
* `guard_discipline`: what holds in every run;
* `nested_of_not_spares`: a program that is started is started under a guard.
-/

namespace Compositor

open Guarding Transition

namespace ConfigLock

/-- The thread of the compositor. -/
abbrev Thread := Guarding.Thread Fn Ask Guard

/-- The lock is not taken, and `configure_child` is not called, while a guard is held. -/
def Disciplined (t : Thread) : Prop :=
  (∀ g, t.next = some (.take g) → t.held = []) ∧
    (t.next = some (.call .configure_child) → t.held = [])

/-- The tag that `view_tag_spawn` is about to look up. -/
def Thread.spawnMask (t : Thread) : Option ℕ :=
  match t.next with
  | some (.ask (.auto_spawn mask)) => some mask
  | _ => none

/-- The program an empty tag starts. -/
def command (s : Rwl) (mask : ℕ) : List String :=
  ((s.desk.cfg.auto_spawn[Compositor.pertag_layouts.trailing_zeros mask]?).join).getD []

/-- The tag has tiled windows, or no program. -/
def Spares (s : Rwl) (mask : ℕ) : Prop :=
  s.desk.count_tiled (mask &&& s.desk.cfg.tag_mask) ≠ 0 ∨
    command s (mask &&& s.desk.cfg.tag_mask) = []

instance decidableSpares (s : Rwl) (mask : ℕ) : Decidable (Spares s mask) :=
  inferInstanceAs (Decidable (_ ∨ _))

/-- No program is started for a tag that is shown. -/
def SparesSpawn (t : Thread) (m : Moment) : Prop := ∀ mask ∈ Thread.spawnMask t, Spares m.state mask

instance decidableSparesSpawn (t : Thread) (m : Moment) : Decidable (SparesSpawn t m) :=
  inferInstanceAs (Decidable (∀ mask ∈ Thread.spawnMask t, Spares m.state mask))

/-- The rules are applied to no window without a parent. -/
def SparesRules (t : Thread) (m : Moment) : Prop :=
  t.next = some (.ask .apply_rules) → (m.state.desk.client m.window).toplevel_parent.isSome

instance decidableSparesRules (t : Thread) (m : Moment) : Decidable (SparesRules t m) :=
  inferInstanceAs (Decidable (_ → _))

/-! ### The rules -/

/-- Nothing is taken, called or asked under a guard. -/
def bare : List Guard → Move Fn Ask Guard → Bool
  | [], _ => true
  | _, _ => false

/-- Moreover no rules are applied. -/
def strict : List Guard → Move Fn Ask Guard → Bool
  | [], .ask .apply_rules => false
  | [], _ => true
  | _, _ => false

/-- Under a guard the lock is taken by `apply_rules` only. -/
def lenient : List Guard → Move Fn Ask Guard → Bool
  | [], _ => true
  | [.rules], .take .read => true
  | _, _ => false

theorem bare_of_strict (held : List Guard) (x : Move Fn Ask Guard) (h : strict held x = true) :
    bare held x = true := by
  cases held with
  | nil => rfl
  | cons g gs => cases h

theorem lenient_of_bare (held : List Guard) (x : Move Fn Ask Guard) (h : bare held x = true) :
    lenient held x = true := by
  cases held with
  | nil => rfl
  | cons g gs => cases h

/-- Under each rule calls are made with no guard. -/
theorem held_of_call {held : List Guard} {f : Fn} (h : lenient held (.call f) = true) :
    held = [] := by
  cases held with
  | nil => rfl
  | cons g gs => cases g <;> cases gs <;> cases h

theorem held_of_ask {held : List Guard} {q : Ask} (h : lenient held (.ask q) = true) :
    held = [] := by
  cases held with
  | nil => rfl
  | cons g gs => cases g <;> cases gs <;> cases h

/-! ### The functions fit -/

theorem fits_spawn (cmd : List String) : (actions.spawn cmd).fits strict [] = true := by
  unfold actions.spawn
  split <;> rfl

theorem fits_summon (cmd : ScratchCmd) : (actions.summon cmd).fits strict [] = true := by
  unfold actions.summon
  rw [Code.fits, fits_spawn, Bool.and_true]
  rfl

theorem fits_perform (a : Action) : (actions.perform a).fits strict [] = true := by
  cases a with
  | Spawn cmd => exact fits_spawn cmd
  | ToggleScratch cmd => exact fits_summon cmd
  | FocusOrToggleScratch cmd => exact fits_summon cmd
  | FocusOrToggleMatchingScratch cmd => exact fits_summon cmd
  | _ => rfl

theorem fits_notify_changes : actions.notify_changes.fits strict [] = true := rfl

theorem fits_dispatch (a : Action) : (actions.dispatch a).fits strict [] = true := by
  have h := fits_perform a
  cases a with
  | CallLua => exact h
  | SendKeys => exact h
  | _ => simp [actions.dispatch, Code.fits, Code.seqs, Code.opt, h, fits_notify_changes]

theorem fits_body (f : Fn) : (body f).fits strict [] = true := by
  cases f with
  | dispatch a => exact fits_dispatch a
  | drain => rfl
  | configure_child => rfl

/-- Every function fits where a rule between the strict and the lenient one lets it be called. -/
theorem program_sound {R : List Guard → Move Fn Ask Guard → Bool}
    (hs : ∀ held x, strict held x = true → R held x = true)
    (hl : ∀ held x, R held x = true → lenient held x = true) : program.Sound R := by
  intro held f hf
  obtain rfl := held_of_call (hl held _ hf)
  exact Code.fits_mono hs (fits_body f)

theorem fits_event_loop : event_loop.fits bare [] = true := by decide +kernel

/-! ### The answers fit -/

theorem spawn_eq_skip_of_spares {s : Rwl} {mask : ℕ} (h : Spares s mask) :
    auto_spawn s mask = .skip ∨ auto_spawn s mask = .hold .read .skip := by
  unfold auto_spawn
  simp only
  split
  · refine Or.inr ?_
    have hc : command s (mask &&& s.desk.cfg.tag_mask) = [] := by
      rcases h with h | h
      · contradiction
      · exact h
    unfold command at hc
    cases hcmd : (s.desk.cfg.auto_spawn[Compositor.pertag_layouts.trailing_zeros
        (mask &&& s.desk.cfg.tag_mask)]?).join with
    | none => rfl
    | some cmd =>
      rw [hcmd, Option.getD_some] at hc
      subst hc
      rfl
  · exact Or.inl rfl

/-- A rule that allows the questions allows the answers, if no program is started and the rules are
applied only where the rule allows it. -/
theorem answerFits {R : List Guard → Move Fn Ask Guard → Bool} {t : Thread} {m : Moment}
    (hs : ∀ held x, strict held x = true → R held x = true)
    (hl : ∀ held x, R held x = true → lenient held x = true) (h : SparesSpawn t m)
    (hrules : t.next = some (.ask .apply_rules) → R t.held (.ask .apply_rules) = true →
      (apply_rules m.state m.window).fits R [] = true) : program.AnswerFits R t m := by
  intro q hq hR
  have hheld := held_of_ask (hl t.held _ hR)
  rw [hheld]
  have hcall (f : Fn) : (Code.call f : Code).fits R [] = true := hs [] (.call f) rfl
  cases q with
  | auto_spawn mask =>
    have hspares : Spares m.state mask := h mask (by rw [Thread.spawnMask, hq]; rfl)
    rcases spawn_eq_skip_of_spares hspares with he | he
    · exact (congrArg (Code.fits R []) he).trans rfl
    · refine (congrArg (Code.fits R []) he).trans ?_
      exact Code.fits_mono hs (rfl : (Code.hold .read .skip : Code).fits strict [] = true)
  | apply_rules => exact hrules hq hR
  | action => exact hcall _
  | view => exact hcall _
  | set_layout => exact hcall _

theorem fits_apply_rules (s : Rwl) (w : WinId) :
    (apply_rules s w).fits lenient [] = true := by
  unfold apply_rules
  split <;> rfl

theorem fits_apply_rules_of_parent {s : Rwl} {w : WinId}
    (h : (s.desk.client w).toplevel_parent.isSome) : (apply_rules s w).fits bare [] = true := by
  obtain ⟨parent, hp⟩ := Option.isSome_iff_exists.1 h
  unfold apply_rules
  rw [hp]
  rfl

/-! ### Runs -/

/-- `tag_mask` is about to take a guard while `apply_rules` holds one. -/
def InRules (t : Thread) : Prop := t.held = [.rules] ∧ t.next = some (.take .read)

theorem disciplined_of_obeys {t : Thread} (h : t.Obeys bare) : Disciplined t := by
  have hheld (x : Move Fn Ask Guard) (hx : t.next = some x) : t.held = [] := by
    have hb := h x hx
    cases hg : t.held with
    | nil => rfl
    | cons g gs =>
      rw [hg] at hb
      cases hb
  exact ⟨fun g hg => hheld _ hg, hheld _⟩

/-- Under the lenient rule the only guard taken under another is that of `tag_mask`. -/
theorem disciplined_or_inRules {t : Thread} (h : t.Obeys lenient) : Disciplined t ∨ InRules t := by
  by_cases hheld : t.held = []
  · exact Or.inl ⟨fun _ _ => hheld, fun _ => hheld⟩
  by_cases hin : InRules t
  · exact Or.inr hin
  refine Or.inl ⟨fun g hg => ?_, fun hc => held_of_call (h _ hc)⟩
  have hl := h _ hg
  exfalso
  revert hl
  cases hgs : t.held with
  | nil => exact absurd hgs hheld
  | cons g' gs =>
    cases g' <;> cases gs <;> cases g <;> intro hl <;> first
      | exact hin ⟨hgs, hg⟩
      | cases hl

/-- While no program is started for an empty tag, no action, whatever it calls and whatever the
hooks queue, takes the lock or configures a child under a guard; nor does anything else the event
loop runs, but for `apply_rules`, which reads the tag mask under its own guard. -/
theorem guard_discipline (a : Action) (ms : List Moment) :
    (Guarded program.step SparesSpawn (.start (.call (.dispatch a))) ms →
      Always program.step Disciplined (.start (.call (.dispatch a))) ms) ∧
    (Guarded program.step SparesSpawn (.start event_loop) ms →
      Always program.step (fun t => Disciplined t ∨ InRules t) (.start event_loop) ms) ∧
    (Guarded program.step (fun t m => SparesSpawn t m ∧ SparesRules t m) (.start event_loop) ms →
      Always program.step Disciplined (.start event_loop) ms) := by
  have hid (held : List Guard) (x : Move Fn Ask Guard) (h : lenient held x = true) :
      lenient held x = true := h
  have hsl (held : List Guard) (x : Move Fn Ask Guard) (h : strict held x = true) :
      lenient held x = true := lenient_of_bare held x (bare_of_strict held x h)
  refine ⟨fun h => ?_, fun h => ?_, fun h => ?_⟩
  · have hfit (t : Thread) (m : Moment) (hm : SparesSpawn t m) : program.AnswerFits strict t m := by
      refine answerFits (fun _ _ hx => hx) hsl hm fun _ hR => ?_
      have hheld := held_of_ask (hsl _ _ hR)
      rw [hheld] at hR
      cases hR
    exact (Program.always_obeys (program_sound (fun _ _ hx => hx) hsl) rfl (h.mono hfit)).mono
      fun t ht => disciplined_of_obeys (ht.mono bare_of_strict)
  · have hfit (t : Thread) (m : Moment) (hm : SparesSpawn t m) : program.AnswerFits lenient t m :=
      answerFits hsl hid hm fun _ _ => fits_apply_rules m.state m.window
    exact (Program.always_obeys (program_sound hsl hid)
      (Code.fits_mono lenient_of_bare fits_event_loop) (h.mono hfit)).mono
      fun t ht => disciplined_or_inRules ht
  · have hfit (t : Thread) (m : Moment) (hm : SparesSpawn t m ∧ SparesRules t m) :
        program.AnswerFits bare t m :=
      answerFits bare_of_strict lenient_of_bare hm.1 fun hq _ =>
        fits_apply_rules_of_parent (hm.2 hq)
    exact (Program.always_obeys (program_sound bare_of_strict lenient_of_bare) fits_event_loop
      (h.mono hfit)).mono fun t ht => disciplined_of_obeys ht

/-! ### What a program that is started does -/

theorem auto_spawn_of_not_spares {s : Rwl} {mask : ℕ} (h : ¬ Spares s mask) :
    auto_spawn s mask = .hold .read (.call .configure_child) := by
  simp only [Spares, not_or, not_not] at h
  obtain ⟨hempty, hcmd⟩ := h
  unfold auto_spawn
  simp only [hempty, if_true]
  unfold command at hcmd
  cases hc : (s.desk.cfg.auto_spawn[Compositor.pertag_layouts.trailing_zeros
      (mask &&& s.desk.cfg.tag_mask)]?).join with
  | none => simp [hc] at hcmd
  | some cmd =>
    rw [hc, Option.getD_some] at hcmd
    exact congrArg (Code.hold Guard.read) (if_neg hcmd)

/-- A program that is started configures its child under the guard of the lookup. -/
theorem nested_of_not_spares {t : Thread} {m : Moment} (h : ¬ SparesSpawn t m) (m' : Moment) :
    ¬ Disciplined (run program.step t [m, m']) := by
  simp only [SparesSpawn, not_forall] at h
  obtain ⟨mask, hmask, hspares⟩ := h
  obtain ⟨todo, held⟩ := t
  cases todo with
  | nil => simp [Thread.spawnMask, Guarding.Thread.next] at hmask
  | cons i rest =>
    cases i with
    | drop => simp [Thread.spawnMask, Guarding.Thread.next] at hmask
    | run c =>
      cases c with
      | ask q =>
        cases q with
        | auto_spawn mask' =>
          obtain rfl : mask' = mask := by
            simpa [Thread.spawnMask, Guarding.Thread.next, Code.first] using hmask
          have hc : program.step ⟨.run (.ask (.auto_spawn mask')) :: rest, held⟩ m =
              ⟨.run (.hold .read (.call .configure_child)) :: rest, held⟩ := by
            rw [← auto_spawn_of_not_spares hspares]
            rfl
          rw [run_cons, hc]
          intro hd
          cases hd.2 rfl
        | _ => simp [Thread.spawnMask, Guarding.Thread.next, Code.first] at hmask
      | _ => simp [Thread.spawnMask, Guarding.Thread.next, Code.first] at hmask

/-- What `view_tag_spawn` does to the compositor: a program is started for a tag that is not
spared. -/
theorem view_tag_spawn_eq_ite (s : Rwl) (mask : ℕ) :
    let mask' := mask &&& s.desk.cfg.tag_mask
    let s₁ := s.modifyDesk (Rwl.showTags · mask')
    s.view_tag_spawn mask =
      (if Spares s₁ mask then s₁ else s₁.emit (.spawn (command s₁ mask'))).slideTo
        (s.desk.tagsOf s.desk.sel_mon) mask' (s.desk.outputWidth s.desk.sel_mon) := by
  intro mask' s₁
  have hcfg : s₁.desk.cfg = s.desk.cfg := Desk.cfg_update_tag_history s.desk _ _
  have hspares : Spares s₁ mask ↔ s₁.desk.count_tiled mask' ≠ 0 ∨ command s₁ mask' = [] := by
    unfold Spares
    rw [hcfg]
  have hcmd : command s₁ mask' =
      ((s.desk.cfg.auto_spawn[Compositor.pertag_layouts.trailing_zeros mask']?).join).getD [] := by
    unfold command
    rw [hcfg]
  unfold Rwl.view_tag_spawn
  simp only
  congr 1
  by_cases hempty : s₁.desk.count_tiled mask' = 0
  · rw [if_pos hempty]
    cases hc : (s.desk.cfg.auto_spawn[Compositor.pertag_layouts.trailing_zeros mask']?).join with
    | none =>
      rw [hc, Option.getD_none] at hcmd
      rw [if_pos (hspares.2 (Or.inr hcmd))]
    | some cmd =>
      rw [hc, Option.getD_some] at hcmd
      rw [hcmd] at hspares ⊢
      by_cases hnil : cmd = []
      · rw [if_pos (hspares.2 (Or.inr hnil))]
        exact if_pos hnil
      · rw [if_neg fun h => (hspares.1 h).elim (absurd hempty) hnil]
        exact if_neg hnil
  · rw [if_neg hempty, if_pos (hspares.2 (Or.inl hempty))]

/-! ### One output and the command `viewtag_spawn 1` -/

/-- A compositor with one output, where the first tag has the program `cmd`. -/
def oneOutput (cmd : Option (List String)) : Rwl :=
  run Rwl.step (Rwl.init { Rwl.plainSetup [] [] with
    cfg := { Rwl.plainConfig [] [] with auto_spawn := [cmd] } })
    [.output_added 0 (Rwl.plainOutput "a")]

/-- How the branches go from the event loop to the end of the lookup. -/
def turns : List Bool :=
  [true, true, true, false, false, false, true, true, false, false, false] ++
    List.replicate 15 true ++ [false] ++ List.replicate 5 true

/-- The moments of the command in a compositor. -/
def viewtag_spawn (s : Rwl) : List Moment := turns.map fun turn => ⟨s, turn, 0, .ViewTagSpawn 1, 0⟩

theorem guard_discipline_viewtag_spawn :
    Always program.step Disciplined (.start (.call (.dispatch (.ViewTagSpawn 1))))
      (viewtag_spawn (oneOutput none)) ∧
    Always program.step (fun t => Disciplined t ∨ InRules t) (.start event_loop)
      (viewtag_spawn (oneOutput none)) ∧
    Always program.step Disciplined (.start event_loop) (viewtag_spawn (oneOutput none)) :=
  have h := guard_discipline (.ViewTagSpawn 1) (viewtag_spawn (oneOutput none))
  ⟨h.1 (by decide +kernel), h.2.1 (by decide +kernel), h.2.2 (by decide +kernel)⟩

/-- An empty tag whose program is started under the guard of the lookup. -/
theorem not_guard_discipline : ∃ ms : List Moment, (∀ m ∈ ms, m.state.Reachable) ∧
    ¬ Always program.step Disciplined (.start event_loop) ms := by
  refine ⟨viewtag_spawn (oneOutput (some ["foot"])), ?_, fun h => ?_⟩
  · intro m hm
    obtain ⟨turn, _, rfl⟩ := List.mem_map.1 hm
    exact ⟨_, [.output_added 0 (Rwl.plainOutput "a")], rfl⟩
  · have hend := h.last.2 (by decide +kernel)
    revert hend
    decide +kernel

end ConfigLock

end Compositor
