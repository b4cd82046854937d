import Mathlib.Tactic.Common
import Rwl.Lib.Mask
import Rwl.Theory.ShellChanges

/-!
# What the rules make of a window

`apply_rules` gives a window its tags and its monitor, and may change that monitor's view. The last
matching rule decides the monitor, the scratchpad key and the view; tags add up; what the Lua
callback returns comes before the rules.

* `Desk.matching`, `Asked`: the matching rules, and what they and the callback ask for;
* `monitor_ruleAccum`, `tags_ruleAccum_ne_zero_iff`, …: it is what `apply_rules` adds up;
* `record_switchTo`, `viewAt_switchTo`: a view jump, and the view it records;
* `Rwl.RuleSound`: visible tags, a valid monitor, and a record of exactly the jumps;
* `Rwl.rule_sound_iff`: when `apply_rules` achieves that.
-/

namespace Compositor

/-! ### What is asked for -/

/-- The rules that match a window. -/
def Desk.matching (d : Desk) (w : WinId) : List Rule :=
  d.cfg.rules.filter fun r =>
    swallow.ruleMatches r ((d.client w).app_id.getD "") ((d.client w).title.getD "")

/-- The last rule with a property. -/
def latest (rules : List Rule) (p : Rule → Prop) [DecidablePred p] : Option Rule :=
  rules.reverse.find? fun r => decide (p r)

namespace Asked

variable (rules : List Rule) (ov : Option RuleOverride)

/-- The monitor: negative for the selected one. -/
def monitor : ℤ :=
  ((ov.bind RuleOverride.monitor).or ((latest rules fun r => 0 ≤ r.monitor).map Rule.monitor)).getD
    (-1)

/-- The scratchpad key. -/
def key : Char :=
  ((ov.bind RuleOverride.scratch_key).or
    ((latest rules fun r => r.scratch_key ≠ noScratch).map Rule.scratch_key)).getD noScratch

/-- Some tag is asked for. -/
def SomeTag : Prop :=
  match ov.bind RuleOverride.tags with
  | some t => t ≠ 0
  | none => ∃ r ∈ rules, r.tags ≠ 0

/-- Some tag within `mask` is asked for. -/
def ValidTag (mask : ℕ) : Prop :=
  match ov.bind RuleOverride.tags with
  | some t => t &&& mask ≠ 0
  | none => ∃ r ∈ rules, r.tags &&& mask ≠ 0

/-- A view of tags is asked for. -/
def Switch : Prop :=
  (∃ r ∈ rules, r.switch_to_tag = true ∧ r.tags ≠ 0) ∨
    ov.bind RuleOverride.switch_to_tag = some true

/-- The view that is asked for is that of a rule, and has no tag within `mask`. -/
def EmptySwitch (mask : ℕ) : Prop :=
  (∃ r, (latest rules fun r => r.switch_to_tag = true ∧ r.tags ≠ 0) = some r ∧
      r.tags &&& mask = 0) ∧
    (ov.bind RuleOverride.switch_to_tag = none ∨
      ov.bind RuleOverride.switch_to_tag = some true ∧ ¬ValidTag rules ov mask)

end Asked

/-! ### Adding up -/

section Accumulate

variable (d : Desk) (w : WinId)

theorem tags_accumulate : (accumulate d w).tags = Mask.union ((d.matching w).map Rule.tags) := by
  unfold Mask.union
  rw [List.foldl_map]
  exact (List.foldl_hom RuleAccum.tags fun _ _ => rfl).symm

theorem monitor_accumulate :
    (accumulate d w).monitor =
      ((latest (d.matching w) fun r => 0 ≤ r.monitor).map Rule.monitor).getD (-1) := by
  refine Eq.trans ?_ (Recency.foldl_latest (fun r : Rule => 0 ≤ r.monitor) _ _ _)
  exact (List.foldl_hom RuleAccum.monitor fun _ _ => rfl).symm

theorem scratch_key_accumulate :
    (accumulate d w).scratch_key =
      ((latest (d.matching w) fun r => r.scratch_key ≠ noScratch).map Rule.scratch_key).getD
        noScratch := by
  refine Eq.trans ?_ (Recency.foldl_latest (fun r : Rule => r.scratch_key ≠ noScratch) _ _ _)
  refine (List.foldl_hom RuleAccum.scratch_key fun acc r => ?_).symm
  exact ite_not _ _ _

theorem switch_accumulate :
    (accumulate d w).switch_to_tag =
      (latest (d.matching w) fun r => r.switch_to_tag = true ∧ r.tags ≠ 0).map
        fun r => r.tags &&& d.cfg.tag_mask := by
  have hfold := Recency.foldl_latest (fun r : Rule => r.switch_to_tag = true ∧ r.tags ≠ 0)
    (fun r => some (r.tags &&& d.cfg.tag_mask)) (d.matching w) none
  refine Eq.trans ((List.foldl_hom RuleAccum.switch_to_tag fun _ _ => rfl).symm.trans hfold) ?_
  unfold latest
  rcases List.find? _ (d.matching w).reverse with _ | r <;> rfl

end Accumulate

namespace Rwl

variable (s : Rwl) (w : WinId)

/-- What the `on_window_rule` callback returns. -/
def luaRule : Option RuleOverride := s.lua.window_rule s.hooks.calls w

/-- The rules added up, with the callback's say. -/
def ruleAccum : RuleAccum :=
  match s.luaRule w with
  | some ov => (accumulate s.desk w).override s.desk.cfg.tag_mask ov
  | none => accumulate s.desk w

/-- The desk that the rules are applied to. -/
def ruledDesk : Desk :=
  s.desk.modifyWindow w fun st =>
    { st with no_swallow := ((s.luaRule w).bind RuleOverride.no_swallow).getD st.no_swallow }

theorem monitor_ruleAccum :
    (s.ruleAccum w).monitor = Asked.monitor (s.desk.matching w) (s.luaRule w) := by
  unfold ruleAccum Asked.monitor
  rcases s.luaRule w with _ | ov
  · exact monitor_accumulate s.desk w
  · show ov.monitor.getD _ = (ov.monitor.or _).getD _
    rw [monitor_accumulate]
    rcases ov.monitor with _ | m <;> rfl

theorem scratch_key_ruleAccum :
    (s.ruleAccum w).scratch_key = Asked.key (s.desk.matching w) (s.luaRule w) := by
  unfold ruleAccum Asked.key
  rcases s.luaRule w with _ | ov
  · exact scratch_key_accumulate s.desk w
  · show ov.scratch_key.getD _ = (ov.scratch_key.or _).getD _
    rw [scratch_key_accumulate]
    rcases ov.scratch_key with _ | k <;> rfl

theorem tags_ruleAccum_ne_zero_iff :
    (s.ruleAccum w).tags ≠ 0 ↔ Asked.SomeTag (s.desk.matching w) (s.luaRule w) := by
  have hrules : (accumulate s.desk w).tags ≠ 0 ↔ ∃ r ∈ s.desk.matching w, r.tags ≠ 0 := by
    rw [tags_accumulate, Mask.union_ne_zero_iff]
    simp
  unfold ruleAccum Asked.SomeTag
  rcases s.luaRule w with _ | ov
  · exact hrules
  · show ov.tags.getD _ ≠ 0 ↔ _
    dsimp only [Option.bind]
    rcases ov.tags with _ | t
    · exact hrules
    · rfl

theorem tags_ruleAccum_meets_iff :
    (s.ruleAccum w).tags &&& s.desk.cfg.tag_mask ≠ 0 ↔
      Asked.ValidTag (s.desk.matching w) (s.luaRule w) s.desk.cfg.tag_mask := by
  have hrules : (accumulate s.desk w).tags &&& s.desk.cfg.tag_mask ≠ 0 ↔
      ∃ r ∈ s.desk.matching w, r.tags &&& s.desk.cfg.tag_mask ≠ 0 := by
    rw [tags_accumulate, Mask.meets_union_iff]
    simp
  unfold ruleAccum Asked.ValidTag
  rcases s.luaRule w with _ | ov
  · exact hrules
  · show ov.tags.getD _ &&& _ ≠ 0 ↔ _
    dsimp only [Option.bind]
    rcases ov.tags with _ | t
    · exact hrules
    · rfl

/-- The view that the rules jump to: none, that of a rule, or that of the callback's tags. -/
theorem switch_ruleAccum :
    ((s.ruleAccum w).switch_to_tag = none ∧
        (s.luaRule w).bind RuleOverride.switch_to_tag = some false) ∨
      ((s.ruleAccum w).switch_to_tag = (accumulate s.desk w).switch_to_tag ∧
        ((s.luaRule w).bind RuleOverride.switch_to_tag = none ∨
          (s.luaRule w).bind RuleOverride.switch_to_tag = some true ∧
            ¬Asked.ValidTag (s.desk.matching w) (s.luaRule w) s.desk.cfg.tag_mask)) ∨
      ((s.ruleAccum w).switch_to_tag = some ((s.ruleAccum w).tags &&& s.desk.cfg.tag_mask) ∧
        (s.luaRule w).bind RuleOverride.switch_to_tag = some true ∧
          Asked.ValidTag (s.desk.matching w) (s.luaRule w) s.desk.cfg.tag_mask) := by
  have hvalid := s.tags_ruleAccum_meets_iff w
  unfold ruleAccum at hvalid ⊢
  generalize s.luaRule w = o at hvalid ⊢
  rcases o with _ | ov
  · exact .inr (.inl ⟨rfl, .inl rfl⟩)
  · dsimp only [Option.bind] at hvalid ⊢
    unfold RuleAccum.override at hvalid ⊢
    dsimp only at hvalid ⊢
    rcases hswitch : ov.switch_to_tag with _ | b
    · exact .inr (.inl ⟨rfl, .inl rfl⟩)
    · cases b with
      | false => exact .inl ⟨rfl, rfl⟩
      | true =>
        dsimp only
        by_cases htag : ov.tags.getD (accumulate s.desk w).tags &&& s.desk.cfg.tag_mask ≠ 0
        · rw [if_pos htag]
          exact .inr (.inr ⟨rfl, rfl, hvalid.1 htag⟩)
        · rw [if_neg htag]
          exact .inr (.inl ⟨rfl, .inr ⟨rfl, fun h => htag (hvalid.2 h)⟩⟩)

theorem within_switch_ruleAccum {mask : ℕ} (h : (s.ruleAccum w).switch_to_tag = some mask) :
    Mask.Within s.desk.cfg.tag_mask mask := by
  rcases s.switch_ruleAccum w with ⟨hnone, -⟩ | ⟨hrule, -⟩ | ⟨hlua, -⟩
  · rw [hnone] at h
    cases h
  · rw [hrule, switch_accumulate] at h
    obtain ⟨r, -, rfl⟩ := Option.map_eq_some_iff.1 h
    exact Mask.within_and _ _
  · obtain rfl := Option.some.inj (hlua.symm.trans h)
    exact Mask.within_and _ _

theorem asked_of_switch_ruleAccum {mask : ℕ} (h : (s.ruleAccum w).switch_to_tag = some mask) :
    Asked.Switch (s.desk.matching w) (s.luaRule w) := by
  rcases s.switch_ruleAccum w with ⟨hnone, -⟩ | ⟨hrule, -⟩ | ⟨-, hlua, -⟩
  · rw [hnone] at h
    cases h
  · rw [hrule, switch_accumulate] at h
    obtain ⟨r, hr, -⟩ := Option.map_eq_some_iff.1 h
    have hasks := List.find?_some hr
    have hmem := List.mem_of_find?_eq_some hr
    exact .inl ⟨r, List.mem_reverse.1 hmem, of_decide_eq_true hasks⟩
  · exact .inr hlua

theorem switch_ruleAccum_eq_zero_iff :
    (s.ruleAccum w).switch_to_tag = some 0 ↔
      Asked.EmptySwitch (s.desk.matching w) (s.luaRule w) s.desk.cfg.tag_mask := by
  unfold Asked.EmptySwitch
  rcases s.switch_ruleAccum w with ⟨hnone, hlua⟩ | ⟨hrule, hlua⟩ | ⟨htags, hlua, hvalid⟩
  · rw [hnone, hlua]
    simp
  · rw [hrule, switch_accumulate, Option.map_eq_some_iff, and_iff_left hlua]
  · rw [htags, Option.some.injEq]
    refine iff_of_false ((s.tags_ruleAccum_meets_iff w).2 hvalid) ?_
    rintro ⟨-, hnone | ⟨-, hinvalid⟩⟩
    · rw [hlua] at hnone
      cases hnone
    · exact hinvalid hvalid

end Rwl

/-! ### The view jump -/

theorem Monitor.tags_view (cfg : Config) (mon : Monitor) (mask : ℕ) :
    (mon.view cfg mask).tags =
      if mask &&& cfg.tag_mask = 0 ∨ mask &&& cfg.tag_mask = mon.tags then mon.tags
      else mask &&& cfg.tag_mask := by
  unfold view
  dsimp only
  split_ifs
  · rfl
  · rw [tags_apply]
    simp [pushTags, tags]

namespace Desk

/-- The tags that a monitor shows. -/
def viewAt (d : Desk) (i : ℕ) : Option ℕ := (d.monitors[i]?).map Monitor.tags

theorem st_update_tag_history (d : Desk) (i tags : ℕ) :
    (d.update_tag_history i tags).st = d.st := by
  unfold update_tag_history
  split
  · split_ifs <;> rfl
  · rfl

variable (d : Desk) (w : WinId) (i : ℕ) {mask : ℕ}

/-- A view jump changes the view of its monitor, unless it is to no tag. -/
theorem viewAt_switchTo (hmask : Mask.Within d.cfg.tag_mask mask) (j : ℕ) :
    (switchTo d w i mask).viewAt j =
      if j = i ∧ mask ≠ 0 then (d.viewAt j).map fun _ => mask else d.viewAt j := by
  have hcut : mask &&& d.cfg.tag_mask = mask := hmask
  unfold viewAt switchTo
  dsimp only
  rw [monitors_update_tag_history]
  rcases hm : d.monitors[i]? with _ | m
  · dsimp only
    rw [monitors_update_tag_history]
    split_ifs with hj
    · rw [hj.1, hm]
      rfl
    · rfl
  · dsimp only
    rw [hcut]
    split_ifs with hsame hj hj
    · rw [monitors_update_tag_history, hj.1, hm]
      exact congrArg some hsame
    · rw [monitors_update_tag_history]
    · show Option.map Monitor.tags (List.modify _ i _)[j]? = _
      rw [monitors_mark_slide_outs, monitors_update_tag_history, hj.1, List.getElem?_modify_eq, hm]
      show some (m.view d.cfg mask).tags = some mask
      rw [Monitor.tags_view, hcut, if_neg (by tauto)]
    · show Option.map Monitor.tags (List.modify _ i _)[j]? = _
      rw [monitors_mark_slide_outs, monitors_update_tag_history]
      by_cases hij : i = j
      · subst hij
        have hzero : mask = 0 := by
          by_contra hne
          exact hj ⟨rfl, hne⟩
        rw [List.getElem?_modify_eq, hm]
        show some (m.view d.cfg mask).tags = some m.tags
        rw [Monitor.tags_view, hcut, if_pos (.inl hzero)]
      · rw [List.getElem?_modify_ne _ _ hij]

/-- A view jump records the view of its monitor, unless that is the one it jumps to. -/
theorem record_switchTo (hmask : Mask.Within d.cfg.tag_mask mask) :
    ((switchTo d w i mask).st w).switch_to_tag =
      ((d.viewAt i).filter fun prev => decide (prev ≠ mask)).or (d.st w).switch_to_tag := by
  have hcut : mask &&& d.cfg.tag_mask = mask := hmask
  unfold viewAt switchTo
  dsimp only
  rw [monitors_update_tag_history]
  rcases hm : d.monitors[i]? with _ | m
  · exact congrArg (fun st : WinId → WindowState => (st w).switch_to_tag) (st_update_tag_history ..)
  · dsimp only
    rw [hcut]
    split_ifs with hsame
    · subst hsame
      rw [st_update_tag_history]
      simp [Option.filter]
    · simp [modifyWindow, Option.filter, hsame]

end Desk

/-! ### The end of `apply_rules` -/

/-- The desk after the view jump of `settle`. -/
def jumped (d : Desk) (w : WinId) (acc : RuleAccum) : Desk :=
  match acc.switch_to_tag with
  | some tag_mask =>
      if (swallow.find_target d w ((d.client w).app_id.getD "") ((d.client w).title.getD "")).isSome
      then d else switchTo d w (d.target_monitor_for_window acc.monitor) tag_mask
  | none => d

section Settle

variable (d : Desk) (w : WinId) (acc : RuleAccum)

/-- Where the window goes, and what it remembers. -/
theorem st_settle :
    ((settle d w acc).st w).tags =
        (if acc.tags ≠ 0 then acc.tags &&& d.cfg.tag_mask
          else (d.viewAt (d.target_monitor_for_window acc.monitor)).getD 1) ∧
      ((settle d w acc).st w).mon_idx = d.target_monitor_for_window acc.monitor ∧
      ((settle d w acc).st w).scratch_key = acc.scratch_key ∧
      ((settle d w acc).st w).switch_to_tag = ((jumped d w acc).st w).switch_to_tag := by
  have hsettle : ∃ f, settle d w acc = (jumped d w acc).modifyWindow w f ∧ ∀ st : WindowState,
      (f st).tags = (if acc.tags ≠ 0 then acc.tags &&& d.cfg.tag_mask
        else (d.viewAt (d.target_monitor_for_window acc.monitor)).getD 1) ∧
      (f st).mon_idx = d.target_monitor_for_window acc.monitor ∧
      (f st).scratch_key = acc.scratch_key ∧ (f st).switch_to_tag = st.switch_to_tag :=
    ⟨_, rfl, fun _ => ⟨rfl, rfl, rfl, rfl⟩⟩
  obtain ⟨f, heq, hf⟩ := hsettle
  rw [heq]
  unfold Desk.modifyWindow
  dsimp only
  rw [Windows.modify_self]
  exact hf _

theorem viewAt_settle (i : ℕ) : (settle d w acc).viewAt i = (jumped d w acc).viewAt i := rfl

theorem cfg_settle : (settle d w acc).cfg = d.cfg := by
  show (jumped d w acc).cfg = d.cfg
  unfold jumped
  split
  · split_ifs
    · rfl
    · exact Desk.Changes.cfg_switchTo ..
  · rfl

theorem length_settle : (settle d w acc).monitors.length = d.monitors.length := by
  show (jumped d w acc).monitors.length = d.monitors.length
  unfold jumped
  split
  · split_ifs
    · rfl
    · unfold switchTo
      dsimp only
      split
      · rw [Desk.monitors_update_tag_history]
      · split_ifs
        · rw [Desk.monitors_update_tag_history]
        · show (List.modify _ _ _).length = _
          rw [List.length_modify, Desk.monitors_mark_slide_outs, Desk.monitors_update_tag_history]
  · rfl

/-- The window is about to be swallowed. -/
def Desk.swallowed (d : Desk) (w : WinId) : Bool :=
  (swallow.find_target d w ((d.client w).app_id.getD "") ((d.client w).title.getD "")).isSome

/-- The view jump happens when a view is asked for and the window is not swallowed. -/
theorem jumped_cases :
    (jumped d w acc = d ∧ (acc.switch_to_tag = none ∨ d.swallowed w = true)) ∨
      ∃ mask, acc.switch_to_tag = some mask ∧ d.swallowed w = false ∧
        jumped d w acc = switchTo d w (d.target_monitor_for_window acc.monitor) mask := by
  unfold jumped Desk.swallowed
  rcases acc.switch_to_tag with _ | mask
  · exact .inl ⟨rfl, .inl rfl⟩
  · dsimp only
    split_ifs with hswallow
    · exact .inl ⟨rfl, .inr hswallow⟩
    · exact .inr ⟨mask, rfl, Bool.eq_false_iff.2 hswallow, rfl⟩

variable {d w acc}

/-- The view of the target monitor and the record agree, unless the rules ask for a view of no
tag. -/
theorem record_jumped_iff {i : ℕ} (hi : d.target_monitor_for_window acc.monitor = i)
    (hmask : ∀ mask, acc.switch_to_tag = some mask → Mask.Within d.cfg.tag_mask mask) :
    (((jumped d w acc).st w).switch_to_tag =
        if (jumped d w acc).viewAt i = d.viewAt i then (d.st w).switch_to_tag else d.viewAt i) ↔
      (acc.switch_to_tag = some 0 → d.swallowed w = true ∨
        ∀ v, d.viewAt i = some v → v = 0 ∨ (d.st w).switch_to_tag = some v) := by
  rcases jumped_cases d w acc with ⟨heq, hnone | hswallow⟩ | ⟨mask, hmask', hstays, heq⟩
  · rw [heq, if_pos rfl, hnone]
    exact iff_of_true rfl fun h => by cases h
  · rw [heq, if_pos rfl]
    exact iff_of_true rfl fun _ => .inl hswallow
  · have hwithin := hmask mask hmask'
    rw [heq, hi, Desk.viewAt_switchTo d w i hwithin, Desk.record_switchTo d w i hwithin, hmask']
    rcases d.viewAt i with _ | prev
    · refine iff_of_true ?_ fun _ => .inr fun v hv => ?_
      · simp
      · cases hv
    · by_cases hzero : mask = 0
      · -- the jump leaves the view, and records it
        subst hzero
        by_cases hprev : prev = 0
        · subst hprev
          simp [Option.filter]
        · simp [Option.filter, hprev, hstays, eq_comm]
      · refine iff_of_true ?_ fun h => absurd (Option.some.inj h) hzero
        by_cases hsame : prev = mask
        · subst hsame
          simp [Option.filter, hzero]
        · simp [Option.filter, hzero, hsame, Ne.symm hsame]

/-- A monitor whose view changed was jumped on. -/
theorem switch_of_viewAt_jumped {i : ℕ} (h : (jumped d w acc).viewAt i ≠ d.viewAt i) :
    ∃ mask, acc.switch_to_tag = some mask := by
  rcases jumped_cases d w acc with ⟨heq, -⟩ | ⟨mask, hmask, -⟩
  · rw [heq] at h
    exact absurd rfl h
  · exact ⟨mask, hmask⟩

end Settle

/-! ### Soundness -/

/-- Tags a window can be left with: visible ones, or none for a scratchpad. -/
def TagsFit (mask : ℕ) (key : Char) (tags : ℕ) : Prop :=
  (tags ≠ 0 ∧ Mask.Within mask tags) ∨ (key ≠ noScratch ∧ tags = 0)

/-- Masked tags are visible unless they are none. -/
theorem tagsFit_and_iff {mask tags : ℕ} {key : Char} :
    TagsFit mask key (tags &&& mask) ↔ tags &&& mask ≠ 0 ∨ key ≠ noScratch := by
  unfold TagsFit
  constructor
  · rintro (⟨hne, -⟩ | ⟨hkey, -⟩)
    · exact .inl hne
    · exact .inr hkey
  · intro h
    by_cases hzero : tags &&& mask = 0
    · exact .inr ⟨h.resolve_left (not_not.2 hzero), hzero⟩
    · exact .inl ⟨hzero, Mask.within_and _ _⟩

/-- The monitor and the tags of a parent. -/
def Desk.placeOf (d : Desk) (parent : SurfaceId) : ℕ × ℕ :=
  match d.window_map parent with
  | some pw => ((d.st pw).mon_idx, (d.st pw).tags)
  | none => (d.sel_mon, (d.sel_monitor.map Monitor.tags).getD 1)

namespace Rwl

open Transition

/-- The window asks for a view, through a rule or the callback. -/
def AsksSwitch (s : Rwl) (w : WinId) : Prop :=
  (s.desk.client w).toplevel_parent = none ∧ Asked.Switch (s.desk.matching w) (s.luaRule w)

/-- `apply_rules` leaves a window visible on a monitor, changes a view only when asked to, and
records on the window exactly the view that its monitor left. -/
structure RuleSound (s : Rwl) (w : WinId) : Prop where
  tags : TagsFit (s.apply_rules w).desk.cfg.tag_mask ((s.apply_rules w).desk.st w).scratch_key
    ((s.apply_rules w).desk.st w).tags
  monitor : ((s.apply_rules w).desk.st w).mon_idx < (s.apply_rules w).desk.monitors.length
  views : ∀ i, (s.apply_rules w).desk.viewAt i ≠ s.desk.viewAt i → s.AsksSwitch w
  record : ((s.apply_rules w).desk.st w).switch_to_tag =
    if (s.apply_rules w).desk.viewAt ((s.apply_rules w).desk.st w).mon_idx =
        s.desk.viewAt ((s.apply_rules w).desk.st w).mon_idx
    then (s.desk.st w).switch_to_tag
    else s.desk.viewAt ((s.apply_rules w).desk.st w).mon_idx

/-- A parent on a valid monitor, with tags its child can have. -/
structure ParentFits (s : Rwl) (w : WinId) (parent : SurfaceId) : Prop where
  monitor : (s.desk.placeOf parent).1 < s.desk.monitors.length
  tags : TagsFit s.desk.cfg.tag_mask (s.desk.st w).scratch_key (s.desk.placeOf parent).2

/-- The monitor that the rules and the callback choose. -/
def ruleMonitor (s : Rwl) (w : WinId) : ℕ :=
  s.desk.target_monitor_for_window (Asked.monitor (s.desk.matching w) (s.luaRule w))

/-- The rules and the callback ask for valid tags, or for none on a valid view, and for no view
without a tag. -/
structure RequestFits (s : Rwl) (w : WinId) : Prop where
  monitor : s.desk.monitors ≠ [] ∧
    (0 ≤ Asked.monitor (s.desk.matching w) (s.luaRule w) ∨ s.desk.sel_mon < s.desk.monitors.length)
  tags : Asked.SomeTag (s.desk.matching w) (s.luaRule w) →
    Asked.ValidTag (s.desk.matching w) (s.luaRule w) s.desk.cfg.tag_mask ∨
      Asked.key (s.desk.matching w) (s.luaRule w) ≠ noScratch
  shown : ¬Asked.SomeTag (s.desk.matching w) (s.luaRule w) →
    ∀ v, s.desk.viewAt (s.ruleMonitor w) = some v →
      TagsFit s.desk.cfg.tag_mask (Asked.key (s.desk.matching w) (s.luaRule w)) v
  switch : Asked.EmptySwitch (s.desk.matching w) (s.luaRule w) s.desk.cfg.tag_mask →
    (s.ruledDesk w).swallowed w = true ∨
      ∀ v, s.desk.viewAt (s.ruleMonitor w) = some v →
        v = 0 ∨ (s.desk.st w).switch_to_tag = some v

/-- The parent fits, or else what is asked for does. -/
def RulesFit (s : Rwl) (w : WinId) : Prop :=
  match (s.desk.client w).toplevel_parent with
  | some parent => s.ParentFits w parent
  | none => s.RequestFits w

variable (s : Rwl) (w : WinId)

/-- Without a parent, `apply_rules` settles the window on what was added up. -/
theorem desk_apply_rules (h : (s.desk.client w).toplevel_parent = none) :
    (s.apply_rules w).desk = settle (s.ruledDesk w) w (s.ruleAccum w) := by
  unfold apply_rules ruledDesk ruleAccum luaRule
  rw [h]
  dsimp only
  rcases s.lua.window_rule s.hooks.calls w with _ | ov
  · have hsame : (s.desk.modifyWindow w fun st => st) = s.desk := by
      unfold Desk.modifyWindow Windows.modify
      rw [Function.update_eq_self]
    show settle s.desk w _ = settle (s.desk.modifyWindow w fun st => st) w _
    rw [hsame]
  · rfl

theorem target_lt_iff (d : Desk) (z : ℤ) :
    d.target_monitor_for_window z < d.monitors.length ↔
      d.monitors ≠ [] ∧ (0 ≤ z ∨ d.sel_mon < d.monitors.length) := by
  rw [← List.length_pos_iff]
  unfold Desk.target_monitor_for_window
  split_ifs with hz
  · constructor
    · intro h
      exact ⟨by omega, .inl hz⟩
    · rintro ⟨h, -⟩
      omega
  · constructor
    · intro h
      exact ⟨by omega, .inr h⟩
    · rintro ⟨-, h | h⟩
      · exact absurd h hz
      · exact h

/-- A dialog is sound exactly when its parent fits. -/
theorem rule_sound_parent_iff {parent : SurfaceId}
    (h : (s.desk.client w).toplevel_parent = some parent) :
    s.RuleSound w ↔ s.ParentFits w parent := by
  have hdesk : (s.apply_rules w).desk = adoptParent s.desk w parent := by
    unfold apply_rules
    rw [h]
    rfl
  have hadopt : adoptParent s.desk w parent = s.desk.modifyWindow w fun st =>
      { st with
        tags := (s.desk.placeOf parent).2
        is_floating := true
        needs_centering := true
        mon_idx := (s.desk.placeOf parent).1 } := by
    unfold adoptParent Desk.placeOf
    rcases s.desk.window_map parent <;> rfl
  have hst : (adoptParent s.desk w parent).st w =
      { s.desk.st w with
        tags := (s.desk.placeOf parent).2
        is_floating := true
        needs_centering := true
        mon_idx := (s.desk.placeOf parent).1 } := by
    rw [hadopt]
    unfold Desk.modifyWindow
    dsimp only
    rw [Windows.modify_self]
  have hviews (i : ℕ) : (adoptParent s.desk w parent).viewAt i = s.desk.viewAt i := rfl
  constructor
  · intro hs
    have htags := hs.tags
    have hmonitor := hs.monitor
    rw [hdesk, hst] at htags hmonitor
    exact ⟨hmonitor, htags⟩
  · intro hp
    refine ⟨?_, ?_, fun i hi => ?_, ?_⟩
    · rw [hdesk, hst]
      exact hp.tags
    · rw [hdesk, hst]
      exact hp.monitor
    · rw [hdesk] at hi
      exact absurd (hviews i) hi
    · rw [hdesk, hviews, if_pos rfl, hst]

/-- The tags of a window without a parent, on a valid monitor. -/
theorem tagsFit_request_iff {v : ℕ} (hv : s.desk.viewAt (s.ruleMonitor w) = some v) :
    TagsFit s.desk.cfg.tag_mask (Asked.key (s.desk.matching w) (s.luaRule w))
        (if (s.ruleAccum w).tags ≠ 0 then (s.ruleAccum w).tags &&& s.desk.cfg.tag_mask
          else (s.desk.viewAt (s.ruleMonitor w)).getD 1) ↔
      (Asked.SomeTag (s.desk.matching w) (s.luaRule w) →
        Asked.ValidTag (s.desk.matching w) (s.luaRule w) s.desk.cfg.tag_mask ∨
          Asked.key (s.desk.matching w) (s.luaRule w) ≠ noScratch) ∧
      (¬Asked.SomeTag (s.desk.matching w) (s.luaRule w) →
        ∀ v, s.desk.viewAt (s.ruleMonitor w) = some v →
          TagsFit s.desk.cfg.tag_mask (Asked.key (s.desk.matching w) (s.luaRule w)) v) := by
  have hsome := s.tags_ruleAccum_ne_zero_iff w
  by_cases htags : (s.ruleAccum w).tags ≠ 0
  · rw [if_pos htags, tagsFit_and_iff, tags_ruleAccum_meets_iff]
    have hasked := hsome.1 htags
    exact ⟨fun h => ⟨fun _ => h, fun hnone => absurd hasked hnone⟩, fun h => h.1 hasked⟩
  · rw [if_neg htags, hv]
    have hasked : ¬Asked.SomeTag (s.desk.matching w) (s.luaRule w) := fun h => htags (hsome.2 h)
    constructor
    · intro h
      refine ⟨fun hs => absurd hs hasked, fun _ v' hv' => ?_⟩
      obtain rfl := Option.some.inj hv'
      exact h
    · intro h
      exact h.2 hasked v rfl

/-- A window without a parent is sound exactly when what is asked for fits. -/
theorem rule_sound_request_iff (h : (s.desk.client w).toplevel_parent = none) :
    s.RuleSound w ↔ s.RequestFits w := by
  have hdesk := s.desk_apply_rules w h
  obtain ⟨htags, hmon, hkey, hrecord⟩ := st_settle (s.ruledDesk w) w (s.ruleAccum w)
  have htarget : (s.ruledDesk w).target_monitor_for_window (s.ruleAccum w).monitor =
      s.ruleMonitor w := by
    rw [monitor_ruleAccum]
    rfl
  have hjump := record_jumped_iff (w := w) htarget fun _ => s.within_switch_ruleAccum w
  have hmonitor : s.ruleMonitor w < s.desk.monitors.length ↔ _ := target_lt_iff s.desk _
  rw [htarget] at htags hmon
  rw [scratch_key_ruleAccum] at hkey
  rw [switch_ruleAccum_eq_zero_iff] at hjump
  have hold : ((s.ruledDesk w).st w).switch_to_tag = (s.desk.st w).switch_to_tag :=
    Windows.modify_field WindowState.switch_to_tag s.desk.st w w _ fun _ => rfl
  rw [hold] at hjump
  have hshown (hlt : s.ruleMonitor w < s.desk.monitors.length) :
      ∃ v, s.desk.viewAt (s.ruleMonitor w) = some v :=
    ⟨_, congrArg (Option.map Monitor.tags) (List.getElem?_eq_getElem hlt)⟩
  constructor
  · intro hs
    have hstags := hs.tags
    have hsmonitor := hs.monitor
    have hsrecord := hs.record
    rw [hdesk, cfg_settle, hkey, htags] at hstags
    rw [hdesk, hmon, length_settle] at hsmonitor
    rw [hdesk, hmon, hrecord, viewAt_settle] at hsrecord
    obtain ⟨v, hv⟩ := hshown hsmonitor
    obtain ⟨hsome, hnone⟩ := (s.tagsFit_request_iff w hv).1 hstags
    exact ⟨hmonitor.1 hsmonitor, hsome, hnone, hjump.1 hsrecord⟩
  · intro hr
    refine ⟨?_, ?_, fun i hi => ⟨h, ?_⟩, ?_⟩
    · obtain ⟨v, hv⟩ := hshown (hmonitor.2 hr.monitor)
      rw [hdesk, cfg_settle, hkey, htags]
      exact (s.tagsFit_request_iff w hv).2 ⟨hr.tags, hr.shown⟩
    · rw [hdesk, hmon, length_settle]
      exact hmonitor.2 hr.monitor
    · rw [hdesk, viewAt_settle] at hi
      obtain ⟨mask, hmask⟩ := switch_of_viewAt_jumped hi
      exact s.asked_of_switch_ruleAccum w hmask
    · rw [hdesk, hmon, hrecord, viewAt_settle]
      exact hjump.2 hr.switch

/-- **`apply_rules` is sound exactly when the parent of the window fits, or, without one, what the
rules and the callback ask for.** -/
theorem rule_sound_iff : s.RuleSound w ↔ s.RulesFit w := by
  unfold RulesFit
  split
  · rename_i parent h
    exact rule_sound_parent_iff s w h
  · rename_i h
    exact rule_sound_request_iff s w h

/-- A rule that shows every new window on a tenth tag. -/
def tenthTag : Rule := ⟨none, none, 2 ^ 9, true, false, -1, noScratch, false⟩

/-- One output, and a new window, with nine tags. -/
def beforeRules : Rwl :=
  run step (init { plainSetup [] [] with cfg := { plainConfig [] [] with rules := [tenthTag] } })
    [.output_added 0 (plainOutput "a"), .new_toplevel 0 (plainClient 10)]

/-- The window gets no tag, and records a view that its monitor still shows. -/
theorem not_rule_sound : ¬∀ s w, RuleSound s w := by
  intro h
  have hrecord := (h beforeRules 0).record
  have hafter : ((beforeRules.apply_rules 0).desk.st 0).switch_to_tag = some 1 ∧
      ((beforeRules.apply_rules 0).desk.st 0).mon_idx = 0 ∧
      (beforeRules.apply_rules 0).desk.viewAt 0 = some 1 := by decide +kernel
  have hbefore : (beforeRules.desk.st 0).switch_to_tag = none ∧
      beforeRules.desk.viewAt 0 = some 1 := by decide +kernel
  rw [hafter.1, hafter.2.1, hafter.2.2, hbefore.1, hbefore.2, if_pos rfl] at hrecord
  cases hrecord

example : ((beforeRules.apply_rules 0).desk.st 0).tags = 0 := by decide +kernel

end Rwl

end Compositor
