import Mathlib.Tactic.Common
import Rwl.Core.Actions

/-!
# Window rules and swallowing

* `swallow`: `find_target`, `try_swallow`, `on_unmap`;
* `RuleAccum`, `accumulate`, `overrideRules`: what the rules say about a window;
* `apply_rules`;
* `auto_back_empty_tag.on_window_closed`.
-/

namespace Compositor

/-! ### Swallowing -/

namespace swallow

/-- `str::eq_ignore_ascii_case`. -/
def eq_ignore_ascii_case (a b : String) : Bool := decide (a.toLower = b.toLower)

/-- `is_terminal`. -/
def is_terminal (cfg : Config) (app_id : String) : Bool :=
  cfg.swallow_terminals.any fun t => eq_ignore_ascii_case t app_id

/-- Whether a rule with these patterns matches a window. -/
def ruleMatches (r : Rule) (appid title : String) : Bool :=
  (r.id.all fun id => contains appid id) && r.title.all fun t => contains title t

/-- `window_pid`: X11 windows have none. -/
def window_pid (d : Desk) (w : WinId) : Option ℕ :=
  if (d.client w).x11.isNone then (d.client w).pid else none

/-- The terminals that may be hidden, with their processes. -/
def candidates (d : Desk) (child : WinId) : List (ℕ × WinId) :=
  (d.windows.filter fun w =>
    decide (w ≠ child) && !(d.st w).is_swallowed &&
      (d.st w).last_appid.any (is_terminal d.cfg)).filterMap fun w =>
        (window_pid d w).map fun p => (p, w)

/-- The nearest candidate among the ancestors of a process, at most `fuel` generations up. -/
def walk (d : Desk) (cands : List (ℕ × WinId)) : ℕ → Option ℕ → Option WinId
  | 0, _ | _, none => none
  | fuel + 1, some p =>
      if p ≤ 1 then none
      else match cands.find? fun c => decide (c.1 = p) with
        | some (_, term) => some term
        | none => walk d cands fuel (d.parent_pid p)

/-- `find_target`. -/
def find_target (d : Desk) (child : WinId) (appid title : String) : Option WinId :=
  if d.cfg.swallow_enabled = false ∨ is_terminal d.cfg appid ∨ (d.st child).no_swallow ∨
      (d.cfg.rules.any fun r => r.no_swallow && ruleMatches r appid title) then none
  else (window_pid d child).bind fun pid => walk d (candidates d child) 32 (d.parent_pid pid)

/-- `do_swallow`. -/
def do_swallow (d : Desk) (child term : WinId) : Desk :=
  let t := d.st term
  (d.modifyWindow child fun s =>
    { s with
      tags := t.tags
      mon_idx := t.mon_idx
      is_floating := t.is_floating
      cfact := t.cfact
      needs_centering := t.is_floating
      swallowing := some term }).modifyWindow term fun s => { s with is_swallowed := true }

/-- `try_swallow`. -/
def try_swallow (d : Desk) (child : WinId) : Desk :=
  let st := d.st child
  match find_target d child (st.last_appid.getD "") (st.last_title.getD "") with
  | some term => do_swallow d child term
  | none => d

/-- The terminal `on_unmap` brings back. -/
def restored (d : Desk) (w : WinId) : Option WinId :=
  (d.st w).swallowing.filter fun term => decide (term ∈ d.windows)

/-- `on_unmap`: the terminal comes back where its child was; a hidden terminal that exits is
forgotten by its child. -/
def on_unmap (d : Desk) (w : WinId) : Desk :=
  let st := d.st w
  let d₁ := match restored d w with
    | some term => d.modifyWindow term fun s =>
        { s with is_swallowed := false, tags := st.tags, mon_idx := st.mon_idx }
    | none => d
  if (d₁.st w).is_swallowed then
    { d₁ with st := d₁.st.modifyAll d₁.windows fun _ s =>
        { s with swallowing := if s.swallowing = some w then none else s.swallowing } }
  else d₁

theorem monitors_on_unmap (d : Desk) (w : WinId) : (on_unmap d w).monitors = d.monitors := by
  unfold on_unmap
  dsimp only
  split <;> split_ifs <;> rfl

theorem monitors_try_swallow (d : Desk) (w : WinId) : (try_swallow d w).monitors = d.monitors := by
  unfold try_swallow
  dsimp only
  split <;> rfl

end swallow

/-! ### Rules -/

/-- What the matching rules add up to. -/
structure RuleAccum where
  tags : ℕ
  is_floating : Bool
  scratch_key : Char
  monitor : ℤ
  switch_to_tag : Option ℕ

/-- Add one rule. -/
def RuleAccum.add (valid_tags : ℕ) (acc : RuleAccum) (r : Rule) : RuleAccum where
  tags := acc.tags ||| r.tags
  is_floating := acc.is_floating || r.is_floating
  scratch_key := if r.scratch_key = noScratch then acc.scratch_key else r.scratch_key
  monitor := if 0 ≤ r.monitor then r.monitor else acc.monitor
  switch_to_tag :=
    if r.switch_to_tag ∧ r.tags ≠ 0 then some (r.tags &&& valid_tags) else acc.switch_to_tag

/-- Layer an `on_window_rule` result on the rules. -/
def RuleAccum.override (valid_tags : ℕ) (acc : RuleAccum) (ov : RuleOverride) : RuleAccum :=
  let tags := ov.tags.getD acc.tags
  { tags := tags
    is_floating := ov.floating.getD acc.is_floating
    scratch_key := ov.scratch_key.getD acc.scratch_key
    monitor := ov.monitor.getD acc.monitor
    switch_to_tag := match ov.switch_to_tag with
      | some true => if tags &&& valid_tags ≠ 0 then some (tags &&& valid_tags) else acc.switch_to_tag
      | some false => none
      | none => acc.switch_to_tag }

/-- The client declared the window a dialog; a transient X11 window counts as one. -/
def Client.is_dialog (c : Client) : Bool :=
  match c.x11 with
  | some x => x.is_transient
  | none => decide (c.dialog_hint ≠ .Unknown)

/-- The parent an xdg toplevel declared. -/
def Client.toplevel_parent (c : Client) : Option SurfaceId := c.parent.filter fun _ => c.x11.isNone

/-- The rules for a window without a parent. -/
def accumulate (d : Desk) (w : WinId) : RuleAccum :=
  let c := d.client w
  let matching := d.cfg.rules.filter fun r => swallow.ruleMatches r (c.app_id.getD "") (c.title.getD "")
  matching.foldl (RuleAccum.add d.cfg.tag_mask)
    { tags := 0
      is_floating := c.window_is_float_type || c.is_dialog || (d.st w).is_floating
      scratch_key := noScratch
      monitor := -1
      switch_to_tag := none }

/-- The view jump of a rule: monitor `mon_idx` shows `tag_mask` and the window remembers what it
showed before. -/
def switchTo (d : Desk) (w : WinId) (mon_idx tag_mask : ℕ) : Desk :=
  let d₁ := d.update_tag_history mon_idx tag_mask
  match d₁.monitors[mon_idx]? with
  | none => d₁
  | some m =>
      let prev := m.tags
      let effective := tag_mask &&& d.cfg.tag_mask
      if prev = effective then d₁
      else
        let d₂ := (d₁.mark_slide_outs prev effective m.w.size.w).modifyMonitor mon_idx
          (Monitor.view d.cfg · tag_mask)
        { d₂.modifyWindow w (fun s => { s with switch_to_tag := some prev }) with
          pending_tag_transition := some (prev, effective, (m.w.size.w : ℚ)) }

/-- A dialog floats on its parent's tags and monitor. -/
def adoptParent (d : Desk) (w : WinId) (parent : SurfaceId) : Desk :=
  let (mon, tags) := match d.window_map parent with
    | some pw => ((d.st pw).mon_idx, (d.st pw).tags)
    | none => (d.sel_mon, (d.sel_monitor.map Monitor.tags).getD 1)
  d.modifyWindow w fun s =>
    { s with tags := tags, is_floating := true, needs_centering := true, mon_idx := mon }

/-- The end of `apply_rules`, with the rules added up. -/
def settle (d : Desk) (w : WinId) (acc : RuleAccum) : Desk :=
  let c := d.client w
  let appid := c.app_id.getD ""
  let title := c.title.getD ""
  let mon_idx := d.target_monitor_for_window acc.monitor
  let effective_tags :=
    if acc.tags ≠ 0 then acc.tags &&& d.cfg.tag_mask
    else ((d.monitors[mon_idx]?).map Monitor.tags).getD 1
  let will_swallow := (swallow.find_target d w appid title).isSome
  let d₁ := match acc.switch_to_tag with
    | some tag_mask => if will_swallow then d else switchTo d w mon_idx tag_mask
    | none => d
  d₁.modifyWindow w fun s =>
    { s with
      tags := effective_tags
      is_floating := acc.is_floating
      needs_centering := acc.is_floating && c.x11.isNone
      scratch_key := acc.scratch_key
      mon_idx := mon_idx
      last_appid := s.last_appid.or (some appid)
      last_title := s.last_title.or (some title) }

namespace Rwl

/-- `apply_rules`. -/
def apply_rules (s : Rwl) (w : WinId) : Rwl :=
  match (s.desk.client w).toplevel_parent with
  | some parent => s.modifyDesk (adoptParent · w parent)
  | none =>
      let acc := accumulate s.desk w
      let ov := s.lua.window_rule s.hooks.calls w
      let s₁ := s.fire (.window_rule w)
      match ov with
      | some ov =>
          s₁.modifyDesk fun d =>
            settle (d.modifyWindow w fun st =>
                { st with no_swallow := ov.no_swallow.getD st.no_swallow }) w
              (acc.override d.cfg.tag_mask ov)
      | none => s₁.modifyDesk fun d => settle d w acc

end Rwl

/-! ### Leaving an empty view -/

namespace auto_back_empty_tag

/-- Monitor `mon_idx` has a window on one of `tags`. -/
def hasWindows (d : Desk) (mon_idx tags : ℕ) : Bool :=
  d.windows.any fun w => decide ((d.st w).mon_idx = mon_idx) && (d.st w).visible_on tags

/-- The view to go back to. -/
def target (d : Desk) (mon_idx current_tags : ℕ) (switch_to_tag : Option ℕ) : Option ℕ :=
  let recorded := switch_to_tag.filter fun prev =>
    decide (prev ≠ current_tags) && hasWindows d mon_idx prev
  let past := (d.tag_history[mon_idx]?).bind fun h => h.reverse.find? (hasWindows d mon_idx)
  let previous := (d.monitors[mon_idx]?).bind fun m =>
    let prev := m.tagset (!m.sel_tags)
    if prev = 0 ∨ prev = current_tags ∨ hasWindows d mon_idx prev = false then none else some prev
  let any := d.windows.findSome? fun w =>
    if (d.st w).mon_idx = mon_idx ∧ (d.st w).tags ≠ 0 then some (d.st w).tags else none
  ((recorded.or past).or previous).or any

/-- `on_window_closed`. -/
def on_window_closed (s : Rwl) (mon_idx current_tags : ℕ) (switch_to_tag : Option ℕ) : Rwl :=
  if current_tags = 0 ∨ s.desk.cfg.auto_back_empty_tag = false ∨
      hasWindows s.desk mon_idx current_tags then s
  else
    let s₁ := s.modifyDesk fun d =>
      { d with tag_history := d.tag_history.modify mon_idx fun h =>
          h.filter fun t => decide (t ≠ current_tags) }
    match target s₁.desk mon_idx current_tags switch_to_tag with
    | none => s₁
    | some target_tags =>
        let s₂ := s₁.modifyDesk fun d =>
          (d.modifyMonitor mon_idx fun m =>
            pertag_layouts.apply d.cfg
              { m with tagset := Function.update m.tagset m.sel_tags target_tags } target_tags)
        let output_w := s₂.desk.outputWidth mon_idx
        -- a tag switch in the middle of a key repeat ends it
        let s₃ := (s₂.modifyDesk
          (Desk.mark_slide_outs · current_tags target_tags output_w)).cancelRepeat.arrange_all
        (s₃.modifyDesk (Desk.start_tag_transition · current_tags target_tags output_w)).focus_top

end auto_back_empty_tag

end Compositor
