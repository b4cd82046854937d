import Mathlib.Tactic.Common
import Rwl.Theory.TagSlides

/-!
# Tag switches and their slides

* `TagSwitch`: the switches by key, rule, auto-back and socket, with the monitor of each and the
  view it slides to;
* `heldAt_view`, `heldAt_view_prev`, …: the view that a switch leaves behind;
* `TagSwitch.slides`: the slides that a switch starts;
* `TagSwitch.Own`: only windows that come or go on the monitor of the switch slide;
* `tag_slides_own_iff`: when that is so; the end of a slide unmaps no window with a visible tag.
-/

namespace Compositor

open Transition

/-- The switches by key or socket, by a rule, and by leaving an empty view; `view` and
`toggleview` on the socket are for one output. -/
inductive TagSwitch
  | view (mask : ℕ)
  | view_prev
  | view_next_occ_tag (dir : ℤ)
  | view_tag_spawn (mask : ℕ)
  | toggle_view (mask : ℕ)
  | tag (mask : ℕ)
  | focus_urgent
  | rule (w : WinId)
  | auto_back (mon_idx : ℕ) (switch_to_tag : Option ℕ)
  | ipc_view (mon_idx val : ℕ)
  | ipc_toggleview (mon_idx val : ℕ)

namespace Rwl

/-- The tags that the rules give a window. -/
def ruleTags (s : Rwl) (w : WinId) : ℕ :=
  if (s.ruleAccum w).tags ≠ 0 then (s.ruleAccum w).tags &&& s.desk.cfg.tag_mask
  else (s.desk.viewAt (s.ruleMonitor w)).getD 1

end Rwl

open Rwl

namespace TagSwitch

/-- The state after the switch. -/
def run (s : Rwl) : TagSwitch → Rwl
  | .view mask => s.dispatch (.View mask)
  | .view_prev => s.dispatch .ViewPrev
  | .view_next_occ_tag dir => s.dispatch (.ViewNextOccTag dir)
  | .view_tag_spawn mask => s.dispatch (.ViewTagSpawn mask)
  | .toggle_view mask => s.dispatch (.ToggleView mask)
  | .tag mask => s.dispatch (.Tag mask)
  | .focus_urgent => s.focus_urgent
  -- the first commit applies the rules and then arranges
  | .rule w => (s.apply_rules w).arrange_all
  | .auto_back i jump => auto_back_empty_tag.on_window_closed s i (s.desk.tagsOf i) jump
  | .ipc_view i val => s.ipc_command .view (some i) val
  | .ipc_toggleview i val => s.ipc_command .toggleview (some i) val

/-- The monitor of the switch. -/
def mon (s : Rwl) : TagSwitch → ℕ
  | .view _ | .view_prev | .view_next_occ_tag _ | .view_tag_spawn _ | .toggle_view _ | .tag _ =>
      s.desk.sel_mon
  | .focus_urgent =>
      ((urgentWindow s.desk).map fun w => (s.desk.st w).mon_idx).getD s.desk.sel_mon
  | .rule w => s.ruleMonitor w
  | .auto_back i _ | .ipc_view i _ | .ipc_toggleview i _ => i

/-- The view that the switch slides to: toggled views and followed windows come at once. -/
def target (s : Rwl) : TagSwitch → Option ℕ
  | .view mask | .view_tag_spawn mask | .ipc_view _ mask => some (mask &&& s.desk.cfg.tag_mask)
  | .view_prev => some ((s.desk.sel_monitor.map fun m => m.tagset (!m.sel_tags)).getD 0)
  | .view_next_occ_tag dir => (s.desk.next_occ_tag dir).map (· &&& s.desk.cfg.tag_mask)
  | .rule w =>
      if (s.desk.client w).toplevel_parent = none ∧ (s.ruledDesk w).swallowed w = false then
        (s.ruleAccum w).switch_to_tag
      else none
  | .auto_back i jump => backTo s.desk i (s.desk.tagsOf i) jump
  | .toggle_view _ | .tag _ | .focus_urgent | .ipc_toggleview _ _ => none

/-- The tags and the monitor of a window after a switch that slides: a rule moves its window. -/
def place (s : Rwl) (v : WinId) : TagSwitch → ℕ × ℕ
  | .rule w =>
      if v = w then (s.ruleTags w, s.ruleMonitor w) else ((s.desk.st v).tags, (s.desk.st v).mon_idx)
  | _ => ((s.desk.st v).tags, (s.desk.st v).mon_idx)

end TagSwitch

namespace Rwl

/-! ### The views after a switch -/

theorem heldAt_view (s : Rwl) (mask j : ℕ) :
    (s.view mask).desk.heldAt j =
      heldAfter s.desk (if j = s.desk.sel_mon then some (.view mask) else none) j := by
  unfold Rwl.view
  rw [heldAt_slideTo]
  exact heldAt_recorded s.desk s.desk.sel_mon mask (.view mask) j

theorem heldAt_view_prev (s : Rwl) (j : ℕ) :
    s.view_prev.desk.heldAt j =
      heldAfter s.desk (if j = s.desk.sel_mon then some .view_prev else none) j := by
  unfold Rwl.view_prev
  dsimp only
  rw [heldAt_slideTo]
  exact heldAt_recorded s.desk s.desk.sel_mon _ .view_prev j

theorem desk_spawn (s : Rwl) (cmd : List String) : (s.spawn cmd).desk = s.desk := by
  unfold spawn
  split_ifs <;> rfl

/-- `view_tag_spawn` shows tags as `view` does. -/
theorem view_tag_spawn_eq (s : Rwl) (mask : ℕ) : ∃ s₁ : Rwl,
    s₁.desk = showTags s.desk (mask &&& s.desk.cfg.tag_mask) ∧
      s.view_tag_spawn mask = s₁.slideTo (s.desk.tagsOf s.desk.sel_mon)
        (mask &&& s.desk.cfg.tag_mask) (s.desk.outputWidth s.desk.sel_mon) := by
  unfold view_tag_spawn
  refine ⟨_, ?_, rfl⟩
  split
  · split
    · exact desk_spawn _ _
    · rfl
  · rfl

theorem heldAt_view_tag_spawn (s : Rwl) (mask j : ℕ) :
    (s.view_tag_spawn mask).desk.heldAt j =
      heldAfter s.desk
        (if j = s.desk.sel_mon then some (.view (mask &&& s.desk.cfg.tag_mask)) else none) j := by
  obtain ⟨s₁, hdesk, heq⟩ := s.view_tag_spawn_eq mask
  rw [heq, heldAt_slideTo, hdesk]
  exact heldAt_recorded s.desk s.desk.sel_mon _ (.view _) j

/-- The view of a monitor after an operation on it. -/
theorem tagsOf_of_heldAt {d d' : Desk} {i : ℕ} {op : MonitorOp}
    (h : d'.heldAt i = heldAfter d (some op) i) {m : Monitor} (hm : d.monitors[i]? = some m) :
    d'.tagsOf i = (op.run d.cfg m).tags := by
  have hviews := congrArg (Option.map Prod.fst) h
  unfold Desk.heldAt heldAfter at hviews
  rw [hm, Option.map_map] at hviews
  unfold Desk.tagsOf
  exact congrArg (Option.getD · 0) hviews

/-- A monitor whose old view slides exists. -/
theorem monitor_of_slides {d : Desk} {i new : ℕ} (h : d.slides (d.tagsOf i) new) :
    ∃ m, d.monitors[i]? = some m ∧ d.tagsOf i = m.tags := by
  unfold Desk.slides Desk.tagsOf at *
  cases hm : d.monitors[i]? with
  | none =>
    rw [hm] at h
    exact absurd rfl h.1
  | some m => exact ⟨m, rfl, rfl⟩

/-- A view that slides is shown. -/
theorem tagsOf_of_view {d d' : Desk} {i mask : ℕ}
    (h : d'.heldAt i = heldAfter d (some (.view mask)) i)
    (hslides : d.slides (d.tagsOf i) (mask &&& d.cfg.tag_mask)) :
    d'.tagsOf i = mask &&& d.cfg.tag_mask := by
  obtain ⟨m, hm, hold⟩ := monitor_of_slides hslides
  have hnew : ¬(mask &&& d.cfg.tag_mask = 0 ∨ mask &&& d.cfg.tag_mask = m.tags) := by
    rw [hold] at hslides
    exact not_or.2 ⟨hslides.2.1, hslides.2.2.1⟩
  rw [tagsOf_of_heldAt h hm]
  exact (Monitor.tags_view d.cfg m mask).trans (if_neg hnew)

/-! ### The slides that a switch starts -/

/-- Nothing slides where the slideshow stays. -/
theorem switches_of_slideshow {d d' : Desk} {old new : ℕ} {v : WinId}
    (h : d'.slideshow.2.2 v = d.slideshow.2.2 v) (hno : ¬d.slides old (new &&& d.cfg.tag_mask)) :
    Desk.Switches d d' old new (fun v => ((d.st v).tags, (d.st v).mon_idx)) v := by
  refine ⟨fun hon => absurd hon.1 hno, fun _ => ?_, Prod.ext ?_ ?_, ?_⟩
  · exact (congrArg Sliding.slide_start h :)
  · exact (congrArg Sliding.tags h :)
  · exact (congrArg Sliding.mon_idx h :)
  · exact (congrArg Sliding.is_swallowed h :)

/-- The windows after a switch from the view of monitor `i`, and the view it leaves behind. -/
structure Slides (d d' : Desk) (i t : ℕ) (place : WinId → ℕ × ℕ) : Prop where
  windows : ∀ v, Desk.Switches d d' (d.tagsOf i) t place v
  shows : d.slides (d.tagsOf i) (t &&& d.cfg.tag_mask) → d'.tagsOf i = t

section Switches

variable {s : Rwl}

theorem slides_view (h : s.desk.pending_tag_transition = none) (mask : ℕ) :
    Slides s.desk (s.view mask).desk s.desk.sel_mon (mask &&& s.desk.cfg.tag_mask)
      fun v => ((s.desk.st v).tags, (s.desk.st v).mon_idx) := by
  have hpending : (showTags s.desk mask).pending_tag_transition = none := by
    rw [showTags_eq]
    exact h
  have hshow : (showTags s.desk mask).slideshow = s.desk.slideshow := by
    rw [showTags_eq]
    rfl
  refine ⟨fun v => ?_, fun hslides => ?_⟩
  · exact (sliding_slideTo (s := s.modifyDesk (showTags · mask)) hpending hshow _ _ _ v).masked
  · rw [Nat.and_assoc, Nat.and_self] at hslides
    exact tagsOf_of_view ((s.heldAt_view mask _).trans (by rw [if_pos rfl])) hslides

theorem slides_view_prev (h : s.desk.pending_tag_transition = none) :
    Slides s.desk s.view_prev.desk s.desk.sel_mon
      ((s.desk.sel_monitor.map fun m => m.tagset (!m.sel_tags)).getD 0)
      fun v => ((s.desk.st v).tags, (s.desk.st v).mon_idx) := by
  refine ⟨fun v => ?_, fun hslides => ?_⟩
  · unfold view_prev
    dsimp only
    refine sliding_slideTo ?_ ?_ _ _ _ v
    · show (s.desk.update_tag_history _ _).pending_tag_transition = none
      rw [update_tag_history_eq]
      exact h
    · exact Desk.slideshow_update_tag_history s.desk _ _
  · obtain ⟨m, hm, -⟩ := monitor_of_slides hslides
    have hsel : s.desk.sel_monitor = some m := hm
    rw [tagsOf_of_heldAt ((s.heldAt_view_prev _).trans (by rw [if_pos rfl])) hm, hsel]
    exact Monitor.tags_apply s.desk.cfg { m with sel_tags := !m.sel_tags } _

theorem slides_view_tag_spawn (h : s.desk.pending_tag_transition = none) (mask : ℕ) :
    Slides s.desk (s.view_tag_spawn mask).desk s.desk.sel_mon (mask &&& s.desk.cfg.tag_mask)
      fun v => ((s.desk.st v).tags, (s.desk.st v).mon_idx) := by
  obtain ⟨s₁, hdesk, heq⟩ := s.view_tag_spawn_eq mask
  refine ⟨fun v => ?_, fun hslides => ?_⟩
  · rw [heq]
    refine sliding_slideTo ?_ ?_ _ _ _ v
    · rw [hdesk, showTags_eq]
      exact h
    · rw [hdesk, showTags_eq]
      rfl
  · have hview := tagsOf_of_view
      ((s.heldAt_view_tag_spawn mask _).trans (by rw [if_pos rfl])) hslides
    rw [hview, Nat.and_assoc, Nat.and_self]

theorem slides_auto_back (h : s.desk.pending_tag_transition = none) {i t : ℕ} {jump : Option ℕ}
    (ht : backTo s.desk i (s.desk.tagsOf i) jump = some t) :
    Slides s.desk (auto_back_empty_tag.on_window_closed s i (s.desk.tagsOf i) jump).desk i t
      fun v => ((s.desk.st v).tags, (s.desk.st v).mon_idx) := by
  rw [on_window_closed_eq ht]
  let s₁ := (s.modifyDesk (backed · i (s.desk.tagsOf i) t)).cancelRepeat
  have hshow : s₁.desk.slideshow = s.desk.slideshow := rfl
  have hpending : s₁.desk.pending_tag_transition = none := h
  refine ⟨fun v => sliding_slideTo hpending hshow _ _ _ v, fun hslides => ?_⟩
  obtain ⟨m, hm, -⟩ := monitor_of_slides hslides
  have hheld : ((s.modifyDesk (backed · i (s.desk.tagsOf i) t)).cancelRepeat.slideTo
      (s.desk.tagsOf i) t ((backed s.desk i (s.desk.tagsOf i) t).outputWidth i)).desk.heldAt i =
        heldAfter s.desk (some (.retag t)) i := by
    rw [heldAt_slideTo]
    exact (heldAt_monitor _ i (.retag t) i).trans (by rw [if_pos rfl]; rfl)
  rw [tagsOf_of_heldAt hheld hm]
  exact (Monitor.tags_apply ..).trans (Function.update_self ..)

/-- A switch that leaves its slide waiting slides once everything is arranged. -/
theorem slides_waiting {d₁ : Desk} {s₁ : Rwl} {old new : ℕ} {place : WinId → ℕ × ℕ} (ow : ℚ)
    (hbefore : d₁.slideshow = s.desk.slideshow)
    (hwaits : s₁.desk.slideshow = (s.desk.slideshow.1, some (old, new, ow), fun v =>
      ((d₁.mark_slide_outs old new ow).st v).sliding.moved (place v))) (v : WinId) :
    Desk.Switches s.desk s₁.arrange_all.desk old new place v := by
  obtain ⟨hframe, hrest⟩ := Prod.mk.inj hwaits
  obtain ⟨hpending, hmoved⟩ := Prod.mk.inj hrest
  obtain ⟨d₂, harranged, hpassed⟩ := arrange_all_waiting hpending
  refine Desk.switches_of_sliding ?_
  rw [harranged]
  refine Desk.sliding_switch hbefore ((congrArg Prod.fst hpassed).trans hframe) ?_
  exact (congrFun (congrArg (fun p => p.2.2) hpassed :) v).trans (congrFun hmoved v)

theorem frame_mark_slide_outs (d : Desk) (old new : ℕ) (ow : ℚ) :
    (d.mark_slide_outs old new ow).slideshow.1 = d.slideshow.1 :=
  (congrArg (fun b : Desk => (b.windows, b.cfg, b.now)) (Desk.bare_mark_slide_outs d old new ow) :)

/-- The slides are those of the desk before the focus moves. -/
theorem Desk.Switches.congr {d d' d'' : Desk} {old new : ℕ} {place : WinId → ℕ × ℕ} {v : WinId}
    (h : Desk.Switches d d' old new place v) (hshow : d''.slideshow = d'.slideshow) :
    Desk.Switches d d'' old new place v := by
  have hsame : (d''.st v).sliding = (d'.st v).sliding :=
    congrFun (congrArg (fun p => p.2.2) hshow :) v
  have hstart : (d''.st v).slide_start = (d'.st v).slide_start :=
    congrArg Sliding.slide_start hsame
  refine ⟨fun hon hstarts => hstart.trans (h.starts hon hstarts),
    fun hnot => hstart.trans (h.keeps hnot), ?_, ?_⟩
  · rw [← h.place]
    exact Prod.ext (congrArg Sliding.tags hsame) (congrArg Sliding.mon_idx hsame)
  · exact (congrArg Sliding.is_swallowed hsame :).trans h.swallowed

theorem desk_ipc_command_one (cmd : IpcCmd) (i val : ℕ) : ∃ s₁ : Rwl,
    s₁ = (s.modifyDesk (ipcApply cmd val · i)).arrange_all ∧
      ((s.ipc_command cmd (some i) val).desk = s₁.desk ∨
        (s.ipc_command cmd (some i) val).desk = s₁.focus_top.desk) := by
  refine ⟨_, rfl, ?_⟩
  unfold ipc_command
  dsimp only [ipcOutputs, List.foldl]
  split_ifs
  · exact .inr rfl
  · exact .inl rfl
  · exact .inr rfl
  · exact .inl rfl

theorem slideshow_ipc_command (cmd : IpcCmd) (i val : ℕ) :
    (s.ipc_command cmd (some i) val).desk.slideshow =
      (s.modifyDesk (ipcApply cmd val · i)).arrange_all.desk.slideshow := by
  obtain ⟨s₁, rfl, h | h⟩ := s.desk_ipc_command_one cmd i val
  · rw [h]
  · rw [h]
    exact slideshow_focus_top (pending_arrange_all _)

theorem slides_ipc_view (h : s.desk.pending_tag_transition = none) (i val : ℕ) :
    Slides s.desk (s.ipc_command .view (some i) val).desk i (val &&& s.desk.cfg.tag_mask)
      fun v => ((s.desk.st v).tags, (s.desk.st v).mon_idx) := by
  refine ⟨fun v => ?_, fun hslides => ?_⟩
  · refine Desk.Switches.congr ?_ (slideshow_ipc_command .view i val)
    by_cases hmask : val &&& s.desk.cfg.tag_mask = 0
    · have happly : ipcApply .view val s.desk i = s.desk := if_pos hmask
      refine switches_of_slideshow ?_ fun hslides => hslides.2.1 ?_
      · have harranged := slideshow_arrange_all
          (s := s.modifyDesk (ipcApply .view val · i)) (by
            show (ipcApply .view val s.desk i).pending_tag_transition = none
            rw [happly]
            exact h)
        rw [harranged]
        show (ipcApply .view val s.desk i).slideshow.2.2 v = _
        rw [happly]
      · rw [hmask, Nat.zero_and]
    · let d₀ := if i = s.desk.sel_mon then
          s.desk.update_tag_history i (val &&& s.desk.cfg.tag_mask) else s.desk
      have hrecord : d₀.slideshow = s.desk.slideshow ∧ d₀.monitors = s.desk.monitors := by
        show (ite _ _ _ : Desk).slideshow = _ ∧ (ite _ _ _ : Desk).monitors = _
        split_ifs
        · exact ⟨Desk.slideshow_update_tag_history .., Desk.monitors_update_tag_history ..⟩
        · exact ⟨rfl, rfl⟩
      have hold : d₀.tagsOf i = s.desk.tagsOf i := by
        unfold Desk.tagsOf
        rw [hrecord.2]
      let d₁ := d₀.modifyMonitor i (Monitor.view s.desk.cfg · (val &&& s.desk.cfg.tag_mask))
      have happly : ipcApply .view val s.desk i =
          { d₁.mark_slide_outs (d₀.tagsOf i) (val &&& s.desk.cfg.tag_mask) (d₀.outputWidth i) with
            pending_tag_transition :=
              some (d₀.tagsOf i, val &&& s.desk.cfg.tag_mask, d₀.outputWidth i) } := if_neg hmask
      rw [← hold]
      have hbefore : d₁.slideshow = s.desk.slideshow := hrecord.1
      refine slides_waiting (d₀.outputWidth i) hbefore ?_ v
      show (ipcApply .view val s.desk i).slideshow = _
      rw [happly]
      refine Prod.ext ?_ (Prod.ext rfl (funext fun v => ?_))
      · have hframe : d₁.slideshow.1 = s.desk.slideshow.1 := congrArg Prod.fst hbefore
        exact (frame_mark_slide_outs d₁ _ _ _).trans hframe
      · exact Desk.sliding_mark_slide_outs_moved hbefore _ _ _ v
  · rw [Nat.and_assoc, Nat.and_self] at hslides
    have hheld := s.heldAt_ipc_command .view (some i) val i
    rw [if_pos (show i ∈ ipcOutputs s.desk (some i) from List.mem_singleton.2 rfl)] at hheld
    exact tagsOf_of_view hheld hslides

/-- The end of `apply_rules` moves its window. -/
theorem slideshow_settle (d : Desk) (w : WinId) (acc : RuleAccum) :
    (settle d w acc).slideshow = ((jumped d w acc).slideshow.1,
      (jumped d w acc).pending_tag_transition, fun v =>
        ((jumped d w acc).st v).sliding.moved
          (if v = w then
            (if acc.tags ≠ 0 then acc.tags &&& d.cfg.tag_mask
              else (d.viewAt (d.target_monitor_for_window acc.monitor)).getD 1,
              d.target_monitor_for_window acc.monitor)
          else (((jumped d w acc).st v).tags, ((jumped d w acc).st v).mon_idx))) := by
  refine Prod.ext rfl (Prod.ext rfl (funext fun v => ?_))
  by_cases hv : v = w
  · subst hv
    dsimp only
    rw [if_pos rfl]
    exact (congrArg WindowState.sliding (Windows.modify_self (jumped d v acc).st v _) :)
  · dsimp only
    rw [if_neg hv]
    have hother : (settle d w acc).st v = (jumped d w acc).st v := Function.update_of_ne hv ..
    exact (congrArg WindowState.sliding hother :)

/-- A view jump slides unless its monitor has that view, or is not there. -/
theorem slideshow_switchTo (d : Desk) (w : WinId) (i mask : ℕ) :
    ((switchTo d w i mask).slideshow = d.slideshow ∧
        ∀ m, d.monitors[i]? = some m → m.tags = mask &&& d.cfg.tag_mask) ∨
      ∃ ow, (switchTo d w i mask).slideshow =
        (d.slideshow.1, some (d.tagsOf i, mask &&& d.cfg.tag_mask, ow), fun v =>
          (((d.update_tag_history i mask).mark_slide_outs (d.tagsOf i)
            (mask &&& d.cfg.tag_mask) ow).st v).sliding) := by
  have hrecorded := Desk.slideshow_update_tag_history d i mask
  unfold switchTo
  dsimp only
  rw [Desk.monitors_update_tag_history]
  cases hm : d.monitors[i]? with
  | none =>
    dsimp only
    refine .inl ⟨hrecorded, fun m hm' => ?_⟩
    cases hm'
  | some m =>
    have hold : d.tagsOf i = m.tags := by
      unfold Desk.tagsOf
      rw [hm]
      rfl
    dsimp only
    split_ifs with hsame
    · refine .inl ⟨hrecorded, fun m' hm' => ?_⟩
      rw [← Option.some.inj hm']
      exact hsame
    · refine .inr ⟨m.w.size.w, ?_⟩
      rw [hold]
      have hframe := frame_mark_slide_outs (d.update_tag_history i mask) m.tags
        (mask &&& d.cfg.tag_mask) m.w.size.w
      have hleft : (d.update_tag_history i mask).slideshow.1 = d.slideshow.1 :=
        congrArg Prod.fst hrecorded
      refine Prod.ext (hframe.trans hleft) (Prod.ext rfl (funext fun v => ?_))
      exact Windows.modify_field WindowState.sliding _ w v _ fun _ => rfl

theorem slideshow_ruledDesk (s : Rwl) (w : WinId) :
    (s.ruledDesk w).slideshow = s.desk.slideshow :=
  Desk.slideshow_modifyWindow s.desk w fun _ => rfl

theorem tagsOf_arrange_all (s : Rwl) (i : ℕ) : s.arrange_all.desk.tagsOf i = s.desk.tagsOf i := by
  have hviews := congrArg (Option.map Prod.fst) (s.heldAt_arrange_all i)
  unfold Desk.heldAt at hviews
  rw [Option.map_map, Option.map_map] at hviews
  exact congrArg (Option.getD · 0) hviews

theorem slides_rule (h : s.desk.pending_tag_transition = none) {w : WinId} {mask : ℕ}
    (hparent : (s.desk.client w).toplevel_parent = none)
    (hstays : (s.ruledDesk w).swallowed w = false)
    (hmask : (s.ruleAccum w).switch_to_tag = some mask) :
    Slides s.desk (s.apply_rules w).arrange_all.desk (s.ruleMonitor w) mask
      fun v => (TagSwitch.rule w).place s v := by
  let d := s.ruledDesk w
  let i := s.ruleMonitor w
  have hi : d.target_monitor_for_window (s.ruleAccum w).monitor = i := by
    rw [monitor_ruleAccum]
    rfl
  have hwithin := s.within_switch_ruleAccum w hmask
  have hcut : mask &&& s.desk.cfg.tag_mask = mask := hwithin
  have hjumped : jumped d w (s.ruleAccum w) = switchTo d w i mask := by
    unfold jumped
    rw [hmask]
    dsimp only
    rw [if_neg (by rw [Bool.not_eq_true]; exact hstays), hi]
  have hview (j : ℕ) : d.viewAt j = s.desk.viewAt j := rfl
  have hplace (v : WinId) : (TagSwitch.rule w).place s v =
      if v = w then (if (s.ruleAccum w).tags ≠ 0 then (s.ruleAccum w).tags &&& d.cfg.tag_mask
          else (d.viewAt i).getD 1, i)
      else ((s.desk.st v).tags, (s.desk.st v).mon_idx) := rfl
  have hsettled := slideshow_settle d w (s.ruleAccum w)
  rw [hi, hjumped] at hsettled
  have happlied : (s.apply_rules w).desk = settle d w (s.ruleAccum w) := s.desk_apply_rules w hparent
  rw [← happlied] at hsettled
  refine ⟨fun v => ?_, fun hslides => ?_⟩
  · have hruled : d.slideshow = s.desk.slideshow := s.slideshow_ruledDesk w
    have hrecorded : (d.update_tag_history i mask).slideshow = s.desk.slideshow :=
      (Desk.slideshow_update_tag_history d i mask).trans hruled
    -- a jump moves no window; the rules then move theirs
    have hmoved (hkept : ∀ v, (((switchTo d w i mask).st v).tags,
        ((switchTo d w i mask).st v).mon_idx) = ((s.desk.st v).tags, (s.desk.st v).mon_idx))
        (v : WinId) : ((s.apply_rules w).desk.st v).sliding =
          ((switchTo d w i mask).st v).sliding.moved ((TagSwitch.rule w).place s v) := by
      have hstate := congrFun (congrArg (fun p => p.2.2) hsettled :) v
      rw [hplace, ← hkept v]
      exact hstate
    rcases slideshow_switchTo d w i mask with ⟨hsame, hthere⟩ | ⟨ow, hjump⟩
    · have hshow := hsame.trans hruled
      have hstate (v : WinId) : ((switchTo d w i mask).st v).sliding = (s.desk.st v).sliding :=
        congrFun (congrArg (fun p => p.2.2) hshow :) v
      have hpending : (s.apply_rules w).desk.pending_tag_transition = none :=
        (congrArg (fun p => p.2.1) hsettled :).trans ((congrArg (fun p => p.2.1) hshow :).trans h)
      have hno : ¬s.desk.slides (s.desk.tagsOf i) (mask &&& s.desk.cfg.tag_mask) := by
        intro hslides
        obtain ⟨m, hm, hold⟩ := monitor_of_slides hslides
        exact hslides.2.2.1 ((hthere m hm).symm.trans hold.symm)
      refine Desk.switches_of_sliding ?_
      rw [if_neg fun hon => hno hon.1, ← hstate v]
      have harranged := slideshow_arrange_all hpending
      refine (congrFun (congrArg (fun p => p.2.2) harranged :) v).trans (hmoved (fun v => ?_) v)
      exact Prod.ext (congrArg Sliding.tags (hstate v)) (congrArg Sliding.mon_idx (hstate v))
    · have hold : d.tagsOf i = s.desk.tagsOf i := rfl
      have hframe : d.slideshow.1 = s.desk.slideshow.1 := congrArg Prod.fst hruled
      have hmark := Desk.sliding_mark_slide_outs_moved hrecorded (s.desk.tagsOf i)
        (mask &&& s.desk.cfg.tag_mask) ow
      have hstate (v : WinId) : ((switchTo d w i mask).st v).sliding =
          (((d.update_tag_history i mask).mark_slide_outs (s.desk.tagsOf i)
            (mask &&& s.desk.cfg.tag_mask) ow).st v).sliding :=
        congrFun (congrArg (fun p => p.2.2) hjump :) v
      rw [← hcut]
      refine slides_waiting ow hrecorded (Prod.ext ?_ (Prod.ext ?_ (funext fun v => ?_))) v
      · exact (congrArg Prod.fst hsettled :).trans ((congrArg Prod.fst hjump :).trans hframe)
      · exact (congrArg (fun p => p.2.1) hsettled :).trans (congrArg (fun p => p.2.1) hjump :)
      · refine (hmoved (fun v => ?_) v).trans (congrArg _ (hstate v))
        have hseen := (hstate v).trans (hmark v)
        exact Prod.ext (congrArg Sliding.tags hseen) (congrArg Sliding.mon_idx hseen)
  · rw [tagsOf_arrange_all]
    obtain ⟨m, hm, -⟩ := monitor_of_slides hslides
    have hne : mask ≠ 0 := by
      rw [hcut] at hslides
      exact hslides.2.1
    have hshown : (s.apply_rules w).desk.viewAt i = some mask := by
      rw [happlied, viewAt_settle, hjumped, Desk.viewAt_switchTo d w i hwithin i,
        if_pos ⟨rfl, hne⟩, hview]
      unfold Desk.viewAt
      rw [hm]
      rfl
    exact congrArg (Option.getD · 0) hshown

/-! ### Switches that slide nothing -/

/-- When the slides start, and what waits. -/
def starts (d : Desk) : Option (ℕ × ℕ × ℚ) × (WinId → Option ℕ) :=
  (d.pending_tag_transition, fun v => (d.st v).slide_start)

theorem starts_of_slideshow {d d' : Desk} (h : d'.slideshow = d.slideshow) :
    starts d' = starts d :=
  Prod.ext (congrArg (fun p => p.2.1) h :)
    (funext fun v => (congrArg Sliding.slide_start (congrFun (congrArg (fun p => p.2.2) h :) v) :))

theorem starts_modifyWindow (d : Desk) (w : WinId) {f : WindowState → WindowState}
    (hf : ∀ st, (f st).slide_start = st.slide_start) : starts (d.modifyWindow w f) = starts d :=
  Prod.ext rfl (funext fun v => Windows.modify_field WindowState.slide_start d.st w v f hf)

/-- Arranging, and then perhaps focusing, starts no slide unless one waits. -/
theorem starts_arrange_all {s₁ : Rwl} (h : s.desk.pending_tag_transition = none)
    (hs : starts s₁.desk = starts s.desk) : starts s₁.arrange_all.desk = starts s.desk :=
  (starts_of_slideshow (slideshow_arrange_all ((congrArg Prod.fst hs :).trans h))).trans hs

theorem starts_arrange_focus {s₁ : Rwl} (h : s.desk.pending_tag_transition = none)
    (hs : starts s₁.desk = starts s.desk) (window : Option WinId) :
    starts (s₁.arrange_all.focus_window window).desk = starts s.desk :=
  (starts_of_slideshow (slideshow_focus_window (pending_arrange_all s₁) window)).trans
    (starts_arrange_all h hs)

theorem starts_update_tag_history (d : Desk) (i tags : ℕ) :
    starts (d.update_tag_history i tags) = starts d :=
  starts_of_slideshow (d.slideshow_update_tag_history i tags)

theorem starts_toggle_view (h : s.desk.pending_tag_transition = none) (mask : ℕ) :
    starts (s.toggle_view mask).desk = starts s.desk := by
  unfold toggle_view focus_top
  dsimp only
  refine starts_arrange_focus h ?_ _
  split_ifs
  · exact starts_update_tag_history s.desk s.desk.sel_mon _
  · rfl

theorem starts_tag (h : s.desk.pending_tag_transition = none) (mask : ℕ) :
    starts (s.tag mask).desk = starts s.desk := by
  have hshow (d : Desk) (mask : ℕ) : starts (showTags d mask) = starts d := by
    rw [showTags_eq]
    rfl
  have htagged (w : WinId) (tags : ℕ) : starts (s.desk.set_window_tags w tags) = starts s.desk :=
    starts_modifyWindow s.desk w (f := fun st => { st with tags := tags }) fun _ => rfl
  unfold Rwl.tag focus_top
  dsimp only
  split_ifs
  · rfl
  · refine starts_arrange_focus h ?_ _
    cases s.desk.focused_window with
    | none => rfl
    | some w => exact (hshow _ _).trans (htagged w _)
  · refine starts_arrange_focus h ?_ _
    cases s.desk.focused_window with
    | none => rfl
    | some w => exact htagged w _

theorem starts_focus_urgent (h : s.desk.pending_tag_transition = none) :
    starts s.focus_urgent.desk = starts s.desk := by
  unfold Rwl.focus_urgent
  cases urgentWindow s.desk with
  | none => rfl
  | some w =>
    dsimp only
    refine starts_arrange_focus h ?_ _
    split_ifs <;> rfl

theorem starts_ipc_toggleview (h : s.desk.pending_tag_transition = none) (i val : ℕ) :
    starts (s.ipc_command .toggleview (some i) val).desk = starts s.desk := by
  have happlied : starts (ipcApply .toggleview val s.desk i) = starts s.desk := by
    unfold ipcApply
    dsimp only
    split_ifs
    · rfl
    · exact starts_update_tag_history s.desk i _
    · rfl
  refine (starts_of_slideshow (slideshow_ipc_command .toggleview i val)).trans ?_
  exact starts_arrange_all h happlied

/-- The rules slide nothing unless they ask for a view. -/
theorem starts_rule (h : s.desk.pending_tag_transition = none) {w : WinId}
    (ht : (TagSwitch.rule w).target s = none) :
    starts (s.apply_rules w).arrange_all.desk = starts s.desk := by
  have happlied : starts (s.apply_rules w).desk = starts s.desk := by
    cases hparent : (s.desk.client w).toplevel_parent with
    | some parent =>
      unfold apply_rules
      rw [hparent]
      exact starts_modifyWindow s.desk w fun _ => rfl
    | none =>
      rw [s.desk_apply_rules w hparent]
      have hjumped : jumped (s.ruledDesk w) w (s.ruleAccum w) = s.ruledDesk w := by
        rcases jumped_cases (s.ruledDesk w) w (s.ruleAccum w) with
          ⟨heq, -⟩ | ⟨mask, hmask, hstays, -⟩
        · exact heq
        · dsimp only [TagSwitch.target] at ht
          rw [if_pos ⟨hparent, hstays⟩, hmask] at ht
          cases ht
      have hsettled := slideshow_settle (s.ruledDesk w) w (s.ruleAccum w)
      rw [hjumped] at hsettled
      have hruled := s.slideshow_ruledDesk w
      refine Prod.ext ?_ (funext fun v => ?_)
      · exact (congrArg (fun p => p.2.1) hsettled :).trans (congrArg (fun p => p.2.1) hruled :)
      · have hstate := congrFun (congrArg (fun p => p.2.2) hsettled :) v
        exact (congrArg Sliding.slide_start hstate :).trans
          (congrArg Sliding.slide_start (congrFun (congrArg (fun p => p.2.2) hruled :) v) :)
  exact starts_arrange_all h happlied

/-! ### Switches and time -/

theorem slides_run (h : s.desk.pending_tag_transition = none) (c : TagSwitch) {t : ℕ}
    (ht : c.target s = some t) :
    Slides s.desk (c.run s).desk (c.mon s) t fun v => c.place s v := by
  cases c with
  | view mask =>
    obtain rfl := Option.some.inj ht
    obtain ⟨s', hs, hrun⟩ := desk_dispatch (s := s) (a := .View mask) (fun _ _ => rfl) nofun
    dsimp only [TagSwitch.run, TagSwitch.mon, TagSwitch.place]
    rw [hrun, ← hs]
    exact slides_view (s := s') (hs ▸ h) mask
  | view_prev =>
    obtain rfl := Option.some.inj ht
    obtain ⟨s', hs, hrun⟩ := desk_dispatch (s := s) (a := .ViewPrev) (fun _ _ => rfl) nofun
    dsimp only [TagSwitch.run, TagSwitch.mon, TagSwitch.place]
    rw [hrun, ← hs]
    exact slides_view_prev (s := s') (hs ▸ h)
  | view_next_occ_tag dir =>
    obtain ⟨mask, hmask, rfl⟩ := Option.map_eq_some_iff.1 ht
    obtain ⟨s', hs, hrun⟩ := desk_dispatch (s := s) (a := .ViewNextOccTag dir) (fun _ _ => rfl) nofun
    have heq : s'.view_next_occ_tag dir = s'.view mask := by
      unfold Rwl.view_next_occ_tag
      rw [hs, hmask]
    dsimp only [TagSwitch.run, TagSwitch.mon, TagSwitch.place]
    rw [hrun, show s'.perform (.ViewNextOccTag dir) = s'.view mask from heq, ← hs]
    exact slides_view (s := s') (hs ▸ h) mask
  | view_tag_spawn mask =>
    obtain rfl := Option.some.inj ht
    obtain ⟨s', hs, hrun⟩ := desk_dispatch (s := s) (a := .ViewTagSpawn mask) (fun _ _ => rfl) nofun
    dsimp only [TagSwitch.run, TagSwitch.mon, TagSwitch.place]
    rw [hrun, ← hs]
    exact slides_view_tag_spawn (s := s') (hs ▸ h) mask
  | toggle_view | tag | focus_urgent | ipc_toggleview => cases ht
  | rule w =>
    dsimp only [TagSwitch.target] at ht
    split_ifs at ht with hasks
    exact slides_rule h hasks.1 hasks.2 ht
  | auto_back i jump => exact slides_auto_back h ht
  | ipc_view i val =>
    obtain rfl := Option.some.inj ht
    exact slides_ipc_view h i val

/-- A switch without a view to slide to starts no slide. -/
theorem starts_run (h : s.desk.pending_tag_transition = none) (c : TagSwitch)
    (ht : c.target s = none) : starts (c.run s).desk = starts s.desk := by
  cases c with
  | view | view_prev | view_tag_spawn | ipc_view => cases ht
  | view_next_occ_tag dir =>
    have hnone := Option.map_eq_none_iff.1 ht
    obtain ⟨s', hs, hrun⟩ := desk_dispatch (s := s) (a := .ViewNextOccTag dir) (fun _ _ => rfl) nofun
    have heq : s'.view_next_occ_tag dir = s' := by
      unfold Rwl.view_next_occ_tag
      rw [hs, hnone]
    show starts (s.dispatch (.ViewNextOccTag dir)).desk = _
    rw [hrun, show s'.perform (.ViewNextOccTag dir) = s' from heq, hs]
  | toggle_view mask =>
    obtain ⟨s', hs, hrun⟩ := desk_dispatch (s := s) (a := .ToggleView mask) (fun _ _ => rfl) nofun
    show starts (s.dispatch (.ToggleView mask)).desk = _
    rw [hrun, ← hs]
    exact starts_toggle_view (s := s') (hs ▸ h) mask
  | tag mask =>
    obtain ⟨s', hs, hrun⟩ := desk_dispatch (s := s) (a := .Tag mask) (fun _ _ => rfl) nofun
    show starts (s.dispatch (.Tag mask)).desk = _
    rw [hrun, ← hs]
    exact starts_tag (s := s') (hs ▸ h) mask
  | focus_urgent => exact starts_focus_urgent h
  | rule w => exact starts_rule h ht
  | auto_back i jump =>
    obtain ⟨history, heq⟩ := on_window_closed_stays ht
    show starts (auto_back_empty_tag.on_window_closed s i (s.desk.tagsOf i) jump).desk = _
    rw [heq]
    rfl
  | ipc_toggleview i val => exact starts_ipc_toggleview h i val

/-- Who swallows a window does not depend on the time. -/
theorem walk_congr {a b : Desk} (h : b.parent_pid = a.parent_pid) (cands : List (ℕ × WinId))
    (fuel : ℕ) (p : Option ℕ) : swallow.walk b cands fuel p = swallow.walk a cands fuel p := by
  induction fuel generalizing p with
  | zero => cases p <;> rfl
  | succ fuel ih =>
    cases p with
    | none => rfl
    | some p =>
      unfold swallow.walk
      rw [h]
      simp only [ih]

theorem target_tick (s : Rwl) (ms : ℕ) (c : TagSwitch) : c.target (step s (.tick ms)) = c.target s := by
  cases c with
  | rule w =>
    have hswallowed : ((step s (.tick ms)).ruledDesk w).swallowed w =
        (s.ruledDesk w).swallowed w := by
      unfold Desk.swallowed swallow.find_target
      simp only [walk_congr (a := s.ruledDesk w) (b := (step s (.tick ms)).ruledDesk w) rfl]
      rfl
    unfold TagSwitch.target
    dsimp only
    rw [hswallowed]
    rfl
  | _ => rfl

theorem place_tick (s : Rwl) (ms : ℕ) (c : TagSwitch) (v : WinId) :
    c.place (step s (.tick ms)) v = c.place s v := by
  cases c <;> rfl

theorem mon_tick (s : Rwl) (ms : ℕ) (c : TagSwitch) : c.mon (step s (.tick ms)) = c.mon s := by
  cases c <;> rfl

end Switches

end Rwl

/-! ### Slides on one monitor -/

/-- The window shows on monitor `i`. -/
def Desk.seen (d : Desk) (i : ℕ) (v : WinId) : Prop :=
  (d.st v).mon_idx = i ∧ (d.st v).is_swallowed = false ∧ (d.st v).visible_on (d.tagsOf i) = true

instance (d : Desk) (i : ℕ) (v : WinId) : Decidable (d.seen i v) :=
  inferInstanceAs (Decidable (_ ∧ _ ∧ _))

namespace TagSwitch

/-- Whenever the switch happens, the windows that start to slide are assigned to its monitor, and
come or go on it. -/
def Own (s : Rwl) (c : TagSwitch) : Prop :=
  ∀ ms v, let s₁ := step s (.tick ms)
    let s₂ := c.run s₁
    (s₂.desk.st v).slide_start ≠ (s₁.desk.st v).slide_start →
      (s₂.desk.st v).mon_idx = c.mon s₁ ∧
        ¬(s₂.desk.seen (c.mon s₁) v ↔ s₁.desk.seen (c.mon s₁) v)

/-- The managed windows with tags of only one of the two views are on the monitor of the switch,
and come or go on it. -/
def Confined (s : Rwl) (c : TagSwitch) : Prop :=
  ∀ t v, c.target s = some t → s.desk.SlidesOn (s.desk.tagsOf (c.mon s)) t v →
    (s.desk.st v).sliding.Starts (s.desk.tagsOf (c.mon s)) (t &&& s.desk.cfg.tag_mask)
      (c.place s v) →
      (c.place s v).2 = c.mon s ∧
        ¬((s.desk.st v).is_swallowed = false ∧ (c.place s v).1 &&& t ≠ 0 ↔
          s.desk.seen (c.mon s) v)

end TagSwitch

namespace Rwl

theorem seen_of_slides {d d' : Desk} {i t : ℕ} {place : WinId → ℕ × ℕ} {v : WinId}
    (h : Slides d d' i t place) (hslides : d.slides (d.tagsOf i) (t &&& d.cfg.tag_mask))
    (hv : (place v).2 = i) :
    (d'.st v).mon_idx = i ∧
      (d'.seen i v ↔ (d.st v).is_swallowed = false ∧ (place v).1 &&& t ≠ 0) := by
  have hplace := (h.windows v).place
  have hmon : (d'.st v).mon_idx = i := (congrArg Prod.snd hplace).trans hv
  have htags : (d'.st v).tags = (place v).1 := congrArg Prod.fst hplace
  refine ⟨hmon, ?_⟩
  unfold Desk.seen WindowState.visible_on
  rw [and_iff_right hmon, (h.windows v).swallowed, h.shows hslides, htags, bne_iff_ne]

/-- A switch that slides nothing but its own windows. -/
theorem own_of_confined {s : Rwl} (h : s.desk.pending_tag_transition = none) {c : TagSwitch}
    (hc : c.Confined s) (v : WinId)
    (hv : ((c.run s).desk.st v).slide_start ≠ (s.desk.st v).slide_start) :
    ((c.run s).desk.st v).mon_idx = c.mon s ∧
      ¬((c.run s).desk.seen (c.mon s) v ↔ s.desk.seen (c.mon s) v) := by
  cases ht : c.target s with
  | none =>
    have hstarts := starts_run h c ht
    exact absurd (congrFun (congrArg Prod.snd hstarts) v) hv
  | some t =>
    have hslides := slides_run h c ht
    have hstarts := not_not.1 fun hnot => hv ((hslides.windows v).keeps hnot)
    obtain ⟨hmon, hcomes⟩ := hc t v ht hstarts.1 hstarts.2
    obtain ⟨hmon', hseen⟩ := seen_of_slides hslides hstarts.1.1 hmon
    rw [hseen]
    exact ⟨hmon', hcomes⟩

theorem confined_tick (s : Rwl) (ms : ℕ) (c : TagSwitch) :
    c.Confined (step s (.tick ms)) ↔ c.Confined s := by
  unfold TagSwitch.Confined
  simp only [target_tick, place_tick, mon_tick]
  exact Iff.rfl

/-- Some time later no slide of a window starts. -/
theorem exists_later (start : Option ℕ) (now : ℕ) : ∃ ms, start ≠ some (now + ms) := by
  by_cases h : start = some now
  · refine ⟨1, ?_⟩
    rw [h]
    intro heq
    have := Option.some.inj heq
    omega
  · exact ⟨0, h⟩

/-- **A tag switch slides only windows that come or go on its monitor exactly when the windows with
tags of only one of the two views are such windows; and the end of a slide unmaps no window with a
tag that some monitor shows.** -/
theorem tag_slides_own_iff {s : Rwl} (hs : Reachable s) (c : TagSwitch) :
    (c.Own s ↔ c.Confined s) ∧ ∀ (d : Desk) (v : WinId) (j : ℕ), d.onScreen v →
      (d.st v).tags &&& d.tagsOf j ≠ 0 → d.finalize_slide_outs.onScreen v := by
  have h := pending_reachable hs
  refine ⟨⟨fun hown t v ht hon hstarts => ?_, fun hc ms v hv => ?_⟩, fun d v j hon hmeets => ?_⟩
  · obtain ⟨ms, hms⟩ := exists_later (s.desk.st v).slide_start s.desk.now
    have hslides := slides_run (s := step s (.tick ms)) h c ((target_tick s ms c).trans ht)
    rw [mon_tick] at hslides
    simp only [place_tick] at hslides
    have hstart : ((c.run (step s (.tick ms))).desk.st v).slide_start = some (s.desk.now + ms) :=
      (hslides.windows v).starts hon hstarts
    obtain ⟨hmon, hcomes⟩ := hown ms v (by rw [hstart]; exact hms.symm)
    rw [mon_tick] at hmon hcomes
    have hplace : (c.place s v).2 = c.mon s :=
      (congrArg Prod.snd (hslides.windows v).place).symm.trans hmon
    obtain ⟨-, hseen⟩ := seen_of_slides hslides hon.1 hplace
    rw [hseen] at hcomes
    exact ⟨hplace, hcomes⟩
  · exact own_of_confined (s := step s (.tick ms)) h ((confined_tick s ms c).2 hc) v hv
  · refine (Desk.foldl_finalizeSlideOut_spec d.all_visible _ d v).2.2.2 ⟨hon, fun _ => ?_⟩
    obtain ⟨m, hm, hj⟩ : ∃ m ∈ d.monitors, d.tagsOf j = m.tags := by
      unfold Desk.tagsOf at hmeets ⊢
      cases hm : d.monitors[j]? with
      | none =>
        rw [hm] at hmeets
        exact absurd (Nat.and_zero _) hmeets
      | some m => exact ⟨m, List.mem_of_getElem? hm, rfl⟩
    rw [hj, Nat.and_comm] at hmeets
    rw [Nat.and_comm]
    exact Mask.meets_union_iff.2 ⟨m.tags, List.mem_map_of_mem hm, hmeets⟩

/-- Two monitors show the same tag, and the first has a window on it. -/
def sharedRun : List Event :=
  [.output_added 0 (plainOutput "a"), .output_added 1 (plainOutput "b"),
    .new_toplevel 0 (plainClient 10), .commit 10 true]

/-- A switch on the monitor of the window. -/
theorem tag_slides_own_shared :
    ((TagSwitch.view 2).Own (run step (init slidingSetup) sharedRun) ↔
        (TagSwitch.view 2).Confined (run step (init slidingSetup) sharedRun)) ∧
      ∀ (d : Desk) (v : WinId) (j : ℕ), d.onScreen v → (d.st v).tags &&& d.tagsOf j ≠ 0 →
        d.finalize_slide_outs.onScreen v :=
  tag_slides_own_iff ⟨slidingSetup, sharedRun, rfl⟩ (.view 2)

/-- A switch on the second monitor slides the window of the first. -/
theorem not_tag_slides_own :
    ¬(TagSwitch.ipc_view 1 2).Own (run step (init slidingSetup) sharedRun) := by
  intro hown
  have hslides := (hown 0 0 (by decide +kernel)).1
  revert hslides
  decide +kernel

end Rwl

end Compositor
