import Mathlib.Tactic.Common
import Rwl.Lib.Latest
import Rwl.Theory.SocketCommands
import Rwl.Theory.TagSwitches
import Rwl.Theory.AutoBack

/-!
# What the operations record of the views they leave

* `ViewOp`: the operations that may change views, and the choice of another monitor;
* `Turn`: what an operation makes of one view, and what it tells `update_tag_history`;
* `ViewOp.turns`: every operation does to each monitor and its history what its turn says.
-/

namespace Compositor

open Transition Latest

/-- The operations by key, by an urgent window, by a rule and by socket; a key may also select
another monitor. -/
inductive ViewOp
  | view (mask : ℕ)
  | view_prev
  | toggle_view (mask : ℕ)
  | view_next_occ_tag (dir : ℤ)
  | tag (mask : ℕ)
  | view_tag_spawn (mask : ℕ)
  | focus_urgent
  | focus_mon (dir : ℤ)
  | rule (w : WinId)
  | ipc_view (which : Option ℕ) (val : ℕ)
  | ipc_toggleview (which : Option ℕ) (val : ℕ)

/-- The state after the operation. -/
def ViewOp.run (s : Rwl) : ViewOp → Rwl
  | .view mask => s.dispatch (.View mask)
  | .view_prev => s.dispatch .ViewPrev
  | .toggle_view mask => s.dispatch (.ToggleView mask)
  | .view_next_occ_tag dir => s.dispatch (.ViewNextOccTag dir)
  | .tag mask => s.dispatch (.Tag mask)
  | .view_tag_spawn mask => s.dispatch (.ViewTagSpawn mask)
  | .focus_urgent => s.focus_urgent
  | .focus_mon dir => s.dispatch (.FocusMon dir)
  -- the first commit applies the rules and then arranges
  | .rule w => (s.apply_rules w).arrange_all
  | .ipc_view which val => s.ipc_command .view which val
  | .ipc_toggleview which val => s.ipc_command .toggleview which val

/-! ### Turns -/

/-- The view of a monitor with the view `old` that is asked to show `mask`. -/
def Config.shown (cfg : Config) (mask old : ℕ) : ℕ :=
  if mask &&& cfg.tag_mask = 0 then old else mask &&& cfg.tag_mask

theorem Monitor.tags_view_shown (cfg : Config) (m : Monitor) (mask : ℕ) :
    (m.view cfg mask).tags = cfg.shown mask m.tags := by
  rw [Monitor.tags_view]
  unfold Config.shown
  by_cases hzero : mask &&& cfg.tag_mask = 0
  · rw [if_pos (.inl hzero), if_pos hzero]
  · rw [if_neg hzero]
    split_ifs with hsame
    · exact (hsame.resolve_left hzero).symm
    · rfl

/-- Toggling tags is asking for the view with these tags toggled. -/
theorem Monitor.tags_toggle_view (cfg : Config) (m : Monitor) (mask : ℕ) :
    (m.toggle_view cfg mask).tags = cfg.shown (m.tags ^^^ mask) m.tags := by
  unfold Monitor.toggle_view Config.shown
  dsimp only
  by_cases hzero : (m.tags ^^^ mask) &&& cfg.tag_mask = 0
  · rw [if_neg (not_not.2 hzero), if_pos hzero]
  · rw [if_pos hzero, if_neg hzero]
    simp [pushTags, tags]

/-- The target handed to `update_tag_history`, if any, and the view afterwards. -/
structure Turn where
  target : Option ℕ
  view : ℕ

/-- The view that is recorded. -/
def Turn.recorded (t : Turn) (old : ℕ) : Option ℕ :=
  (t.target.filter fun target => decide (old ≠ target)).map fun _ => old

/-- Nothing is recorded, and the view stays. -/
def Monitor.stays (m : Monitor) : Turn := ⟨none, m.tags⟩

/-- A socket command records the view of the selected monitor only. -/
def Desk.socketTurn (d : Desk) (j asked old : ℕ) : Turn where
  target :=
    let new := asked &&& d.cfg.tag_mask
    if j = d.sel_mon ∧ new ≠ 0 then some new else none
  view := d.cfg.shown asked old

/-- What the operation makes of the view of monitor `j`. -/
def ViewOp.turn (s : Rwl) (j : ℕ) (m : Monitor) : ViewOp → Turn
  | .view mask =>
      if j = s.desk.sel_mon then ⟨some mask, s.desk.cfg.shown mask m.tags⟩ else m.stays
  | .view_prev =>
      if j = s.desk.sel_mon then ⟨some (m.tagset (!m.sel_tags)), m.tagset (!m.sel_tags)⟩ else m.stays
  | .toggle_view mask =>
      let new := (m.tags ^^^ mask) &&& s.desk.cfg.tag_mask
      if j = s.desk.sel_mon then
        ⟨if new ≠ 0 then some new else none, s.desk.cfg.shown (m.tags ^^^ mask) m.tags⟩
      else m.stays
  | .view_next_occ_tag dir =>
      match s.desk.next_occ_tag dir with
      | some mask => if j = s.desk.sel_mon then ⟨some mask, s.desk.cfg.shown mask m.tags⟩ else m.stays
      | none => m.stays
  | .tag mask =>
      let mask := mask &&& s.desk.cfg.tag_mask
      if j = s.desk.sel_mon ∧ mask ≠ 0 ∧ s.desk.focused_window.isSome ∧ s.desk.cfg.follow then
        ⟨some mask, s.desk.cfg.shown mask m.tags⟩
      else m.stays
  | .view_tag_spawn mask =>
      let mask := mask &&& s.desk.cfg.tag_mask
      if j = s.desk.sel_mon then ⟨some mask, s.desk.cfg.shown mask m.tags⟩ else m.stays
  | .focus_urgent =>
      match Rwl.urgentWindow s.desk with
      | some w =>
          if j = (s.desk.st w).mon_idx then ⟨none, s.desk.cfg.shown (s.desk.st w).tags m.tags⟩
          else m.stays
      | none => m.stays
  | .focus_mon _ => m.stays
  | .rule w =>
      match (TagSwitch.rule w).target s with
      | some mask => if j = s.ruleMonitor w then ⟨some mask, s.desk.cfg.shown mask m.tags⟩ else m.stays
      | none => m.stays
  | .ipc_view which val =>
      if j ∈ Rwl.ipcOutputs s.desk which then s.desk.socketTurn j val m.tags else m.stays
  | .ipc_toggleview which val =>
      if j ∈ Rwl.ipcOutputs s.desk which then s.desk.socketTurn j (m.tags ^^^ val) m.tags
      else m.stays

namespace Desk

/-- The view of a monitor and its history. -/
def logged (d : Desk) (j : ℕ) : Option ℕ × Option (List ℕ) := (d.viewAt j, d.tag_history[j]?)

theorem viewAt_of_slots {d d' : Desk} (h : d'.slots = d.slots) (j : ℕ) :
    d'.viewAt j = d.viewAt j := by
  have hviews := congrArg (fun l => (l[j]?).map fun slot : (Bool → ℕ) × Bool => slot.1 slot.2) h
  unfold slots at hviews
  simp only [List.getElem?_map, Option.map_map] at hviews
  exact hviews

theorem lasting_logged (j : ℕ) : Lasting (logged · j) where
  bare h := by
    have hlast := lasting_slots.bare h
    exact Prod.ext (viewAt_of_slots (congrArg Prod.fst hlast :) j)
      (congrArg (fun p => p.2[j]?) hlast :)
  raise _ _ := rfl
  select _ _ := rfl

/-- The desk after `d` has the turn `t` on monitor `j`. -/
structure Turns (d d' : Desk) (j : ℕ) (t : Monitor → Turn) : Prop where
  view : d'.viewAt j = (d.monitors[j]?).map fun m => (t m).view
  history : d'.tag_history[j]? = (d.tag_history[j]?).map
    (((d.monitors[j]?).bind fun m => (t m).recorded m.tags).toList.foldl pushHistory)

theorem Turns.lasting {d d₁ d₂ : Desk} {j : ℕ} {t : Monitor → Turn} (h : Turns d d₁ j t)
    (hsame : d₂.logged j = d₁.logged j) : Turns d d₂ j t :=
  ⟨(congrArg Prod.fst hsame :).trans h.view, (congrArg Prod.snd hsame :).trans h.history⟩

theorem Turns.congr {d d' : Desk} {j : ℕ} {t t' : Monitor → Turn} (h : Turns d d' j t)
    (hsame : ∀ m, d.monitors[j]? = some m → t m = t' m) : Turns d d' j t' := by
  obtain ⟨hview, hhistory⟩ := h
  cases hm : d.monitors[j]? with
  | none =>
    rw [hm] at hview hhistory
    exact ⟨by rw [hm]; exact hview, by rw [hm]; exact hhistory⟩
  | some m =>
    have ht := hsame m hm
    rw [hm, Option.map_some, ht] at hview
    rw [hm, Option.bind_some, ht] at hhistory
    exact ⟨by rw [hm]; exact hview, by rw [hm]; exact hhistory⟩

/-- A turn is about one monitor and its history. -/
theorem Turns.of_entry {d₀ d d' : Desk} {j : ℕ} {t : Monitor → Turn} (h : Turns d d' j t)
    (hmon : d.monitors[j]? = d₀.monitors[j]?) (hlog : d.tag_history[j]? = d₀.tag_history[j]?) :
    Turns d₀ d' j t := by
  obtain ⟨hview, hhistory⟩ := h
  rw [hmon] at hview
  rw [hmon, hlog] at hhistory
  exact ⟨hview, hhistory⟩

theorem turns_refl (d : Desk) (j : ℕ) : Turns d d j Monitor.stays := by
  refine ⟨rfl, ?_⟩
  cases d.monitors[j]? with
  | none => exact (congrFun Option.map_id d.tag_history[j]?).symm
  | some m => exact (congrFun Option.map_id d.tag_history[j]?).symm

theorem Turns.logged_eq {d d' : Desk} {j : ℕ} (h : Turns d d' j Monitor.stays) :
    d'.logged j = d.logged j := by
  obtain ⟨hview, hhistory⟩ := h
  refine Prod.ext hview (hhistory.trans ?_)
  cases d.monitors[j]? with
  | none => exact congrFun Option.map_id d.tag_history[j]?
  | some m => exact congrFun Option.map_id d.tag_history[j]?

/-- Monitor `i` changes. -/
theorem turns_modifyMonitor (d : Desk) (i : ℕ) (f : Monitor → Monitor) (j : ℕ) :
    Turns d (d.modifyMonitor i f) j fun m => if j = i then ⟨none, (f m).tags⟩ else m.stays := by
  refine ⟨?_, ?_⟩
  · show Option.map Monitor.tags (d.monitors.modify i f)[j]? = _
    rw [List.getElem?_modify]
    cases d.monitors[j]? with
    | none => rfl
    | some m => by_cases hij : i = j <;> simp [hij, eq_comm, Monitor.stays]
  · show d.tag_history[j]? = _
    have hnone (m : Monitor) : (if j = i then (⟨none, (f m).tags⟩ : Turn)
        else m.stays).recorded m.tags = none := by
      split_ifs <;> rfl
    simp only [hnone, Option.bind_fun_none, Option.toList_none, List.foldl_nil]
    exact (congrFun Option.map_id d.tag_history[j]?).symm

theorem history_other (d : Desk) {i j : ℕ} (hij : i ≠ j) (target : ℕ) :
    (d.update_tag_history i target).tag_history[j]? = d.tag_history[j]? := by
  unfold update_tag_history
  split
  · split_ifs
    · exact List.getElem?_modify_ne _ _ hij
    · rfl
  · rfl

/-- Monitor `i` changes when its view has been recorded. -/
theorem turns_recorded (d : Desk) (i target : ℕ) (f : Monitor → Monitor) (j : ℕ) :
    Turns d ((d.update_tag_history i target).modifyMonitor i f) j fun m =>
      if j = i then ⟨some target, (f m).tags⟩ else m.stays := by
  refine ⟨?_, ?_⟩
  · have hview := ((d.update_tag_history i target).turns_modifyMonitor i f j).view
    rw [monitors_update_tag_history] at hview
    refine hview.trans (congrArg (Option.map · d.monitors[j]?) (funext fun m => ?_))
    split_ifs <;> rfl
  · show (d.update_tag_history i target).tag_history[j]? = _
    by_cases hij : i = j
    · subst hij
      unfold update_tag_history
      cases hm : d.monitors[i]? with
      | none => exact (congrFun Option.map_id d.tag_history[i]?).symm
      | some m =>
        dsimp only [Option.bind_some]
        rw [if_pos rfl]
        unfold Turn.recorded
        split_ifs with hsame
        · show (d.tag_history.modify i _)[i]? = _
          rw [List.getElem?_modify_eq, Option.filter_some, if_pos (decide_eq_true hsame)]
          rfl
        · rw [Option.filter_some, if_neg (by simpa using hsame)]
          exact (congrFun Option.map_id d.tag_history[i]?).symm
    · have hnone (m : Monitor) : (if j = i then (⟨some target, (f m).tags⟩ : Turn)
          else m.stays).recorded m.tags = none := by
        rw [if_neg (Ne.symm hij)]
        rfl
      simp only [hnone, Option.bind_fun_none, Option.toList_none, List.foldl_nil]
      exact (d.history_other hij target).trans (congrFun Option.map_id d.tag_history[j]?).symm

end Desk

/-! ### The turns of the operations -/

open Desk (Turns lasting_logged)

namespace Rwl

theorem turns_showTags (d : Desk) (mask j : ℕ) : Turns d (showTags d mask) j fun m =>
    if j = d.sel_mon then ⟨some mask, d.cfg.shown mask m.tags⟩ else m.stays := by
  refine (d.turns_recorded d.sel_mon mask (Monitor.view d.cfg · mask) j).congr fun m _ => ?_
  rw [Monitor.tags_view_shown]

variable (s : Rwl)

theorem turns_view (mask j : ℕ) :
    Turns s.desk (s.view mask).desk j fun m => (ViewOp.view mask).turn s j m :=
  (turns_showTags s.desk mask j).lasting
    ((lasting_logged j).slideTo (s.modifyDesk (showTags · mask)) _ _ _)

theorem turns_view_prev (j : ℕ) :
    Turns s.desk s.view_prev.desk j fun m => ViewOp.view_prev.turn s j m := by
  let prev_tag := (s.desk.sel_monitor.map fun m => m.tagset (!m.sel_tags)).getD 0
  have hrecorded := s.desk.turns_recorded s.desk.sel_mon prev_tag (Monitor.view_prev s.desk.cfg) j
  refine (hrecorded.lasting ((lasting_logged j).slideTo (s.modifyDesk fun d =>
    (d.update_tag_history s.desk.sel_mon prev_tag).modifyMonitor s.desk.sel_mon
      (Monitor.view_prev d.cfg)) _ _ _)).congr fun m hm => ?_
  dsimp only [ViewOp.turn]
  split_ifs with hj
  · subst hj
    have hsel : s.desk.sel_monitor = some m := hm
    have hprev : prev_tag = m.tagset (!m.sel_tags) := by
      show (s.desk.sel_monitor.map _).getD 0 = _
      rw [hsel]
      rfl
    rw [hprev]
    exact congrArg (Turn.mk _) (Monitor.tags_apply s.desk.cfg { m with sel_tags := !m.sel_tags } _)
  · rfl

theorem turns_toggle_view (mask j : ℕ) :
    Turns s.desk (s.toggle_view mask).desk j fun m => (ViewOp.toggle_view mask).turn s j m := by
  let new_tags :=
    (s.desk.sel_monitor.map fun m => (m.tags ^^^ mask) &&& s.desk.cfg.tag_mask).getD 0
  have hlast (s₁ : Rwl) : s₁.arrange_all.focus_top.desk.logged j = s₁.desk.logged j :=
    ((lasting_logged j).focus_window _ _).trans ((lasting_logged j).arrange_all _)
  have hnew {m : Monitor} (hm : s.desk.monitors[s.desk.sel_mon]? = some m) :
      new_tags = (m.tags ^^^ mask) &&& s.desk.cfg.tag_mask := by
    have hsel : s.desk.sel_monitor = some m := hm
    show (s.desk.sel_monitor.map _).getD 0 = _
    rw [hsel]
    rfl
  unfold Rwl.toggle_view
  dsimp only
  by_cases hzero : new_tags = 0
  · rw [if_neg (not_not.2 hzero)]
    refine ((s.desk.turns_modifyMonitor s.desk.sel_mon (Monitor.toggle_view s.desk.cfg · mask)
      j).lasting (hlast _)).congr fun m hm => ?_
    dsimp only [ViewOp.turn]
    by_cases hj : j = s.desk.sel_mon
    · subst hj
      rw [if_pos rfl, if_pos rfl, if_neg (not_not.2 ((hnew hm).symm.trans hzero)),
        Monitor.tags_toggle_view]
    · rw [if_neg hj, if_neg hj]
  · rw [if_pos hzero]
    have hrecorded := s.desk.turns_recorded s.desk.sel_mon new_tags
      (Monitor.toggle_view s.desk.cfg · mask) j
    rw [← Desk.cfg_update_tag_history s.desk s.desk.sel_mon new_tags] at hrecorded
    refine (hrecorded.lasting (hlast _)).congr fun m hm => ?_
    rw [Desk.cfg_update_tag_history]
    dsimp only [ViewOp.turn]
    by_cases hj : j = s.desk.sel_mon
    · subst hj
      rw [if_pos rfl, if_pos rfl, if_pos (hnew hm ▸ hzero), hnew hm, Monitor.tags_toggle_view]
    · rw [if_neg hj, if_neg hj]

theorem turns_tag (mask j : ℕ) :
    Turns s.desk (s.tag mask).desk j fun m => (ViewOp.tag mask).turn s j m := by
  let mask' := mask &&& s.desk.cfg.tag_mask
  have hlast (s₁ : Rwl) : s₁.arrange_all.focus_top.desk.logged j = s₁.desk.logged j :=
    ((lasting_logged j).focus_window _ _).trans ((lasting_logged j).arrange_all _)
  have hstay {s₁ : Rwl} (hs₁ : s₁.desk.logged j = s.desk.logged j)
      (hno : ¬(mask' ≠ 0 ∧ s.desk.focused_window.isSome ∧ s.desk.cfg.follow)) :
      Turns s.desk s₁.desk j fun m => (ViewOp.tag mask).turn s j m := by
    refine ((s.desk.turns_refl j).lasting hs₁).congr fun m _ => ?_
    dsimp only [ViewOp.turn]
    exact (if_neg fun h => hno h.2).symm
  unfold Rwl.tag
  dsimp only
  by_cases hmask : mask' = 0
  · rw [if_pos hmask]
    exact hstay rfl fun h => h.1 hmask
  · rw [if_neg hmask]
    cases hf : s.desk.focused_window with
    | none => exact hstay (hlast s) fun h => by simp [hf] at h
    | some w =>
      dsimp only
      split_ifs with hfollow
      · have hshown : Turns s.desk (showTags (s.desk.set_window_tags w mask') mask') j fun m =>
            if j = s.desk.sel_mon then ⟨some mask', s.desk.cfg.shown mask' m.tags⟩ else m.stays :=
          (turns_showTags (s.desk.set_window_tags w mask') mask' j).of_entry rfl rfl
        refine (hshown.lasting (hlast (s.modifyDesk fun d =>
          showTags (d.set_window_tags w mask') mask'))).congr fun m _ => ?_
        dsimp only [ViewOp.turn]
        by_cases hj : j = s.desk.sel_mon
        · rw [if_pos hj, if_pos ⟨hj, hmask, by rw [hf]; rfl, hfollow⟩]
        · rw [if_neg hj, if_neg fun h => hj h.1]
      · exact hstay (hlast _) fun h => hfollow h.2.2

theorem turns_view_tag_spawn (mask j : ℕ) :
    Turns s.desk (s.view_tag_spawn mask).desk j fun m => (ViewOp.view_tag_spawn mask).turn s j m := by
  obtain ⟨s₁, hdesk, heq⟩ := s.view_tag_spawn_eq mask
  have hshown := turns_showTags s.desk (mask &&& s.desk.cfg.tag_mask) j
  rw [← hdesk] at hshown
  rw [heq]
  exact hshown.lasting ((lasting_logged j).slideTo s₁ _ _ _)

theorem turns_focus_urgent (j : ℕ) :
    Turns s.desk s.focus_urgent.desk j fun m => ViewOp.focus_urgent.turn s j m := by
  unfold Rwl.focus_urgent ViewOp.turn
  cases urgentWindow s.desk with
  | none => exact s.desk.turns_refl j
  | some w =>
    dsimp only
    have hlast (s₁ : Rwl) :
        (s₁.arrange_all.focus_window (some w)).desk.logged j = s₁.desk.logged j :=
      ((lasting_logged j).focus_window _ _).trans ((lasting_logged j).arrange_all _)
    by_cases htags : (s.desk.st w).tags = 0
    · rw [if_neg (not_not.2 htags)]
      refine ((s.desk.turns_refl j).lasting (hlast (s.modifyDesk fun d =>
        { d with sel_mon := (s.desk.st w).mon_idx }))).congr fun m _ => ?_
      have hshown : s.desk.cfg.shown (s.desk.st w).tags m.tags = m.tags := by
        unfold Config.shown
        rw [htags, Nat.zero_and, if_pos rfl]
      rw [hshown]
      exact (ite_self _).symm
    · rw [if_pos htags]
      refine ((s.desk.turns_modifyMonitor (s.desk.st w).mon_idx
        (Monitor.view s.desk.cfg · (s.desk.st w).tags) j).lasting (hlast _)).congr fun m _ => ?_
      rw [Monitor.tags_view_shown]

theorem turns_focus_mon (dir : ℤ) (j : ℕ) :
    Turns s.desk (s.focus_mon dir).desk j Monitor.stays := by
  refine (s.desk.turns_refl j).lasting ?_
  unfold Rwl.focus_mon
  split
  · exact ((lasting_logged j).arrange_all _).trans ((lasting_logged j).focus_window _ _)
  · rfl

/-! ### Rules -/

/-- A view jump. -/
theorem turns_switchTo (d : Desk) (w : WinId) (i mask j : ℕ) :
    Turns d (switchTo d w i mask) j fun m =>
      if j = i then ⟨some mask, d.cfg.shown mask m.tags⟩ else m.stays := by
  have hrecorded := d.turns_recorded i mask (Monitor.view d.cfg · mask) j
  simp only [Monitor.tags_view_shown] at hrecorded
  refine hrecorded.lasting ?_
  have hcfg := Desk.cfg_update_tag_history d i mask
  unfold switchTo
  dsimp only
  rw [Desk.monitors_update_tag_history]
  cases hm : d.monitors[i]? with
  | none =>
    have hsame : (d.update_tag_history i mask).modifyMonitor i (Monitor.view d.cfg · mask) =
        d.update_tag_history i mask := by
      refine congrArg (fun l => { d.update_tag_history i mask with monitors := l })
        (modify_eq_self fun m hm' => ?_)
      rw [Desk.monitors_update_tag_history, hm] at hm'
      cases hm'
    rw [hsame]
  | some m =>
    dsimp only
    split_ifs with hsame
    · -- the jump is to the view that is shown
      have hstays : (d.update_tag_history i mask).modifyMonitor i (Monitor.view d.cfg · mask) =
          d.update_tag_history i mask := by
        refine congrArg (fun l => { d.update_tag_history i mask with monitors := l })
          (modify_eq_self fun m' hm' => ?_)
        rw [Desk.monitors_update_tag_history, hm] at hm'
        obtain rfl := Option.some.inj hm'
        unfold Monitor.view
        exact if_pos (.inr hsame.symm)
      rw [hstays]
    · have hmark := (lasting_logged j).bare (Desk.bare_mark_slide_outs
        (d.update_tag_history i mask) m.tags (mask &&& d.cfg.tag_mask) m.w.size.w)
      show ((Desk.mark_slide_outs _ _ _ _).modifyMonitor i
        (Monitor.view d.cfg · mask)).logged j = _
      refine Prod.ext ?_ (congrArg Prod.snd hmark :)
      show Option.map Monitor.tags (List.modify _ i _)[j]? = Option.map Monitor.tags
        (List.modify _ i _)[j]?
      rw [Desk.monitors_mark_slide_outs]

theorem turns_rule (w : WinId) (j : ℕ) :
    Turns s.desk (s.apply_rules w).arrange_all.desk j fun m => (ViewOp.rule w).turn s j m := by
  have hstay (hno : (TagSwitch.rule w).target s = none)
      (hsame : (s.apply_rules w).desk.logged j = s.desk.logged j) :
      Turns s.desk (s.apply_rules w).desk j fun m => (ViewOp.rule w).turn s j m := by
    refine ((s.desk.turns_refl j).lasting hsame).congr fun m _ => ?_
    dsimp only [ViewOp.turn]
    rw [hno]
  refine Turns.lasting ?_ ((lasting_logged j).arrange_all (s.apply_rules w))
  cases hparent : (s.desk.client w).toplevel_parent with
  | some parent =>
    refine hstay ?_ ?_
    · dsimp only [TagSwitch.target]
      exact if_neg fun h => by rw [hparent] at h; exact absurd h.1 (by simp)
    · unfold apply_rules
      rw [hparent]
      rfl
  | none =>
    have hdesk := s.desk_apply_rules w hparent
    have hsettled : (s.apply_rules w).desk.logged j =
        (jumped (s.ruledDesk w) w (s.ruleAccum w)).logged j := by
      rw [hdesk]
      rfl
    rcases jumped_cases (s.ruledDesk w) w (s.ruleAccum w) with
      ⟨heq, hnone⟩ | ⟨mask, hmask, hstays, heq⟩
    · rw [heq] at hsettled
      refine hstay ?_ hsettled
      dsimp only [TagSwitch.target]
      rcases hnone with hnone | hswallow
      · rw [hnone, ite_self]
      · exact if_neg fun h => by rw [hswallow] at h; cases h.2
    · have htarget : (TagSwitch.rule w).target s = some mask := by
        dsimp only [TagSwitch.target]
        rw [if_pos ⟨hparent, hstays⟩, hmask]
      have hjumped : Turns s.desk (switchTo (s.ruledDesk w) w (s.ruleMonitor w) mask) j fun m =>
          if j = s.ruleMonitor w then ⟨some mask, s.desk.cfg.shown mask m.tags⟩ else m.stays :=
        (turns_switchTo (s.ruledDesk w) w (s.ruleMonitor w) mask j).of_entry rfl rfl
      rw [monitor_ruleAccum] at heq
      refine (hjumped.lasting (hsettled.trans (by rw [heq]; rfl))).congr fun m _ => ?_
      dsimp only [ViewOp.turn]
      rw [htarget]

/-! ### Socket commands -/

/-- A socket command leaves the other outputs alone. -/
theorem ipcApply_other (cmd : IpcCmd) (val : ℕ) (d : Desk) {i j : ℕ} (hij : i ≠ j) :
    (ipcApply cmd val d i).monitors[j]? = d.monitors[j]? ∧
      (ipcApply cmd val d i).tag_history[j]? = d.tag_history[j]? := by
  refine ⟨?_, ?_⟩
  · rw [(ipcApply_spec cmd val d i).2, List.getElem?_modify_ne _ _ hij]
  · cases cmd with
    | view =>
      dsimp only [ipcApply]
      split_ifs
      · rfl
      · exact (congrArg (fun l : List (List ℕ) => l[j]?) (congrArg Desk.tag_history
          (Desk.bare_mark_slide_outs _ _ _ _) :)).trans (d.history_other hij _)
      · exact (congrArg (fun l : List (List ℕ) => l[j]?) (congrArg Desk.tag_history
          (Desk.bare_mark_slide_outs _ _ _ _) :))
    | toggleview =>
      dsimp only [ipcApply]
      split_ifs
      · rfl
      · exact d.history_other hij _
      · rfl
    | setlayout => rfl

theorem sel_mon_ipcApply (cmd : IpcCmd) (val : ℕ) (d : Desk) (i : ℕ) :
    (ipcApply cmd val d i).sel_mon = d.sel_mon := by
  have hrecord (mask : ℕ) : (d.update_tag_history i mask).sel_mon = d.sel_mon := by
    rw [update_tag_history_eq]
  have hmark (d : Desk) (old new : ℕ) (ow : ℚ) : (d.mark_slide_outs old new ow).sel_mon = d.sel_mon :=
    (congrArg Desk.sel_mon (Desk.bare_mark_slide_outs d old new ow) :)
  cases cmd with
  | view =>
    dsimp only [ipcApply]
    split_ifs
    · rfl
    · exact (hmark _ _ _ _).trans (hrecord _)
    · exact hmark _ _ _ _
  | toggleview =>
    dsimp only [ipcApply]
    split_ifs
    · rfl
    · exact hrecord _
    · rfl
  | setlayout => rfl

/-- The selected monitor is the only one whose view is recorded. -/
theorem turns_selected (d : Desk) (i new : ℕ) (f : Monitor → Monitor) :
    Turns d ((if i = d.sel_mon then d.update_tag_history i new else d).modifyMonitor i f) i
      fun m => ⟨if i = d.sel_mon then some new else none, (f m).tags⟩ := by
  by_cases hsel : i = d.sel_mon
  · simp only [if_pos hsel]
    exact (d.turns_recorded i new f i).congr fun m _ => if_pos rfl
  · simp only [if_neg hsel]
    exact (d.turns_modifyMonitor i f i).congr fun m _ => if_pos rfl

/-- Nothing happens where no tag is asked for. -/
theorem socketTurn_of_zero {d : Desk} {j asked : ℕ} {m : Monitor}
    (h : asked &&& d.cfg.tag_mask = 0) : d.socketTurn j asked m.tags = m.stays := by
  unfold Desk.socketTurn Config.shown Monitor.stays
  simp [h]

theorem socketTurn_of_ne {d : Desk} {j asked old : ℕ} (h : asked &&& d.cfg.tag_mask ≠ 0) :
    d.socketTurn j asked old =
      ⟨if j = d.sel_mon then some (asked &&& d.cfg.tag_mask) else none, d.cfg.shown asked old⟩ := by
  unfold Desk.socketTurn
  simp [h]

/-- The view that the command asks for. -/
def IpcCmd.asked (val : ℕ) (m : Monitor) : IpcCmd → ℕ
  | .view => val
  | .toggleview => m.tags ^^^ val
  | .setlayout => 0

theorem turns_ipcApply (cmd : IpcCmd) (val : ℕ) (d : Desk) (i : ℕ) :
    Turns d (ipcApply cmd val d i) i fun m => d.socketTurn i (cmd.asked val m) m.tags := by
  cases cmd with
  | view =>
    by_cases hmask : val &&& d.cfg.tag_mask = 0
    · have happly : ipcApply .view val d i = d := if_pos hmask
      rw [happly]
      exact (d.turns_refl i).congr fun m _ => (socketTurn_of_zero hmask).symm
    · have hturn := turns_selected d i (val &&& d.cfg.tag_mask)
        (Monitor.view d.cfg · (val &&& d.cfg.tag_mask))
      have happly : (ipcApply .view val d i).logged i =
          ((if i = d.sel_mon then d.update_tag_history i (val &&& d.cfg.tag_mask)
            else d).modifyMonitor i (Monitor.view d.cfg · (val &&& d.cfg.tag_mask))).logged i := by
        dsimp only [ipcApply]
        rw [if_neg hmask]
        exact (lasting_logged i).bare (Desk.bare_mark_slide_outs _ _ _ _)
      refine (hturn.lasting happly).congr fun m _ => ?_
      show Turn.mk _ _ = d.socketTurn i val m.tags
      rw [socketTurn_of_ne hmask, view_and_tag_mask, Monitor.tags_view_shown]
  | toggleview =>
    let new := ((d.monitors[i]?).map fun m => (m.tags ^^^ val) &&& d.cfg.tag_mask).getD 0
    have hnew {m : Monitor} (hm : d.monitors[i]? = some m) :
        new = (m.tags ^^^ val) &&& d.cfg.tag_mask := by
      show ((d.monitors[i]?).map _).getD 0 = _
      rw [hm]
      rfl
    by_cases hzero : new = 0
    · have happly : ipcApply .toggleview val d i = d := if_pos hzero
      rw [happly]
      exact (d.turns_refl i).congr fun m hm => (socketTurn_of_zero ((hnew hm).symm.trans hzero)).symm
    · have happly : ipcApply .toggleview val d i =
          (if i = d.sel_mon then d.update_tag_history i new else d).modifyMonitor i
            (Monitor.toggle_view d.cfg · val) := if_neg hzero
      rw [happly]
      refine (turns_selected d i new (Monitor.toggle_view d.cfg · val)).congr fun m hm => ?_
      show Turn.mk _ _ = d.socketTurn i (m.tags ^^^ val) m.tags
      rw [socketTurn_of_ne ((hnew hm) ▸ hzero), hnew hm, Monitor.tags_toggle_view]
  | setlayout =>
    refine (d.turns_modifyMonitor i (Monitor.set_layout d.cfg · val) i).congr fun m _ => ?_
    rw [if_pos rfl, m.tags_set_layout]
    exact (socketTurn_of_zero (Nat.zero_and _)).symm

/-- Each of the outputs named has its turn once. -/
theorem turns_foldl_ipcApply (cmd : IpcCmd) (val : ℕ) (d : Desk) {l : List ℕ} (hl : l.Nodup)
    (j : ℕ) : Turns d (l.foldl (ipcApply cmd val) d) j fun m =>
      if j ∈ l then d.socketTurn j (cmd.asked val m) m.tags else m.stays := by
  induction l generalizing d with
  | nil => exact (d.turns_refl j).congr fun m _ => (if_neg List.not_mem_nil).symm
  | cons i l ih =>
    obtain ⟨hi, hl⟩ := List.nodup_cons.1 hl
    have hrest := ih (ipcApply cmd val d i) hl
    rw [List.foldl_cons]
    by_cases hij : i = j
    · subst hij
      have hkept := (hrest.congr fun m _ => if_neg hi).logged_eq
      refine ((turns_ipcApply cmd val d i).lasting hkept).congr fun m _ => ?_
      rw [if_pos (List.mem_cons_self ..)]
    · obtain ⟨hmon, hlog⟩ := ipcApply_other cmd val d hij
      refine (hrest.of_entry hmon hlog).congr fun m _ => ?_
      have hmem : j ∈ i :: l ↔ j ∈ l := by simp [Ne.symm hij]
      have hturn (asked old : ℕ) :
          (ipcApply cmd val d i).socketTurn j asked old = d.socketTurn j asked old := by
        unfold Desk.socketTurn
        rw [sel_mon_ipcApply, (ipcApply_spec cmd val d i).1]
      rw [hturn]
      exact if_congr hmem.symm rfl rfl

theorem turns_ipc_command (cmd : IpcCmd) (which : Option ℕ) (val j : ℕ) :
    Turns s.desk (s.ipc_command cmd which val).desk j fun m =>
      if j ∈ ipcOutputs s.desk which then s.desk.socketTurn j (cmd.asked val m) m.tags
      else m.stays := by
  refine (turns_foldl_ipcApply cmd val s.desk (nodup_ipcOutputs s.desk which) j).lasting ?_
  have hemit (l : List ℕ) (s₁ : Rwl) :
      (l.foldl (fun s idx => s.emit (.event (.tag idx))) s₁).desk = s₁.desk :=
    Recency.foldl_keeps Rwl.desk (fun (s : Rwl) (idx : ℕ) => s.emit (.event (.tag idx)))
      (fun _ _ => rfl) l s₁
  have htop (p : Prop) [Decidable p] (s₁ : Rwl) :
      (if p then s₁.focus_top else s₁).desk.logged j = s₁.desk.logged j := by
    split_ifs
    · exact (lasting_logged j).focus_window s₁ _
    · rfl
  have harranged := (lasting_logged j).arrange_all
    (s.modifyDesk fun d => (ipcOutputs s.desk which).foldl (ipcApply cmd val) d)
  unfold ipc_command
  dsimp only
  split
  · exact (htop _ _).trans harranged
  · rw [hemit]
    exact (htop _ _).trans harranged

end Rwl

/-! ### Every operation -/

namespace ViewOp

variable {s : Rwl} {op : ViewOp} {j : ℕ}

/-- The turn of an operation is about the desk; the rules also ask the callback. -/
theorem turn_congr {s' : Rwl} (h : s'.desk = s.desk) (hop : ∀ w, op ≠ .rule w) (m : Monitor) :
    op.turn s' j m = op.turn s j m := by
  cases op with
  | rule w => exact absurd rfl (hop w)
  | focus_mon => rfl
  | _ =>
    dsimp only [turn]
    rw [h]

theorem turns_dispatch {a : Action}
    (ha : ∀ drain s', Rwl.act drain s' a = s'.notifyChanges (s'.perform a)) (hkill : a ≠ .KillClient)
    (hop : ∀ w, op ≠ .rule w)
    (hturn : ∀ s' : Rwl, Turns s'.desk (s'.perform a).desk j fun m => op.turn s' j m) :
    Turns s.desk (s.dispatch a).desk j fun m => op.turn s j m := by
  obtain ⟨s', hs, hrun⟩ := Rwl.desk_dispatch (s := s) ha hkill
  rw [hrun, ← hs]
  exact (hturn s').congr fun m _ => turn_congr hs hop m

theorem turns_view_next_occ_tag (s : Rwl) (dir : ℤ) (j : ℕ) :
    Turns s.desk (s.view_next_occ_tag dir).desk j fun m =>
      (ViewOp.view_next_occ_tag dir).turn s j m := by
  unfold Rwl.view_next_occ_tag
  dsimp only [turn]
  cases s.desk.next_occ_tag dir with
  | none => exact s.desk.turns_refl j
  | some mask => exact s.turns_view mask j

/-- **Every operation does to each monitor and its history what its turn says.** -/
theorem turns (s : Rwl) (op : ViewOp) (j : ℕ) :
    Turns s.desk (op.run s).desk j fun m => op.turn s j m := by
  cases op with
  | view mask => exact turns_dispatch (fun _ _ => rfl) nofun nofun (Rwl.turns_view · mask j)
  | view_prev => exact turns_dispatch (fun _ _ => rfl) nofun nofun (Rwl.turns_view_prev · j)
  | toggle_view mask =>
    exact turns_dispatch (fun _ _ => rfl) nofun nofun (Rwl.turns_toggle_view · mask j)
  | view_next_occ_tag dir =>
    exact turns_dispatch (fun _ _ => rfl) nofun nofun (turns_view_next_occ_tag · dir j)
  | tag mask => exact turns_dispatch (fun _ _ => rfl) nofun nofun (Rwl.turns_tag · mask j)
  | view_tag_spawn mask =>
    exact turns_dispatch (fun _ _ => rfl) nofun nofun (Rwl.turns_view_tag_spawn · mask j)
  | focus_mon dir =>
    exact turns_dispatch (fun _ _ => rfl) nofun nofun (Rwl.turns_focus_mon · dir j)
  | focus_urgent => exact s.turns_focus_urgent j
  | rule w => exact s.turns_rule w j
  | ipc_view which val => exact s.turns_ipc_command .view which val j
  | ipc_toggleview which val => exact s.turns_ipc_command .toggleview which val j

end ViewOp

end Compositor
