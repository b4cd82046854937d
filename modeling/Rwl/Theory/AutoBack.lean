import Mathlib.Tactic.Common
import Rwl.Theory.Closing

/-!
# Where auto-back lands

When the last window of a view closes, its monitor goes back to another view.

* `Desk.displays`: a monitor has a displayable window on some of the tags;
* `Desk.returnViews`: the views a monitor may go back to, the best one first;
* `target_eq_find?`: the four steps of `target` are one search through them;
* `Desk.slots`: the two slots of each monitor; arranging and focusing keep them;
* `AutoBackLaw`: a closed window takes its view along only when it was the last one;
* `auto_back_lands`: for tiled windows, where no hidden terminal makes a difference.
-/

namespace Compositor

open Transition

/-! ### Views to go back to -/

namespace Desk

/-- Monitor `i` has a displayable window on one of `tags`. -/
def displays (d : Desk) (i tags : ℕ) : Bool :=
  d.windows.any fun v =>
    decide ((d.st v).mon_idx = i) && !(d.st v).is_swallowed && (d.st v).visible_on tags

/-- The views monitor `i` may go back to: the one a rule left for the window, the recorded ones
from the last on, the one in the other slot, and the tags of its windows. -/
def returnViews (d : Desk) (i : ℕ) (switch_to_tag : Option ℕ) : List ℕ :=
  switch_to_tag.toList ++ ((d.tag_history[i]?).getD []).reverse ++
    ((d.monitors[i]?).map fun m => m.tagset (!m.sel_tags)).toList ++
      (d.windows.filter fun v => decide ((d.st v).mon_idx = i)).map fun v => (d.st v).tags

end Desk

namespace auto_back_empty_tag

variable (d : Desk) (i : ℕ)

theorem hasWindows_zero : hasWindows d i 0 = false := by
  unfold hasWindows
  rw [List.any_eq_false]
  intro v _
  simp [WindowState.visible_on]

/-- A window with a tag is on its own tags. -/
theorem hasWindows_tags {v : WinId} (hv : v ∈ d.windows) (hmon : (d.st v).mon_idx = i)
    (htags : (d.st v).tags ≠ 0) : hasWindows d i (d.st v).tags = true := by
  refine List.any_eq_true.2 ⟨v, hv, ?_⟩
  rw [Bool.and_eq_true, decide_eq_true_eq]
  refine ⟨hmon, ?_⟩
  unfold WindowState.visible_on
  rw [Nat.and_self]
  exact bne_iff_ne.2 htags

/-- The last resort is the tags of the first window of the monitor that has any. -/
theorem findSome?_eq_find? {l : List WinId} (hl : ∀ v ∈ l, v ∈ d.windows) :
    (l.findSome? fun v =>
        if (d.st v).mon_idx = i ∧ (d.st v).tags ≠ 0 then some (d.st v).tags else none) =
      ((l.filter fun v => decide ((d.st v).mon_idx = i)).map fun v => (d.st v).tags).find?
        (hasWindows d i) := by
  induction l with
  | nil => rfl
  | cons v l ih =>
    have hrest := ih fun u hu => hl u (List.mem_cons_of_mem _ hu)
    by_cases hmon : (d.st v).mon_idx = i
    · rw [List.filter_cons_of_pos (by simp [hmon]), List.map_cons, List.findSome?_cons]
      by_cases htags : (d.st v).tags = 0
      · have hno : ¬hasWindows d i (d.st v).tags = true := by
          rw [htags, hasWindows_zero]
          exact Bool.false_ne_true
        rw [List.find?_cons_of_neg hno, if_neg fun h => h.2 htags]
        exact hrest
      · have hyes := hasWindows_tags d i (hl v List.mem_cons_self) hmon htags
        rw [List.find?_cons_of_pos hyes, if_pos ⟨hmon, htags⟩]
    · rw [List.filter_cons_of_neg (by simp [hmon]), List.findSome?_cons, if_neg fun h => hmon h.1]
      exact hrest

/-- **The four steps of `target` are one search for a view that has windows.** -/
theorem target_eq_find? {current_tags : ℕ} (jump : Option ℕ)
    (hempty : hasWindows d i current_tags = false) :
    target
        { d with tag_history :=
            d.tag_history.modify i fun h => h.filter fun t => decide (t ≠ current_tags) }
        i current_tags jump =
      (d.returnViews i jump).find? (hasWindows d i) := by
  have hother {t : ℕ} (ht : hasWindows d i t = true) : t ≠ current_tags := by
    rintro rfl
    rw [hempty] at ht
    cases ht
  unfold target Desk.returnViews
  dsimp only
  rw [List.find?_append, List.find?_append, List.find?_append]
  refine congrArg₂ Option.or (congrArg₂ Option.or (congrArg₂ Option.or ?_ ?_) ?_) ?_
  · cases jump with
    | none => rfl
    | some prev =>
      show (some prev).filter (fun prev => decide (prev ≠ current_tags) && hasWindows d i prev) = _
      by_cases hprev : hasWindows d i prev = true
      · have hne := hother hprev
        simp [hprev, hne]
      · simp [hprev]
  · rw [List.getElem?_modify_eq]
    cases d.tag_history[i]? with
    | none => rfl
    | some h =>
      show (h.filter fun t => decide (t ≠ current_tags)).reverse.find? (hasWindows d i) =
        h.reverse.find? (hasWindows d i)
      rw [← List.filter_reverse, List.find?_filter]
      refine congrArg (List.find? · h.reverse) (funext fun t => ?_)
      by_cases ht : hasWindows d i t = true
      · have hne := hother ht
        simp [ht, hne]
      · simp [ht]
  · cases d.monitors[i]? with
    | none => rfl
    | some m =>
      show (if _ ∨ _ ∨ hasWindows d i (m.tagset (!m.sel_tags)) = false then none else _) = _
      by_cases hprev : hasWindows d i (m.tagset (!m.sel_tags)) = true
      · have hne := hother hprev
        have hzero : m.tagset (!m.sel_tags) ≠ 0 := by
          intro hzero
          rw [hzero, hasWindows_zero] at hprev
          cases hprev
        simp [hprev, hne, hzero]
      · simp [hprev]
  · exact findSome?_eq_find? d i fun v hv => hv

/-- What a monitor without windows on its view goes back to. -/
theorem backTo_eq (d : Desk) (i tags : ℕ) (jump : Option ℕ) :
    Rwl.backTo d i tags jump =
      if tags = 0 ∨ d.cfg.auto_back_empty_tag = false ∨ hasWindows d i tags then none
      else (d.returnViews i jump).find? (hasWindows d i) := by
  unfold Rwl.backTo
  split_ifs with hstay
  · rfl
  · exact target_eq_find? d i jump (Bool.eq_false_iff.2 fun h => hstay (.inr (.inr h)))

end auto_back_empty_tag

/-! ### The slots of the monitors -/

namespace Desk

/-- The two slots of each monitor, and which of them is the view. -/
def slots (d : Desk) : List ((Bool → ℕ) × Bool) := d.monitors.map fun m => (m.tagset, m.sel_tags)

theorem slots_bare (d : Desk) : d.bare.slots = d.slots := by
  simp only [slots, bare, List.map_map]
  rfl

theorem lasting_slots : Lasting fun d => (d.slots, d.tag_history) where
  bare h := by
    refine Prod.ext ?_ (congrArg Desk.tag_history h :)
    exact (slots_bare _).symm.trans ((congrArg slots h).trans (slots_bare _))
  raise _ _ := rfl
  select _ _ := rfl

end Desk

/-- The view in use becomes `t`; the other slot stays. -/
def backSlot (t : ℕ) (slot : (Bool → ℕ) × Bool) : (Bool → ℕ) × Bool :=
  (Function.update slot.1 slot.2 t, slot.2)

theorem slots_set_monitor_layout (cfg : Config) (m : Monitor) (idx : ℕ) :
    ((pertag_layouts.set_monitor_layout cfg m idx).tagset,
      (pertag_layouts.set_monitor_layout cfg m idx).sel_tags) = (m.tagset, m.sel_tags) := by
  unfold pertag_layouts.set_monitor_layout
  split_ifs <;> rfl

theorem slots_retag (cfg : Config) (m : Monitor) (t : ℕ) :
    (((MonitorOp.retag t).run cfg m).tagset, ((MonitorOp.retag t).run cfg m).sel_tags) =
      backSlot t (m.tagset, m.sel_tags) := by
  show ((pertag_layouts.apply cfg _ t).tagset, (pertag_layouts.apply cfg _ t).sel_tags) = _
  rw [pertag_layouts.apply_eq]
  cases pertag_layouts.tied cfg _ t with
  | none => rfl
  | some idx => exact slots_set_monitor_layout cfg _ idx

namespace Rwl

variable {s : Rwl} {w : WinId}

theorem slots_backed (d : Desk) (i tags t : ℕ) :
    (backed d i tags t).slots = d.slots.modify i (backSlot t) := by
  refine List.ext_getElem? fun j => ?_
  unfold backed Desk.slots
  show ((d.monitors.modify i _).map _)[j]? = _
  rw [List.getElem?_map, List.getElem?_modify, List.getElem?_modify, List.getElem?_map]
  cases d.monitors[j]? with
  | none => rfl
  | some m =>
    refine congrArg some ?_
    dsimp only
    split_ifs
    · exact slots_retag d.cfg m t
    · rfl

/-- The desk after `s` shows view `t` on monitor `i` instead of `tags`, and forgets that view. -/
structure Backs (d d' : Desk) (i tags t : ℕ) : Prop where
  slots : d'.slots = d.slots.modify i (backSlot t)
  history : d'.tag_history = d.tag_history.modify i fun h => h.filter fun t => decide (t ≠ tags)

theorem gone_backs {t : ℕ} (h : closesTo s.desk w = some t) :
    Backs s.desk (s.gone w).desk (s.desk.st w).mon_idx (s.desk.tagsOf (s.desk.st w).mon_idx) t := by
  obtain ⟨hback, hgone⟩ := gone_of_closesTo h
  rw [hgone, on_window_closed_eq hback]
  have hlast := Desk.lasting_slots.slideTo
    ((s.unmapped w).modifyDesk (backed · (s.desk.st w).mon_idx
      ((s.unmapped w).desk.tagsOf (s.desk.st w).mon_idx) t)).cancelRepeat
    ((s.unmapped w).desk.tagsOf (s.desk.st w).mon_idx) t
    ((backed (s.unmapped w).desk (s.desk.st w).mon_idx
      ((s.unmapped w).desk.tagsOf (s.desk.st w).mon_idx) t).outputWidth (s.desk.st w).mon_idx)
  obtain ⟨hslots, hhistory⟩ := Prod.mk.inj hlast
  constructor
  · rw [hslots]
    refine (slots_backed _ _ _ t).trans ?_
    rw [desk_unmapped]
    rfl
  · rw [hhistory]
    show (s.unmapped w).desk.tag_history.modify _ _ = _
    rw [desk_unmapped]
    rfl

theorem gone_stays (h : closesTo s.desk w = none) : (s.gone w).desk.slots = s.desk.slots := by
  obtain ⟨history, heq⟩ := gone_of_closesTo_none h
  rw [heq]
  show (s.unmapped w).desk.slots = _
  rw [desk_unmapped]
  rfl

/-! ### The law -/

/-- The desk that the closed window `w` of the surface `f` leaves, with the terminal it hid back in
its place. -/
def remaining (s : Rwl) (f : SurfaceId) (w : WinId) : Desk :=
  swallow.on_unmap (dropToplevel s.desk f) w

/-- The first view with a displayable window that the monitor of `w` may go back to. -/
def landing (s : Rwl) (f : SurfaceId) (w : WinId) : Option ℕ :=
  ((dropToplevel s.desk f).returnViews (s.desk.st w).mon_idx (s.desk.st w).switch_to_tag).find?
    ((s.remaining f w).displays (s.desk.st w).mon_idx)

/-- The view of the monitor of `w`. -/
def viewOf (s : Rwl) (w : WinId) : ℕ := s.desk.tagsOf (s.desk.st w).mon_idx

/-- The window shows on its monitor. -/
def ShownWindow (s : Rwl) (w : WinId) : Prop :=
  (s.desk.st w).buffer_mapped = true ∧ (s.desk.st w).is_swallowed = false ∧
    (s.desk.st w).visible_on (s.viewOf w) = true

/-- The view of `w` has a displayable window left. -/
def StillShows (s : Rwl) (f : SurfaceId) (w : WinId) : Prop :=
  (s.remaining f w).displays (s.desk.st w).mon_idx (s.viewOf w) = true

instance (s : Rwl) (w : WinId) : Decidable (s.ShownWindow w) :=
  inferInstanceAs (Decidable (_ ∧ _ ∧ _))

instance (s : Rwl) (f : SurfaceId) (w : WinId) : Decidable (s.StillShows f w) :=
  inferInstanceAs (Decidable (_ = true))

/-- The state once the window `w` of the surface `f` has closed and its monitor may have gone back
to another view; the hooks, the focus and the layout come later. -/
def closedBack (s : Rwl) (f : SurfaceId) (w : WinId) : Rwl :=
  (s.modifyDesk (dropToplevel · f)).gone w

/-- A window that closes as the last one of its view takes the view along; no other one does. -/
structure AutoBackLaw (s : Rwl) (f : SurfaceId) (w : WinId) : Prop where
  backs : s.ShownWindow w → ¬s.StillShows f w → ∀ t, s.landing f w = some t →
    Backs s.desk (s.closedBack f w).desk (s.desk.st w).mon_idx (s.viewOf w) t
  stays : ¬s.ShownWindow w ∨ s.StillShows f w ∨ s.landing f w = none →
    (s.closedBack f w).desk.slots = s.desk.slots

/-- The window is one whose closing may change a view: auto-back is on, the window had a buffer,
and does not float. -/
def Leads (s : Rwl) (w : WinId) : Prop :=
  s.desk.cfg.auto_back_empty_tag = true ∧ (s.desk.st w).buffer_mapped = true ∧
    (s.desk.st w).is_floating = false

instance (s : Rwl) (w : WinId) : Decidable (s.Leads w) := inferInstanceAs (Decidable (_ ∧ _ ∧ _))

/-- On the monitor of `w`, a view with windows, hidden terminals counted, is one with a displayable
window. -/
def NoneHidden (s : Rwl) (f : SurfaceId) (w : WinId) : Prop :=
  ∀ t, auto_back_empty_tag.hasWindows (dropToplevel s.desk f) (s.desk.st w).mon_idx t =
    (s.remaining f w).displays (s.desk.st w).mon_idx t

/-- **Auto-back lands on something visible.** -/
theorem auto_back_lands (s : Rwl) (f : SurfaceId) (w : WinId) :
    (¬s.Leads w → (s.closedBack f w).desk.slots = s.desk.slots) ∧
      (s.Leads w → s.NoneHidden f w →
        (s.ShownWindow w → ¬s.StillShows f w → ∀ t, s.landing f w = some t →
          Backs s.desk (s.closedBack f w).desk (s.desk.st w).mon_idx (s.viewOf w) t) ∧
        (s.StillShows f w ∨ s.landing f w = none →
          (s.closedBack f w).desk.slots = s.desk.slots)) := by
  have hcloses : closesTo (dropToplevel s.desk f) w =
      if (s.desk.st w).buffer_mapped = true ∧ (s.desk.st w).is_floating = false then
        backTo (dropToplevel s.desk f) (s.desk.st w).mon_idx (s.viewOf w)
          (s.desk.st w).switch_to_tag
      else none := rfl
  have hstays (h : closesTo (dropToplevel s.desk f) w = none) :
      (s.closedBack f w).desk.slots = s.desk.slots :=
    gone_stays (s := s.modifyDesk (dropToplevel · f)) h
  rw [auto_back_empty_tag.backTo_eq] at hcloses
  refine ⟨fun hno => hstays ?_, fun hleads hplain => ⟨fun hshown hlast t ht => ?_, fun hstill => ?_⟩⟩
  · rw [hcloses]
    split_ifs with hreal hguard
    · rfl
    · refine absurd ⟨Bool.eq_true_of_not_eq_false fun hoff => ?_, hreal⟩ hno
      exact hguard (.inr (.inl hoff))
    · rfl
  · have hpred : auto_back_empty_tag.hasWindows (dropToplevel s.desk f) (s.desk.st w).mon_idx =
        (s.remaining f w).displays (s.desk.st w).mon_idx := funext hplain
    have hview : s.viewOf w ≠ 0 := by
      intro hzero
      have hvisible := hshown.2.2
      rw [hzero] at hvisible
      simp [WindowState.visible_on] at hvisible
    have hback : closesTo (dropToplevel s.desk f) w = some t := by
      rw [hcloses, if_pos hleads.2, hpred, if_neg]
      · exact ht
      · rintro (hzero | hoff | hhas)
        · exact hview hzero
        · exact absurd (hoff.symm.trans hleads.1) Bool.false_ne_true
        · exact hlast hhas
    have hbacks := gone_backs (s := s.modifyDesk (dropToplevel · f)) hback
    exact ⟨hbacks.slots, hbacks.history⟩
  · have hpred : auto_back_empty_tag.hasWindows (dropToplevel s.desk f) (s.desk.st w).mon_idx =
        (s.remaining f w).displays (s.desk.st w).mon_idx := funext hplain
    refine hstays ?_
    rw [hcloses, hpred]
    split_ifs with hreal hguard
    · rfl
    · rcases hstill with hstill | hnone
      · exact absurd (.inr (.inr hstill)) hguard
      · exact hnone
    · rfl

/-- Without hidden terminals, a view with windows is one with a displayable window. -/
theorem noneHidden_of_free {s : Rwl} {f : SurfaceId} {w : WinId}
    (hw : (s.desk.st w).swallowing = none)
    (hfree : ∀ v ∈ (dropToplevel s.desk f).windows, (s.desk.st v).is_swallowed = false) :
    s.NoneHidden f w := by
  intro t
  have hseen (v : WinId) : (((s.remaining f w).st v).mon_idx, ((s.remaining f w).st v).tags,
      ((s.remaining f w).st v).is_swallowed) =
        ((s.desk.st v).mon_idx, (s.desk.st v).tags, (s.desk.st v).is_swallowed) := by
    have hnone : swallow.restored (dropToplevel s.desk f) w = none := by
      show (s.desk.st w).swallowing.filter _ = none
      rw [hw]
      rfl
    unfold remaining swallow.on_unmap
    rw [hnone]
    dsimp only
    split_ifs
    · unfold Windows.modifyAll
      dsimp only
      split_ifs <;> rfl
    · rfl
  have hwindows : (s.remaining f w).windows = (dropToplevel s.desk f).windows := by
    unfold remaining swallow.on_unmap
    dsimp only
    split <;> split_ifs <;> rfl
  unfold auto_back_empty_tag.hasWindows Desk.displays WindowState.visible_on
  rw [hwindows, Bool.eq_iff_iff, List.any_eq_true, List.any_eq_true]
  refine exists_congr fun v => and_congr_right fun hv => ?_
  obtain ⟨hmon, hrest⟩ := Prod.mk.inj (hseen v)
  obtain ⟨htags, hswallowed⟩ := Prod.mk.inj hrest
  rw [hmon, htags, hswallowed, hfree v hv, Bool.not_false, Bool.and_true]
  exact Iff.rfl

/-- A setup that goes back from empty views. -/
def backSetup : Setup :=
  { plainSetup [] [] with cfg := { plainConfig [] [] with auto_back_empty_tag := true } }

/-- A window on tag 1 and one on tag 2, which is viewed. -/
def twoTagsRun : List Event :=
  [.output_added 0 (plainOutput "a"), .new_toplevel 0 (plainClient 10), .commit 10 true,
    .ipc_outputs .view none 2, .new_toplevel 1 (plainClient 11), .commit 11 true]

/-- The second window closes: the view of the first one comes back. -/
theorem auto_back_lands_two :
    Backs (run step (init backSetup) twoTagsRun).desk
      ((run step (init backSetup) twoTagsRun).closedBack 11 1).desk
      ((run step (init backSetup) twoTagsRun).desk.st 1).mon_idx
      ((run step (init backSetup) twoTagsRun).viewOf 1) 1 :=
  ((auto_back_lands (run step (init backSetup) twoTagsRun) 11 1).2 (by decide +kernel)
    (noneHidden_of_free (by decide +kernel) (by decide +kernel))).1 (by decide +kernel)
      (by decide +kernel) 1 (by decide +kernel)

/-- It floats: the view stays, and shows nothing. -/
theorem not_autoBackLaw :
    ¬((run step (init backSetup) (twoTagsRun ++ [.ipc .ToggleFloating])).AutoBackLaw 11 1) := by
  intro h
  have hbacks := (h.backs (by decide +kernel) (by decide +kernel) 1 (by decide +kernel)).slots
  have hviews := congrArg (List.map fun slot => slot.1 slot.2) hbacks
  revert hviews
  decide +kernel

end Rwl

end Compositor
