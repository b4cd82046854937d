import Mathlib.Tactic.Common
import Rwl.Theory.Refocus

/-!
# Actions that focus nothing

`focus_window` gives the keyboard to a window without looking at anything else. What does not reach
it leaves the keyboard where it is.

* `KeepsKeyboard`: the keyboard stays where it is, unless a popup has it;
* `Rwl.QuietAction`, `Rwl.QuietCmd`, `Rwl.QuietDispatch`: what an action or a Lua command does not
  do when it focuses nothing;
* `Rwl.keeps_dispatch`, `Rwl.keeps_rounds`: then the keyboard stays where it is.
-/

namespace Compositor

open Transition

/-! ### Keeping the keyboard -/

namespace Seat

theorem unset_keyboard_grab_of_free {s : Seat} (h : s.kb_grab = none) (g : PopupGrab) :
    s.unset_keyboard_grab g = s := by
  unfold unset_keyboard_grab
  rw [h]

theorem keyboard_dropDeadGrab_of_free {s : Seat} (h : s.kb_grab = none) :
    s.dropDeadGrab.keyboard = s.keyboard := by
  unfold dropDeadGrab
  split
  · rfl
  · rfl
  · split_ifs <;> rfl
  · split_ifs
    · rfl
    · rw [unset_keyboard_grab_of_free h]
      rfl

theorem keyboard_unsetPopup_of_free {s : Seat} (h : s.kb_grab = none) (g : PopupGrab) :
    (s.unsetPopup g).keyboard = s.keyboard := by
  unfold unsetPopup
  rw [unset_keyboard_grab_of_free h]
  rfl

/-- A button leaves the keyboard alone when no popup has it. -/
theorem keyboard_button_of_free {s : Seat} (h : s.kb_grab = none) (btn : ℕ) (pressed : Bool)
    (serial : ℕ) : (s.button btn pressed serial).2.keyboard = s.keyboard := by
  unfold button
  generalize (if pressed then s.pressed_buttons ++ [btn]
    else s.pressed_buttons.filter fun b => decide (b ≠ btn)) = l
  have hdrop : ({ s with pressed_buttons := l } : Seat).dropDeadGrab.keyboard = s.keyboard :=
    keyboard_dropDeadGrab_of_free (s := { s with pressed_buttons := l }) h
  dsimp only
  generalize ({ s with pressed_buttons := l } : Seat).dropDeadGrab = d at hdrop ⊢
  have hfree : d.kb_grab = none := (congrArg Prod.snd hdrop).trans h
  split
  · unfold startClick
    split_ifs <;> exact hdrop
  · dsimp only
    split_ifs <;> exact hdrop
  · rename_i g _
    split_ifs
    · exact (keyboard_unsetPopup_of_free hfree g).trans hdrop
    · refine Eq.trans (keyboard_unsetPopup_of_free ?_ g) hdrop
      exact hfree
    · exact hdrop

end Seat

/-- The keyboard stays where it is, unless a popup has it. -/
def KeepsKeyboard (s s' : Rwl) : Prop :=
  s.seat.kb_grab = none → s'.seat.keyboard = s.seat.keyboard

namespace KeepsKeyboard

variable {s₀ s : Rwl}

theorem refl (s : Rwl) : KeepsKeyboard s s := fun _ => rfl

theorem trans {s' : Rwl} (h : KeepsKeyboard s₀ s) (h' : KeepsKeyboard s s') :
    KeepsKeyboard s₀ s' := by
  intro hfree
  have hkeys := h hfree
  exact (h' ((congrArg Prod.snd hkeys).trans hfree)).trans hkeys

theorem of_seat (h : KeepsKeyboard s₀ s) {s' : Rwl} (hs : s'.seat = s.seat) :
    KeepsKeyboard s₀ s' :=
  h.trans fun _ => congrArg Seat.keyboard hs

theorem emit (h : KeepsKeyboard s₀ s) (e : Effect) : KeepsKeyboard s₀ (s.emit e) := h.of_seat rfl

theorem fire (h : KeepsKeyboard s₀ s) (c : HookCall) : KeepsKeyboard s₀ (s.fire c) := h.of_seat rfl

theorem desk (h : KeepsKeyboard s₀ s) (f : Desk → Desk) : KeepsKeyboard s₀ (s.modifyDesk f) :=
  h.of_seat rfl

theorem ptr_motion (h : KeepsKeyboard s₀ s) (f : Option SurfaceId) (loc : PointF) :
    KeepsKeyboard s₀ (s.ptr_motion f loc) :=
  h.trans fun hfree => Seat.keyboard_motion_of_free hfree f loc

theorem arrange_all (h : KeepsKeyboard s₀ s) : KeepsKeyboard s₀ s.arrange_all :=
  h.trans fun _ => (Rwl.seat_arrange_all s).1

theorem warp_cursor_to_focused (h : KeepsKeyboard s₀ s) :
    KeepsKeyboard s₀ s.warp_cursor_to_focused := by
  unfold Rwl.warp_cursor_to_focused
  split_ifs
  · exact h
  · split
    · exact h.ptr_motion _ _
    · exact h

theorem deliverButton (h : KeepsKeyboard s₀ s) (btn : ℕ) (pressed : Bool) (serial : ℕ) :
    KeepsKeyboard s₀ (s.deliverButton btn pressed serial) :=
  h.trans fun hfree => Seat.keyboard_button_of_free hfree btn pressed serial

theorem spawn (h : KeepsKeyboard s₀ s) (cmd : List String) : KeepsKeyboard s₀ (s.spawn cmd) := by
  unfold Rwl.spawn
  split_ifs
  · exact h
  · exact h.emit _

theorem relayout (h : KeepsKeyboard s₀ s) (f : Config → Monitor → Monitor) :
    KeepsKeyboard s₀ (s.relayout f) := (h.desk _).arrange_all

end KeepsKeyboard

namespace Rwl

/-! ### Actions that focus nothing -/

/-- The window that `focus_or_toggle_matching_scratch` toggles. -/
def matchingScratch (d : Desk) (cmd : ScratchCmd) : Option WinId :=
  d.windows.find? fun w =>
    decide ((d.st w).scratch_key = cmd.key) ||
      (d.st w).last_appid.any fun id => contains id ((cmd.cmd.head?).getD "")

/-- The body of an action does not reach `focus_window`, nor the locker. -/
def QuietAction (s : Rwl) : Action → Prop
  | .FocusStack dir => stepTarget s.desk dir = none
  | .Zoom => ∀ w, zoomTarget s.desk = some w → w ∉ s.desk.windows
  | .View _ | .ViewPrev | .ViewTagSpawn _ | .ToggleView _ => False
  | .ViewNextOccTag dir => s.desk.next_occ_tag dir = none
  | .Tag mask => mask &&& s.desk.cfg.tag_mask = 0
  | .FocusMon dir => s.desk.dir_to_monitor s.desk.sel_mon dir = none
  | .TagMon dir => s.desk.cfg.follow = true → ∀ w, s.desk.focused_window = some w →
      s.desk.dir_to_monitor s.desk.sel_mon dir = none
  | .ToggleScratch cmd | .FocusOrToggleScratch cmd => find_scratch s.desk cmd.key = none
  | .FocusOrToggleMatchingScratch cmd => matchingScratch s.desk cmd = none
  | .Lock => s.session.locked = true ∨ s.session.native_lock.isSome = true
  | _ => True

section Perform

variable {s₀ s : Rwl}

theorem keeps_overview_choose (h : KeepsKeyboard s₀ s) (ov : OverviewState) (i : Option ℕ) :
    KeepsKeyboard s₀ (overview.choose s ov i) := by
  unfold overview.choose
  split <;> exact h.of_seat rfl

theorem keeps_overview_toggle (h : KeepsKeyboard s₀ s) (all_tags : Bool) :
    KeepsKeyboard s₀ (overview.toggle s all_tags) := by
  unfold overview.toggle
  split_ifs
  · exact h.of_seat rfl
  · split
    · exact h
    · dsimp only
      split_ifs
      · exact h
      · exact h.of_seat rfl

theorem keeps_handle_key (h : KeepsKeyboard s₀ s) (keysym : ℕ) :
    KeepsKeyboard s₀ (overview.handle_key s keysym) := by
  unfold overview.handle_key
  split_ifs
  · exact h
  · exact h.of_seat rfl
  · unfold overview.select_best
    split
    · exact h
    · exact keeps_overview_choose h _ _
  · exact h.of_seat rfl
  · exact h.of_seat rfl
  · exact h.of_seat rfl
  · split
    · unfold overview.type_char
      split
      · exact h
      · dsimp only
        split_ifs
        · exact h
        · exact keeps_overview_choose (s := overview.modify s _) (h.of_seat rfl) _ _
    · exact h

/-- **A quiet action leaves the keyboard where it is.** -/
theorem keeps_perform (h : KeepsKeyboard s₀ s) {a : Action} (ha : s.QuietAction a) :
    KeepsKeyboard s₀ (s.perform a) := by
  cases a with
  | Spawn cmd =>
    change KeepsKeyboard s₀ (s.spawn cmd)
    exact h.spawn cmd
  | FocusStack dir =>
    change KeepsKeyboard s₀ (s.focus_stack_step dir)
    unfold focus_stack_step
    rw [show stepTarget s.desk dir = none from ha]
    exact h
  | IncNmaster delta =>
    change KeepsKeyboard s₀ (s.inc_nmaster delta)
    unfold inc_nmaster
    exact h.relayout _
  | SetMfact delta =>
    change KeepsKeyboard s₀ (s.set_mfact delta)
    unfold set_mfact
    exact h.relayout _
  | Zoom =>
    change KeepsKeyboard s₀ s.zoom
    unfold zoom
    split
    · exact h
    · rename_i w hw
      rw [if_neg (ha w hw)]
      exact h
  | ViewPrev => exact ha.elim
  | ViewNextOccTag dir =>
    change KeepsKeyboard s₀ (s.view_next_occ_tag dir)
    unfold view_next_occ_tag
    rw [show s.desk.next_occ_tag dir = none from ha]
    exact h
  | KillClient =>
    change KeepsKeyboard s₀ s.kill_focused
    unfold kill_focused
    split
    · exact h.emit _
    · exact h
  | SetLayout idx =>
    change KeepsKeyboard s₀ (s.set_layout idx)
    unfold set_layout
    exact h.relayout _
  | CycleLayout =>
    change KeepsKeyboard s₀ s.cycle_layout
    unfold cycle_layout
    dsimp only
    split_ifs
    · exact h.arrange_all
    · unfold set_layout
      exact h.relayout _
  | ResetLayout =>
    change KeepsKeyboard s₀ s.reset_layout
    unfold reset_layout
    exact h.relayout _
  | ToggleFloating =>
    change KeepsKeyboard s₀ s.toggle_focused_floating
    unfold toggle_focused_floating
    split
    · exact (h.desk _).arrange_all
    · exact h
  | ToggleFullscreen =>
    change KeepsKeyboard s₀ s.toggle_focused_fullscreen
    unfold toggle_focused_fullscreen
    split
    · exact ((h.desk _).arrange_all.fire _).emit _
    · exact h
  | TogglePassthrough => exact h.of_seat rfl
  | ToggleGaps =>
    change KeepsKeyboard s₀ s.toggle_gaps
    unfold toggle_gaps
    exact (h.desk _).arrange_all
  | View mask => exact ha.elim
  | ViewTagSpawn mask => exact ha.elim
  | ToggleView mask => exact ha.elim
  | Tag mask =>
    change KeepsKeyboard s₀ (s.tag mask)
    have hzero : mask &&& s.desk.cfg.tag_mask = 0 := ha
    unfold tag
    dsimp only
    rw [if_pos hzero]
    exact h
  | ToggleTag mask =>
    change KeepsKeyboard s₀ (s.toggle_tag mask)
    unfold toggle_tag
    dsimp only
    refine KeepsKeyboard.arrange_all ?_
    split
    · split_ifs
      · exact h.desk _
      · exact h
    · exact h
  | FocusMon dir =>
    change KeepsKeyboard s₀ (s.focus_mon dir)
    unfold focus_mon
    rw [show s.desk.dir_to_monitor s.desk.sel_mon dir = none from ha]
    exact h
  | TagMon dir =>
    change KeepsKeyboard s₀ (s.tag_mon dir)
    unfold tag_mon
    split
    · rename_i w next hw hnext
      by_cases hfollow : s.desk.cfg.follow = true
      · have hnone := ha hfollow w hw
        rw [hnone] at hnext
        cases hnext
      · dsimp only
        rw [if_neg hfollow]
        exact (h.desk _).arrange_all
    · exact h
  | ToggleScratch cmd =>
    change KeepsKeyboard s₀ (s.toggle_scratch cmd)
    unfold toggle_scratch
    rw [show find_scratch s.desk cmd.key = none from ha]
    exact h.spawn _
  | FocusOrToggleScratch cmd =>
    change KeepsKeyboard s₀ (s.focus_or_toggle_scratch cmd)
    unfold focus_or_toggle_scratch
    rw [show find_scratch s.desk cmd.key = none from ha]
    exact h.spawn _
  | FocusOrToggleMatchingScratch cmd =>
    change KeepsKeyboard s₀ (s.focus_or_toggle_matching_scratch cmd)
    unfold focus_or_toggle_matching_scratch
    dsimp only
    split
    · rename_i w hw
      have hnone : matchingScratch s.desk cmd = none := ha
      unfold matchingScratch at hnone
      rw [hnone] at hw
      cases hw
    · exact h.spawn _
  | Chvt vt =>
    change KeepsKeyboard s₀ (s.emit _)
    exact h.emit _
  | ReloadConfig =>
    change KeepsKeyboard s₀ s.reload_config
    unfold reload_config reapply_monitor_rules
    exact ((((h.desk _).desk _).fire _).desk _).arrange_all.emit _
  | Quit => exact h.of_seat rfl
  | ToggleBar =>
    change KeepsKeyboard s₀ (s.emit _).toggle_gaps
    unfold toggle_gaps
    exact ((h.emit _).desk _).arrange_all
  | BarPrompt =>
    change KeepsKeyboard s₀ (s.emit _)
    exact h.emit _
  | ToggleOverview =>
    change KeepsKeyboard s₀ (overview.toggle s _)
    exact keeps_overview_toggle h _
  | ToggleOverviewAll =>
    change KeepsKeyboard s₀ (overview.toggle s _)
    exact keeps_overview_toggle h _
  | OverviewNav keysym =>
    change KeepsKeyboard s₀ (overview.handle_key s _)
    exact keeps_handle_key h _
  | TogglePip =>
    change KeepsKeyboard s₀ (pip.toggle s)
    unfold pip.toggle
    split_ifs
    · exact h.of_seat rfl
    · split
      · exact h.of_seat rfl
      · exact h
  | Lock =>
    change KeepsKeyboard s₀ s.lock
    have hnoop : s.session.locked = true ∨ s.session.native_lock.isSome = true := ha
    unfold lock
    rw [if_pos hnoop]
    exact h
  | _ => exact h

theorem keeps_notifyChanges (before : Rwl) (h : KeepsKeyboard s₀ s) :
    KeepsKeyboard s₀ (before.notifyChanges s) := by
  unfold notifyChanges
  split
  · split_ifs
    · exact h
    · exact ((((h.fire _).emit _).fire _).emit _)
    · exact (h.fire _).emit _
    · exact (h.fire _).emit _
    · exact h
  · exact h

end Perform

/-! ### Dispatch and Lua commands -/

/-- An action focuses nothing; `calls` says so of the commands of a Lua call. -/
def QuietBody (calls : Rwl → Prop) (s : Rwl) : Action → Prop
  | .CallLua name => calls (s.fire (.call name))
  | a => s.QuietAction a

/-- A dispatch focuses nothing: an open overview is closed first, or has its window killed. -/
def QuietDispatch (calls : Rwl → Prop) (s : Rwl) (a : Action) : Prop :=
  (s.overview.isSome = true ∧ a = .KillClient) ∨
    QuietBody calls (if s.overview.isNone = true then s else overview.force_close s) a

/-- A Lua command focuses nothing. -/
def QuietCmd (s : Rwl) : HookCmd → Prop
  | .View mask => mask &&& s.desk.cfg.tag_mask = 0
  | .SetTags w mask => mask &&& s.desk.cfg.tag_mask = 0 ∨ w ∉ s.desk.windows
  | .Focus w | .Warp w => w ∉ s.desk.windows
  | .Dispatch a => s.QuietDispatch (fun _ => True) a
  | .ToggleTags w mask =>
      ¬(mask &&& s.desk.cfg.tag_mask ≠ 0 ∧ w ∈ s.desk.windows ∧
        ((s.desk.st w).tags ^^^ (mask &&& s.desk.cfg.tag_mask)) &&& s.desk.cfg.tag_mask ≠ 0)
  | .MoveToMonitor w dir =>
      w ∈ s.desk.windows → s.desk.dir_to_monitor (s.desk.st w).mon_idx dir = none
  | _ => True

/-- A list of Lua commands focuses nothing. -/
def QuietCmds : List HookCmd → Rwl → Prop
  | [], _ => True
  | c :: cs, s => s.QuietCmd c ∧ QuietCmds cs (s.apply c)

/-- Rounds of the queue focus nothing. -/
def QuietRounds : ℕ → Rwl → Prop
  | 0, _ => True
  | n + 1, s => s.hooks.queue.isEmpty = false →
      QuietCmds s.hooks.queue { s with hooks := { s.hooks with queue := [] } } ∧
        QuietRounds n
          (s.hooks.queue.foldl apply { s with hooks := { s.hooks with queue := [] } })

section Dispatch

variable {s₀ s : Rwl} {calls : Rwl → Prop} {drain : Rwl → Rwl}

theorem keeps_act (hcalls : ∀ t, KeepsKeyboard s₀ t → calls t → KeepsKeyboard s₀ (drain t))
    (h : KeepsKeyboard s₀ s) {a : Action} (ha : s.QuietBody calls a) :
    KeepsKeyboard s₀ (s.act drain a) := by
  cases a with
  | CallLua name => exact hcalls _ (h.fire _) ha
  | SendKeys syms => exact h.emit _
  | _ => exact keeps_notifyChanges s (keeps_perform h ha)

theorem quietBody_of_keepsOverview {a : Action} (ha : keepsOverview a = true) :
    s.QuietBody calls a := by
  cases a with
  | OverviewNav keysym => trivial
  | ToggleOverview => trivial
  | ToggleOverviewAll => trivial
  | Consumed => trivial
  | _ => cases ha

/-- **A quiet dispatch leaves the keyboard where it is.** -/
theorem keeps_dispatchWith
    (hcalls : ∀ t, KeepsKeyboard s₀ t → calls t → KeepsKeyboard s₀ (drain t))
    (h : KeepsKeyboard s₀ s) {a : Action} (ha : s.QuietDispatch calls a) :
    KeepsKeyboard s₀ (s.dispatchWith drain a) := by
  unfold dispatchWith
  split_ifs with hopen hkill
  · refine keeps_act hcalls h ?_
    rcases hopen with hnone | hkeeps
    · rcases ha with ⟨hsome, -⟩ | hbody
      · rw [Option.isNone_iff_eq_none] at hnone
        rw [hnone] at hsome
        cases hsome
      · rwa [if_pos hnone] at hbody
    · exact quietBody_of_keepsOverview hkeeps
  · unfold overview.kill_selected
    split
    · split_ifs
      · exact h.emit _
      · exact h
    · exact h
  · have hbody := ha.resolve_left fun hk => hkill hk.2
    rw [if_neg fun hnone => hopen (.inl hnone)] at hbody
    exact keeps_act (s := overview.force_close s) hcalls (h.of_seat rfl) hbody

/-- **A quiet Lua command leaves the keyboard where it is.** -/
theorem keeps_apply (h : KeepsKeyboard s₀ s) {c : HookCmd} (hc : s.QuietCmd c) :
    KeepsKeyboard s₀ (s.apply c) := by
  have hid (t : Rwl) (ht : KeepsKeyboard s₀ t) (_ : True) : KeepsKeyboard s₀ (id t) := ht
  cases c with
  | Spawn argv => exact h.spawn argv
  | View mask =>
    have hzero : mask &&& s.desk.cfg.tag_mask = 0 := hc
    unfold apply
    dsimp only
    rw [if_neg (not_not.2 hzero)]
    exact h
  | Notify msg => exact h.emit _
  | SetTags w mask =>
    unfold apply
    dsimp only
    rw [if_neg]
    · exact h
    · rintro ⟨hne, hmem⟩
      exact hc.elim hne (absurd hmem)
  | SetFloating w floating =>
    unfold apply
    dsimp only
    split_ifs
    · exact (h.desk _).arrange_all
    · exact h
  | Focus w =>
    unfold apply
    dsimp only
    rw [if_neg hc]
    exact h
  | Close w =>
    unfold apply
    dsimp only
    split_ifs
    · exact h.emit _
    · exact h
  | SetLayout idx =>
    refine keeps_dispatchWith hid h (.inr ?_)
    trivial
  | Dispatch a => exact keeps_dispatchWith hid h hc
  | SetFullscreen w fs =>
    unfold apply
    dsimp only
    split_ifs
    · exact (h.desk _).arrange_all
    · exact h
  | ToggleTags w mask =>
    unfold apply
    dsimp only
    rw [if_neg hc]
    exact h
  | MoveToMonitor w dir =>
    unfold apply
    dsimp only
    split_ifs with hmem
    · rw [show s.desk.dir_to_monitor (s.desk.st w).mon_idx dir = none from hc hmem]
      exact h
    · exact h
  | Warp w =>
    unfold apply
    dsimp only
    rw [if_neg hc]
    exact h
  | SetScratch w key =>
    unfold apply
    dsimp only
    split_ifs
    · exact h.desk _
    · exact h
  | SetWallpaper _ => exact h

theorem keeps_cmds (cs : List HookCmd) {s : Rwl} (h : KeepsKeyboard s₀ s)
    (hq : QuietCmds cs s) : KeepsKeyboard s₀ (cs.foldl apply s) := by
  induction cs generalizing s with
  | nil => exact h
  | cons c cs ih => exact ih (keeps_apply h hq.1) hq.2

theorem keeps_rounds (n : ℕ) {s : Rwl} (h : KeepsKeyboard s₀ s) (hq : QuietRounds n s) :
    KeepsKeyboard s₀ (drainRounds n s) := by
  induction n generalizing s with
  | zero => exact h
  | succ n ih =>
    unfold drainRounds
    split_ifs with hempty
    · exact h
    · obtain ⟨hcmds, hrounds⟩ := hq (Bool.eq_false_iff.2 hempty)
      exact ih (keeps_cmds _ (h.of_seat rfl) hcmds) hrounds

theorem keeps_dispatch (h : KeepsKeyboard s₀ s) {a : Action}
    (ha : s.QuietDispatch (QuietRounds 8) a) : KeepsKeyboard s₀ (s.dispatch a) :=
  keeps_dispatchWith (fun _ => keeps_rounds 8) h ha

end Dispatch

end Rwl

end Compositor
