import Mathlib.Tactic.Common
import Rwl.Theory.FocusCycle

/-!
# Toggling a scratchpad

Showing a scratchpad gives it the tags of the selected monitor, but leaves the monitor it is
assigned to alone, and then focuses it, so the selection follows it there.

* `ScratchToggle`: the three toggles, the window each is about and when it hides it;
* `showScratch_spec`, `hideScratch_spec`: what showing and hiding do;
* `ScratchLaw`: a toggle shows a scratchpad on the selected monitor, the next one takes it away;
* `scratchLaw_iff`: when that is so.
-/

namespace Compositor

open Transition

namespace Desk

/-- What a toggle looks a window up by, and the surfaces of the windows. -/
def labels (d : Desk) : (WinId → Char × Option String) × (WinId → Option SurfaceId) :=
  (fun w => ((d.st w).scratch_key, (d.st w).last_appid), d.wl_surface)

theorem labels_of_bare {d d' : Desk} (h : d'.bare = d.bare) : d'.labels = d.labels :=
  (congrArg (fun b : Desk => b.labels) h :)

theorem labels_modifyWindow (d : Desk) (w : WinId) {f : WindowState → WindowState}
    (hf : ∀ st, ((f st).scratch_key, (f st).last_appid) = (st.scratch_key, st.last_appid)) :
    (d.modifyWindow w f).labels = d.labels :=
  Prod.ext (funext fun v =>
    Windows.modify_field (fun st => (st.scratch_key, st.last_appid)) d.st w v f hf) rfl

end Desk

namespace Rwl

variable (s : Rwl)

/-! ### What stays -/

theorem labels_followFocus (w : WinId) (prev : Option WinId) :
    (s.followFocus w prev).desk.labels = s.desk.labels := by
  have harrange (s : Rwl) (i : ℕ) : (s.arrange i).desk.labels = s.desk.labels :=
    Desk.labels_of_bare (Desk.bare_arrange s.desk i)
  unfold followFocus
  dsimp only
  split
  · split_ifs
    · exact (harrange _ _).trans (harrange _ _)
    · exact harrange _ _
  · exact harrange _ _

theorem labels_focus_window (window : Option WinId) :
    (s.focus_window window).desk.labels = s.desk.labels := by
  cases window with
  | none =>
    rw [focus_window_none]
    split_ifs <;> rfl
  | some w =>
    have hraised : (raise s.desk w).labels = s.desk.labels :=
      Desk.labels_modifyWindow
        { s.desk with focus_stack := Recency.toFront w s.desk.focus_stack } w fun _ => rfl
    unfold focus_window
    dsimp only
    split_ifs
    · exact hraised
    · exact hraised
    · refine (labels_followFocus _ w _).trans ?_
      rw [desk_notifyFocus]
      exact hraised

theorem session_warp_cursor_to_focused : s.warp_cursor_to_focused.session = s.session := by
  unfold warp_cursor_to_focused
  split_ifs
  · rfl
  · split <;> rfl

/-- Warping leaves the keyboard alone when no popup has it. -/
theorem keyboard_warp_cursor_to_focused {s : Rwl} (h : s.seat.kb_grab = none) :
    s.warp_cursor_to_focused.seat.keyboard = s.seat.keyboard := by
  unfold warp_cursor_to_focused
  split_ifs
  · rfl
  · split
    · exact Seat.keyboard_motion_of_free h _ _
    · rfl

/-! ### Showing and hiding -/

/-- How a toggle ends: a window is focused, the desk arranged and the pointer warped. -/
def settledOn (window : Option WinId) : Rwl :=
  (s.focus_window window).arrange_all.warp_cursor_to_focused

theorem scene_settledOn (window : Option WinId) :
    (s.settledOn window).desk.scene = s.desk.scene := by
  rw [settledOn, desk_warp_cursor_to_focused, scene_arrange_all, scene_focus_window]

theorem labels_settledOn (window : Option WinId) :
    (s.settledOn window).desk.labels = s.desk.labels := by
  rw [settledOn, desk_warp_cursor_to_focused, desk_arrange_all,
    Desk.labels_of_bare (Desk.bare_arrangePasses _), labels_focus_window]

theorem sel_mon_settledOn (window : Option WinId) :
    (s.settledOn window).desk.sel_mon = (s.focus_window window).desk.sel_mon := by
  rw [settledOn, desk_warp_cursor_to_focused, sel_mon_arrange_all]

theorem focus_stack_settledOn (window : Option WinId) :
    (s.settledOn window).desk.focus_stack = (s.focus_window window).desk.focus_stack := by
  rw [settledOn, desk_warp_cursor_to_focused, focus_stack_arrange_all]

theorem focused_window_settledOn (window : Option WinId) :
    (s.settledOn window).desk.focused_window = (s.focus_window window).desk.focused_window :=
  Desk.focused_window_of_scene ((scene_settledOn s window).trans (scene_focus_window s window).symm)
    (focus_stack_settledOn s window) (sel_mon_settledOn s window)

theorem session_settledOn (window : Option WinId) : (s.settledOn window).session = s.session := by
  rw [settledOn, session_warp_cursor_to_focused, session_arrange_all, session_focus_window]

/-- The keyboard goes to the window, when no popup has it. -/
theorem keyboard_settledOn {s : Rwl} (hlocked : s.session.locked = false)
    (hfree : s.seat.kb_grab = none) (window : Option WinId) :
    (s.settledOn window).seat.keyboard = (window.bind s.desk.wl_surface, none) := by
  have hfocused : (s.focus_window window).seat =
      { s.seat with kb_focus := window.bind s.desk.wl_surface } := by
    rw [seat_focus_window, if_neg (by rw [hlocked]; exact Bool.false_ne_true),
      Seat.set_focus_of_free hfree]
  have harranged : (s.focus_window window).arrange_all.seat.keyboard =
      (window.bind s.desk.wl_surface, none) := by
    rw [(seat_arrange_all _).1, hfocused]
    exact congrArg (Prod.mk _) hfree
  rw [settledOn, keyboard_warp_cursor_to_focused (congrArg Prod.snd harranged), harranged]

theorem showScratch_eq (w : WinId) : s.showScratch w =
    (s.modifyDesk (Desk.set_window_tags · w ((s.desk.sel_monitor.map Monitor.tags).getD 1))
      ).settledOn (some w) := rfl

/-- The desk on which hiding a scratchpad refocuses. -/
def withoutScratch (d : Desk) (w : WinId) : Desk :=
  { d.set_window_tags w 0 with focus_stack := d.focus_stack.filter fun v => decide (v ≠ w) }

/-- The placement of a window once another one has got other tags. -/
theorem placement_set_window_tags {d : Desk} {v w : WinId} (h : v ≠ w) (tags : ℕ) :
    ((d.set_window_tags w tags).st v).placement = (d.st v).placement :=
  congrArg WindowState.placement (Windows.modify_of_ne h d.st fun s => { s with tags := tags })

theorem placement_self_set_window_tags (d : Desk) (w : WinId) (tags : ℕ) :
    ((d.set_window_tags w tags).st w).placement = { (d.st w).placement with tags := tags } :=
  congrArg WindowState.placement (Windows.modify_self d.st w _)

/-- Hiding what was shown focuses the window that was focused before. -/
theorem focused_withoutScratch {d d₁ : Desk} {w : WinId} {tags : ℕ}
    (hscene : d₁.scene = (d.set_window_tags w tags).scene) (hsel : d₁.sel_mon = d.sel_mon)
    (hstack : d₁.focus_stack = Recency.toFront w d.focus_stack)
    (hw : (d.st w).visible_on (d.tagsOf d.sel_mon) = false) :
    (withoutScratch d₁ w).focused_window = d.focused_window := by
  have hview : (withoutScratch d₁ w).tagsOf d.sel_mon = d.tagsOf d.sel_mon :=
    (Desk.tagsOf_of_scene hscene d.sel_mon).trans rfl
  have hself : ((withoutScratch d₁ w).st w).visible_on (d.tagsOf d.sel_mon) = false := by
    have htags : ((withoutScratch d₁ w).st w).tags = 0 :=
      congrArg Placement.tags (placement_self_set_window_tags d₁ w 0)
    unfold WindowState.visible_on
    rw [htags, Nat.zero_and]
    rfl
  have hother (v : WinId) (hv : v ≠ w) :
      ((withoutScratch d₁ w).st v).placement = (d.st v).placement :=
    (placement_set_window_tags hv 0).trans
      ((Desk.placement_of_scene hscene v).trans (placement_set_window_tags hv tags))
  have hsel' : (withoutScratch d₁ w).sel_mon = d.sel_mon := hsel
  unfold Desk.focused_window Desk.topOn
  rw [hsel', hview]
  change (d₁.focus_stack.filter _).find? _ = _
  rw [hstack, Recency.filter_ne_toFront, List.find?_filter]
  refine congrArg (List.find? · d.focus_stack) (funext fun v => ?_)
  by_cases hv : v = w
  · rw [hv, hself, hw]
    simp
  · have htags : ((withoutScratch d₁ w).st v).tags = (d.st v).tags :=
      congrArg Placement.tags (hother v hv)
    have hmon : ((withoutScratch d₁ w).st v).mon_idx = (d.st v).mon_idx :=
      congrArg Placement.mon_idx (hother v hv)
    unfold WindowState.visible_on
    rw [htags, hmon, Bool.eq_iff_iff]
    simp [hv]

/-- **What showing a scratchpad of the selected monitor does.** -/
theorem showScratch_spec {s : Rwl} {w : WinId} (hmon : (s.desk.st w).mon_idx = s.desk.sel_mon)
    (hview : s.desk.tagsOf s.desk.sel_mon ≠ 0) :
    (s.showScratch w).desk.scene =
        (s.desk.set_window_tags w (s.desk.tagsOf s.desk.sel_mon)).scene ∧
      (s.showScratch w).desk.sel_mon = s.desk.sel_mon ∧
      (s.showScratch w).desk.focus_stack = Recency.toFront w s.desk.focus_stack ∧
      (s.showScratch w).desk.focused_window = some w := by
  have htags : (s.desk.sel_monitor.map Monitor.tags).getD 1 = s.desk.tagsOf s.desk.sel_mon := by
    unfold Desk.tagsOf Desk.sel_monitor at *
    cases hfound : s.desk.monitors[s.desk.sel_mon]? with
    | none => rw [hfound] at hview; exact absurd rfl hview
    | some m => rfl
  let t := s.modifyDesk (Desk.set_window_tags · w (s.desk.tagsOf s.desk.sel_mon))
  have heq : s.showScratch w = t.settledOn (some w) := by
    rw [showScratch_eq, htags]
  have hplace := placement_self_set_window_tags s.desk w (s.desk.tagsOf s.desk.sel_mon)
  have hvisible : (t.desk.st w).visible_on (t.desk.tagsOf t.desk.sel_mon) = true := by
    have hself : (t.desk.st w).tags = t.desk.tagsOf t.desk.sel_mon := congrArg Placement.tags hplace
    unfold WindowState.visible_on
    rw [hself, Nat.and_self]
    exact bne_iff_ne.2 hview
  obtain ⟨hfocused, hsel⟩ := focus_window_of_visible hvisible
    ((congrArg Placement.mon_idx hplace).trans hmon)
  rw [heq, scene_settledOn, sel_mon_settledOn, focus_stack_settledOn, focused_window_settledOn,
    focus_stack_focus_window]
  exact ⟨rfl, hsel, rfl, hfocused⟩

/-- **What hiding a scratchpad does.** -/
theorem hideScratch_spec (w : WinId) :
    (s.hideScratch w).desk.scene = (s.desk.set_window_tags w 0).scene ∧
      (s.hideScratch w).desk.sel_mon = s.desk.sel_mon ∧
      (s.hideScratch w).desk.focused_window = (withoutScratch s.desk w).focused_window := by
  let t := s.modifyDesk (withoutScratch · w)
  have heq : s.hideScratch w = t.settledOn t.desk.focused_window := rfl
  have hsel : t.focus_top.desk.sel_mon = s.desk.sel_mon := sel_mon_focus_top t
  rw [heq, scene_settledOn, sel_mon_settledOn, focused_window_settledOn]
  exact ⟨rfl, hsel, focused_window_focus_top t⟩

theorem keyboard_showScratch {s : Rwl} (hlocked : s.session.locked = false)
    (hfree : s.seat.kb_grab = none) (w : WinId) :
    (s.showScratch w).seat.keyboard = (s.desk.wl_surface w, none) :=
  keyboard_settledOn (s := s.modifyDesk _) hlocked hfree (some w)

theorem keyboard_hideScratch {s : Rwl} (hlocked : s.session.locked = false)
    (hfree : s.seat.kb_grab = none) (w : WinId) : (s.hideScratch w).seat.keyboard =
      ((withoutScratch s.desk w).focused_window.bind s.desk.wl_surface, none) :=
  keyboard_settledOn (s := s.modifyDesk (withoutScratch · w)) hlocked hfree _

/-! ### The toggles -/

/-- The three toggles. -/
inductive ScratchToggle
  | toggle_scratch
  | focus_or_toggle_scratch
  | focus_or_toggle_matching_scratch

namespace ScratchToggle

/-- What a toggle does. -/
def run (s : Rwl) (cmd : ScratchCmd) : ScratchToggle → Rwl
  | toggle_scratch => s.toggle_scratch cmd
  | focus_or_toggle_scratch => s.focus_or_toggle_scratch cmd
  | focus_or_toggle_matching_scratch => s.focus_or_toggle_matching_scratch cmd

/-- The window a toggle is about. -/
def find (d : Desk) (cmd : ScratchCmd) : ScratchToggle → Option WinId
  | focus_or_toggle_matching_scratch => d.windows.find? fun w =>
      decide ((d.st w).scratch_key = cmd.key) ||
        (d.st w).last_appid.any fun id => contains id ((cmd.cmd.head?).getD "")
  | _ => find_scratch d cmd.key

/-- A toggle hides the window. -/
def hides (d : Desk) (w : WinId) : ScratchToggle → Bool
  | focus_or_toggle_scratch => decide (d.focused_window = some w)
  | _ => (d.st w).visible_on (d.tagsOf d.sel_mon)

theorem run_eq {s : Rwl} {cmd : ScratchCmd} {w : WinId} (t : ScratchToggle)
    (h : t.find s.desk cmd = some w) :
    t.run s cmd = if t.hides s.desk w then s.hideScratch w else s.showScratch w := by
  cases t with
  | toggle_scratch =>
    change s.toggle_scratch cmd = _
    unfold Rwl.toggle_scratch
    rw [show find_scratch s.desk cmd.key = some w from h]
    rfl
  | focus_or_toggle_scratch =>
    change s.focus_or_toggle_scratch cmd = _
    unfold Rwl.focus_or_toggle_scratch
    rw [show find_scratch s.desk cmd.key = some w from h]
    exact if_congr decide_eq_true_iff.symm rfl rfl
  | focus_or_toggle_matching_scratch =>
    change s.focus_or_toggle_matching_scratch cmd = _
    unfold Rwl.focus_or_toggle_matching_scratch
    dsimp only
    rw [show List.find? _ s.desk.windows = some w from h]
    rfl

/-- What a toggle is about depends on the windows and their labels. -/
theorem find_congr {d d' : Desk} (hwindows : d'.windows = d.windows) (hlabels : d'.labels = d.labels)
    (cmd : ScratchCmd) (t : ScratchToggle) : t.find d' cmd = t.find d cmd := by
  have hlabel (w : WinId) : ((d'.st w).scratch_key, (d'.st w).last_appid) =
      ((d.st w).scratch_key, (d.st w).last_appid) :=
    congrFun (congrArg Prod.fst hlabels) w
  have hkey (w : WinId) : (d'.st w).scratch_key = (d.st w).scratch_key :=
    congrArg Prod.fst (hlabel w)
  have happid (w : WinId) : (d'.st w).last_appid = (d.st w).last_appid :=
    congrArg Prod.snd (hlabel w)
  cases t with
  | toggle_scratch =>
    unfold find find_scratch
    simp only [hwindows, hkey]
  | focus_or_toggle_scratch =>
    unfold find find_scratch
    simp only [hwindows, hkey]
  | focus_or_toggle_matching_scratch =>
    unfold find
    simp only [hwindows, hkey, happid]

theorem mem_of_find {d : Desk} {cmd : ScratchCmd} {w : WinId} {t : ScratchToggle}
    (h : t.find d cmd = some w) : w ∈ d.windows := by
  cases t with
  | toggle_scratch => exact List.mem_of_find?_eq_some h
  | focus_or_toggle_scratch => exact List.mem_of_find?_eq_some h
  | focus_or_toggle_matching_scratch => exact List.mem_of_find?_eq_some h

/-- Whatever a toggle does, the tags of its window are all it changes of the scene. -/
theorem scene_run {s : Rwl} {cmd : ScratchCmd} {w : WinId} (t : ScratchToggle)
    (h : t.find s.desk cmd = some w) :
    ∃ tags, (t.run s cmd).desk.scene = (s.desk.set_window_tags w tags).scene := by
  rw [run_eq t h]
  split_ifs
  · exact ⟨0, (hideScratch_spec s w).1⟩
  · exact ⟨_, scene_settledOn _ (some w)⟩

theorem labels_showScratch (s : Rwl) (w : WinId) :
    (s.showScratch w).desk.labels = s.desk.labels :=
  (labels_settledOn _ (some w)).trans (Desk.labels_modifyWindow s.desk w fun _ => rfl)

end ScratchToggle

/-! ### The law -/

/-- **The scratchpad law**: the toggle `t` shows the scratchpad `w` on the selected monitor, and
the same toggle takes it away again. -/
structure ScratchLaw (s : Rwl) (cmd : ScratchCmd) (t : ScratchToggle) (w : WinId) : Prop where
  shown : w ∈ displayed (t.run s cmd).desk
  focused : (t.run s cmd).desk.focused_window = some w
  /-- Unless a popup holds it, the keyboard goes to the scratchpad. -/
  keyboard : s.seat.kb_grab = none → (t.run s cmd).seat.kb_focus = s.desk.wl_surface w
  stays : (t.run s cmd).desk.sel_mon = s.desk.sel_mon ∧
    (t.run s cmd).desk.scene.views = s.desk.scene.views
  hidden : ∀ i, ((t.run (t.run s cmd) cmd).desk.st w).visible_on
    ((t.run (t.run s cmd) cmd).desk.tagsOf i) = false
  /-- The focus and the keyboard go back to a window that is still displayed. -/
  returned : ∀ f, s.desk.focused_window = some f → f ∈ displayed (t.run (t.run s cmd) cmd).desk →
    (t.run (t.run s cmd) cmd).desk.focused_window = some f ∧
      (s.seat.kb_grab = none → (t.run (t.run s cmd) cmd).seat.kb_focus = s.desk.wl_surface f)
  restored : (t.run (t.run s cmd) cmd).desk.sel_mon = s.desk.sel_mon ∧
    (t.run (t.run s cmd) cmd).desk.scene.views = s.desk.scene.views ∧
      ∀ v, v ≠ w →
        ((t.run (t.run s cmd) cmd).desk.st v).tags = (s.desk.st v).tags ∧
          ((t.run (t.run s cmd) cmd).desk.st v).mon_idx = (s.desk.st v).mon_idx

/-- The scratchpad belongs to the selected monitor, which shows some tag, and can be displayed. -/
def Showable (d : Desk) (w : WinId) : Prop :=
  (d.st w).mon_idx = d.sel_mon ∧ d.tagsOf d.sel_mon ≠ 0 ∧ (d.st w).is_swallowed = false ∧
    (d.st w).rules_applied = true

instance (d : Desk) (w : WinId) : Decidable (Showable d w) :=
  inferInstanceAs (Decidable (_ ∧ _))

theorem mem_displayed {d : Desk} {w : WinId} : w ∈ displayed d ↔ w ∈ d.windows ∧
    (d.st w).visible_on (d.tagsOf d.sel_mon) = true ∧ (d.st w).is_swallowed = false ∧
      (d.st w).rules_applied = true ∧ (d.st w).mon_idx = d.sel_mon := by
  unfold displayed
  simp only [List.mem_filter, Bool.and_eq_true, decide_eq_true_eq, Bool.not_eq_true']
  tauto

/-- **A scratchpad toggle is right exactly for a scratchpad of the selected monitor.** -/
theorem scratchLaw_iff {s : Rwl} (hlocked : s.session.locked = false) {cmd : ScratchCmd}
    {t : ScratchToggle} {w : WinId} (hfind : t.find s.desk cmd = some w)
    (hoff : w ∉ displayed s.desk) : ScratchLaw s cmd t w ↔ Showable s.desk w := by
  constructor
  · intro hlaw
    -- a toggle changes no assignment, so what is shown was on the selected monitor before
    obtain ⟨tags, hscene⟩ := t.scene_run hfind
    obtain ⟨-, hvisible, hswallowed, hrules, hmon⟩ := mem_displayed.1 hlaw.shown
    have hplace : ((t.run s cmd).desk.st w).placement = { (s.desk.st w).placement with tags := tags } :=
      (Desk.placement_of_scene hscene w).trans (placement_self_set_window_tags s.desk w tags)
    have hview : (t.run s cmd).desk.tagsOf s.desk.sel_mon = s.desk.tagsOf s.desk.sel_mon :=
      (Desk.tagsOf_of_scene hscene _).trans rfl
    rw [hlaw.stays.1] at hvisible hmon
    refine ⟨?_, ?_, ?_, ?_⟩
    · exact (congrArg Placement.mon_idx hplace).symm.trans hmon
    · intro hzero
      unfold WindowState.visible_on at hvisible
      rw [hview, hzero, Nat.and_zero] at hvisible
      cases hvisible
    · exact (congrArg Placement.is_swallowed hplace).symm.trans hswallowed
    · exact (congrArg Placement.rules_applied hplace).symm.trans hrules
  · rintro ⟨hmon, hview, hswallowed, hrules⟩
    have hmem := t.mem_of_find hfind
    have hinvisible : (s.desk.st w).visible_on (s.desk.tagsOf s.desk.sel_mon) = false := by
      by_contra hvisible
      exact hoff (mem_displayed.2 ⟨hmem, by simpa using hvisible, hswallowed, hrules, hmon⟩)
    -- the first toggle shows the window
    have hshow : t.hides s.desk w = false := by
      cases t with
      | toggle_scratch => exact hinvisible
      | focus_or_toggle_matching_scratch => exact hinvisible
      | focus_or_toggle_scratch =>
        refine decide_eq_false fun hfocused => ?_
        rw [(visible_focused_window hfocused).1] at hinvisible
        cases hinvisible
    have hfirst : t.run s cmd = s.showScratch w := by
      rw [t.run_eq hfind, hshow]
      rfl
    obtain ⟨hscene, hsel, hstack, hfocused⟩ := showScratch_spec hmon hview
    have hlabels := ScratchToggle.labels_showScratch s w
    have hwindows : (s.showScratch w).desk.windows = s.desk.windows :=
      (congrArg Scene.windows hscene).trans rfl
    have hplace := (Desk.placement_of_scene hscene w).trans
      (placement_self_set_window_tags s.desk w _)
    have htagsOf (i : ℕ) : (s.showScratch w).desk.tagsOf i = s.desk.tagsOf i :=
      (Desk.tagsOf_of_scene hscene i).trans rfl
    have hshown : w ∈ displayed (s.showScratch w).desk := by
      refine mem_displayed.2 ⟨hwindows ▸ hmem, (visible_focused_window hfocused).1, ?_, ?_, ?_⟩
      · exact (congrArg Placement.is_swallowed hplace).trans hswallowed
      · exact (congrArg Placement.rules_applied hplace).trans hrules
      · exact (visible_focused_window hfocused).2
    -- the second one hides it
    have hfind₁ : t.find (s.showScratch w).desk cmd = some w :=
      (t.find_congr hwindows hlabels cmd).trans hfind
    have hhide : t.hides (s.showScratch w).desk w = true := by
      cases t with
      | toggle_scratch => exact (visible_focused_window hfocused).1
      | focus_or_toggle_matching_scratch => exact (visible_focused_window hfocused).1
      | focus_or_toggle_scratch => exact decide_eq_true hfocused
    have hsecond : t.run (s.showScratch w) cmd = (s.showScratch w).hideScratch w := by
      rw [t.run_eq hfind₁, hhide]
      rfl
    obtain ⟨hscene₂, hsel₂, hfocused₂⟩ := hideScratch_spec (s.showScratch w) w
    have hback := focused_withoutScratch hscene hsel hstack hinvisible
    have hsurface : (s.showScratch w).desk.wl_surface = s.desk.wl_surface :=
      congrArg Prod.snd hlabels
    have hlocked₁ : (s.showScratch w).session.locked = false :=
      (congrArg Session.locked (session_settledOn _ (some w))).trans hlocked
    refine ⟨?_, ?_, ?_, ?_, ?_, ?_, ?_⟩
    · rw [hfirst]
      exact hshown
    · rw [hfirst]
      exact hfocused
    · intro hfree
      rw [hfirst]
      exact congrArg Prod.fst (keyboard_showScratch hlocked hfree w)
    · rw [hfirst]
      exact ⟨hsel, (congrArg Scene.views hscene).trans rfl⟩
    · intro i
      rw [hfirst, hsecond]
      have htags : (((s.showScratch w).hideScratch w).desk.st w).tags = 0 :=
        congrArg Placement.tags ((Desk.placement_of_scene hscene₂ w).trans
          (placement_self_set_window_tags _ w 0))
      unfold WindowState.visible_on
      rw [htags, Nat.zero_and]
      rfl
    · intro f hf _
      rw [hfirst, hsecond, hfocused₂, hback]
      refine ⟨hf, fun hfree => ?_⟩
      have hfree₁ := congrArg Prod.snd (keyboard_showScratch hlocked hfree w)
      have hkeyboard := congrArg Prod.fst (keyboard_hideScratch hlocked₁ hfree₁ w)
      rw [hback, hf, hsurface] at hkeyboard
      exact hkeyboard
    · rw [hfirst, hsecond]
      refine ⟨hsel₂.trans hsel, ?_, fun v hv => ?_⟩
      · exact (congrArg Scene.views hscene₂).trans ((congrArg Scene.views hscene).trans rfl)
      · have hother := (Desk.placement_of_scene hscene₂ v).trans
          ((placement_set_window_tags hv 0).trans ((Desk.placement_of_scene hscene v).trans
            (placement_set_window_tags hv _)))
        exact ⟨congrArg Placement.tags hother, congrArg Placement.mon_idx hother⟩

/-- The scratchpad `s`, a terminal. -/
def termScratch : ScratchCmd := ⟨'s', ["term"]⟩

/-- A terminal is the scratchpad, and a key toggles it. -/
def scratchSetup : Setup :=
  { plainSetup [] [] with cfg :=
    { plainConfig [⟨0, 30, .ToggleScratch termScratch, none⟩] [] with
      rules := [⟨some "term", none, 0, false, true, -1, 's', false⟩] } }

/-- A window, and the terminal on top of it. -/
def scratchWindows : List Event :=
  [.new_toplevel 0 (plainClient 10), .commit 10 true,
    .new_toplevel 1 { plainClient 11 with app_id := some "term" }, .commit 11 true]

/-- The scratchpad has been hidden. -/
def hiddenScratchRun : List Event :=
  .output_added 0 (plainOutput "a") :: scratchWindows ++ [.key 30 true]

/-- The scratchpad is on the first of two monitors, and the second one is selected. -/
def awayScratchRun : List Event :=
  .output_added 0 (plainOutput "a") ::
    .output_added 1 { plainOutput "b" with location := ⟨800, 0⟩ } :: scratchWindows ++
      [.ipc (.FocusMon 1)]

theorem scratchLaw_hidden :
    ScratchLaw (run step (init scratchSetup) hiddenScratchRun) termScratch .toggle_scratch 1 :=
  (scratchLaw_iff (by decide +kernel) (by decide +kernel) (by decide +kernel)).2 (by decide +kernel)

/-- A toggle on the second monitor takes the scratchpad from the first one. -/
theorem not_scratchLaw : ¬ ∀ s : Rwl, Reachable s → s.session.locked = false →
    ∀ (cmd : ScratchCmd) (t : ScratchToggle) (w : WinId), t.find s.desk cmd = some w →
      w ∉ displayed s.desk → ScratchLaw s cmd t w := by
  intro h
  have hlaw := h (run step (init scratchSetup) awayScratchRun) ⟨scratchSetup, awayScratchRun, rfl⟩
    (by decide +kernel) termScratch .toggle_scratch 1 (by decide +kernel) (by decide +kernel)
  have hshown : 1 ∈ displayed ((run step (init scratchSetup) awayScratchRun).toggle_scratch
    termScratch).desk := hlaw.shown
  exact absurd hshown (by decide +kernel)

end Rwl

end Compositor
