import Mathlib.Tactic.Common
import Rwl.Theory.InForce

/-!
# Focus at rest

* `Seat.Rests`: setting the focus would change nothing;
* `FocusRests`: focusing the focused window changes nothing, `FocusRests.focus_top` and its
  converse `focusRests_of_focus_top`;
* what arranging and focusing leave alone: `Desk.Lasting`.
-/

namespace Compositor

/-! ### Focus at rest -/

namespace Seat

/-- The focus is where `set_focus` would put it. -/
def Rests (s : Seat) (f : Option SurfaceId) : Prop :=
  match s.kb_grab with
  | none => s.kb_focus = f
  | some g => s.has_ended g = false ∧ (some (s.current_grab g) = f → s.kb_focus = f)

theorem set_focus_eq_self_iff (s : Seat) (f : Option SurfaceId) : s.set_focus f = s ↔ s.Rests f := by
  have hput : ({ s with kb_focus := f } : Seat) = s ↔ s.kb_focus = f := by
    constructor
    · intro h
      exact (congrArg Seat.kb_focus h).symm
    · rintro rfl
      rfl
  unfold Rests
  cases hgrab : s.kb_grab with
  | none =>
    have hset : s.set_focus f = { s with kb_focus := f } := by
      unfold set_focus
      rw [hgrab]
    rw [hset]
    exact hput
  | some g =>
    have hset : s.set_focus f = if s.has_ended g then { s with kb_focus := f, kb_grab := none }
        else if some (s.current_grab g) = f then { s with kb_focus := f } else s := by
      unfold set_focus
      rw [hgrab]
    rw [hset]
    dsimp only
    by_cases hended : s.has_ended g = true
    · rw [if_pos hended]
      refine iff_of_false (fun h => ?_) fun h => absurd hended (by simp [h.1])
      have hnone : none = s.kb_grab := congrArg Seat.kb_grab h
      rw [hgrab] at hnone
      cases hnone
    · rw [if_neg hended]
      have hlive : s.has_ended g = false := by simpa using hended
      by_cases hcur : some (s.current_grab g) = f
      · rw [if_pos hcur, hput]
        exact ⟨fun h => ⟨hlive, fun _ => h⟩, fun h => h.2 hcur⟩
      · rw [if_neg hcur]
        exact iff_of_true rfl ⟨hlive, fun h => absurd h hcur⟩

/-- Without a grab, motion moves the pointer only. -/
theorem rests_motion {s : Seat} (h : s.is_grabbed = false) (f g : Option SurfaceId)
    (loc : PointF) : (s.motion f loc).Rests g ↔ s.Rests g := by
  have hgrab : s.ptr_grab = .default := by simpa [is_grabbed] using h
  have hmotion : s.motion f loc =
      { s with ptr_pending := f, ptr_focus := f, location := loc } := by
    unfold motion dropDeadGrab moveTo
    simp [hgrab]
  rw [hmotion]
  exact Iff.rfl

end Seat

namespace Rwl

theorem modifyDesk_eq_self {s : Rwl} {f : Desk → Desk} (h : f s.desk = s.desk) :
    s.modifyDesk f = s := by
  unfold modifyDesk
  rw [h]

theorem modifySeat_eq_self {s : Rwl} {f : Seat → Seat} (h : f s.seat = s.seat) :
    s.modifySeat f = s := by
  unfold modifySeat
  rw [h]

/-- The focused window is on top and not urgent, and the keyboard is where it belongs. -/
structure FocusRests (s : Rwl) : Prop where
  top : ∀ w, s.desk.focused_window = some w →
    s.desk.focus_stack.head? = some w ∧ (s.desk.st w).is_urgent = false
  keyboard : s.session.locked = false →
    s.seat.Rests (s.desk.focused_window.bind s.desk.wl_surface)

theorem raise_eq_self_iff {d : Desk} {w : WinId} :
    raise d w = d ↔ d.focus_stack.head? = some w ∧ (d.st w).is_urgent = false := by
  constructor
  · intro h
    have hstack : Recency.toFront w d.focus_stack = d.focus_stack := congrArg Desk.focus_stack h
    have hst : d.st.modify w (fun st => { st with is_urgent := false }) w = d.st w :=
      congrArg (fun d : Desk => d.st w) h
    rw [Windows.modify_self] at hst
    refine ⟨?_, (congrArg WindowState.is_urgent hst).symm⟩
    rw [← hstack]
    rfl
  · rintro ⟨hhead, hurgent⟩
    obtain ⟨l, hl⟩ : ∃ l, d.focus_stack = w :: l := by
      cases hstack : d.focus_stack with
      | nil => simp [hstack] at hhead
      | cons v l =>
        rw [hstack] at hhead
        obtain rfl := Option.some.inj hhead
        exact ⟨l, rfl⟩
    have hfront : Recency.toFront w d.focus_stack = d.focus_stack := by
      rw [hl]
      unfold Recency.toFront
      rw [List.erase_cons_head]
    have hst : d.st.modify w (fun st => { st with is_urgent := false }) = d.st := by
      funext v
      by_cases hv : v = w
      · subst hv
        rw [Windows.modify_self, ← hurgent]
      · rw [Windows.modify_of_ne hv]
    unfold raise Desk.modifyWindow
    rw [hfront, hst]

/-- Focusing a window never loses the stack. -/
theorem focus_stack_focus_window (s : Rwl) (w : WinId) :
    (s.focus_window (some w)).desk.focus_stack = Recency.toFront w s.desk.focus_stack := by
  have harrange (s : Rwl) (i : ℕ) : (s.arrange i).desk.focus_stack = s.desk.focus_stack :=
    (congrArg Desk.focus_stack (Desk.bare_arrange s.desk i) :)
  have hfollow (s : Rwl) (v : WinId) (prev : Option WinId) :
      (s.followFocus v prev).desk.focus_stack = s.desk.focus_stack := by
    unfold followFocus
    dsimp only
    split
    · split_ifs
      · exact (harrange _ _).trans (harrange _ _)
      · exact harrange _ _
    · exact harrange _ _
  unfold focus_window
  dsimp only
  split_ifs
  · rfl
  · rfl
  · refine (hfollow _ w _).trans ?_
    rw [desk_notifyFocus]
    rfl

/-- Focusing what is on top already. -/
theorem focus_window_of_head {s : Rwl} {w : WinId} (h : s.desk.focus_stack.head? = some w) :
    s.focus_window (some w) =
      if s.session.locked then s.modifyDesk (raise · w)
      else (s.modifyDesk (raise · w)).kb_set_focus (s.desk.wl_surface w) := by
  have hstay : ((s.modifyDesk (raise · w)).kb_set_focus
      (s.desk.wl_surface w)).desk.focus_stack.head? = s.desk.focus_stack.head? := by
    rw [h]
    rfl
  unfold focus_window
  dsimp only
  exact if_congr Iff.rfl rfl (if_pos hstay)

theorem focus_window_none (s : Rwl) :
    s.focus_window none = if s.session.locked then s else s.kb_set_focus none := by
  unfold focus_window
  dsimp only
  exact if_congr Iff.rfl rfl (if_pos rfl)

/-- When focusing the focused window keeps the desk and the seat, the focus is at rest. -/
theorem focusRests_of_focus_top {s : Rwl} (hdesk : s.focus_top.desk = s.desk)
    (hseat : s.focus_top.seat = s.seat) : s.FocusRests := by
  unfold focus_top at hdesk hseat
  have hhead (w : WinId) (hw : s.desk.focused_window = some w) :
      s.desk.focus_stack.head? = some w := by
    have hstack := congrArg Desk.focus_stack hdesk
    rw [hw, focus_stack_focus_window] at hstack
    rw [← hstack]
    rfl
  refine ⟨fun w hw => ⟨hhead w hw, ?_⟩, fun hlocked => ?_⟩
  · rw [hw, focus_window_of_head (hhead w hw)] at hdesk
    have hraise : raise s.desk w = s.desk := by
      split_ifs at hdesk
      · exact hdesk
      · exact hdesk
    exact (raise_eq_self_iff.1 hraise).2
  · rw [← Seat.set_focus_eq_self_iff]
    cases hw : s.desk.focused_window with
    | none =>
      rw [hw, focus_window_none, if_neg (by simp [hlocked])] at hseat
      exact hseat
    | some w =>
      rw [hw, focus_window_of_head (hhead w hw), if_neg (by simp [hlocked])] at hseat
      exact hseat

/-- With the focus at rest, focusing the focused window changes nothing. -/
theorem FocusRests.focus_top {s : Rwl} (h : s.FocusRests) : s.focus_top = s := by
  have hkb (hlocked : s.session.locked = false) :=
    (Seat.set_focus_eq_self_iff _ _).2 (h.keyboard hlocked)
  unfold Rwl.focus_top
  cases hw : s.desk.focused_window with
  | none =>
    rw [focus_window_none]
    split_ifs with hlocked
    · rfl
    · have hset := hkb (by simpa using hlocked)
      rw [hw] at hset
      exact modifySeat_eq_self (f := (Seat.set_focus · none)) hset
  | some w =>
    have hraise := raise_eq_self_iff.2 (h.top w hw)
    rw [focus_window_of_head (h.top w hw).1, modifyDesk_eq_self (f := (raise · w)) hraise]
    split_ifs with hlocked
    · rfl
    · have hset := hkb (by simpa using hlocked)
      rw [hw] at hset
      exact modifySeat_eq_self (f := (Seat.set_focus · (s.desk.wl_surface w))) hset

/-! ### What arranging and focusing leave alone -/

theorem focused_window_congr {d d' : Desk} (hstack : d'.focus_stack = d.focus_stack)
    (hsel : d'.sel_mon = d.sel_mon) (htags : d'.tagsOf d.sel_mon = d.tagsOf d.sel_mon)
    (hst : ∀ w, (d'.st w).tags = (d.st w).tags ∧ (d'.st w).mon_idx = (d.st w).mon_idx) :
    d'.focused_window = d.focused_window := by
  unfold Desk.focused_window Desk.topOn WindowState.visible_on
  rw [hstack, hsel, htags]
  refine congrArg (List.find? · d.focus_stack) (funext fun w => ?_)
  rw [(hst w).1, (hst w).2]

/-- Arranging leaves the keyboard alone. -/
theorem rests_arrange_all (s : Rwl) (f : Option SurfaceId) :
    s.arrange_all.seat.Rests f ↔ s.seat.Rests f := by
  unfold arrange_all refresh_pointer_focus
  split_ifs with hlocked hgrabbed
  · exact Iff.rfl
  · exact Iff.rfl
  · have hfree : s.seat.is_grabbed = false := Bool.eq_false_iff.2 hgrabbed
    exact Seat.rests_motion hfree _ f _

theorem session_arrange_all (s : Rwl) : s.arrange_all.session = s.session := by
  unfold arrange_all refresh_pointer_focus
  split_ifs <;> rfl

end Rwl

/-- What neither layout passes nor focusing change about a desk. -/
structure Desk.Lasting {α : Type} (p : Desk → α) : Prop where
  bare : ∀ {d d' : Desk}, d'.bare = d.bare → p d' = p d
  raise : ∀ d w, p (Rwl.raise d w) = p d
  select : ∀ (d : Desk) i, p { d with sel_mon := i } = p d

namespace Desk.Lasting

variable {α : Type} {p : Desk → α} (hp : Lasting p) (s : Rwl)

include hp

theorem arrange (i : ℕ) : p (s.arrange i).desk = p s.desk := hp.bare (bare_arrange s.desk i)

theorem arrange_all : p s.arrange_all.desk = p s.desk := by
  rw [Rwl.desk_arrange_all]
  exact hp.bare (bare_arrangePasses s.desk)

theorem followFocus (w : WinId) (prev : Option WinId) :
    p (s.followFocus w prev).desk = p s.desk := by
  have hsel : p ((s.modifyDesk fun d => { d with sel_mon := (s.desk.st w).mon_idx }).arrange
      (s.desk.st w).mon_idx).desk = p s.desk := (hp.arrange _ _).trans (hp.select _ _)
  unfold Rwl.followFocus
  dsimp only
  split
  · split_ifs
    · exact (hp.arrange _ _).trans hsel
    · exact hsel
  · exact hsel

theorem focus_window (window : Option WinId) : p (s.focus_window window).desk = p s.desk := by
  cases window with
  | none =>
    rw [Rwl.focus_window_none]
    split_ifs <;> rfl
  | some w =>
    have hraised : p (Rwl.raise s.desk w) = p s.desk := hp.raise s.desk w
    unfold Rwl.focus_window
    dsimp only
    split_ifs
    · exact hraised
    · exact hraised
    · refine (hp.followFocus _ w _).trans ?_
      rw [Rwl.desk_notifyFocus]
      exact hraised

theorem slideTo (old new : ℕ) (ow : ℚ) : p (s.slideTo old new ow).desk = p s.desk := by
  have hmarked : p (s.desk.mark_slide_outs old new ow) = p s.desk :=
    hp.bare (bare_mark_slide_outs s.desk old new ow)
  unfold Rwl.slideTo Rwl.focus_top
  dsimp only
  rw [hp.focus_window]
  refine (hp.bare (bare_start_tag_transition _ old new ow)).trans ?_
  exact (hp.arrange_all _).trans hmarked

end Desk.Lasting

namespace Rwl

theorem lasting_tag_history : Desk.Lasting Desk.tag_history where
  bare h := (congrArg Desk.tag_history h :)
  raise _ _ := rfl
  select _ _ := rfl

theorem kept_arrange_all (s : Rwl) :
    (s.arrange_all.overview, s.arrange_all.desk.tag_history) = (s.overview, s.desk.tag_history) := by
  refine Prod.ext ?_ (lasting_tag_history.arrange_all s)
  unfold arrange_all refresh_pointer_focus
  split_ifs <;> rfl

theorem kept_notifyFocus (s : Rwl) : s.notifyFocus.overview = s.overview := by
  unfold notifyFocus fireFocus
  dsimp only
  split
  · split_ifs <;> rfl
  · rfl

theorem overview_followFocus (s : Rwl) (w : WinId) (prev : Option WinId) :
    (s.followFocus w prev).overview = s.overview := by
  unfold followFocus
  dsimp only
  split
  · split_ifs <;> rfl
  · rfl

/-- Focusing leaves the overview and the view history alone. -/
theorem kept_focus_window (s : Rwl) (window : Option WinId) :
    ((s.focus_window window).overview, (s.focus_window window).desk.tag_history) =
      (s.overview, s.desk.tag_history) := by
  refine Prod.ext ?_ (lasting_tag_history.focus_window s window)
  cases window with
  | none =>
    rw [focus_window_none]
    split_ifs <;> rfl
  | some w =>
    unfold focus_window
    dsimp only
    split_ifs
    · rfl
    · rfl
    · exact (overview_followFocus _ w _).trans (kept_notifyFocus _)

end Rwl

end Compositor
