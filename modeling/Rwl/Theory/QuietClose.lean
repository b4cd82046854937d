import Mathlib.Tactic.Common
import Rwl.Theory.Closing

/-!
# Closing a window nobody sees

`toplevel_destroyed` asks whether the window had a buffer, not whether it was on screen. So a
window on no view that is closed still makes the compositor choose the keyboard focus anew, the
master of a tiled monitor first, settle the layouts, warp the pointer, and perhaps return its
monitor to an earlier view.

* `Unobserved`: the views, the layouts, the selected monitor, the keyboard focus and the pointer
  are as before;
* `ClosesQuietly`: when that is so.
-/

namespace Compositor

namespace Seat

/-- No popup holds the pointer. -/
def PopupFree (s : Seat) : Prop := ∀ g, s.ptr_grab ≠ .popup g

theorem PopupFree.set_focus {s : Seat} (h : s.PopupFree) (f : Option SurfaceId) :
    (s.set_focus f).PopupFree ∧ (s.set_focus f).location = s.location := by
  unfold Seat.set_focus
  split
  · exact ⟨h, rfl⟩
  · split_ifs <;> exact ⟨h, rfl⟩

/-- With no popup on the pointer, motion moves the pointer and leaves the keyboard alone. -/
theorem PopupFree.motion {s : Seat} (h : s.PopupFree) (f : Option SurfaceId) (loc : PointF) :
    (s.motion f loc).PopupFree ∧ (s.motion f loc).keyboard = s.keyboard ∧
      (s.motion f loc).location = loc := by
  unfold Seat.motion dropDeadGrab moveTo keyboard PopupFree at *
  cases hgrab : s.ptr_grab with
  | default => simp
  | click serial start =>
    cases start with
    | none => simp
    | some g =>
      dsimp only
      split_ifs <;> simp
  | popup g => exact absurd hgrab (h g)

end Seat

namespace Rwl

variable {s : Rwl} {f : SurfaceId} {w : WinId}

theorem popupFree_arrange_all (h : s.seat.PopupFree) : s.arrange_all.seat.PopupFree := by
  unfold arrange_all refresh_pointer_focus
  split_ifs
  · exact h
  · exact h
  · exact (h.motion _ _).1

theorem warp_cursor_to_focused_of_free (h : s.seat.PopupFree) :
    s.warp_cursor_to_focused.seat.kb_focus = s.seat.kb_focus ∧
      (s.warp_cursor_to_focused.seat.location = s.seat.location ↔
        (s.desk.cfg.warp_cursor = true →
          ∀ p, warpTarget s.desk = some p → p = s.seat.location)) := by
  unfold warp_cursor_to_focused
  split_ifs with hwarp
  · refine ⟨rfl, fun _ hw => ?_, fun _ => rfl⟩
    rw [hwarp] at hw
    cases hw
  · rw [Bool.not_eq_false] at hwarp
    cases htarget : warpTarget s.desk with
    | none => exact ⟨rfl, fun _ _ p hp => (by cases hp), fun _ => rfl⟩
    | some p =>
      obtain ⟨-, hkeyboard, hloc⟩ := h.motion (s.pointer_focus_under p) p
      refine ⟨(Prod.mk.inj hkeyboard).1, ?_⟩
      have hlocation : (s.ptr_motion (s.pointer_focus_under p) p).seat.location = p := hloc
      dsimp only
      rw [hlocation]
      constructor
      · rintro hp - q hq
        rw [← Option.some.inj hq]
        exact hp
      · exact fun hq => hq hwarp p rfl

theorem overview_on_window_closed_eq (s : Rwl) :
    ∃ ov, overview.on_window_closed s = { s with overview := ov } := by
  unfold overview.on_window_closed overview.force_close
  split
  · exact ⟨s.overview, rfl⟩
  · split
    · exact ⟨none, rfl⟩
    · dsimp only
      split_ifs
      · exact ⟨none, rfl⟩
      · exact ⟨_, rfl⟩

theorem cfg_focus_window (s : Rwl) (window : Option WinId) :
    (s.focus_window window).desk.cfg = s.desk.cfg := by
  have harrange (s : Rwl) (i : ℕ) : (s.arrange i).desk.cfg = s.desk.cfg :=
    (congrArg Desk.cfg (Desk.bare_arrange s.desk i) :)
  have hfollow (s : Rwl) (w : WinId) (prev : Option WinId) :
      (s.followFocus w prev).desk.cfg = s.desk.cfg := by
    unfold followFocus
    dsimp only
    split
    · split_ifs
      · rw [harrange, harrange]
        rfl
      · exact harrange _ _
    · exact harrange _ _
  cases window with
  | none =>
    rw [focus_window_none]
    split_ifs <;> rfl
  | some w =>
    unfold focus_window
    dsimp only
    split_ifs
    · rfl
    · rfl
    · refine (hfollow _ w _).trans ?_
      rw [desk_notifyFocus]
      rfl

/-! ### The window that goes -/

/-- The window a close gives the keyboard to, when no terminal comes back. -/
def closeFocus (d : Desk) : Option WinId := (tile_master_window d).or d.focused_window

/-- The desk once a window that swallows nothing is closed and its view stays: nothing the
layouts and the focus depend on has changed. -/
structure Forgotten (d d' : Desk) : Prop where
  monitors : d'.monitors = d.monitors
  sel_mon : d'.sel_mon = d.sel_mon
  windows : d'.windows = d.windows
  focus_stack : d'.focus_stack = d.focus_stack
  cfg : d'.cfg = d.cfg
  client : d'.client = d.client
  st : ∀ v, ∃ link, d'.st v = { d.st v with swallowing := link }

namespace Forgotten

variable {d d' : Desk}

theorem tagsOf (h : Forgotten d d') (i : ℕ) : d'.tagsOf i = d.tagsOf i := by
  unfold Desk.tagsOf
  rw [h.monitors]

theorem focused_window (h : Forgotten d d') : d'.focused_window = d.focused_window := by
  refine focused_window_congr h.focus_stack h.sel_mon (h.tagsOf _) fun v => ?_
  obtain ⟨link, hst⟩ := h.st v
  rw [hst]
  exact ⟨rfl, rfl⟩

theorem tile_master_window (h : Forgotten d d') :
    tile_master_window d' = tile_master_window d := by
  unfold Rwl.tile_master_window Desk.sel_monitor
  rw [h.monitors, h.sel_mon, h.windows, h.cfg]
  have hst (mon : Monitor) (v : WinId) :
      (decide ((d'.st v).mon_idx = d.sel_mon) && (d'.st v).visible_on mon.tags &&
        (d'.st v).rules_applied && !(d'.st v).is_floating && !(d'.st v).is_fullscreen) =
      (decide ((d.st v).mon_idx = d.sel_mon) && (d.st v).visible_on mon.tags &&
        (d.st v).rules_applied && !(d.st v).is_floating && !(d.st v).is_fullscreen) := by
    obtain ⟨link, hv⟩ := h.st v
    rw [hv]
    rfl
  simp only [hst]

theorem closeFocus (h : Forgotten d d') : closeFocus d' = closeFocus d := by
  unfold Rwl.closeFocus
  rw [h.tile_master_window, h.focused_window]

theorem settling (h : Forgotten d d') (j : ℕ) : d'.settling j = d.settling j := by
  have hcount (tags : ℕ) : d'.count_tiled tags = d.count_tiled tags := by
    unfold Desk.count_tiled
    rw [h.windows]
    refine List.countP_congr fun v _ => ?_
    obtain ⟨link, hv⟩ := h.st v
    rw [hv]
    exact Iff.rfl
  unfold Desk.settling
  rw [h.monitors, Desk.comesTo_congr h.cfg hcount]

theorem wl_surface (h : Forgotten d d') (v : WinId) : d'.wl_surface v = d.wl_surface v := by
  unfold Desk.wl_surface
  rw [h.client]

end Forgotten

/-- The end of a window that swallows nothing changes no window's place. -/
theorem forgotten_on_unmap (d : Desk) (h : (d.st w).swallowing = none) :
    Forgotten d (swallow.on_unmap d w) := by
  have hrestored : swallow.restored d w = none := by
    unfold swallow.restored
    rw [h]
    rfl
  unfold swallow.on_unmap
  dsimp only
  rw [hrestored]
  dsimp only
  split_ifs
  · refine ⟨rfl, rfl, rfl, rfl, rfl, rfl, fun v => ?_⟩
    dsimp only [Windows.modifyAll]
    split_ifs
    · exact ⟨_, rfl⟩
    · exact ⟨_, rfl⟩
    · exact ⟨(d.st v).swallowing, rfl⟩
  · exact ⟨rfl, rfl, rfl, rfl, rfl, rfl, fun v => ⟨(d.st v).swallowing, rfl⟩⟩

/-! ### The frame law -/

/-- The views, the layouts, the selected monitor, the keyboard focus and the pointer are as
before. -/
structure Unobserved (s s' : Rwl) : Prop where
  views : ∀ j, s'.desk.shows j = s.desk.shows j
  selected : s'.desk.sel_mon = s.desk.sel_mon
  keyboard : s'.seat.kb_focus = s.seat.kb_focus
  pointer : s'.seat.location = s.seat.location

/-- The state after the toplevel `w` of `f` has gone and before anything is focused. -/
def parted (s : Rwl) (f : SurfaceId) (w : WinId) : Rwl :=
  ((s.modifyDesk (dropToplevel · f)).windowGone w).modifyDesk (swallow.on_unmap · w)

/-- The state once the close has focused and arranged. -/
def refocused (s : Rwl) (f : SurfaceId) (w : WinId) : Rwl :=
  ((s.parted f w).focus_window (closeFocus s.desk)).arrange_all

/-- The monitor of `w` has no view to go back to, the layouts are the ones the views come to rest
on, the keyboard focus is on the window the close chooses, and the pointer, if it is warped, is
where it is warped to. -/
structure ClosesQuietly (s : Rwl) (f : SurfaceId) (w : WinId) : Prop where
  stays : closesTo (dropToplevel s.desk f) w = none
  settled : s.desk.InForce
  keyboard : s.session.locked = false →
    (s.seat.set_focus ((closeFocus s.desk).bind s.desk.wl_surface)).kb_focus = s.seat.kb_focus
  pointer : s.desk.cfg.warp_cursor = true →
    ∀ p, warpTarget (s.refocused f w).desk = some p → p = s.seat.location

theorem OffScreen.closeFocus_drop (h : OffScreen s.desk f w) :
    closeFocus (dropToplevel s.desk f) = closeFocus s.desk := by
  unfold closeFocus
  rw [h.tile_master_drop, h.focused_window_drop]

/-- The window a close chooses is on the selected monitor. -/
theorem mon_idx_closeFocus {d : Desk} {v : WinId} (h : closeFocus d = some v) :
    (d.st v).mon_idx = d.sel_mon := by
  unfold closeFocus at h
  rcases Option.or_eq_some_iff.1 h with h | ⟨-, h⟩
  · unfold tile_master_window at h
    split at h
    · cases h
    · split_ifs at h
      have hv := List.find?_some h
      simp only [Bool.and_eq_true, decide_eq_true_eq] at hv
      exact hv.1.1.1.1
  · have hv := List.find?_some h
    simp only [Bool.and_eq_true, decide_eq_true_eq] at hv
    exact hv.2

/-- What is left once `w` has gone and its monitor keeps its view. -/
theorem parted_stays (hs : Silent s) (hoff : OffScreen s.desk f w)
    (h : closesTo (dropToplevel s.desk f) w = none) :
    Forgotten (dropToplevel s.desk f) (s.parted f w).desk ∧ (s.parted f w).seat = s.seat ∧
      (s.parted f w).session = s.session := by
  have hs₁ : Silent (s.modifyDesk (dropToplevel · f)) := hs.of_eq rfl
  obtain ⟨⟨history, hdesk⟩, hseat, hsession⟩ := windowGone_stays hs₁ h
  refine ⟨?_, hseat, hsession⟩
  have hfree : (((s.modifyDesk (dropToplevel · f)).windowGone w).desk.st w).swallowing = none := by
    rw [hdesk]
    exact hoff.free
  have hgone := forgotten_on_unmap _ hfree
  have hpart : (s.parted f w).desk =
      swallow.on_unmap ((s.modifyDesk (dropToplevel · f)).windowGone w).desk w := rfl
  rw [hdesk] at hgone
  rw [hpart, hdesk]
  exact ⟨hgone.monitors, hgone.sel_mon, hgone.windows, hgone.focus_stack, hgone.cfg, hgone.client,
    hgone.st⟩

/-- No terminal comes back when the closed window hides none. -/
theorem toplevel_destroyed_eq (hoff : OffScreen s.desk f w)
    (hfree : (((s.modifyDesk (dropToplevel · f)).windowGone w).desk.st w).swallowing = none) :
    s.toplevel_destroyed f = overview.on_window_closed
      (((s.parted f w).focus_window (closeFocus (s.parted f w).desk)).arrange_all
        ).warp_cursor_to_focused := by
  have hrestored : swallow.restored ((s.modifyDesk (dropToplevel · f)).windowGone w).desk w =
      none := by
    unfold swallow.restored
    rw [hfree]
    rfl
  unfold toplevel_destroyed
  rw [hoff.found]
  dsimp only
  rw [hrestored, hoff.mapped]
  rfl

theorem scene_refocus (s : Rwl) (visible : Bool) (restored : Option WinId) :
    (s.refocus visible restored).desk.scene = s.desk.scene := by
  have hwarp (s : Rwl) : (overview.on_window_closed s.warp_cursor_to_focused).desk = s.desk := by
    obtain ⟨ov, hov⟩ := overview_on_window_closed_eq s.warp_cursor_to_focused
    rw [hov]
    exact desk_warp_cursor_to_focused s
  unfold refocus
  dsimp only
  split_ifs
  · rw [hwarp, scene_arrange_all, scene_focus_window]
  · rw [scene_arrange_all, scene_focus_window]

/-- The views after the close are those the closed window left. -/
theorem views_toplevel_destroyed (hfound : s.desk.window_map f = some w) :
    (s.toplevel_destroyed f).desk.scene.views =
      ((s.modifyDesk (dropToplevel · f)).windowGone w).desk.scene.views := by
  unfold toplevel_destroyed
  rw [hfound]
  dsimp only
  rw [scene_refocus]
  exact congrArg (List.map Monitor.tags) (swallow.monitors_on_unmap _ w)

/-- A monitor that goes back to another view does not go unnoticed. -/
theorem observed_of_backs (hs : Silent s) (hfound : s.desk.window_map f = some w) {t : ℕ}
    (h : closesTo (dropToplevel s.desk f) w = some t) : ¬ Unobserved s (s.toplevel_destroyed f) := by
  intro hsame
  have hs₁ : Silent (s.modifyDesk (dropToplevel · f)) := hs.of_eq rfl
  obtain ⟨hscene, -, -⟩ := windowGone_backs hs₁ h
  have hviews : (s.toplevel_destroyed f).desk.scene.views =
      s.desk.scene.views.modify (s.desk.st w).mon_idx fun _ => t :=
    (views_toplevel_destroyed hfound).trans (congrArg Scene.views hscene)
  have hshown := hsame.views (s.desk.st w).mon_idx
  have hback : backTo (dropToplevel s.desk f) (s.desk.st w).mon_idx
      ((dropToplevel s.desk f).tagsOf (s.desk.st w).mon_idx) (s.desk.st w).switch_to_tag =
        some t := by
    unfold closesTo at h
    dsimp only at h
    split_ifs at h
    exact h
  have hne := ne_of_backTo hback
  have hold : (s.desk.scene.views[(s.desk.st w).mon_idx]?) =
      (s.toplevel_destroyed f).desk.scene.views[(s.desk.st w).mon_idx]? := by
    have htags (d : Desk) (j : ℕ) : d.scene.views[j]? = (d.shows j).map fun v => v.1 v.2.1 := by
      unfold Desk.scene Desk.shows
      rw [List.getElem?_map, Option.map_map]
      rfl
    rw [htags, htags, hshown]
  have hzero : s.desk.tagsOf (s.desk.st w).mon_idx ≠ 0 := by
    intro hzero
    have htags : (dropToplevel s.desk f).tagsOf (s.desk.st w).mon_idx = 0 := hzero
    unfold backTo at hback
    rw [if_pos (Or.inl htags)] at hback
    cases hback
  have hview : s.desk.scene.views[(s.desk.st w).mon_idx]? =
      some (s.desk.tagsOf (s.desk.st w).mon_idx) := by
    rw [Desk.tagsOf_eq_views] at hzero ⊢
    cases hv : s.desk.scene.views[(s.desk.st w).mon_idx]? with
    | none =>
      rw [hv] at hzero
      exact absurd rfl hzero
    | some v => rfl
  rw [hviews, List.getElem?_modify_eq, hview] at hold
  exact hne (Option.some.inj hold).symm

/-- With the view kept, what the close shows is what the layouts come to rest on, and the focus
and the warp decide the keyboard and the pointer. -/
theorem unobserved_iff_of_stays (hs : Silent s) (hoff : OffScreen s.desk f w)
    (hfree : s.seat.PopupFree) (h : closesTo (dropToplevel s.desk f) w = none) :
    Unobserved s (s.toplevel_destroyed f) ↔ ClosesQuietly s f w := by
  have hs₁ : Silent (s.modifyDesk (dropToplevel · f)) := hs.of_eq rfl
  obtain ⟨hforgot, hseat, hsession⟩ := parted_stays hs hoff h
  have hwindow : (((s.modifyDesk (dropToplevel · f)).windowGone w).desk.st w).swallowing = none := by
    obtain ⟨⟨history, hdesk⟩, -, -⟩ := windowGone_stays hs₁ h
    rw [hdesk]
    exact hoff.free
  have htop : closeFocus (s.parted f w).desk = closeFocus s.desk := by
    rw [hforgot.closeFocus, hoff.closeFocus_drop]
  have hend := toplevel_destroyed_eq hoff hwindow
  rw [htop] at hend
  obtain ⟨ov, hov⟩ := overview_on_window_closed_eq (s.refocused f w).warp_cursor_to_focused
  have hrun : s.toplevel_destroyed f =
      { (s.refocused f w).warp_cursor_to_focused with overview := ov } := hend.trans hov
  -- the desk
  have hdesk : (s.toplevel_destroyed f).desk = (s.refocused f w).desk := by
    rw [hrun]
    unfold warp_cursor_to_focused
    dsimp only
    split_ifs
    · rfl
    · split <;> rfl
  have hviews (j : ℕ) : (s.toplevel_destroyed f).desk.shows j = s.desk.settling j := by
    rw [hdesk]
    unfold refocused
    rw [desk_arrange_all, Desk.shows_arrangePasses, settling_focus_window, hforgot.settling,
      hoff.settling_drop]
  have hsel : (s.toplevel_destroyed f).desk.sel_mon = s.desk.sel_mon := by
    rw [hdesk]
    unfold refocused
    rw [sel_mon_arrange_all]
    cases hclose : closeFocus s.desk with
    | none =>
      rw [focus_window_none]
      split_ifs <;> exact hforgot.sel_mon
    | some v =>
      have hmon := mon_idx_closeFocus (htop.trans hclose)
      rw [sel_mon_focus_window, hmon]
      split_ifs <;> exact hforgot.sel_mon
  -- the seat
  have hfocus : ((s.parted f w).focus_window (closeFocus s.desk)).seat =
      if s.session.locked = true then s.seat
      else s.seat.set_focus ((closeFocus s.desk).bind s.desk.wl_surface) := by
    have hsurface : (s.parted f w).desk.wl_surface = s.desk.wl_surface :=
      funext fun v => hforgot.wl_surface v
    rw [seat_focus_window, hsession, hseat, hsurface]
  have hquiet : ((s.parted f w).focus_window (closeFocus s.desk)).seat.PopupFree ∧
      ((s.parted f w).focus_window (closeFocus s.desk)).seat.location = s.seat.location := by
    rw [hfocus]
    split_ifs
    · exact ⟨hfree, rfl⟩
    · exact hfree.set_focus _
  have hlocation : (s.refocused f w).seat.location = s.seat.location :=
    (seat_arrange_all _).2.trans hquiet.2
  have hkeyboard : (s.refocused f w).seat.kb_focus =
      (if s.session.locked = true then s.seat
        else s.seat.set_focus ((closeFocus s.desk).bind s.desk.wl_surface)).kb_focus := by
    rw [← hfocus]
    exact (Prod.mk.inj (seat_arrange_all _).1).1
  have hcfg : (s.refocused f w).desk.cfg = s.desk.cfg := by
    unfold refocused
    rw [desk_arrange_all]
    have hpasses (d : Desk) : d.arrangePasses.cfg = d.cfg :=
      (congrArg Desk.cfg (Desk.bare_arrangePasses d) :)
    rw [hpasses, cfg_focus_window]
    exact hforgot.cfg
  obtain ⟨hkb, hloc⟩ := warp_cursor_to_focused_of_free (popupFree_arrange_all hquiet.1)
  have hkbEnd : (s.toplevel_destroyed f).seat.kb_focus = (s.refocused f w).seat.kb_focus := by
    rw [hrun]
    exact hkb
  have hlocEnd : (s.toplevel_destroyed f).seat.location = s.seat.location ↔
      (s.desk.cfg.warp_cursor = true →
        ∀ p, warpTarget (s.refocused f w).desk = some p → p = s.seat.location) := by
    rw [hrun, ← hcfg, ← hlocation]
    exact hloc
  constructor
  · rintro ⟨hshown, -, hkept, hpointer⟩
    refine ⟨h, (Desk.settling_eq_shows_iff _).1 fun j => (hviews j).symm.trans (hshown j), ?_,
      hlocEnd.1 hpointer⟩
    intro hlocked
    rw [hkbEnd, hkeyboard, if_neg (by simp [hlocked])] at hkept
    exact hkept
  · rintro ⟨-, hsettled, hkept, hpointer⟩
    refine ⟨fun j => (hviews j).trans ((Desk.settling_eq_shows_iff _).2 hsettled j), hsel, ?_,
      hlocEnd.2 hpointer⟩
    rw [hkbEnd, hkeyboard]
    split_ifs with hlocked
    · rfl
    · exact hkept (Bool.eq_false_iff.2 hlocked)

open Transition

/-- Three windows, the newest of which goes to tag 2. -/
def backgroundRun : List Event :=
  [.output_added 0 (plainOutput "A"), .new_toplevel 0 (plainClient 10), .commit 10 true,
    .new_toplevel 1 (plainClient 11), .commit 11 true, .new_toplevel 2 (plainClient 12),
    .commit 12 true, .ipc (.Tag 2)]

theorem offScreen_of_alone {d : Desk} (hfound : d.window_map f = some w)
    (halone : ∀ v ∈ d.windows ++ d.focus_stack, isToplevel d f v = true → v = w)
    (hmapped : (d.st w).buffer_mapped = true) (hhidden : (d.st w).tags &&& d.all_visible = 0)
    (hfree : (d.st w).swallowing = none) : OffScreen d f w :=
  ⟨hfound, fun v hv => halone v (List.mem_append.2 hv), hmapped, hhidden, hfree⟩

/-- The desk and the seat after that run. -/
def background : Rwl :=
  { init (plainSetup [] []) with
    desk := (run step (init (plainSetup [] [])) backgroundRun).desk
    seat := (run step (init (plainSetup [] [])) backgroundRun).seat }

theorem popupFree_background : background.seat.PopupFree := by
  have hdefault : background.seat.ptr_grab = .default := by decide +kernel
  intro g hg
  rw [hdefault] at hg
  cases hg

theorem settled_background : background.desk.InForce := by
  unfold Desk.InForce
  decide +kernel

end Rwl

end Compositor
