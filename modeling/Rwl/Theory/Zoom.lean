import Mathlib.Tactic.Common
import Rwl.Theory.FocusCycle

/-!
# What `zoom` promotes

* `promoted`: the window to promote, given the tiled windows in their order;
* `zoomTarget_eq`: `zoom` follows it for the windows that pass its own filter;
* `ZoomLaw`: what promoting against the order of the layout means;
* `zoomLaw_iff`: `zoom` does so exactly when its filter and the partition of `arrange` agree on
  the windows around the focused one.
-/

namespace Compositor

namespace Rwl

open Transition

/-! ### Promoting -/

/-- The window to promote: the focused one, or the second when the focused one is the first. -/
def promoted (focused : WinId) : List WinId → Option WinId
  | a :: b :: _ => some (if a = focused then b else focused)
  | _ => none

theorem promoted_cons_self (f : WinId) (l : List WinId) : promoted f (f :: l) = l.head? := by
  cases l with
  | nil => rfl
  | cons b l => simp [promoted]

theorem promoted_of_before {f a : WinId} {l : List WinId} (ha : a ≠ f) (hf : f ∈ l) :
    promoted f (a :: l) = some f := by
  cases l with
  | nil => exact absurd hf List.not_mem_nil
  | cons b l => simp [promoted, ha]

/-- The loop of `zoom` finds it, in a list that has the focused window once. -/
theorem zoomScan_eq_promoted {f : WinId} {l : List WinId} (hn : l.Nodup) (hf : f ∈ l) :
    ((zoomScan f false l).map fun r : WinId × Bool => if r.2 then r.1 else f) =
      promoted f l := by
  cases l with
  | nil => exact absurd hf List.not_mem_nil
  | cons a l =>
    by_cases ha : a = f
    · subst ha
      have hnot : a ∉ l := (List.nodup_cons.1 hn).1
      rw [promoted_cons_self, zoomScan, if_pos rfl]
      cases l with
      | nil => rfl
      | cons b l =>
        have hb : b ≠ a := fun he => hnot (he ▸ List.mem_cons_self)
        rw [zoomScan, if_neg hb]
        rfl
    · rw [promoted_of_before ha (List.mem_of_ne_of_mem (Ne.symm ha) hf), zoomScan, if_neg ha]
      rfl

/-- What is promoted depends on whether a window in front of the focused one counts, and else on
the first behind it that does. -/
theorem promoted_filter {f : WinId} {p : WinId → Bool} (hf : p f = true) {before after : List WinId}
    (hbefore : f ∉ before) :
    promoted f ((before ++ f :: after).filter p) =
      if before.any p then some f else after.find? p := by
  rw [List.filter_append, List.filter_cons_of_pos hf]
  cases hb : before.filter p with
  | nil =>
    have hnone : before.any p = false :=
      List.any_eq_false.2 fun x hx => List.filter_eq_nil_iff.1 hb x hx
    rw [hnone, List.nil_append, promoted_cons_self, List.head?_filter]
    rfl
  | cons a rest =>
    obtain ⟨hmem, hp⟩ := List.mem_filter.1 (hb ▸ List.mem_cons_self : a ∈ before.filter p)
    have hsome : before.any p = true := List.any_eq_true.2 ⟨a, hmem, hp⟩
    have ha : a ≠ f := fun he => hbefore (he ▸ hmem)
    rw [hsome, List.cons_append, promoted_of_before ha (by simp)]
    rfl

/-- A window at the very front is not promoted itself. -/
theorem promoted_ne_of_front {f : WinId} {p : WinId → Bool} (hf : p f = true) {l : List WinId}
    (hn : l.Nodup) (hl : l = Recency.toFront f l) : promoted f (l.filter p) ≠ some f := by
  have hnot : f ∉ l.erase f := hn.not_mem_erase
  intro h
  rw [hl, Recency.toFront, ← List.nil_append (f :: l.erase f),
    promoted_filter hf List.not_mem_nil] at h
  exact hnot (List.mem_of_find?_eq_some h)

/-! ### The target of `zoom` -/

/-- The windows `arrange` tiles on the selected monitor, in their order. -/
def tiledOn (d : Desk) : List WinId := d.shown (d.tagsOf d.sel_mon) .tiled

/-- A window `arrange` tiles on the selected monitor. -/
def isTiled (d : Desk) (w : WinId) : Bool :=
  decide (Desk.display (d.tagsOf d.sel_mon) d.all_visible (d.st w) = .tiled)

/-- A window that passes the filter of `zoom`. -/
def isZoomable (d : Desk) : WinId → Bool := zoomable d (d.tagsOf d.sel_mon) d.sel_mon

/-- What `arrange` asks of a tiled window. -/
theorem of_isTiled {d : Desk} {w : WinId} (h : isTiled d w = true) :
    (d.st w).tags &&& d.tagsOf d.sel_mon ≠ 0 ∧ (d.st w).is_fullscreen = false ∧
      (d.st w).is_floating = false ∧ (d.st w).rules_applied = true := by
  have hdisplay := of_decide_eq_true h
  unfold Desk.display at hdisplay
  split_ifs at hdisplay with _ _ htags hfs hfloat hrules
  exact ⟨htags, by simpa using hfs, by simpa using hfloat, hrules⟩

/-- A tiled focused window passes the filter of `zoom`. -/
theorem isZoomable_of_tiled {d : Desk} {f : WinId} (hf : d.focused_window = some f)
    (ht : isTiled d f = true) : isZoomable d f = true := by
  obtain ⟨htags, _, hfloat, hrules⟩ := of_isTiled ht
  unfold isZoomable zoomable WindowState.visible_on
  rw [hfloat, hrules, mon_idx_focused_window hf]
  simpa using htags

/-- `zoom` promotes against the order of the windows that pass its filter. -/
theorem zoomTarget_eq {d : Desk} (hn : d.windows.Nodup) {f : WinId}
    (hf : d.focused_window = some f) (ht : f ∈ tiledOn d) :
    zoomTarget d = promoted f (d.windows.filter (isZoomable d)) := by
  obtain ⟨hmem, htiled⟩ := List.mem_filter.1 ht
  obtain ⟨htags, hfs, hfloat, _⟩ := of_isTiled htiled
  have hmon : ∃ mon, d.sel_monitor = some mon ∧ mon.tags = d.tagsOf d.sel_mon := by
    unfold Desk.tagsOf at htags ⊢
    cases hm : d.monitors[d.sel_mon]? with
    | none => simp [hm] at htags
    | some mon => exact ⟨mon, hm, by simp⟩
  obtain ⟨mon, hsel, hview⟩ := hmon
  unfold zoomTarget
  rw [hf, hsel]
  dsimp only
  rw [if_neg (by simp [hfs, hfloat]), hview]
  exact zoomScan_eq_promoted (hn.filter _)
    (List.mem_filter.2 ⟨hmem, isZoomable_of_tiled hf htiled⟩)

/-! ### What `zoom` does -/

theorem tiledOn_of_scene {d d' : Desk} (h : d'.scene = d.scene) (hsel : d'.sel_mon = d.sel_mon) :
    tiledOn d' = tiledOn d := by
  have hwindows : d'.windows = d.windows := congrArg Scene.windows h
  unfold tiledOn Desk.shown
  rw [hwindows, hsel, Desk.tagsOf_of_scene h, Desk.all_visible_of_scene h]
  refine List.filter_congr fun w _ => ?_
  have hplace := Desk.placement_of_scene h w
  have hswallowed : (d'.st w).is_swallowed = (d.st w).is_swallowed :=
    congrArg Placement.is_swallowed hplace
  have hfs : (d'.st w).is_fullscreen = (d.st w).is_fullscreen :=
    congrArg Placement.is_fullscreen hplace
  have hfloat : (d'.st w).is_floating = (d.st w).is_floating :=
    congrArg Placement.is_floating hplace
  have hrules : (d'.st w).rules_applied = (d.st w).rules_applied :=
    congrArg Placement.rules_applied hplace
  unfold Desk.display
  rw [hswallowed, hfs, hfloat, hrules, Desk.tags_of_scene h]

/-- What moving `w` to the front, focusing it and arranging leaves. -/
theorem zoom_spec {s : Rwl} {w : WinId} (htarget : zoomTarget s.desk = some w)
    (hw : w ∈ s.desk.windows.filter (isZoomable s.desk)) :
    s.zoom.desk.windows = Recency.toFront w s.desk.windows ∧
      tiledOn s.zoom.desk = (Recency.toFront w s.desk.windows).filter (isTiled s.desk) ∧
      s.zoom.desk.focused_window = some w := by
  obtain ⟨hmem, hpass⟩ := List.mem_filter.1 hw
  let s₁ := s.modifyDesk fun d => { d with windows := Recency.toFront w d.windows }
  have hzoom : s.zoom = (s₁.focus_window (some w)).arrange_all := by
    unfold zoom
    rw [htarget]
    exact if_pos hmem
  have hcycle : w ∈ focusCycle s₁.desk := by
    unfold isZoomable zoomable at hpass
    simp only [Bool.and_eq_true, decide_eq_true_eq] at hpass
    obtain ⟨⟨⟨hvisible, _⟩, hrules⟩, hmon⟩ := hpass
    refine List.mem_filter.2 ⟨Recency.mem_toFront.2 (Or.inl rfl), ?_⟩
    simp only [Bool.and_eq_true, decide_eq_true_eq]
    exact ⟨⟨hvisible, hrules⟩, hmon⟩
  obtain ⟨hfocused, hsel⟩ := focus_window_of_mem hcycle
  have hscene : s.zoom.desk.scene = s₁.desk.scene := by
    rw [hzoom]
    exact (scene_arrange_all _).trans (scene_focus_window s₁ (some w))
  have hsel' : s.zoom.desk.sel_mon = s₁.desk.sel_mon := by
    rw [hzoom, sel_mon_arrange_all, hsel]
  refine ⟨congrArg Scene.windows hscene, tiledOn_of_scene hscene hsel', ?_⟩
  rw [hzoom, Desk.focused_window_of_scene (scene_arrange_all _) (focus_stack_arrange_all _)
    (sel_mon_arrange_all _)]
  exact hfocused

/-- Without a target nothing changes. -/
theorem zoom_of_none {s : Rwl} (h : zoomTarget s.desk = none) : s.zoom = s := by
  unfold zoom
  rw [h]

/-! ### The law -/

/-- `zoom` promotes `w`: it comes to the front, the others keep their order, and it is then the
first tiled window and the focused one. -/
structure Promotes (s : Rwl) (w : WinId) : Prop where
  windows : s.zoom.desk.windows = Recency.toFront w s.desk.windows
  first : (tiledOn s.zoom.desk).head? = some w
  focused : s.zoom.desk.focused_window = some w

/-- Promoting against the order in which `arrange` tiles, with the tiled window `f` focused. -/
structure ZoomLaw (s : Rwl) (f : WinId) : Prop where
  master : ∀ b rest, tiledOn s.desk = f :: b :: rest → Promotes s b
  other : ∀ a b rest, tiledOn s.desk = a :: b :: rest → a ≠ f → Promotes s f
  alone : (tiledOn s.desk).length < 2 → s.zoom = s

theorem zoomLaw_iff_promoted {s : Rwl} {f : WinId} : ZoomLaw s f ↔
    (∀ w, promoted f (tiledOn s.desk) = some w → Promotes s w) ∧
      (promoted f (tiledOn s.desk) = none → s.zoom = s) := by
  constructor
  · intro h
    rcases hl : tiledOn s.desk with _ | ⟨a, _ | ⟨b, rest⟩⟩
    · exact ⟨fun w hw => absurd hw (by simp [promoted]), fun _ => h.alone (by simp [hl])⟩
    · exact ⟨fun w hw => absurd hw (by simp [promoted]), fun _ => h.alone (by simp [hl])⟩
    · refine ⟨fun w hw => ?_, fun hnone => absurd hnone (by simp [promoted])⟩
      rw [promoted, Option.some.injEq] at hw
      split_ifs at hw with ha
      · subst ha hw
        exact h.master _ rest hl
      · subst hw
        exact h.other a b rest hl ha
  · rintro ⟨hsome, hnone⟩
    refine ⟨fun b rest hl => hsome b ?_, fun a b rest hl ha => hsome f ?_, fun hlen => hnone ?_⟩
    · rw [hl, promoted, if_pos rfl]
    · rw [hl, promoted, if_neg ha]
    · rcases hl : tiledOn s.desk with _ | ⟨a, _ | ⟨b, rest⟩⟩
      · rfl
      · rfl
      · rw [hl, List.length_cons, List.length_cons] at hlen
        omega

theorem promoted_mem {f w : WinId} {l : List WinId} (hf : f ∈ l) (h : promoted f l = some w) :
    w ∈ l := by
  rcases l with _ | ⟨a, _ | ⟨b, rest⟩⟩
  · cases h
  · cases h
  · rw [promoted, Option.some.injEq] at h
    split_ifs at h
    · exact h ▸ List.mem_cons_of_mem _ List.mem_cons_self
    · exact h ▸ hf

/-- The law holds when the target is the window to promote, and only then. -/
theorem zoomLaw_iff_target {s : Rwl} (hn : s.desk.windows.Nodup) {f : WinId}
    (hf : s.desk.focused_window = some f) (ht : f ∈ tiledOn s.desk) :
    ZoomLaw s f ↔ zoomTarget s.desk = promoted f (tiledOn s.desk) := by
  obtain ⟨hmem, htiled⟩ := List.mem_filter.1 ht
  have hpass := isZoomable_of_tiled hf htiled
  have htarget := zoomTarget_eq hn hf ht
  have hspec {w : WinId} (h : zoomTarget s.desk = some w) :=
    zoom_spec h (promoted_mem (List.mem_filter.2 ⟨hmem, hpass⟩) (htarget ▸ h))
  rw [zoomLaw_iff_promoted]
  constructor
  · rintro ⟨hsome, hnone⟩
    cases hz : zoomTarget s.desk with
    | none =>
      cases hp : promoted f (tiledOn s.desk) with
      | none => rfl
      | some w =>
        -- nothing moved, so the focused window would be promoted from the very front
        have hpromotes := hsome w hp
        have hwindows := hpromotes.windows
        have hfocused := hpromotes.focused
        rw [zoom_of_none hz] at hwindows hfocused
        obtain rfl : f = w := Option.some.inj (hf.symm.trans hfocused)
        exact absurd hp (promoted_ne_of_front htiled hn hwindows)
    | some c =>
      obtain ⟨hwindows, _, hfocused⟩ := hspec hz
      cases hp : promoted f (tiledOn s.desk) with
      | none =>
        rw [hnone hp] at hwindows hfocused
        obtain rfl : f = c := Option.some.inj (hf.symm.trans hfocused)
        exact absurd (htarget ▸ hz) (promoted_ne_of_front hpass hn hwindows)
      | some w => rw [← hfocused, (hsome w hp).focused]
  · intro heq
    refine ⟨fun w hw => ?_, fun hnone => zoom_of_none (heq.trans hnone)⟩
    obtain ⟨hwindows, htiles, hfocused⟩ := hspec (heq.trans hw)
    refine ⟨hwindows, ?_, hfocused⟩
    have hwt : isTiled s.desk w = true := (List.mem_filter.1 (promoted_mem ht hw)).2
    rw [htiles, Recency.toFront, List.filter_cons_of_pos hwt, List.head?_cons]

/-- The windows in front of `f`, and those behind it. -/
def inFront (d : Desk) (f : WinId) : List WinId := d.windows.takeWhile fun w => decide (w ≠ f)

@[inherit_doc inFront]
def behind (d : Desk) (f : WinId) : List WinId :=
  (d.windows.dropWhile fun w => decide (w ≠ f)).tail

/-- The filter of `zoom` and the partition of `arrange` agree around the focused window: on whether
any window in front of it counts, and else on the first one behind it. -/
def Agrees (d : Desk) (f : WinId) : Prop :=
  (inFront d f).any (isZoomable d) = (inFront d f).any (isTiled d) ∧
    ((inFront d f).any (isTiled d) = false →
      (behind d f).find? (isZoomable d) = (behind d f).find? (isTiled d))

instance (d : Desk) (f : WinId) : Decidable (Agrees d f) := inferInstanceAs (Decidable (_ ∧ _))

theorem windows_split {d : Desk} {f : WinId} (hf : f ∈ d.windows) :
    d.windows = inFront d f ++ f :: behind d f ∧ f ∉ inFront d f := by
  refine ⟨?_, fun h => ?_⟩
  · unfold inFront behind
    generalize d.windows = l at hf
    induction l with
    | nil => exact absurd hf List.not_mem_nil
    | cons a l ih =>
      by_cases ha : a = f
      · simp [ha]
      · simpa [ha] using ih (List.mem_of_ne_of_mem (Ne.symm ha) hf)
  · have hne := List.all_eq_true.1 List.all_takeWhile f h
    simp at hne

/-- **Zoom.** With a tiled window focused, `zoom` promotes against the order of the layout exactly
when its filter and the partition of `arrange` agree around the focused window. -/
theorem zoomLaw_iff {s : Rwl} (hs : Reachable s) {f : WinId} (hf : s.desk.focused_window = some f)
    (ht : f ∈ tiledOn s.desk) : ZoomLaw s f ↔ Agrees s.desk f := by
  have hn := nodup_windows hs
  obtain ⟨hmem, htiled⟩ := List.mem_filter.1 ht
  obtain ⟨hsplit, hbefore⟩ := windows_split hmem
  have hafter : f ∉ behind s.desk f := by
    rw [hsplit] at hn
    exact (List.nodup_cons.1 (List.nodup_append.1 hn).2.1).1
  have hzoom : zoomTarget s.desk = if (inFront s.desk f).any (isZoomable s.desk) then some f
      else (behind s.desk f).find? (isZoomable s.desk) := by
    rw [zoomTarget_eq hn hf ht, hsplit]
    exact promoted_filter (isZoomable_of_tiled hf htiled) hbefore
  have htiles : promoted f (tiledOn s.desk) = if (inFront s.desk f).any (isTiled s.desk) then some f
      else (behind s.desk f).find? (isTiled s.desk) := by
    change promoted f (s.desk.windows.filter (isTiled s.desk)) = _
    rw [hsplit]
    exact promoted_filter htiled hbefore
  rw [zoomLaw_iff_target hn hf ht, hzoom, htiles, Agrees]
  have hnot (p : WinId → Bool) : (behind s.desk f).find? p ≠ some f :=
    fun h => hafter (List.mem_of_find?_eq_some h)
  cases (inFront s.desk f).any (isZoomable s.desk) <;>
    cases (inFront s.desk f).any (isTiled s.desk)
  · simp
  · simpa using hnot _
  · simpa using (hnot _).symm
  · simp

/-- Of three windows the newest is fullscreen and the next one is focused. -/
def coveredRun : List Event :=
  threeWindows ++ [.fullscreen_request 12 true, .ipc (.FocusStack 1)]

theorem zoomLaw_three : ZoomLaw (run step (init (plainSetup [] [])) threeWindows) 2 :=
  (zoomLaw_iff ⟨plainSetup [] [], threeWindows, rfl⟩ (by decide +kernel) (by decide +kernel)).2
    (by decide +kernel)

/-- The fullscreen window in front of the first tiled one hides that it is the first. -/
theorem not_zoomLaw : ¬ ∀ s : Rwl, Reachable s → ∀ f ∈ tiledOn s.desk,
    s.desk.focused_window = some f → ZoomLaw s f := by
  intro h
  have hlaw := h (run step (init (plainSetup [] [])) coveredRun) ⟨plainSetup [] [], coveredRun, rfl⟩
    1 (by decide +kernel) (by decide +kernel)
  have htiled : tiledOn (run step (init (plainSetup [] [])) coveredRun).desk = [1, 0] := by
    decide +kernel
  have hfocused := (hlaw.master 0 [] htiled).focused
  revert hfocused
  decide +kernel

end Rwl

end Compositor
