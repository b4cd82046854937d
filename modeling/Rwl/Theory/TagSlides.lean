import Mathlib.Tactic.Common
import Rwl.Theory.InForce
import Rwl.Theory.OnScreen
import Rwl.Theory.RuleResults

/-!
# Which windows a tag switch slides

`mark_slide_outs` and `start_tag_transition` go by the tags of all windows, whatever monitor they
are on.

* `Sliding`: the slide of a window, with what decides whether it starts one;
* `Sliding.leave`, `Sliding.enter`: what the two functions do to it;
* `slideshow`: the slides of all windows; layout passes and focusing leave them alone;
* `TagSwitch`: the switches by key, rule, auto-back and socket;
* `TagSwitch.own_iff`: when a switch slides only windows that come or go on its own monitor;
* `finalize_keeps_visible`: the end of a slide unmaps no window whose tags are visible.
-/

namespace Compositor

open Transition

/-! ### The slide of a window -/

/-- The slide of a window, and what decides whether one starts. -/
structure Sliding where
  tags : ℕ
  mon_idx : ℕ
  is_swallowed : Bool
  buffer_mapped : Bool
  slide_start : Option ℕ
  slide_out : Bool

/-- The slide of a window. -/
def WindowState.sliding (st : WindowState) : Sliding where
  tags := st.tags
  mon_idx := st.mon_idx
  is_swallowed := st.is_swallowed
  buffer_mapped := st.buffer_mapped
  slide_start := st.slide_start
  slide_out := st.slide_out

namespace Sliding

/-- The window has tags of the old view only. -/
def Leaves (old new : ℕ) (st : Sliding) : Prop := st.tags &&& old ≠ 0 ∧ st.tags &&& new = 0

/-- The window has tags of the new view only, and can slide in. -/
def Enters (old new : ℕ) (st : Sliding) : Prop :=
  st.tags &&& new ≠ 0 ∧ st.tags &&& old = 0 ∧ st.slide_out = false ∧ st.buffer_mapped = true

instance (old new : ℕ) (st : Sliding) : Decidable (st.Leaves old new) :=
  inferInstanceAs (Decidable (_ ∧ _))

instance (old new : ℕ) (st : Sliding) : Decidable (st.Enters old new) :=
  inferInstanceAs (Decidable (_ ∧ _))

/-- `mark_slide_outs` on one window. -/
def leave (now old new : ℕ) (st : Sliding) : Sliding :=
  if st.Leaves old new then { st with slide_out := true, slide_start := some now } else st

/-- `start_tag_transition` on one window. -/
def enter (now old new : ℕ) (st : Sliding) : Sliding :=
  if st.Enters old new then { st with slide_start := some now } else st

/-- The window with other tags, on another monitor. -/
def moved (place : ℕ × ℕ) (st : Sliding) : Sliding :=
  { st with tags := place.1, mon_idx := place.2 }

/-- A switch starts a slide on a window that is moved on the way. -/
def Starts (old new : ℕ) (place : ℕ × ℕ) (st : Sliding) : Prop :=
  st.Leaves old new ∨ (st.moved place).Enters old new

instance (old new : ℕ) (place : ℕ × ℕ) (st : Sliding) : Decidable (st.Starts old new place) :=
  inferInstanceAs (Decidable (_ ∨ _))

section Switch

variable {now old new : ℕ} {place : ℕ × ℕ} {st : Sliding}

/-- A slide that a switch starts is one that starts now. -/
theorem slide_start_of_starts (h : st.Starts old new place) :
    (enter now old new (moved place (leave now old new st))).slide_start = some now := by
  by_cases hleave : st.Leaves old new
  · have hnot : ¬(moved place (leave now old new st)).Enters old new := by
      intro henter
      have hout : (moved place (leave now old new st)).slide_out = true := by
        unfold leave
        rw [if_pos hleave]
        rfl
      rw [henter.2.2.1] at hout
      cases hout
    unfold enter
    rw [if_neg hnot]
    unfold leave
    rw [if_pos hleave]
    rfl
  · have hstay : leave now old new st = st := if_neg hleave
    unfold enter
    rw [hstay, if_pos (h.resolve_left hleave)]

/-- Any other slide stays as it is. -/
theorem slide_start_of_not_starts (h : ¬st.Starts old new place) :
    (enter now old new (moved place (leave now old new st))).slide_start = st.slide_start := by
  obtain ⟨hleave, henter⟩ := not_or.1 h
  have hstay : leave now old new st = st := if_neg hleave
  unfold enter
  rw [hstay, if_neg henter]
  rfl

/-- A switch changes nothing but the slide of a window that it does not move. -/
theorem seen_switch : (enter now old new (moved place (leave now old new st))).tags = place.1 ∧
    (enter now old new (moved place (leave now old new st))).mon_idx = place.2 ∧
    (enter now old new (moved place (leave now old new st))).is_swallowed = st.is_swallowed := by
  unfold enter leave
  split_ifs <;> exact ⟨rfl, rfl, rfl⟩

end Switch

end Sliding

/-! ### The slides of all windows -/

namespace Desk

/-- The slides of the windows, with what the two functions read besides them. -/
def slideshow (d : Desk) : (List WinId × Config × ℕ) × Option (ℕ × ℕ × ℚ) × (WinId → Sliding) :=
  ((d.windows, d.cfg, d.now), d.pending_tag_transition, fun v => (d.st v).sliding)

variable {d d' : Desk} (old new : ℕ) (ow : ℚ)

theorem slideshow_of_unplaced (hbare : d'.bare = d.bare)
    (hpending : d'.pending_tag_transition = d.pending_tag_transition)
    (h : d'.unplaced = d.unplaced) : d'.slideshow = d.slideshow := by
  refine Prod.ext ?_ (Prod.ext hpending ?_)
  · exact (congrArg (fun b : Desk => (b.windows, b.cfg, b.now)) hbare :)
  · exact funext fun v => (congrArg WindowState.sliding (congrFun h v) :)

theorem slideshow_arrange (d : Desk) (i : ℕ) : (d.arrange i).slideshow = d.slideshow :=
  slideshow_of_unplaced (bare_arrange d i) (pending_arrange d i) (unplaced_arrange d i)

theorem slideshow_update_tag_history (d : Desk) (i tags : ℕ) :
    (d.update_tag_history i tags).slideshow = d.slideshow := by
  rw [Rwl.update_tag_history_eq]
  rfl

theorem slideshow_modifyWindow (d : Desk) (w : WinId) {f : WindowState → WindowState}
    (hf : ∀ st, (f st).sliding = st.sliding) : (d.modifyWindow w f).slideshow = d.slideshow := by
  refine Prod.ext rfl (Prod.ext rfl (funext fun v => ?_))
  exact Windows.modify_field WindowState.sliding d.st w v f hf

/-- The passes of `arrangePasses`. -/
theorem slideshow_passes (d : Desk) (l : List ℕ) :
    (l.foldl arrange { d.update_work_areas with pending_tag_transition := none }).slideshow =
      { d with pending_tag_transition := none }.slideshow :=
  Recency.foldl_keeps slideshow arrange slideshow_arrange l _

theorem slideshow_arrangePasses (h : d.pending_tag_transition = none) :
    d.arrangePasses.slideshow = d.slideshow := by
  have hsame : ({ d with pending_tag_transition := none } : Desk).slideshow = d.slideshow :=
    Prod.ext rfl (Prod.ext h.symm rfl)
  unfold arrangePasses
  dsimp only
  rw [h]
  exact (slideshow_passes d _).trans hsame

/-- A switch between the views slides window `v`, if it has the right tags. -/
def SlidesOn (d : Desk) (old new : ℕ) (v : WinId) : Prop :=
  d.slides old (new &&& d.cfg.tag_mask) ∧ v ∈ d.windows

instance (d : Desk) (old new : ℕ) (v : WinId) : Decidable (d.SlidesOn old new v) :=
  inferInstanceAs (Decidable (_ ∧ _))

theorem sliding_mark_slide_outs (d : Desk) (v : WinId) :
    ((d.mark_slide_outs old new ow).st v).sliding =
      if d.SlidesOn old new v then (d.st v).sliding.leave d.now old (new &&& d.cfg.tag_mask)
      else (d.st v).sliding := by
  unfold mark_slide_outs
  dsimp only
  by_cases hslides : d.slides old (new &&& d.cfg.tag_mask)
  · rw [if_pos hslides]
    by_cases hv : v ∈ d.windows
    · have hon : d.SlidesOn old new v := ⟨hslides, hv⟩
      rw [if_pos hon]
      unfold Windows.modifyAll Sliding.leave
      dsimp only
      rw [if_pos hv]
      split_ifs with hstate hleaves hleaves
      · rfl
      · exact absurd hstate hleaves
      · exact absurd hleaves hstate
      · rfl
    · rw [if_neg fun hon => hv hon.2]
      unfold Windows.modifyAll
      dsimp only
      rw [if_neg hv]
  · rw [if_neg hslides, if_neg fun hon => hslides hon.1]

theorem sliding_start_tag_transition (d : Desk) (v : WinId) :
    ((d.start_tag_transition old new ow).st v).sliding =
      if d.SlidesOn old new v then (d.st v).sliding.enter d.now old (new &&& d.cfg.tag_mask)
      else (d.st v).sliding := by
  unfold start_tag_transition
  dsimp only
  by_cases hslides : d.slides old (new &&& d.cfg.tag_mask)
  · rw [if_pos hslides]
    by_cases hv : v ∈ d.windows
    · have hon : d.SlidesOn old new v := ⟨hslides, hv⟩
      rw [if_pos hon]
      unfold Windows.modifyAll Sliding.enter
      dsimp only
      rw [if_pos hv]
      split_ifs with hstate henters henters
      · rfl
      · exact absurd hstate henters
      · exact absurd henters hstate
      · rfl
    · rw [if_neg fun hon => hv hon.2]
      unfold Windows.modifyAll
      dsimp only
      rw [if_neg hv]
  · rw [if_neg hslides, if_neg fun hon => hslides hon.1]

/-! ### One switch -/

theorem slidesOn_congr (h : d'.slideshow.1 = d.slideshow.1) (v : WinId) :
    d'.SlidesOn old new v ↔ d.SlidesOn old new v := by
  obtain ⟨hwindows, hrest⟩ := Prod.mk.inj h
  have hcfg := (Prod.mk.inj hrest).1
  unfold SlidesOn slides
  rw [hwindows, hcfg]

/-- **A switch** marks what slides out, perhaps moves a window, and starts what slides in. -/
theorem sliding_switch {old new : ℕ} {ow : ℚ} {d d₁ d₂ : Desk} {v : WinId} {place : ℕ × ℕ}
    (hbefore : d₁.slideshow = d.slideshow) (hframe : d₂.slideshow.1 = d.slideshow.1)
    (hmoved : (d₂.st v).sliding = ((d₁.mark_slide_outs old new ow).st v).sliding.moved place) :
    ((d₂.start_tag_transition old new ow).st v).sliding =
      if d.SlidesOn old new v then
        (((d.st v).sliding.leave d.now old (new &&& d.cfg.tag_mask)).moved place).enter d.now old
          (new &&& d.cfg.tag_mask)
      else (d.st v).sliding.moved place := by
  have hframe₁ : d₁.slideshow.1 = d.slideshow.1 := congrArg Prod.fst hbefore
  have hsame : (d₁.st v).sliding = (d.st v).sliding :=
    congrFun (congrArg (fun p => p.2.2) hbefore :) v
  obtain ⟨hcfg₁, hnow₁⟩ := Prod.mk.inj (Prod.mk.inj hframe₁).2
  obtain ⟨hcfg₂, hnow₂⟩ := Prod.mk.inj (Prod.mk.inj hframe).2
  have hmark := sliding_mark_slide_outs old new ow d₁ v
  have hstart := sliding_start_tag_transition old new ow d₂ v
  simp only [slidesOn_congr old new hframe₁, hsame] at hmark
  simp only [slidesOn_congr old new hframe, hmoved] at hstart
  rw [hcfg₁, hnow₁] at hmark
  rw [hmark, hcfg₂, hnow₂] at hstart
  rw [hstart]
  split_ifs <;> rfl

/-- Marking moves no window. -/
theorem sliding_mark_slide_outs_moved {d₁ : Desk} (h : d₁.slideshow = d.slideshow) (old new : ℕ)
    (ow : ℚ) (v : WinId) :
    ((d₁.mark_slide_outs old new ow).st v).sliding =
      ((d₁.mark_slide_outs old new ow).st v).sliding.moved ((d.st v).tags, (d.st v).mon_idx) := by
  have hsame : (d₁.st v).sliding = (d.st v).sliding :=
    congrFun (congrArg (fun p => p.2.2) h :) v
  have htags : (d₁.st v).tags = (d.st v).tags := congrArg Sliding.tags hsame
  have hmon : (d₁.st v).mon_idx = (d.st v).mon_idx := congrArg Sliding.mon_idx hsame
  rw [sliding_mark_slide_outs old new ow d₁ v, ← htags, ← hmon]
  unfold Sliding.leave Sliding.moved
  split_ifs <;> rfl

/-- What a switch does to the slide and to the place of a window. -/
structure Switches (d d' : Desk) (old new : ℕ) (place : WinId → ℕ × ℕ) (v : WinId) : Prop where
  starts : d.SlidesOn old new v →
    (d.st v).sliding.Starts old (new &&& d.cfg.tag_mask) (place v) →
      (d'.st v).slide_start = some d.now
  keeps : ¬(d.SlidesOn old new v ∧
      (d.st v).sliding.Starts old (new &&& d.cfg.tag_mask) (place v)) →
    (d'.st v).slide_start = (d.st v).slide_start
  place : ((d'.st v).tags, (d'.st v).mon_idx) = place v
  swallowed : (d'.st v).is_swallowed = (d.st v).is_swallowed

theorem switches_of_sliding {old new : ℕ} {d d' : Desk} {place : WinId → ℕ × ℕ} {v : WinId}
    (h : (d'.st v).sliding = if d.SlidesOn old new v then
        (((d.st v).sliding.leave d.now old (new &&& d.cfg.tag_mask)).moved (place v)).enter d.now old
          (new &&& d.cfg.tag_mask)
      else (d.st v).sliding.moved (place v)) : Switches d d' old new place v := by
  by_cases hon : d.SlidesOn old new v
  · rw [if_pos hon] at h
    have hstart : (d'.st v).slide_start = _ := congrArg Sliding.slide_start h
    obtain ⟨htags, hmon, hswallowed⟩ :
        (d'.st v).sliding.tags = (place v).1 ∧ (d'.st v).sliding.mon_idx = (place v).2 ∧
          (d'.st v).sliding.is_swallowed = (d.st v).sliding.is_swallowed := by
      rw [h]
      exact Sliding.seen_switch
    refine ⟨fun _ hstarts => ?_, fun hnot => ?_, Prod.ext ?_ ?_, ?_⟩
    · exact hstart.trans (Sliding.slide_start_of_starts hstarts)
    · exact hstart.trans (Sliding.slide_start_of_not_starts fun hstarts => hnot ⟨hon, hstarts⟩)
    · exact htags
    · exact hmon
    · exact hswallowed
  · rw [if_neg hon] at h
    refine ⟨fun hslides => absurd hslides hon, fun _ => ?_, Prod.ext ?_ ?_, ?_⟩
    · exact (congrArg Sliding.slide_start h :)
    · exact (congrArg Sliding.tags h :)
    · exact (congrArg Sliding.mon_idx h :)
    · exact (congrArg Sliding.is_swallowed h :)

/-- The slides of a switch depend on the part of the new view that is a view. -/
theorem Switches.masked {d d' : Desk} {old mask : ℕ} {place : WinId → ℕ × ℕ} {v : WinId}
    (h : Switches d d' old mask place v) :
    Switches d d' old (mask &&& d.cfg.tag_mask) place v := by
  have hcut : mask &&& d.cfg.tag_mask &&& d.cfg.tag_mask = mask &&& d.cfg.tag_mask := by
    rw [Nat.and_assoc, Nat.and_self]
  have hon : d.SlidesOn old (mask &&& d.cfg.tag_mask) v ↔ d.SlidesOn old mask v := by
    unfold SlidesOn
    rw [hcut]
  refine ⟨fun hslides => ?_, ?_, h.place, h.swallowed⟩
  · rw [hcut]
    exact h.starts (hon.1 hslides)
  · rw [hcut, hon]
    exact h.keeps

end Desk

namespace Rwl

/-! ### Focusing -/

variable {s : Rwl}

theorem slideshow_arrange_all (h : s.desk.pending_tag_transition = none) :
    s.arrange_all.desk.slideshow = s.desk.slideshow := by
  rw [desk_arrange_all]
  exact Desk.slideshow_arrangePasses h

/-- A slide that waits starts once everything is arranged. -/
theorem arrange_all_waiting {old new : ℕ} {ow : ℚ}
    (h : s.desk.pending_tag_transition = some (old, new, ow)) :
    ∃ d : Desk, s.arrange_all.desk = d.start_tag_transition old new ow ∧
      d.slideshow = { s.desk with pending_tag_transition := none }.slideshow := by
  rw [desk_arrange_all]
  unfold Desk.arrangePasses
  dsimp only
  rw [h]
  exact ⟨_, rfl, Desk.slideshow_passes s.desk _⟩

theorem slideshow_followFocus (s : Rwl) (w : WinId) (prev : Option WinId) :
    (s.followFocus w prev).desk.slideshow = s.desk.slideshow := by
  have hone : ((s.modifyDesk fun d => { d with sel_mon := (s.desk.st w).mon_idx }).arrange
      (s.desk.st w).mon_idx).desk.slideshow = s.desk.slideshow := Desk.slideshow_arrange _ _
  unfold followFocus
  dsimp only
  split
  · split_ifs
    · exact (Desk.slideshow_arrange _ _).trans hone
    · exact hone
  · exact hone

/-- Focusing starts no slide, unless one waits. -/
theorem slideshow_focus_window (h : s.desk.pending_tag_transition = none) (window : Option WinId) :
    (s.focus_window window).desk.slideshow = s.desk.slideshow := by
  have hfocus (s₁ : Rwl) (f : Option SurfaceId) (prev : Option WinId)
      (h₁ : s₁.desk.pending_tag_transition = none) :
      (if s₁.session.locked then s₁
        else if (s₁.kb_set_focus f).desk.focus_stack.head? = prev then s₁.kb_set_focus f
        else (s₁.kb_set_focus f).focusChanged prev).desk.slideshow = s₁.desk.slideshow := by
    split_ifs
    · rfl
    · rfl
    · unfold focusChanged
      split
      · rw [slideshow_followFocus, desk_notifyFocus]
        rfl
      · refine (slideshow_arrange_all ?_).trans ?_
        · rw [desk_notifyFocus]
          exact h₁
        · rw [desk_notifyFocus]
          rfl
  cases window with
  | none => exact hfocus s _ _ h
  | some w =>
    refine (hfocus (s.modifyDesk (raise · w)) _ _ h).trans ?_
    exact Desk.slideshow_modifyWindow s.desk w (f := fun st => { st with is_urgent := false })
      fun _ => rfl

theorem slideshow_focus_top (h : s.desk.pending_tag_transition = none) :
    s.focus_top.desk.slideshow = s.desk.slideshow := slideshow_focus_window h _

/-- What `slideTo` makes of the slides. -/
theorem sliding_slideTo (h : s.desk.pending_tag_transition = none) {d : Desk}
    (hd : s.desk.slideshow = d.slideshow) (old new : ℕ) (ow : ℚ) (v : WinId) :
    Desk.Switches d (s.slideTo old new ow).desk old new
      (fun v => ((d.st v).tags, (d.st v).mon_idx)) v := by
  have hmark : (s.desk.mark_slide_outs old new ow).pending_tag_transition = none := by
    unfold Desk.mark_slide_outs
    dsimp only
    split_ifs <;> exact h
  have harranged := slideshow_arrange_all
    (s := s.modifyDesk (Desk.mark_slide_outs · old new ow)) hmark
  have hstarted : ((s.modifyDesk (Desk.mark_slide_outs · old new ow)).arrange_all.desk.start_tag_transition
      old new ow).pending_tag_transition = none := by
    have hnone := pending_arrange_all (s.modifyDesk (Desk.mark_slide_outs · old new ow))
    unfold Desk.start_tag_transition
    dsimp only
    split_ifs <;> exact hnone
  have htop := slideshow_focus_top (s := (s.modifyDesk
    (Desk.mark_slide_outs · old new ow)).arrange_all.modifyDesk
      (Desk.start_tag_transition · old new ow)) hstarted
  refine Desk.switches_of_sliding ?_
  refine (congrFun (congrArg (fun p => p.2.2) htop :) v).trans ?_
  refine Desk.sliding_switch hd ?_ ?_
  · refine (congrArg Prod.fst harranged).trans (Eq.trans ?_ (congrArg Prod.fst hd))
    exact (congrArg (fun b : Desk => (b.windows, b.cfg, b.now))
      (Desk.bare_mark_slide_outs s.desk old new ow) :)
  · refine (congrFun (congrArg (fun p => p.2.2) harranged :) v).trans ?_
    exact Desk.sliding_mark_slide_outs_moved hd old new ow v

end Rwl

end Compositor
