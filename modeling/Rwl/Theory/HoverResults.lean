import Mathlib.Tactic.Common
import Rwl.Core.Hover
import Rwl.Lib.Run

/-!
# What the hover widget shows

The workers post into one slot; the loop shows what it finds there if it still is for the block
under the pointer.

* `Moved`: what `update_hover` does when the pointer comes to another block;
* `Tracked`: the block under the pointer is one of the bar it is on, and what is in the slot is the
  output of a worker;
* `widget_of_read`: a widget only comes up on a read, with the result of the current request;
* `Holding`: a posted result stays in the slot while no other is posted;
* `hover_results`: both, for every run.
-/

namespace Compositor

open Transition

namespace HoverState

/-! ### The pointer -/

/-- The block under the pointer. -/
def under (s : HoverState) (idx : ℕ) : Option (ℕ × ℕ) :=
  (s.block_at idx s.pointer_x).map fun k => (idx, k)

/-- The pointer came to another block of bar `idx`, or off the blocks. -/
structure Moved (s t : HoverState) (idx : ℕ) : Prop where
  panels : t.panels = s.panels
  font : t.font = s.font
  focus : t.pointer_focus = s.pointer_focus
  target : t.hover_target = s.under idx
  other : s.under idx ≠ s.hover_target
  widget : t.widget = none
  shared : t.hover_shared = s.hover_shared
  wake : t.wake = s.wake
  generation : t.hover_generation = (s.hover_generation + 1) % 2 ^ 64
  workers : t.workers = s.workers ∨ ∃ b k cmd, t.hover_target = some (b, k) ∧
    t.workers = s.workers ++ [⟨t.hover_generation, b, k, cmd, none, false⟩]

theorem update_hover_cases (s : HoverState) (idx : ℕ) :
    s.under idx = s.hover_target ∧ s.update_hover idx = s ∨ s.Moved (s.update_hover idx) idx := by
  by_cases h : s.under idx = s.hover_target
  · exact .inl ⟨h, if_pos h⟩
  · right
    have hunder : (s.block_at idx s.pointer_x).map (fun k => (idx, k)) = s.under idx := rfl
    unfold update_hover
    rw [hunder, if_neg h]
    cases htarget : s.under idx with
    | none => exact ⟨rfl, rfl, rfl, htarget.symm, h, rfl, rfl, rfl, rfl, .inl rfl⟩
    | some p =>
      dsimp only
      split_ifs with hcmd
      · exact ⟨rfl, rfl, rfl, htarget.symm, h, rfl, rfl, rfl, rfl, .inl rfl⟩
      · exact ⟨rfl, rfl, rfl, htarget.symm, h, rfl, rfl, rfl, rfl, .inr ⟨p.1, p.2, _, rfl, rfl⟩⟩

/-- The bar has blocks. -/
def Known (s : HoverState) (idx : ℕ) : Prop :=
  ∃ full_w, ((s.panels[idx]?).bind fun bar => bar.block_pix_ends.getLast?) = some full_w ∧
    full_w ≠ 0

theorem known_of_under {s : HoverState} {idx b k : ℕ} (h : s.under idx = some (b, k)) :
    b = idx ∧ s.Known b := by
  obtain ⟨k', hk, hbk⟩ := Option.map_eq_some_iff.mp h
  obtain ⟨rfl, rfl⟩ := Prod.mk.inj hbk
  refine ⟨rfl, ?_⟩
  unfold block_at at hk
  cases hbar : s.panels[idx]? with
  | none =>
    rw [hbar] at hk
    cases hk
  | some bar =>
    rw [hbar] at hk
    cases hlast : bar.block_pix_ends.getLast? with
    | none =>
      simp only [hlast] at hk
      cases hk
    | some full_w =>
      simp only [hlast] at hk
      by_cases hw : full_w = 0
      · rw [if_pos hw] at hk
        cases hk
      · exact ⟨full_w, by rw [hbar]; exact hlast, hw⟩

/-! ### The slot -/

/-- What is in the slot is the output of a worker. -/
def Posted (s : HoverState) : Prop :=
  ∀ r, s.hover_shared = some r → ∃ (i : ℕ) (w : Worker), s.workers[i]? = some w ∧ w.output = some r.lines ∧
    (w.generation, w.bar_idx, w.block_idx) = (r.generation, r.bar_idx, r.block_idx)

theorem posted_append {s t : HoverState} (h : s.Posted) (hshared : t.hover_shared = s.hover_shared)
    (hworkers : ∃ l, t.workers = s.workers ++ l) : t.Posted := by
  intro r hr
  obtain ⟨i, w, hw, hout⟩ := h r (hshared.symm.trans hr)
  obtain ⟨l, hl⟩ := hworkers
  exact ⟨i, w, by rw [hl, List.getElem?_append_left (List.getElem?_eq_some_iff.mp hw).1, hw], hout⟩

theorem posted_update_hover {s : HoverState} (h : s.Posted) (idx : ℕ) :
    (s.update_hover idx).Posted := by
  rcases s.update_hover_cases idx with ⟨-, hsame⟩ | hmoved
  · rwa [hsame]
  · refine posted_append h hmoved.shared ?_
    rcases hmoved.workers with hw | ⟨b, k, cmd, -, hw⟩
    · exact ⟨[], by rw [hw, List.append_nil]⟩
    · exact ⟨_, hw⟩

/-- A worker whose command ends posts its lines, unless there are none. -/
theorem work_running {s : HoverState} {i : ℕ} {w : Worker} (hw : s.workers[i]? = some w)
    (hrun : w.output = none) (text : Text) : s.work i text =
      { s with
        hover_shared := if output_lines text = [] then s.hover_shared
          else some ⟨w.generation, w.bar_idx, w.block_idx, output_lines text⟩
        workers := s.workers.set i
          { w with output := some (output_lines text), woken := false } } := by
  simp only [work, hw, hrun]

theorem work_ended {s : HoverState} {i : ℕ} {w : Worker} (hw : s.workers[i]? = some w)
    {lines : List Text} (hout : w.output = some lines) (text : Text) : s.work i text =
      if lines = [] ∨ w.woken = true then s
      else { s with wake := s.wake + 1, workers := s.workers.set i { w with woken := true } } := by
  simp only [work, hw, hout]

theorem posted_work {s : HoverState} (h : s.Posted) (i : ℕ) (text : Text) :
    (s.work i text).Posted := by
  cases hw : s.workers[i]? with
  | none =>
    have hnone : s.work i text = s := by simp only [work, hw]
    rwa [hnone]
  | some w =>
    have hlt : i < s.workers.length := (List.getElem?_eq_some_iff.mp hw).1
    cases hout : w.output with
    | none =>
      rw [work_running hw hout]
      intro r hr
      dsimp only at hr ⊢
      by_cases hlines : output_lines text = []
      · rw [if_pos hlines] at hr
        obtain ⟨j, v, hv, hvout, hlabel⟩ := h r hr
        have hij : i ≠ j := by
          rintro rfl
          obtain rfl := Option.some.inj (hw.symm.trans hv)
          rw [hout] at hvout
          cases hvout
        exact ⟨j, v, by rw [List.getElem?_set_ne hij, hv], hvout, hlabel⟩
      · rw [if_neg hlines] at hr
        obtain rfl := Option.some.inj hr
        exact ⟨i, _, List.getElem?_set_self hlt, rfl, rfl⟩
    | some lines =>
      rw [work_ended hw hout]
      split_ifs with hdone
      · exact h
      · intro r hr
        obtain ⟨j, v, hv, hvout, hlabel⟩ := h r hr
        by_cases hij : i = j
        · subst hij
          obtain rfl := Option.some.inj (hw.symm.trans hv)
          exact ⟨i, _, List.getElem?_set_self hlt, hvout, hlabel⟩
        · exact ⟨j, v, by rw [List.getElem?_set_ne hij, hv], hvout, hlabel⟩

/-- Opening the widget changes nothing else. -/
theorem open_widget_frame (s : HoverState) (bar_idx : ℕ) (lines : List Text) :
    ∃ w, s.open_widget_with_text bar_idx lines = { s with widget := w } ∧
      (w = s.widget ∨ ∃ v, w = some v ∧ v.lines = lines.take WIDGET_MAX_LINES) := by
  unfold open_widget_with_text
  by_cases hlines : lines = []
  · exact ⟨s.widget, if_pos hlines, .inl rfl⟩
  rw [if_neg hlines]
  dsimp only
  by_cases hwidth : text_width s.font (lines.take WIDGET_MAX_LINES) = 0
  · exact ⟨s.widget, if_pos hwidth, .inl rfl⟩
  rw [if_neg hwidth]
  cases (s.panels[bar_idx]?).bind fun bar => bar.block_pix_ends.getLast? with
  | none => exact ⟨s.widget, rfl, .inl rfl⟩
  | some full_w =>
    dsimp only
    split_ifs
    · exact ⟨s.widget, rfl, .inl rfl⟩
    · exact ⟨_, rfl, .inr ⟨_, rfl, rfl⟩⟩

/-- Lines that can be seen come up at a bar that has blocks. -/
theorem open_widget_some {s : HoverState} {bar_idx : ℕ} {lines : List Text} (hlines : lines ≠ [])
    (hwidth : text_width s.font (lines.take WIDGET_MAX_LINES) ≠ 0) (hknown : s.Known bar_idx) :
    ∃ v, (s.open_widget_with_text bar_idx lines).widget = some v ∧
      v.lines = lines.take WIDGET_MAX_LINES := by
  obtain ⟨full_w, hbar, hfull⟩ := hknown
  unfold open_widget_with_text
  rw [if_neg hlines]
  dsimp only
  rw [if_neg hwidth, hbar]
  dsimp only
  rw [if_neg hfull]
  exact ⟨_, rfl, rfl⟩

/-- A read takes what is in the slot, and brings a widget up only for a current result. -/
theorem read_cases (s : HoverState) : s.wake = 0 ∧ s.read = s ∨ s.wake ≠ 0 ∧
    ∃ w, s.read = { s with wake := 0, hover_shared := none, widget := w } ∧
      (w = s.widget ∨ ∃ r v, s.hover_shared = some r ∧ s.Current r ∧ w = some v ∧
        v.lines = r.lines.take WIDGET_MAX_LINES) := by
  unfold read
  by_cases hwake : s.wake = 0
  · exact .inl ⟨hwake, if_pos hwake⟩
  rw [if_neg hwake]
  refine .inr ⟨hwake, ?_⟩
  cases hshared : s.hover_shared with
  | none => exact ⟨s.widget, rfl, .inl rfl⟩
  | some r =>
    dsimp only
    by_cases hcurrent : s.Current r
    · rw [if_pos hcurrent]
      obtain ⟨w, hw, hcase⟩ := open_widget_frame { s with wake := 0, hover_shared := none } r.bar_idx
        r.lines
      refine ⟨w, hw, hcase.imp id ?_⟩
      rintro ⟨v, hv, hlines⟩
      exact ⟨r, v, rfl, hcurrent, hv, hlines⟩
    · rw [if_neg hcurrent]
      exact ⟨s.widget, rfl, .inl rfl⟩

/-- A current result whose lines can be seen is shown. -/
theorem read_opens {s : HoverState} {r : HoverResult} (hwake : s.wake ≠ 0)
    (hshared : s.hover_shared = some r) (hcurrent : s.Current r) (hlines : r.lines ≠ [])
    (hwidth : text_width s.font (r.lines.take WIDGET_MAX_LINES) ≠ 0) (hknown : s.Known r.bar_idx) :
    ∃ v, s.read.widget = some v ∧ v.lines = r.lines.take WIDGET_MAX_LINES := by
  unfold read
  rw [if_neg hwake, hshared]
  dsimp only
  rw [if_pos hcurrent]
  exact open_widget_some hlines hwidth hknown

theorem posted_read {s : HoverState} (h : s.Posted) : s.read.Posted := by
  rcases s.read_cases with ⟨-, hsame⟩ | ⟨-, w, hread, -⟩
  · rwa [hsame]
  · rw [hread]
    intro r hr
    cases hr

/-! ### The block under the pointer -/

/-- The bar the pointer is on has the block it is said to be on, and what is in the slot is the
output of a worker. -/
structure Tracked (s : HoverState) : Prop where
  known : ∀ b k, s.hover_target = some (b, k) → s.pointer_focus = some b ∧ s.Known b
  posted : s.Posted

/-- A bar keeps its blocks. -/
theorem known_of_blocks {s t : HoverState} {b : ℕ}
    (h : (t.panels[b]?).map Panel.block_pix_ends = (s.panels[b]?).map Panel.block_pix_ends)
    (hs : s.Known b) : t.Known b := by
  obtain ⟨full_w, hbar, hfull⟩ := hs
  have hbind (o : Option Panel) : (o.bind fun bar => bar.block_pix_ends.getLast?) =
      (o.map Panel.block_pix_ends).bind List.getLast? := by
    cases o <;> rfl
  refine ⟨full_w, ?_, hfull⟩
  rw [hbind, h, ← hbind, hbar]

theorem tracked_update_hover {s : HoverState} {idx : ℕ} (hposted : s.Posted)
    (hfocus : s.pointer_focus = some idx) : (s.update_hover idx).Tracked := by
  refine ⟨fun b k htarget => ?_, posted_update_hover hposted idx⟩
  rcases s.update_hover_cases idx with ⟨hunder, hsame⟩ | hmoved
  · rw [hsame] at htarget ⊢
    obtain ⟨rfl, hknown⟩ := known_of_under (hunder.trans htarget)
    exact ⟨hfocus, hknown⟩
  · obtain ⟨rfl, hknown⟩ := known_of_under (hmoved.target.symm.trans htarget)
    refine ⟨hmoved.focus.trans hfocus, known_of_blocks ?_ hknown⟩
    rw [hmoved.panels]

theorem tracked_clear_hover {s : HoverState} (h : s.Posted) : s.clear_hover.Tracked :=
  ⟨fun _ _ htarget => (by cases htarget), h⟩

/-- The bars change and keep their blocks. -/
theorem Tracked.panels {s : HoverState} (h : s.Tracked) {panels : List Panel}
    (hblocks : ∀ b, s.Known b → Known { s with panels := panels } b) :
    Tracked { s with panels := panels } :=
  ⟨fun b k htarget => ⟨(h.known b k htarget).1, hblocks b (h.known b k htarget).2⟩, h.posted⟩

theorem blocks_configure (p : Panel) (buffer_scale : ℕ) (current : Bool) (width height : ℕ) :
    (p.configure buffer_scale current width height).block_pix_ends = p.block_pix_ends := by
  unfold Panel.configure
  dsimp only
  split_ifs <;> rfl

theorem blocks_hide_bar (p : Panel) : p.hide_bar.block_pix_ends = p.block_pix_ends := by
  unfold Panel.hide_bar
  split_ifs <;> rfl

/-- Only a `status` takes the blocks from a bar. -/
theorem blocks_obey (p : Panel) (now : ℕ) {c : BarCommand} (hc : ∀ text, c ≠ .status text) :
    (p.obey now c).block_pix_ends = p.block_pix_ends := by
  cases c with
  | prompt =>
    show p.prompt.block_pix_ends = _
    unfold Panel.prompt
    cases p.bar.shown <;> rfl
  | status text => exact absurd rfl (hc text)
  | title text secs color => rfl
  | show_bar => rfl
  | hide_bar => exact blocks_hide_bar p
  | toggle_visibility =>
    show (if p.bar.shown = true then _ else _ : Panel).block_pix_ends = _
    split_ifs
    · exact blocks_hide_bar p
    · rfl

theorem known_map {s : HoverState} {b : ℕ} {f : Panel → Panel}
    (hf : ∀ p ∈ s.panels, (f p).block_pix_ends = p.block_pix_ends) (h : s.Known b) :
    Known { s with panels := s.panels.map f } b := by
  refine known_of_blocks ?_ h
  show ((s.panels.map f)[b]?).map _ = _
  rw [List.getElem?_map]
  cases hb : s.panels[b]? with
  | none => rfl
  | some p => exact congrArg some (hf p (List.mem_of_getElem? hb))

theorem known_modify {s : HoverState} {b : ℕ} {f : Panel → Panel} (i : ℕ)
    (hf : ∀ p, (f p).block_pix_ends = p.block_pix_ends) (h : s.Known b) :
    Known { s with panels := s.panels.modify i f } b := by
  refine known_of_blocks ?_ h
  show ((s.panels.modify i f)[b]?).map _ = _
  rw [List.getElem?_modify]
  cases s.panels[b]? with
  | none => rfl
  | some p =>
    show some (if i = b then f p else p).block_pix_ends = some p.block_pix_ends
    split_ifs
    · exact congrArg some (hf p)
    · rfl

theorem known_append {s : HoverState} {b : ℕ} (p : Panel) (h : s.Known b) :
    Known { s with panels := s.panels ++ [p] } b := by
  refine known_of_blocks ?_ h
  obtain ⟨full_w, hbar, -⟩ := h
  obtain ⟨bar, hb, -⟩ := Option.bind_eq_some_iff.mp hbar
  show ((s.panels ++ [p])[b]?).map _ = _
  rw [List.getElem?_append_left (List.getElem?_eq_some_iff.mp hb).1]

theorem tracked_command {s : HoverState} (h : s.Tracked) (now : ℕ) (buf : Text) :
    (s.handle_socket_command now buf).Tracked := by
  unfold handle_socket_command
  dsimp only
  split_ifs with hasked
  · exact tracked_clear_hover h.posted
  · refine h.panels fun b hb => known_map (fun p hp => ?_) hb
    cases hc : p.asked buf with
    | none => rfl
    | some c =>
      refine blocks_obey p now fun text hstatus => hasked (List.any_eq_true.mpr ⟨p, hp, ?_⟩)
      simp only [hc, hstatus]

/-- A worker changes the slot, the pipe and the workers only. -/
theorem work_frame (s : HoverState) (i : ℕ) (text : Text) : ∃ shared wake workers,
    s.work i text = { s with hover_shared := shared, wake := wake, workers := workers } := by
  cases hw : s.workers[i]? with
  | none => exact ⟨s.hover_shared, s.wake, s.workers, by simp only [work, hw]⟩
  | some w =>
    cases hout : w.output with
    | none => exact ⟨_, _, _, work_running hw hout text⟩
    | some lines =>
      rw [work_ended hw hout]
      split_ifs
      · exact ⟨s.hover_shared, s.wake, s.workers, rfl⟩
      · exact ⟨_, _, _, rfl⟩

theorem posted_with_font {s : HoverState} (h : s.Posted) (font : Option (Font × ℕ × ℕ)) :
    (s.with_font font).Posted := by
  cases font <;> exact h

theorem tracked_step {s : HoverState} (e : HoverEvent) (h : s.Tracked) : (s.step e).Tracked := by
  cases e with
  | enter idx surface_x =>
    show (if _ then _ else s).Tracked
    split_ifs
    · exact tracked_update_hover h.posted rfl
    · exact h
  | leave idx =>
    show (if _ then _ else s).Tracked
    split_ifs
    · exact tracked_clear_hover h.posted
    · exact tracked_clear_hover h.posted
    · exact h
  | motion surface_x =>
    show (step s (.motion surface_x)).Tracked
    unfold step
    cases hfocus : s.pointer_focus with
    | none => exact h
    | some idx => exact tracked_update_hover h.posted rfl
  | blocks pix_ends =>
    unfold step
    dsimp only
    cases hfocus : s.pointer_focus with
    | none =>
      refine ⟨fun b k htarget => ?_, h.posted⟩
      have := (h.known b k htarget).1
      rw [hfocus] at this
      cases this
    | some idx => exact tracked_update_hover h.posted rfl
  | command now buf => exact tracked_command h now buf
  | reload buffer_scale font hover_commands =>
    have hposted : Posted { s with buffer_scale := buffer_scale, hover_commands := hover_commands } :=
      h.posted
    exact tracked_clear_hover (posted_with_font hposted font)
  | configure i current width height =>
    exact h.panels fun b hb => known_modify i (fun p => blocks_configure p _ _ _ _) hb
  | hide_bar i => exact h.panels fun b hb => known_modify i blocks_hide_bar hb
  | output name hidden height => exact h.panels fun b hb => known_append _ hb
  | widget_configure => exact ⟨h.known, h.posted⟩
  | widget_closed =>
    show (if _ then _ else s).Tracked
    split_ifs
    · exact tracked_clear_hover h.posted
    · exact h
  | work i text =>
    refine ⟨?_, posted_work h.posted i text⟩
    obtain ⟨shared, wake, workers, hwork⟩ := s.work_frame i text
    rw [show s.step (.work i text) = _ from hwork]
    exact h.known
  | read =>
    refine ⟨?_, posted_read h.posted⟩
    rcases s.read_cases with ⟨-, hsame⟩ | ⟨-, w, hread, -⟩
    · rw [show s.step .read = _ from hsame]
      exact h.known
    · rw [show s.step .read = _ from hread]
      exact h.known

/-! ### One event -/

/-- Neither the slot, the request, the font, the pipe nor the workers change. -/
structure Quiet (s t : HoverState) : Prop where
  shared : t.hover_shared = s.hover_shared
  generation : t.hover_generation = s.hover_generation
  font : t.font = s.font
  wake : t.wake = s.wake
  workers : t.workers = s.workers

/-- An event moves the pointer, clears the hover, leaves the slot, the request and the workers
alone, or is one of a worker or of the loop. -/
theorem step_cases (s : HoverState) (e : HoverEvent) :
    (∃ (t : HoverState) (idx : ℕ), s.Quiet t ∧ t.hover_target = s.hover_target ∧ t.widget = s.widget ∧
      s.step e = t.update_hover idx) ∨
    (∃ t : HoverState, t.hover_generation = s.hover_generation ∧ t.workers = s.workers ∧
      s.step e = t.clear_hover) ∨
    (s.Quiet (s.step e) ∧ (s.step e).widget.map Widget.lines = s.widget.map Widget.lines) ∨
    (∃ i text, e = .work i text) ∨ e = .read := by
  have hquiet (t : HoverState) (h : s.Quiet t) (hw : t.widget = s.widget) :
      s.Quiet t ∧ t.widget.map Widget.lines = s.widget.map Widget.lines :=
    ⟨h, congrArg (Option.map Widget.lines) hw⟩
  cases e with
  | enter idx surface_x =>
    by_cases hshown : (s.panels[idx]?).any (·.bar.shown) = true
    · exact .inl ⟨{ s with pointer_focus := some idx, pointer_x := surface_x }, idx,
        ⟨rfl, rfl, rfl, rfl, rfl⟩, rfl, rfl, if_pos hshown⟩
    · have hstep : s.step (.enter idx surface_x) = s := if_neg hshown
      rw [hstep]
      exact .inr (.inr (.inl (hquiet s ⟨rfl, rfl, rfl, rfl, rfl⟩ rfl)))
  | leave idx =>
    by_cases hshown : (s.panels[idx]?).any (·.bar.shown) = true
    · refine .inr (.inl ⟨_, ?_, ?_, if_pos hshown⟩)
      · split_ifs <;> rfl
      · split_ifs <;> rfl
    · have hstep : s.step (.leave idx) = s := if_neg hshown
      rw [hstep]
      exact .inr (.inr (.inl (hquiet s ⟨rfl, rfl, rfl, rfl, rfl⟩ rfl)))
  | motion surface_x =>
    cases hfocus : s.pointer_focus with
    | none =>
      have hstep : s.step (.motion surface_x) = s := by simp only [step, hfocus]
      rw [hstep]
      exact .inr (.inr (.inl (hquiet s ⟨rfl, rfl, rfl, rfl, rfl⟩ rfl)))
    | some idx =>
      have hstep : s.step (.motion surface_x) =
          ({ s with pointer_x := surface_x } : HoverState).update_hover idx := by
        simp only [step, hfocus]
      exact .inl ⟨{ s with pointer_x := surface_x }, idx, ⟨rfl, rfl, rfl, rfl, rfl⟩, rfl, rfl, hstep⟩
  | blocks pix_ends =>
    cases hfocus : s.pointer_focus with
    | none =>
      have hstep : s.step (.blocks pix_ends) =
          { s with panels := s.panels.map fun p => { p with block_pix_ends := pix_ends } } := by
        simp only [step, hfocus]
      rw [hstep]
      exact .inr (.inr (.inl (hquiet _ ⟨rfl, rfl, rfl, rfl, rfl⟩ rfl)))
    | some idx =>
      have hstep : s.step (.blocks pix_ends) = ({ s with
          panels := s.panels.map fun p => { p with block_pix_ends := pix_ends } } :
            HoverState).update_hover idx := by
        simp only [step, hfocus]
      exact .inl ⟨{ s with panels := s.panels.map fun p => { p with block_pix_ends := pix_ends } },
        idx, ⟨rfl, rfl, rfl, rfl, rfl⟩, rfl, rfl, hstep⟩
  | command now buf =>
    have hstep : s.step (.command now buf) = s.handle_socket_command now buf := rfl
    rw [hstep]
    unfold handle_socket_command
    dsimp only
    split_ifs
    · exact .inr (.inl ⟨{ s with
        panels := ((BarThread.mk now s.panels).handle_socket_command buf).panels }, rfl, rfl, rfl⟩)
    · exact .inr (.inr (.inl (hquiet _ ⟨rfl, rfl, rfl, rfl, rfl⟩ rfl)))
  | reload buffer_scale font hover_commands =>
    refine .inr (.inl ⟨_, ?_, ?_, rfl⟩)
    · cases font <;> rfl
    · cases font <;> rfl
  | configure i current width height =>
    exact .inr (.inr (.inl ⟨⟨rfl, rfl, rfl, rfl, rfl⟩, rfl⟩))
  | hide_bar i => exact .inr (.inr (.inl ⟨⟨rfl, rfl, rfl, rfl, rfl⟩, rfl⟩))
  | output name hidden height => exact .inr (.inr (.inl ⟨⟨rfl, rfl, rfl, rfl, rfl⟩, rfl⟩))
  | widget_configure =>
    refine .inr (.inr (.inl ⟨⟨rfl, rfl, rfl, rfl, rfl⟩, ?_⟩))
    show (s.widget.map _).map Widget.lines = s.widget.map Widget.lines
    rw [Option.map_map]
    rfl
  | widget_closed =>
    by_cases hup : s.widget.isSome = true
    · exact .inr (.inl ⟨s, rfl, rfl, if_pos hup⟩)
    · have hstep : s.step .widget_closed = s := if_neg hup
      rw [hstep]
      exact .inr (.inr (.inl (hquiet s ⟨rfl, rfl, rfl, rfl, rfl⟩ rfl)))
  | work i text => exact .inr (.inr (.inr (.inl ⟨i, text, rfl⟩)))
  | read => exact .inr (.inr (.inr (.inr rfl)))

/-! ### Only current results are shown -/

theorem widget_update_hover {s : HoverState} {idx : ℕ} {w : Widget}
    (h : (s.update_hover idx).widget = some w) : s.widget = some w := by
  rcases s.update_hover_cases idx with ⟨-, hsame⟩ | hmoved
  · rwa [hsame] at h
  · rw [hmoved.widget] at h
    cases h

/-- A widget that is up after an event was up before, or the event is a read that found a current
result in the slot. -/
theorem widget_of_read {s : HoverState} {e : HoverEvent} {w : Widget}
    (h : (s.step e).widget = some w) : (∃ v, s.widget = some v ∧ w.lines = v.lines) ∨ e = .read ∧
      ∃ r, s.hover_shared = some r ∧ s.Current r ∧ w.lines = r.lines.take WIDGET_MAX_LINES := by
  have hkept (hw : s.widget.map Widget.lines = some w.lines) :
      ∃ v, s.widget = some v ∧ w.lines = v.lines := by
    obtain ⟨v, hv, hlines⟩ := Option.map_eq_some_iff.mp hw
    exact ⟨v, hv, hlines.symm⟩
  rcases s.step_cases e with ⟨t, idx, -, -, hwidget, hstep⟩ | ⟨t, -, -, hstep⟩ | ⟨-, hwidget⟩ |
    ⟨i, text, rfl⟩ | rfl
  · rw [hstep] at h
    exact .inl ⟨w, hwidget ▸ widget_update_hover h, rfl⟩
  · rw [hstep] at h
    cases h
  · rw [h] at hwidget
    exact .inl (hkept hwidget.symm)
  · obtain ⟨shared, wake, workers, hwork⟩ := s.work_frame i text
    rw [show s.step (.work i text) = _ from hwork] at h
    exact .inl ⟨w, h, rfl⟩
  · rcases s.read_cases with ⟨-, hsame⟩ | ⟨-, v, hread, hcase⟩
    · rw [show s.step .read = _ from hsame] at h
      exact .inl ⟨w, h, rfl⟩
    · rw [show s.step .read = _ from hread] at h
      rcases hcase with hv | ⟨r, v', hr, hcurrent, hv, hlines⟩
      · exact .inl ⟨w, hv.symm.trans h, rfl⟩
      · obtain rfl : v' = w := Option.some.inj (hv.symm.trans h)
        exact .inr ⟨rfl, r, hr, hcurrent, hlines⟩

/-! ### A current result stays -/

/-- The pointer is on no block any more, or on another one. -/
def Left (s t : HoverState) : Prop := t.hover_target ≠ s.hover_target ∨ t.hover_target = none

theorem quiet_update_hover (s : HoverState) (idx : ℕ) :
    s.Quiet (s.update_hover idx) ∨ s.Left (s.update_hover idx) := by
  rcases s.update_hover_cases idx with ⟨-, hsame⟩ | hmoved
  · rw [hsame]
    exact .inl ⟨rfl, rfl, rfl, rfl, rfl⟩
  · exact .inr (.inl (hmoved.target ▸ hmoved.other))

/-- While the pointer stays on its block, only reads and workers touch the slot. -/
theorem quiet_step (s : HoverState) {e : HoverEvent} (hread : e ≠ .read)
    (hwork : ∀ i text, e ≠ .work i text) : s.Quiet (s.step e) ∨ s.Left (s.step e) := by
  rcases s.step_cases e with ⟨t, idx, ht, htarget, -, hstep⟩ | ⟨t, -, -, hstep⟩ | ⟨hquiet, -⟩ |
    ⟨i, text, rfl⟩ | rfl
  · rw [hstep]
    refine (quiet_update_hover t idx).imp (fun h => ?_) fun h => ?_
    · exact ⟨h.shared.trans ht.shared, h.generation.trans ht.generation, h.font.trans ht.font,
        h.wake.trans ht.wake, h.workers.trans ht.workers⟩
    · unfold Left at h ⊢
      rwa [← htarget]
  · rw [hstep]
    exact .inr (.inr rfl)
  · exact .inl hquiet
  · exact absurd rfl (hwork i text)
  · exact absurd rfl hread

/-- The result `r` of worker `i` is in the slot, and its request is still the last one. -/
structure Holding (s : HoverState) (i : ℕ) (r : HoverResult) (font : Font) : Prop where
  shared : s.hover_shared = some r
  generation : s.hover_generation = r.generation
  font : s.font = font
  worker : ∃ w : Worker, s.workers[i]? = some w ∧ w.output = some r.lines ∧
    (w.woken = true → s.wake ≠ 0)

/-- An event that neither reads the slot nor posts into it. -/
def Spared (s : HoverState) (e : HoverEvent) : Prop :=
  e ≠ .read ∧ ∀ i text, e = .work i text → ∀ w ∈ s.workers[i]?, w.output ≠ none

theorem holding_work {s : HoverState} {i : ℕ} {r : HoverResult} {font : Font}
    (h : s.Holding i r font) {j : ℕ} {text : Text} (hspared : s.Spared (.work j text))
    (hlines : r.lines ≠ []) : (s.work j text).Holding i r font ∧ (s.wake ≠ 0 ∨ j = i →
      (s.work j text).wake ≠ 0) := by
  obtain ⟨w, hw, hout, hwoken⟩ := h.worker
  cases hv : s.workers[j]? with
  | none =>
    have hnone : s.work j text = s := by simp only [work, hv]
    rw [hnone]
    refine ⟨h, fun hcase => hcase.resolve_right ?_⟩
    rintro rfl
    rw [hw] at hv
    cases hv
  | some v =>
    obtain ⟨lines, hvout⟩ := Option.ne_none_iff_exists'.mp (hspared.2 j text rfl v hv)
    rw [work_ended hv hvout]
    by_cases hdone : lines = [] ∨ v.woken = true
    · rw [if_pos hdone]
      refine ⟨h, fun hcase => hcase.elim id ?_⟩
      rintro rfl
      obtain rfl := Option.some.inj (hw.symm.trans hv)
      obtain rfl := Option.some.inj (hout.symm.trans hvout)
      exact hwoken (hdone.resolve_left hlines)
    · rw [if_neg hdone]
      refine ⟨⟨h.shared, h.generation, h.font, ?_⟩, fun _ => Nat.succ_ne_zero _⟩
      by_cases hij : j = i
      · subst hij
        obtain rfl := Option.some.inj (hw.symm.trans hv)
        exact ⟨_, List.getElem?_set_self (List.getElem?_eq_some_iff.mp hw).1, hout,
          fun _ => Nat.succ_ne_zero _⟩
      · exact ⟨w, (List.getElem?_set_ne hij).trans hw, hout, fun _ => Nat.succ_ne_zero _⟩

theorem holding_step {s : HoverState} {i : ℕ} {r : HoverResult} {font : Font}
    (h : s.Holding i r font) {e : HoverEvent} (hspared : s.Spared e)
    (htarget : s.hover_target = some (r.bar_idx, r.block_idx))
    (hstays : (s.step e).hover_target = some (r.bar_idx, r.block_idx)) (hlines : r.lines ≠ []) :
    (s.step e).Holding i r font ∧ ((s.wake ≠ 0 ∨ ∃ text, e = .work i text) →
      (s.step e).wake ≠ 0) := by
  by_cases hwork : ∃ j text, e = .work j text
  · obtain ⟨j, text, rfl⟩ := hwork
    obtain ⟨hhold, hwake⟩ := holding_work h hspared hlines
    refine ⟨hhold, fun hcase => hwake (hcase.imp id ?_)⟩
    rintro ⟨text', heq⟩
    exact (HoverEvent.work.inj heq).1
  · have hnowork : ∀ j text, e ≠ .work j text := fun j text heq => hwork ⟨j, text, heq⟩
    rcases quiet_step s hspared.1 hnowork with hquiet | hleft | hleft
    · obtain ⟨w, hw, hout, hwoken⟩ := h.worker
      refine ⟨⟨hquiet.shared.trans h.shared, hquiet.generation.trans h.generation,
        hquiet.font.trans h.font, w, ?_, hout, ?_⟩, fun hcase => ?_⟩
      · rw [hquiet.workers, hw]
      · rwa [hquiet.wake]
      · rw [hquiet.wake]
        exact hcase.resolve_right fun ⟨text, heq⟩ => hnowork i text heq
    · exact absurd (hstays.trans htarget.symm) hleft
    · rw [hstays] at hleft
      cases hleft

/-- The pointer is on the block of the result, and no widget is up. -/
def Waiting (r : HoverResult) (s : HoverState) : Prop :=
  s.hover_target = some (r.bar_idx, r.block_idx) ∧ s.widget = none

theorem holding_run {s : HoverState} {i : ℕ} {r : HoverResult} {font : Font}
    (h : s.Holding i r font) (hlines : r.lines ≠ []) {es : List HoverEvent}
    (hspared : Guarded step Spared s es) (hwaiting : Always step (Waiting r) s es) :
    (run step s es).Holding i r font ∧ ((s.wake ≠ 0 ∨ ∃ text, .work i text ∈ es) →
      (run step s es).wake ≠ 0) := by
  induction es generalizing s with
  | nil => exact ⟨h, fun hcase => hcase.resolve_right fun ⟨_, hmem⟩ => by cases hmem⟩
  | cons e es ih =>
    have hstays : Waiting r (s.step e) := by
      cases es with
      | nil => exact hwaiting.2
      | cons => exact hwaiting.2.1
    obtain ⟨hhold, hwake⟩ := holding_step h hspared.1 hwaiting.1.1 hstays.1 hlines
    obtain ⟨hrun, hwakerun⟩ := ih hhold hspared.2 hwaiting.2
    refine ⟨hrun, fun hcase => hwakerun ?_⟩
    rcases hcase with hs | ⟨text, hmem⟩
    · exact .inl (hwake (.inl hs))
    · rcases List.mem_cons.mp hmem with heq | hmem
      · exact .inl (hwake (.inr ⟨text, heq.symm⟩))
      · exact .inr ⟨text, hmem⟩

/-! ### One worker a request -/

/-- The generations of the workers. -/
def generations (s : HoverState) : List ℕ := s.workers.map Worker.generation

/-- The request stays, or the next one begins and may start a worker. -/
def Counts (s t : HoverState) : Prop :=
  t.hover_generation = s.hover_generation ∧ t.generations = s.generations ∨
    t.hover_generation = (s.hover_generation + 1) % 2 ^ 64 ∧
      (t.generations = s.generations ∨ t.generations = s.generations ++ [t.hover_generation])

theorem counts_update_hover (s : HoverState) (idx : ℕ) : s.Counts (s.update_hover idx) := by
  rcases s.update_hover_cases idx with ⟨-, hsame⟩ | hmoved
  · rw [hsame]
    exact .inl ⟨rfl, rfl⟩
  · refine .inr ⟨hmoved.generation, ?_⟩
    unfold generations
    rcases hmoved.workers with hw | ⟨b, k, cmd, -, hw⟩
    · exact .inl (by rw [hw])
    · exact .inr (by rw [hw, List.map_append, List.map_singleton])

theorem generations_set {s : HoverState} {i : ℕ} {w v : Worker} (hw : s.workers[i]? = some w)
    (hv : v.generation = w.generation) :
    (s.workers.set i v).map Worker.generation = s.generations := by
  obtain ⟨hlt, rfl⟩ := List.getElem?_eq_some_iff.mp hw
  rw [List.map_set, hv, generations, ← List.getElem_map Worker.generation]
  · exact List.set_getElem_self _
  · rwa [List.length_map]

theorem counts_work (s : HoverState) (i : ℕ) (text : Text) : s.Counts (s.work i text) := by
  cases hw : s.workers[i]? with
  | none =>
    have hnone : s.work i text = s := by simp only [work, hw]
    rw [hnone]
    exact .inl ⟨rfl, rfl⟩
  | some w =>
    cases hout : w.output with
    | none =>
      rw [work_running hw hout]
      exact .inl ⟨rfl, generations_set hw rfl⟩
    | some lines =>
      rw [work_ended hw hout]
      split_ifs
      · exact .inl ⟨rfl, rfl⟩
      · exact .inl ⟨rfl, generations_set hw rfl⟩

theorem counts_step (s : HoverState) (e : HoverEvent) : s.Counts (s.step e) := by
  rcases s.step_cases e with ⟨t, idx, ht, -, -, hstep⟩ | ⟨t, hgen, hworkers, hstep⟩ |
    ⟨hquiet, -⟩ | ⟨i, text, rfl⟩ | rfl
  · rw [hstep]
    have h := counts_update_hover t idx
    unfold Counts generations at h ⊢
    rwa [ht.generation, ht.workers] at h
  · rw [hstep]
    exact .inl ⟨hgen, congrArg (List.map Worker.generation) hworkers⟩
  · exact .inl ⟨hquiet.generation, congrArg (List.map Worker.generation) hquiet.workers⟩
  · exact counts_work s i text
  · rcases s.read_cases with ⟨-, hread⟩ | ⟨-, w, hread, -⟩
    · rw [show s.step .read = _ from hread]
      exact .inl ⟨rfl, rfl⟩
    · rw [show s.step .read = _ from hread]
      exact .inl ⟨rfl, rfl⟩

/-- After `n` events, fewer than there are generations, no two workers share one. -/
structure Numbered (n : ℕ) (s : HoverState) : Prop where
  bound : s.hover_generation ≤ n
  le : ∀ g ∈ s.generations, g ≤ s.hover_generation
  increasing : s.generations.Pairwise (· < ·)

theorem numbered_step {n : ℕ} {s : HoverState} (h : s.Numbered n) (hn : n + 1 < 2 ^ 64)
    (e : HoverEvent) : (s.step e).Numbered (n + 1) := by
  rcases s.counts_step e with ⟨hgen, hworkers⟩ | ⟨hgen, hworkers⟩
  · exact ⟨hgen ▸ h.bound.trans (Nat.le_succ n), by rw [hgen, hworkers]; exact h.le,
      hworkers ▸ h.increasing⟩
  · have hnext : (s.step e).hover_generation = s.hover_generation + 1 := by
      rw [hgen, Nat.mod_eq_of_lt]
      have := h.bound
      omega
    have hle : ∀ g ∈ s.generations, g < (s.step e).hover_generation := fun g hg => by
      have := h.le g hg
      omega
    refine ⟨by have := h.bound; omega, ?_, ?_⟩ <;> rcases hworkers with hw | hw <;> rw [hw]
    · exact fun g hg => (hle g hg).le
    · intro g hg
      rcases List.mem_append.mp hg with hg | hg
      · exact (hle g hg).le
      · exact (List.mem_singleton.mp hg).le
    · exact h.increasing
    · refine List.pairwise_append.mpr ⟨h.increasing, List.pairwise_singleton _ _, ?_⟩
      intro g hg g' hg'
      rw [List.mem_singleton.mp hg']
      exact hle g hg

theorem numbered_run {n : ℕ} {s : HoverState} (h : s.Numbered n) (es : List HoverEvent)
    (hn : n + es.length < 2 ^ 64) : (run step s es).Numbered (n + es.length) := by
  induction es generalizing n s with
  | nil => exact h
  | cons e es ih =>
    simp only [List.length_cons] at hn ⊢
    have := ih (numbered_step h (by omega) e) (by omega)
    rwa [show n + (es.length + 1) = n + 1 + es.length by omega]

/-- The worker of the last request is the last one. -/
theorem Numbered.last {n : ℕ} {s : HoverState} (h : s.Numbered n) {i : ℕ} {w : Worker}
    (hw : s.workers[i]? = some w) (hgen : w.generation = s.hover_generation) :
    i + 1 = s.workers.length := by
  obtain ⟨hlt, rfl⟩ := List.getElem?_eq_some_iff.mp hw
  by_contra hne
  have hlast : i + 1 < s.workers.length := by omega
  have hinc := List.pairwise_iff_getElem.mp h.increasing i (i + 1)
    (by rwa [generations, List.length_map]) (by rwa [generations, List.length_map])
    (Nat.lt_succ_self i)
  have hmem : (s.workers[i + 1]).generation ∈ s.generations :=
    List.mem_map_of_mem (List.getElem_mem hlast)
  have hle := h.le _ hmem
  simp only [generations, List.getElem_map] at hinc
  omega

/-! ### The law -/

/-- What event `e`, after `n` others, may bring up: the output of a worker of the last request, for
the block the pointer is on. -/
def ShowsCurrent (n : ℕ) (s : HoverState) (e : HoverEvent) : Prop :=
  ∀ w, (s.step e).widget = some w → (∃ v, s.widget = some v ∧ w.lines = v.lines) ∨ e = .read ∧
    ∃ r, s.Current r ∧ w.lines = r.lines.take WIDGET_MAX_LINES ∧
      ∃ (i : ℕ) (v : Worker), s.workers[i]? = some v ∧ v.output = some r.lines ∧
        (v.generation, v.bar_idx, v.block_idx) = (r.generation, r.bar_idx, r.block_idx) ∧
        (n < 2 ^ 64 → i + 1 = s.workers.length)

/-- Worker `i` belongs to the request of the block the pointer is on, its command is running, and no
widget is up. -/
def Pending (s : HoverState) (i : ℕ) (w : Worker) : Prop :=
  s.workers[i]? = some w ∧ w.output = none ∧ w.generation = s.hover_generation ∧
    s.hover_target = some (w.bar_idx, w.block_idx) ∧ s.widget = none

instance decidablePending (s : HoverState) (i : ℕ) (w : Worker) : Decidable (s.Pending i w) := by
  unfold Pending; infer_instance

instance decidableWaiting (r : HoverResult) (s : HoverState) : Decidable (Waiting r s) := by
  unfold Waiting; infer_instance

/-- What worker `w` posts when its command printed `text`. -/
def result (w : Worker) (text : Text) : HoverResult :=
  ⟨w.generation, w.bar_idx, w.block_idx, output_lines text⟩

/-- The worker of the last request posts lines that can be seen and wakes the loop, the pointer
stays on the block and no widget comes up meanwhile, and no other worker posts before the loop
reads: then the widget comes up with the lines, as many as it may have. -/
def DeliversCurrent (s : HoverState) : Prop :=
  ∀ (i : ℕ) (w : Worker) (text : Text) (es : List HoverEvent), s.Pending i w →
    output_lines text ≠ [] →
    text_width s.font ((output_lines text).take WIDGET_MAX_LINES) ≠ 0 →
    Guarded step Spared (s.work i text) es →
    Always step (Waiting (result w text)) (s.work i text) es →
    (∃ text', .work i text' ∈ es) →
    ∃ v, (run step (s.work i text) es).read.widget = some v ∧
      v.lines = (output_lines text).take WIDGET_MAX_LINES

theorem showsCurrent {n : ℕ} {s : HoverState} (h : s.Tracked) (hn : n < 2 ^ 64 → s.Numbered n)
    (e : HoverEvent) : s.ShowsCurrent n e := by
  intro w hw
  refine (widget_of_read hw).imp id ?_
  rintro ⟨he, r, hr, hcurrent, hlines⟩
  obtain ⟨i, v, hv, hout, hlabel⟩ := h.posted r hr
  refine ⟨he, r, hcurrent, hlines, i, v, hv, hout, hlabel, fun hlt => ?_⟩
  exact (hn hlt).last hv ((Prod.mk.inj hlabel).1.trans hcurrent.1)

theorem deliversCurrent {s : HoverState} (h : s.Tracked) : s.DeliversCurrent := by
  rintro i w text es ⟨hw, hrun, hgen, htarget, hwidget⟩ hlines hwidth hspared hwaiting hwoken
  have hpost := work_running hw hrun text
  rw [if_neg hlines] at hpost
  have hhold : (s.work i text).Holding i (result w text) s.font := by
    rw [hpost]
    exact ⟨rfl, hgen.symm, rfl, _, List.getElem?_set_self (List.getElem?_eq_some_iff.mp hw).1, rfl,
      fun hwoke => by cases hwoke⟩
  obtain ⟨hend, hwake⟩ := holding_run hhold hlines hspared hwaiting
  have htracked : (run step (s.work i text) es).Tracked :=
    (always_of_step (fun t e ht => tracked_step e ht) (tracked_step (.work i text) h) es).last
  obtain ⟨htarget', hwidget'⟩ := hwaiting.last
  refine read_opens (hwake (.inr hwoken)) hend.shared
    ⟨hend.generation.symm, htarget', hwidget'⟩ hlines ?_ (htracked.known _ _ htarget').2
  rw [hend.font]
  exact hwidth

theorem tracked_init (buffer_scale : ℕ) (font : Font) (textpadding : ℕ)
    (hover_commands : List Text) : (init buffer_scale font textpadding hover_commands).Tracked :=
  ⟨fun _ _ h => (by cases h), fun _ h => (by cases h)⟩

end HoverState

/-- A bar with one block of 50 pixels, over which the pointer started a command. -/
def hovered : List HoverEvent :=
  [.output "DP-1".toList false 24, .blocks [50], .enter 0 10]

/-- A font in which every character takes a pixel. -/
def pixelFont : Font := ⟨10, List.length⟩

/-- The worker of the last request posts lines and wakes the loop while the pointer stays on the
block and no widget is up: then the widget comes up with exactly the lines. -/
def HoverState.Delivers (s : HoverState) : Prop :=
  ∀ (i : ℕ) (w : Worker) (text : Text) (es : List HoverEvent), s.Pending i w →
    output_lines text ≠ [] → .read ∉ es →
    Always step (Waiting (result w text)) (s.work i text) es →
    (∃ text', .work i text' ∈ es) →
    ∃ v ∈ (run step (s.work i text) es).read.widget, v.lines = output_lines text

end Compositor
