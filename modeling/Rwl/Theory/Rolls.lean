import Mathlib.Tactic.Common
import Rwl.Theory.Mapped

/-!
# Updates and the passes that follow them

A handler that changes windows or views arranges everything before it ends; the other updates of a
handler leave alone what decides which windows show.

* `Roll`: the windows there are and the ones that are mapped; `Desk.picture`, `Desk.outline`: the
  roll with what decides where windows show, and without it;
* `Calm`, `Stir`: an update that needs no pass, and one that does; `K` and `L` stand for the ones
  of a single event;
* `Stirred`, `Mended`: a chain of updates, and a chain in which a pass follows every stir;
  `Mended.keeps`: what such a chain keeps;
* `Mends`, `Stirs`: the same of handlers, with what becomes of a pointer grab;
* the small updates of the compositor and focusing.
-/

namespace Compositor

/-! ### Rolls -/

/-- The windows there are, and the ones that are mapped. -/
@[ext] structure Roll where
  created : List WinId
  managed : WinId → Prop
  overrides : List WinId
  window_map : SurfaceId → Option WinId
  client : WinId → Client
  mapped : WinId → Prop

namespace Desk

/-- The roll of a desk. -/
def roll (d : Desk) : Roll where
  created := d.created
  managed w := w ∈ d.windows
  overrides := d.x11_or_windows
  window_map := d.window_map
  client := d.client
  mapped := d.onScreen

/-- The slide flags of a window. -/
def flags (d : Desk) (w : WinId) : Bool × Bool := ((d.st w).slide_out, (d.st w).slide_start.isSome)

/-- Tag switches slide. -/
def canSlide (d : Desk) : Bool := d.cfg.tag_transition && decide (d.cfg.tag_transition_ms ≠ 0)

/-- What decides which windows show, and which do. -/
def picture (d : Desk) : Roll × Scene × (WinId → Bool × Bool) × Bool :=
  (d.roll, d.scene, d.flags, d.canSlide)

/-- What an update keeps that a pass can mend. -/
def outline (d : Desk) : Roll × (WinId → Bool × Bool) × Bool × ℕ :=
  (d.roll, d.flags, d.canSlide, d.monitors.length)

variable {d d' : Desk} {w : WinId}

theorem outline_of_picture (h : d'.picture = d.picture) : d'.outline = d.outline := by
  unfold picture at h
  simp only [Prod.mk.injEq] at h
  obtain ⟨hroll, hscene, hflags, hcan⟩ := h
  have hlen := congrArg (fun sc : Scene => sc.views.length) hscene
  simp only [scene, List.length_map] at hlen
  unfold outline
  rw [hroll, hflags, hcan, hlen]

theorem flags_modifyWindow (d : Desk) (w : WinId) {f : WindowState → WindowState}
    (hf : ∀ st, (f st).slide_out = st.slide_out ∧ (f st).slide_start = st.slide_start) :
    (d.modifyWindow w f).flags = d.flags :=
  funext fun v => Windows.modify_field
    (fun st : WindowState => (st.slide_out, st.slide_start.isSome)) d.st w v f fun st => by
      rw [(hf st).1, (hf st).2]

/-- A window changes in what plays no part in showing it. -/
theorem picture_modifyWindow (d : Desk) (w : WinId) {f : WindowState → WindowState}
    (hf : ∀ st, (f st).placement = st.placement ∧ (f st).slide_out = st.slide_out ∧
      (f st).slide_start = st.slide_start) : (d.modifyWindow w f).picture = d.picture := by
  have hscene := scene_modifyWindow d w fun st => (hf st).1
  have hflags := flags_modifyWindow d w fun st => (hf st).2
  unfold picture
  rw [hscene, hflags]
  rfl

theorem outline_modifyWindow (d : Desk) (w : WinId) {f : WindowState → WindowState}
    (hf : ∀ st, (f st).slide_out = st.slide_out ∧ (f st).slide_start = st.slide_start) :
    (d.modifyWindow w f).outline = d.outline := by
  have hflags := flags_modifyWindow d w hf
  unfold outline
  rw [hflags]
  rfl

theorem outline_modifyMonitor (d : Desk) (i : ℕ) (f : Monitor → Monitor) :
    (d.modifyMonitor i f).outline = d.outline := by
  have hlen : (d.modifyMonitor i f).monitors.length = d.monitors.length := List.length_modify ..
  unfold outline
  rw [hlen]
  rfl

theorem picture_modifyMonitor (d : Desk) (i : ℕ) {f : Monitor → Monitor}
    (hf : ∀ m, (f m).tags = m.tags) : (d.modifyMonitor i f).picture = d.picture := by
  have hscene : (d.modifyMonitor i f).scene = d.scene :=
    Scene.ext rfl rfl (Recency.map_modify_eq Monitor.tags f hf d.monitors i)
  unfold picture
  rw [hscene]
  rfl

theorem picture_update_tag_history (d : Desk) (i tags : ℕ) :
    (d.update_tag_history i tags).picture = d.picture := by
  unfold update_tag_history
  split
  · split_ifs <;> rfl
  · rfl

/-- A pass maps managed windows only. -/
theorem onScreen_of_arrange {i : ℕ} (h : (d.arrange i).onScreen w) :
    d.onScreen w ∨ w ∈ d.windows := by
  cases hm : d.monitors[i]? with
  | none =>
    unfold arrange at h
    rw [hm] at h
    exact .inl h
  | some mon =>
    rcases (onScreen_arrange hm).1 h with ⟨hon, _⟩ | hmaps
    · exact .inl hon
    · refine .inr ?_
      rcases hmaps with hw | hw | hw <;> exact List.mem_of_mem_filter hw

/-! ### Updates -/

/-- An update after which the screen is as right as before. -/
inductive Calm (K : Desk → Desk → Prop) : Desk → Desk → Prop
  | same (d d' : Desk) : d'.picture = d.picture → Calm K d d'
  | arrange (d : Desk) (i : ℕ) : Calm K d (d.arrange i)
  | slide (d : Desk) (old new : ℕ) (ow : ℚ) : Calm K d (d.start_tag_transition old new ow)
  | own (d d' : Desk) : K d d' → Calm K d d'

/-- An update that needs a pass; `file` is what a reload reads. -/
inductive Stir (file : Config) (L : Desk → Desk → Prop) : Desk → Desk → Prop
  | loose (d d' : Desk) : d'.outline = d.outline → Stir file L d d'
  | mark (d : Desk) (old new : ℕ) (ow : ℚ) : Stir file L d (d.mark_slide_outs old new ow)
  | reload (d : Desk) : Stir file L d { d with cfg := file }
  | own (d d' : Desk) : L d d' → Stir file L d d'

/-- One update, or the passes over all monitors. -/
inductive Update (file : Config) (K L : Desk → Desk → Prop) : Desk → Desk → Prop
  | calm {d d' : Desk} : Calm K d d' → Update file K L d d'
  | stir {d d' : Desk} : Stir file L d d' → Update file K L d d'
  | pass (d : Desk) : Update file K L d d.arrangePasses

/-- A chain of updates. -/
abbrev Stirred (file : Config) (K L : Desk → Desk → Prop) : Desk → Desk → Prop :=
  Relation.ReflTransGen (Update file K L)

/-- A chain of updates in which the passes follow every stir. -/
inductive Mended (file : Config) (K L : Desk → Desk → Prop) (d₀ : Desk) : Desk → Prop
  | refl : Mended file K L d₀ d₀
  | calm {d d' : Desk} : Mended file K L d₀ d → Calm K d d' → Mended file K L d₀ d'
  | pass {d : Desk} : Stirred file K L d₀ d → Mended file K L d₀ d.arrangePasses

variable {file : Config} {K L : Desk → Desk → Prop} {d₀ d₁ : Desk}

theorem Mended.stirred (h : Mended file K L d₀ d) : Stirred file K L d₀ d := by
  induction h with
  | refl => exact .refl
  | calm _ hc ih => exact ih.tail (.calm hc)
  | pass h => exact h.tail (.pass _)

theorem Mended.trans (h : Mended file K L d₀ d₁) (h' : Mended file K L d₁ d) :
    Mended file K L d₀ d := by
  induction h' with
  | refl => exact h
  | calm _ hc ih => exact .calm ih hc
  | pass h' => exact .pass (h.stirred.trans h')

namespace Stirred

/-- An update that a pass can mend. -/
theorem loose (h : Stirred file K L d₀ d) (hd : d'.outline = d.outline) :
    Stirred file K L d₀ d' :=
  h.tail (.stir (.loose _ _ hd))

/-- A window changes, but for its slide. -/
theorem window (h : Stirred file K L d₀ d) (w : WinId) {f : WindowState → WindowState}
    (hf : ∀ st, (f st).slide_out = st.slide_out ∧ (f st).slide_start = st.slide_start) :
    Stirred file K L d₀ (d.modifyWindow w f) :=
  h.loose (outline_modifyWindow d w hf)

theorem mark (h : Stirred file K L d₀ d) (old new : ℕ) (ow : ℚ) :
    Stirred file K L d₀ (d.mark_slide_outs old new ow) :=
  h.tail (.stir (.mark ..))

end Stirred

/-- What every update keeps and a pass keeps is kept by a chain. -/
theorem Stirred.keeps {W : Desk → Prop} (hcalm : ∀ d d', Calm K d d' → W d → W d')
    (hstir : ∀ d d', Stir file L d d' → W d → W d') (hpass : ∀ d, W d → W d.arrangePasses)
    (h : Stirred file K L d₀ d) (hd : W d₀) : W d := by
  induction h with
  | refl => exact hd
  | tail _ hu ih =>
    cases hu with
    | calm hc => exact hcalm _ _ hc ih
    | stir hs => exact hstir _ _ hs ih
    | pass => exact hpass _ ih

/-- **What a mended chain keeps.** Calm updates keep `P`; what is left of `P` between a stir and
the passes is `W`, and the passes make `P` of it again. -/
theorem Mended.keeps {P W : Desk → Prop} (hcalm : ∀ d d', Calm K d d' → P d → P d')
    (hweak : ∀ d d', Calm K d d' → W d → W d') (hstir : ∀ d d', Stir file L d d' → W d → W d')
    (hpass : ∀ d, W d → P d.arrangePasses) (himp : ∀ d, P d → W d)
    (h : Mended file K L d₀ d) (hd : P d₀) : P d := by
  induction h with
  | refl => exact hd
  | calm _ hc ih => exact hcalm _ _ hc ih
  | pass hs =>
    exact hpass _ (hs.keeps hweak hstir (fun d hw => himp _ (hpass d hw)) (himp _ hd))

end Desk

namespace Rwl

/-! ### Handlers -/

/-- The session and the grab stay, unless the native locker engages: then the pointer is freed. -/
def Holds (s s' : Rwl) : Prop :=
  s'.session = s.session ∧ s'.grab = s.grab ∨
    (s.session.locked = false ∧ s.session.native_lock = none ∧ s'.session = engage s.session) ∧
      s'.grab = { s.grab with cursor_mode := .Normal }

theorem Holds.trans {s s₁ s₂ : Rwl} (h : Holds s s₁) (h' : Holds s₁ s₂) : Holds s s₂ := by
  rcases h with ⟨hs, hg⟩ | ⟨⟨hl, hn, hs⟩, hg⟩
  · rcases h' with ⟨hs', hg'⟩ | ⟨⟨hl', hn', hs'⟩, hg'⟩
    · exact .inl ⟨hs'.trans hs, hg'.trans hg⟩
    · rw [hs] at hl' hn' hs'
      rw [hg] at hg'
      exact .inr ⟨⟨hl', hn', hs'⟩, hg'⟩
  · rcases h' with ⟨hs', hg'⟩ | ⟨⟨hl', _, _⟩, _⟩
    · exact .inr ⟨⟨hl, hn, hs'.trans hs⟩, hg'.trans hg⟩
    · rw [hs] at hl'
      cases hl'

/-- The desk changes by a chain in which the passes follow every stir. -/
structure Mends (K L : Desk → Desk → Prop) (s s' : Rwl) : Prop where
  file : s'.config_file = s.config_file
  chain : Desk.Mended s.config_file K L s.desk s'.desk
  holds : Holds s s'

/-- The desk changes by a chain of updates. -/
structure Stirs (K L : Desk → Desk → Prop) (s s' : Rwl) : Prop where
  file : s'.config_file = s.config_file
  chain : Desk.Stirred s.config_file K L s.desk s'.desk
  holds : Holds s s'

variable {K L : Desk → Desk → Prop} {s₀ s s' : Rwl}

namespace Stirs

theorem refl (s : Rwl) : Stirs K L s s := ⟨rfl, .refl, .inl ⟨rfl, rfl⟩⟩

/-- Something beside the desk, the session and the grab changes. -/
theorem same (h : Stirs K L s₀ s) (hs : s'.ground = s.ground) : Stirs K L s₀ s' := by
  unfold ground store at hs
  simp only [Prod.mk.injEq] at hs
  obtain ⟨⟨hdesk, hfile⟩, hsession, hgrab⟩ := hs
  exact ⟨hfile.trans h.file, hdesk.symm ▸ h.chain, h.holds.trans (.inl ⟨hsession, hgrab⟩)⟩

theorem desk (h : Stirs K L s₀ s) {f : Desk → Desk}
    (hf : Desk.Stirred s₀.config_file K L s.desk (f s.desk)) : Stirs K L s₀ (s.modifyDesk f) :=
  ⟨h.file, h.chain.trans hf, h.holds⟩

theorem update (h : Stirs K L s₀ s) {f : Desk → Desk}
    (hu : Desk.Update s₀.config_file K L s.desk (f s.desk)) : Stirs K L s₀ (s.modifyDesk f) :=
  h.desk (.single hu)

/-- An update that a pass can mend. -/
theorem loose (h : Stirs K L s₀ s) {f : Desk → Desk} (hf : (f s.desk).outline = s.desk.outline) :
    Stirs K L s₀ (s.modifyDesk f) :=
  h.update (.stir (.loose _ _ hf))

/-- A window changes, but for its slide. -/
theorem window (h : Stirs K L s₀ s) (w : WinId) {f : WindowState → WindowState}
    (hf : ∀ st, (f st).slide_out = st.slide_out ∧ (f st).slide_start = st.slide_start) :
    Stirs K L s₀ (s.modifyDesk fun d => d.modifyWindow w f) :=
  h.loose (Desk.outline_modifyWindow s.desk w hf)

theorem set_window_tags (h : Stirs K L s₀ s) (w : WinId) (tags : ℕ) :
    Stirs K L s₀ (s.modifyDesk (Desk.set_window_tags · w tags)) :=
  h.window w fun _ => ⟨rfl, rfl⟩

/-- A monitor changes. -/
theorem monitor (h : Stirs K L s₀ s) (i : ℕ) (f : Config → Monitor → Monitor) :
    Stirs K L s₀ (s.modifyDesk fun d => d.modifyMonitor i (f d.cfg)) :=
  h.loose (Desk.outline_modifyMonitor s.desk i _)

theorem mark (h : Stirs K L s₀ s) (old new : ℕ) (ow : ℚ) :
    Stirs K L s₀ (s.modifyDesk (Desk.mark_slide_outs · old new ow)) :=
  h.update (.stir (.mark ..))

theorem own (h : Stirs K L s₀ s) {f : Desk → Desk} (hf : L s.desk (f s.desk)) :
    Stirs K L s₀ (s.modifyDesk f) :=
  h.update (.stir (.own _ _ hf))

/-- A handler that mends what it stirs runs in the middle of another. -/
theorem andThen (h : Stirs K L s₀ s) (h' : Mends K L s s') : Stirs K L s₀ s' := by
  refine ⟨h'.file.trans h.file, h.chain.trans ?_, h.holds.trans h'.holds⟩
  have hc := h'.chain.stirred
  rwa [h.file] at hc

end Stirs

namespace Mends

theorem refl (s : Rwl) : Mends K L s s := ⟨rfl, .refl, .inl ⟨rfl, rfl⟩⟩

theorem stirs (h : Mends K L s₀ s) : Stirs K L s₀ s := ⟨h.file, h.chain.stirred, h.holds⟩

theorem trans (h : Mends K L s₀ s) (h' : Mends K L s s') : Mends K L s₀ s' := by
  refine ⟨h'.file.trans h.file, h.chain.trans ?_, h.holds.trans h'.holds⟩
  have hc := h'.chain
  rwa [h.file] at hc

/-- Something beside the desk, the session and the grab changes. -/
theorem same (h : Mends K L s₀ s) (hs : s'.ground = s.ground) : Mends K L s₀ s' := by
  unfold ground store at hs
  simp only [Prod.mk.injEq] at hs
  obtain ⟨⟨hdesk, hfile⟩, hsession, hgrab⟩ := hs
  exact ⟨hfile.trans h.file, hdesk.symm ▸ h.chain, h.holds.trans (.inl ⟨hsession, hgrab⟩)⟩

theorem calm (h : Mends K L s₀ s) {f : Desk → Desk} (hf : Desk.Calm K s.desk (f s.desk)) :
    Mends K L s₀ (s.modifyDesk f) :=
  ⟨h.file, .calm h.chain hf, h.holds⟩

/-- An update that plays no part in which windows show. -/
theorem aside (h : Mends K L s₀ s) {f : Desk → Desk} (hf : (f s.desk).picture = s.desk.picture) :
    Mends K L s₀ (s.modifyDesk f) :=
  h.calm (.same _ _ hf)

/-- A window changes in what plays no part in showing it. -/
theorem window (h : Mends K L s₀ s) (w : WinId) {f : WindowState → WindowState}
    (hf : ∀ st, (f st).placement = st.placement ∧ (f st).slide_out = st.slide_out ∧
      (f st).slide_start = st.slide_start) :
    Mends K L s₀ (s.modifyDesk fun d => d.modifyWindow w f) :=
  h.aside (Desk.picture_modifyWindow s.desk w hf)

/-- A monitor changes, but for its view. -/
theorem tune (h : Mends K L s₀ s) (i : ℕ) {f : Monitor → Monitor} (hf : ∀ m, (f m).tags = m.tags) :
    Mends K L s₀ (s.modifyDesk fun d => d.modifyMonitor i f) :=
  h.aside (Desk.picture_modifyMonitor s.desk i hf)

theorem own (h : Mends K L s₀ s) {f : Desk → Desk} (hf : K s.desk (f s.desk)) :
    Mends K L s₀ (s.modifyDesk f) :=
  h.calm (.own _ _ hf)

theorem fire (h : Mends K L s₀ s) (c : HookCall) : Mends K L s₀ (s.fire c) := h.same rfl

theorem emit (h : Mends K L s₀ s) (e : Effect) : Mends K L s₀ (s.emit e) := h.same rfl

theorem kb_set_focus (h : Mends K L s₀ s) (f : Option SurfaceId) :
    Mends K L s₀ (s.kb_set_focus f) := h.same rfl

theorem ptr_motion (h : Mends K L s₀ s) (f : Option SurfaceId) (loc : PointF) :
    Mends K L s₀ (s.ptr_motion f loc) := h.same rfl

theorem refresh_pointer_focus (h : Mends K L s₀ s) : Mends K L s₀ s.refresh_pointer_focus := by
  refine h.same ?_
  unfold Rwl.refresh_pointer_focus
  split_ifs <;> rfl

theorem select (h : Mends K L s₀ s) (i : ℕ) :
    Mends K L s₀ (s.modifyDesk fun d => { d with sel_mon := i }) :=
  h.aside rfl

theorem arrange (h : Mends K L s₀ s) (i : ℕ) : Mends K L s₀ (s.arrange i) := h.calm (.arrange _ i)

theorem slide (h : Mends K L s₀ s) (old new : ℕ) (ow : ℚ) :
    Mends K L s₀ (s.modifyDesk (Desk.start_tag_transition · old new ow)) :=
  h.calm (.slide ..)

end Mends

/-- **`arrange_all` mends.** -/
theorem Stirs.arrange_all (h : Stirs K L s₀ s) : Mends K L s₀ s.arrange_all := by
  have hpass : Mends K L s₀ (s.modifyDesk Desk.arrangePasses) := ⟨h.file, .pass h.chain, h.holds⟩
  exact (hpass.emit _).refresh_pointer_focus

namespace Mends

theorem arrange_all (h : Mends K L s₀ s) : Mends K L s₀ s.arrange_all := h.stirs.arrange_all

/-! ### Focusing -/

theorem notifyFocus (h : Mends K L s₀ s) : Mends K L s₀ s.notifyFocus := by
  refine h.same ?_
  unfold Rwl.notifyFocus fireFocus
  dsimp only
  split
  · split_ifs <;> rfl
  · rfl

theorem followFocus (h : Mends K L s₀ s) (w : WinId) (prev : Option WinId) :
    Mends K L s₀ (s.followFocus w prev) := by
  have hsel := (h.select (s.desk.st w).mon_idx).arrange (s.desk.st w).mon_idx
  unfold Rwl.followFocus
  dsimp only
  split
  · split_ifs
    · exact hsel.arrange _
    · exact hsel
  · exact hsel

theorem focusChanged (h : Mends K L s₀ s) (prev : Option WinId) :
    Mends K L s₀ (s.focusChanged prev) := by
  unfold Rwl.focusChanged
  split
  · exact h.notifyFocus.followFocus _ prev
  · exact h.notifyFocus.arrange_all

theorem raise (h : Mends K L s₀ s) (w : WinId) : Mends K L s₀ (s.modifyDesk (Rwl.raise · w)) := by
  refine h.aside ?_
  exact Desk.picture_modifyWindow
    { s.desk with focus_stack := Recency.toFront w s.desk.focus_stack } w
    (f := fun st => { st with is_urgent := false }) fun _ => ⟨rfl, rfl, rfl⟩

/-- **Focusing a window mends what it stirs.** -/
theorem focus_window (h : Mends K L s₀ s) (window : Option WinId) :
    Mends K L s₀ (s.focus_window window) := by
  have hfocus {s₁ : Rwl} (h₁ : Mends K L s₀ s₁) (f : Option SurfaceId) (prev : Option WinId) :
      Mends K L s₀ (if s₁.session.locked then s₁
        else if (s₁.kb_set_focus f).desk.focus_stack.head? = prev then s₁.kb_set_focus f
        else (s₁.kb_set_focus f).focusChanged prev) := by
    split_ifs
    · exact h₁
    · exact h₁.kb_set_focus f
    · exact (h₁.kb_set_focus f).focusChanged prev
  cases window with
  | none => exact hfocus h _ _
  | some w => exact hfocus (h.raise w) _ _

theorem focus_top (h : Mends K L s₀ s) : Mends K L s₀ s.focus_top := h.focus_window _

theorem update_layer_focus (h : Mends K L s₀ s) : Mends K L s₀ s.update_layer_focus := by
  unfold Rwl.update_layer_focus
  split_ifs
  · exact h
  · split <;> exact h.kb_set_focus _

end Mends

theorem Stirs.focus_window (h : Stirs K L s₀ s) (window : Option WinId) :
    Stirs K L s₀ (s.focus_window window) :=
  h.andThen ((Mends.refl s).focus_window window)

theorem Stirs.focus_top (h : Stirs K L s₀ s) : Stirs K L s₀ s.focus_top := h.focus_window _

end Rwl

end Compositor
