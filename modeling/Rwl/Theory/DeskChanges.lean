import Mathlib.Tactic.Common
import Rwl.Core.Step

/-!
# How the desk changes

The handlers change the desk by a few kinds of small updates.

* `MonitorOp`: the operations on what a monitor shows;
* `Origin`: where the tags of a window come from;
* `Change`: one small update; `L` stands for the ones that make or remove windows, monitors and
  links between windows;
* `Moves L s s'`: the desk of `s'` comes from that of `s` by small updates;
* one lemma for each small update of the compositor, for layout passes and for focusing.
-/

namespace Compositor

/-! ### Monitors -/

/-- The operations on the view and the layout of a monitor. -/
inductive MonitorOp
  | view (mask : ℕ)
  | toggle_view (mask : ℕ)
  | view_prev
  | set_layout (idx : ℕ)
  | reset
  | apply
  | apply_dynamic (count : ℕ)
  /-- `auto_back_empty_tag` writes the active slot. -/
  | retag (tags : ℕ)

/-- What an operation does. -/
def MonitorOp.run (cfg : Config) (m : Monitor) : MonitorOp → Monitor
  | .view mask => m.view cfg mask
  | .toggle_view mask => m.toggle_view cfg mask
  | .view_prev => m.view_prev cfg
  | .set_layout idx => m.set_layout cfg idx
  | .reset => pertag_layouts.reset cfg m m.tags
  | .apply => pertag_layouts.apply cfg m m.tags
  | .apply_dynamic count => pertag_layouts.apply_dynamic cfg m m.tags count
  | .retag tags =>
      pertag_layouts.apply cfg { m with tagset := Function.update m.tagset m.sel_tags tags } tags

theorem reviewed_run (cfg : Config) (m : Monitor) (op : MonitorOp) :
    m.Reviewed (op.run cfg m) := by
  cases op with
  | view mask => exact Monitor.reviewed_view cfg m mask
  | toggle_view mask => exact Monitor.reviewed_toggle_view cfg m mask
  | view_prev => exact Monitor.reviewed_view_prev cfg m
  | set_layout idx => exact Monitor.reviewed_set_layout cfg m idx
  | reset => exact Monitor.reviewed_reset cfg m m.tags
  | apply => exact Monitor.reviewed_apply cfg m m.tags
  | apply_dynamic count => exact Monitor.reviewed_apply_dynamic cfg m m.tags count
  | retag tags => exact Monitor.reviewed_apply cfg { m with tagset := _ } tags

/-- The view data, the output and the column fractions of a monitor. -/
def Monitor.steady (m : Monitor) : MonitorView × OutputId × List ℚ :=
  (m.viewed, m.output, m.col_facts)

namespace Desk

/-- The view data of all monitors. -/
def viewed (d : Desk) : List MonitorView := d.monitors.map Monitor.viewed

/-! ### Changes -/

/-- Where the tags a window gets come from. -/
inductive Origin (d : Desk) : ℕ → Prop
  | hidden : Origin d 0
  /-- No monitor is selected. -/
  | first : Origin d 1
  | masked (mask : ℕ) : Origin d (mask &&& d.cfg.tag_mask)
  | shown (m : Monitor) (slot : Bool) : m ∈ d.monitors → Origin d (m.tagset slot)
  | window (w : WinId) : Origin d (d.st w).tags

/-- An output that is described anew under its name. -/
theorem name_update (d : Desk) (o : OutputId) (info : OutputInfo)
    (h : info.name = (d.output o).name) (i : OutputId) :
    (Function.update d.output o info i).name = (d.output i).name := by
  by_cases hi : i = o
  · subst hi
    rw [Function.update_self, h]
  · rw [Function.update_of_ne hi]

/-- The links of a window to the terminal it hides stay. -/
def SameLinks (s s' : WindowState) : Prop :=
  s'.is_swallowed = s.is_swallowed ∧ s'.swallowing = s.swallowing

/-- The monitors are moved and resized, and the outputs keep their names. -/
def Rearranged (d d' : Desk) : Prop :=
  ∃ (ms : List Monitor) (o : OutputId → OutputInfo), d' = { d with monitors := ms, output := o } ∧
    ms.map Monitor.steady = d.monitors.map Monitor.steady ∧ ∀ i, (o i).name = (d.output i).name

theorem Rearranged.refl (d : Desk) : Rearranged d d := ⟨d.monitors, d.output, rfl, rfl, fun _ => rfl⟩

theorem Rearranged.trans {d d' d'' : Desk} (h : Rearranged d d') (h' : Rearranged d' d'') :
    Rearranged d d'' := by
  obtain ⟨ms, o, rfl, hms, ho⟩ := h
  obtain ⟨ms', o', rfl, hms', ho'⟩ := h'
  exact ⟨ms', o', rfl, hms'.trans hms, fun i => (ho' i).trans (ho i)⟩

theorem map_of_steady {α : Type*} (f : MonitorView × OutputId × List ℚ → α) {ms ms' : List Monitor}
    (h : ms'.map Monitor.steady = ms.map Monitor.steady) :
    ms'.map (fun m => f m.steady) = ms.map fun m => f m.steady := by
  have hmap := congrArg (List.map f) h
  rwa [List.map_map, List.map_map] at hmap

theorem Rearranged.viewed {d d' : Desk} (h : Rearranged d d') : d'.viewed = d.viewed := by
  obtain ⟨ms, o, rfl, hms, -⟩ := h
  exact map_of_steady Prod.fst hms

/-- One small update; `file` is what a reload reads. -/
inductive Change (file : Config) (L : Desk → Desk → Prop) : Desk → Desk → Prop
  | clock (d : Desk) (now : ℕ) : Change file L d { d with now := now }
  | processes (d : Desk) (p : ℕ → Option ℕ) : Change file L d { d with parent_pid := p }
  | gaps (d : Desk) (b : Bool) : Change file L d { d with gaps_enabled := b }
  /-- What is known of the outputs changes, but not their names. -/
  | outputs (d : Desk) (o : OutputId → OutputInfo) :
      (∀ i, (o i).name = (d.output i).name) → Change file L d { d with output := o }
  /-- The rules of the monitors are applied, and the bounds brought up to date. -/
  | rules (d d' : Desk) : Rearranged d d' → Change file L d d'.update_monitor_bounds
  | unslide (d : Desk) : Change file L d { d with pending_tag_transition := none }
  | client (d : Desk) (w : WinId) (c : Client) : Change file L d
      { d with client := Function.update d.client w (Rwl.updateClient (d.client w) c) }
  | select (d : Desk) (i : ℕ) : Change file L d { d with sel_mon := i }
  | raise (d : Desk) (w : WinId) : Change file L d (Rwl.raise d w)
  | lower (d : Desk) (w : WinId) :
      Change file L d { d with focus_stack := d.focus_stack.filter fun v => decide (v ≠ w) }
  | front (d : Desk) (w : WinId) : w ∈ d.windows →
      Change file L d { d with windows := Recency.toFront w d.windows }
  /-- A window changes; its tags and the view it remembers come from where they may. -/
  | window (d : Desk) (w : WinId) (f : WindowState → WindowState) :
      (∀ s, SameLinks s (f s)) →
      ((f (d.st w)).tags = (d.st w).tags ∨ Origin d (f (d.st w)).tags) →
      ((f (d.st w)).switch_to_tag = (d.st w).switch_to_tag ∨
        ∃ m ∈ d.monitors, ∃ slot, (f (d.st w)).switch_to_tag = some (m.tagset slot)) →
      Change file L d (d.modifyWindow w f)
  /-- Only layout data changes. -/
  | relaid (d d' : Desk) : d'.bare = d.bare → d'.viewed = d.viewed →
      d'.pending_tag_transition = d.pending_tag_transition → Change file L d d'
  | monitor (d : Desk) (i : ℕ) (op : MonitorOp) : (∀ t, op ≠ .retag t) →
      Change file L d (d.modifyMonitor i fun m => op.run d.cfg m)
  /-- `auto_back_empty_tag` shows what it chose. -/
  | back (d : Desk) (i cur : ℕ) (w : WinId) (t : ℕ) :
      auto_back_empty_tag.target d i cur (d.st w).switch_to_tag = some t →
      Change file L d (d.modifyMonitor i fun m => (MonitorOp.retag t).run d.cfg m)
  /-- The layout parameters or the work area of a monitor change. -/
  | tune (d : Desk) (i : ℕ) (f : Monitor → Monitor) :
      (∀ m, (f m).steady = m.steady ∧ (f m).m = m.m) →
      Change file L d (d.modifyMonitor i f)
  | history (d : Desk) (i tags : ℕ) : Change file L d (d.update_tag_history i tags)
  | forget (d : Desk) (i tags : ℕ) : Change file L d
      { d with tag_history := d.tag_history.modify i fun h => h.filter fun t => decide (t ≠ tags) }
  | reload (d : Desk) : Change file L d { d with cfg := file }
  /-- A reload applies the per-tag layouts to every view. -/
  | every (d : Desk) : Change file L d
      { d with monitors := d.monitors.map fun m => MonitorOp.apply.run d.cfg m }
  | life (d d' : Desk) : L d d' → Change file L d d'

/-! ### What a layout pass shows -/

theorem viewed_modifyMonitor (d : Desk) (i : ℕ) (f : Monitor → Monitor)
    (h : ∀ m, (f m).viewed = m.viewed) : (d.modifyMonitor i f).viewed = d.viewed :=
  Recency.map_modify_eq Monitor.viewed f h d.monitors i

theorem viewed_saveLoc (d : Desk) (w : WinId) : (d.saveLoc w).viewed = d.viewed := by
  unfold saveLoc
  split
  · split_ifs <;> rfl
  · rfl

theorem viewed_hide (d : Desk) (w : WinId) : (d.hide w).viewed = d.viewed := by
  unfold hide
  split_ifs
  · rfl
  · exact viewed_saveLoc d w

theorem viewed_syncScrollCol (d : Desk) (i : ℕ) (focused : Option WinId) (tiled : List WinId) :
    (d.syncScrollCol i focused tiled).viewed = d.viewed := by
  refine viewed_modifyMonitor d i _ fun m => ?_
  dsimp only
  split_ifs <;> rfl

theorem viewed_placeTiles (d : Desk) (i : ℕ) (focused : Option WinId) (tiled : List WinId) :
    (d.placeTiles i focused tiled).viewed = d.viewed := by
  unfold placeTiles
  split
  · rfl
  · exact Recency.foldl_keeps viewed (placeTiled focused _) (fun _ _ => rfl) _ d

/-- Once the count-based layout is chosen, a layout pass keeps what the monitors show. -/
theorem viewed_arrange (d : Desk) (i : ℕ) :
    (d.arrange i).viewed = (d.applyDynamic i (d.tagsOf i)).viewed := by
  unfold arrange tagsOf
  cases hm : d.monitors[i]? with
  | none =>
    unfold applyDynamic
    split_ifs
    · rw [viewed, modifyMonitor, List.modify_eq_self (List.getElem?_eq_none_iff.1 hm)]
      rfl
    · rfl
  | some mon =>
    dsimp only [Option.map_some, Option.getD_some]
    rw [Recency.foldl_keeps viewed (placeScratch _) (fun _ _ => rfl),
      Recency.foldl_keeps viewed (placeFullscreen _) (fun _ _ => rfl),
      Recency.foldl_keeps viewed (placeFloating _) (fun _ _ => rfl), viewed_placeTiles,
      viewed_syncScrollCol, Recency.foldl_keeps viewed hide viewed_hide]

theorem viewed_update_work_areas (d : Desk) : d.update_work_areas.viewed = d.viewed := by
  simp only [viewed, update_work_areas, List.map_map]
  rfl

theorem viewed_finalize_slide_outs (d : Desk) : d.finalize_slide_outs.viewed = d.viewed := by
  refine Recency.foldl_keeps viewed _ (fun d w => ?_) _ d
  unfold finalizeSlideOut
  dsimp only
  split_ifs
  · rfl
  · exact viewed_saveLoc d w

theorem pending_saveLoc (d : Desk) (w : WinId) :
    (d.saveLoc w).pending_tag_transition = d.pending_tag_transition := by
  unfold saveLoc
  split
  · split_ifs <;> rfl
  · rfl

/-- A layout pass leaves a pending slide to its end. -/
theorem pending_arrange (d : Desk) (i : ℕ) :
    (d.arrange i).pending_tag_transition = d.pending_tag_transition := by
  have hhide (d : Desk) (w : WinId) :
      (d.hide w).pending_tag_transition = d.pending_tag_transition := by
    unfold hide
    split_ifs
    · rfl
    · exact pending_saveLoc d w
  have hdynamic (tags : ℕ) :
      (d.applyDynamic i tags).pending_tag_transition = d.pending_tag_transition := by
    unfold applyDynamic
    split_ifs <;> rfl
  have htiles (d : Desk) (focused : Option WinId) (tiled : List WinId) :
      (d.placeTiles i focused tiled).pending_tag_transition = d.pending_tag_transition := by
    unfold placeTiles
    split
    · rfl
    · exact Recency.foldl_keeps pending_tag_transition (placeTiled focused _) (fun _ _ => rfl) _ d
  unfold arrange
  split
  · rfl
  · dsimp only
    rw [Recency.foldl_keeps pending_tag_transition (placeScratch _) (fun _ _ => rfl),
      Recency.foldl_keeps pending_tag_transition (placeFullscreen _) (fun _ _ => rfl),
      Recency.foldl_keeps pending_tag_transition (placeFloating _) (fun _ _ => rfl), htiles]
    exact (Recency.foldl_keeps pending_tag_transition hide hhide _ _).trans (hdynamic _)

theorem pending_finalize_slide_outs (d : Desk) :
    d.finalize_slide_outs.pending_tag_transition = d.pending_tag_transition := by
  refine Recency.foldl_keeps pending_tag_transition _ (fun d w => ?_) _ d
  unfold finalizeSlideOut
  dsimp only
  split_ifs
  · rfl
  · exact pending_saveLoc d w

/-! ### Chains -/

/-- A chain of small updates. -/
abbrev Changes (file : Config) (L : Desk → Desk → Prop) : Desk → Desk → Prop :=
  Relation.ReflTransGen (Change file L)

namespace Changes

variable {file : Config} {L : Desk → Desk → Prop} {d₀ d : Desk}

theorem relaid (h : Changes file L d₀ d) {d' : Desk} (hb : d'.bare = d.bare)
    (hv : d'.viewed = d.viewed)
    (hp : d'.pending_tag_transition = d.pending_tag_transition) : Changes file L d₀ d' :=
  h.tail (.relaid d d' hb hv hp)

theorem monitor (h : Changes file L d₀ d) (i : ℕ) (op : MonitorOp) (hop : ∀ t, op ≠ .retag t) :
    Changes file L d₀ (d.modifyMonitor i fun m => op.run d.cfg m) :=
  h.tail (.monitor d i op hop)

/-- A window changes but for its tags, the view it remembers and its links. -/
theorem window (h : Changes file L d₀ d) (w : WinId) {f : WindowState → WindowState}
    (hf : ∀ s, SameLinks s (f s) ∧ (f s).tags = s.tags ∧ (f s).switch_to_tag = s.switch_to_tag) :
    Changes file L d₀ (d.modifyWindow w f) :=
  h.tail (.window d w f (fun s => (hf s).1) (.inl (hf _).2.1) (.inl (hf _).2.2))

/-- A window gets tags. -/
theorem place (h : Changes file L d₀ d) (w : WinId) {f : WindowState → WindowState}
    (ht : Origin d (f (d.st w)).tags)
    (hf : ∀ s, SameLinks s (f s) ∧ (f s).switch_to_tag = s.switch_to_tag) :
    Changes file L d₀ (d.modifyWindow w f) :=
  h.tail (.window d w f (fun s => (hf s).1) (.inr ht) (.inl (hf _).2))

theorem set_window_tags (h : Changes file L d₀ d) (w : WinId) {tags : ℕ} (ht : Origin d tags) :
    Changes file L d₀ (d.set_window_tags w tags) :=
  h.place w ht fun _ => ⟨⟨rfl, rfl⟩, rfl⟩

theorem modifyMonitor_tags (d : Desk) (i : ℕ) (f : Monitor → ℕ → Monitor) :
    d.modifyMonitor i (fun m => f m (d.tagsOf i)) = d.modifyMonitor i fun m => f m m.tags := by
  unfold modifyMonitor
  congr 1
  refine List.ext_getElem? fun j => ?_
  rw [List.getElem?_modify, List.getElem?_modify]
  by_cases hj : i = j
  · subst hj
    cases hm : d.monitors[i]? with
    | none => rfl
    | some m => simp [tagsOf, hm]
  · simp [hj]

theorem applyDynamic (h : Changes file L d₀ d) (i : ℕ) :
    Changes file L d₀ (d.applyDynamic i (d.tagsOf i)) := by
  unfold Desk.applyDynamic
  split_ifs
  · rw [modifyMonitor_tags d i fun m tags =>
      pertag_layouts.apply_dynamic d.cfg m tags (d.count_tiled (d.tagsOf i))]
    exact h.monitor i (.apply_dynamic _) nofun
  · exact h

/-- **A layout pass.** -/
theorem arrange (h : Changes file L d₀ d) (i : ℕ) : Changes file L d₀ (d.arrange i) := by
  refine (h.applyDynamic i).relaid ?_ (viewed_arrange d i) ?_
  · rw [bare_arrange, bare_applyDynamic]
  · rw [pending_arrange]
    unfold Desk.applyDynamic
    split_ifs <;> rfl

theorem mark_slide_outs (h : Changes file L d₀ d) (old new : ℕ) (ow : ℚ) :
    Changes file L d₀ (d.mark_slide_outs old new ow) := by
  refine h.relaid (bare_mark_slide_outs d old new ow) ?_ ?_ <;>
    unfold Desk.mark_slide_outs <;> dsimp only <;> split_ifs <;> rfl

theorem start_tag_transition (h : Changes file L d₀ d) (old new : ℕ) (ow : ℚ) :
    Changes file L d₀ (d.start_tag_transition old new ow) := by
  refine h.relaid (bare_start_tag_transition d old new ow) ?_ ?_ <;>
    unfold Desk.start_tag_transition <;> dsimp only <;> split_ifs <;> rfl

theorem advance_tag_transitions (h : Changes file L d₀ d) :
    Changes file L d₀ d.advance_tag_transitions := by
  refine h.relaid (bare_advance_tag_transitions d) ?_ ?_ <;>
    unfold Desk.advance_tag_transitions <;> split_ifs <;> rfl

theorem finalize_slide_outs (h : Changes file L d₀ d) : Changes file L d₀ d.finalize_slide_outs :=
  h.relaid (bare_finalize_slide_outs d) (viewed_finalize_slide_outs d)
    (pending_finalize_slide_outs d)

theorem foldl {α : Type*} {f : Desk → α → Desk} (hf : ∀ d a, Changes file L d₀ d →
    Changes file L d₀ (f d a)) (l : List α) (h : Changes file L d₀ d) :
    Changes file L d₀ (l.foldl f d) := by
  induction l generalizing d with
  | nil => exact h
  | cons a l ih => exact ih (hf d a h)

/-- **`arrange_all`.** -/
theorem arrangePasses (h : Changes file L d₀ d) : Changes file L d₀ d.arrangePasses := by
  have hareas : Changes file L d₀ { d.update_work_areas with pending_tag_transition := none } :=
    (h.relaid (bare_update_work_areas d) (viewed_update_work_areas d) rfl).tail (.unslide _)
  have hpasses (l : List ℕ) := hareas.foldl (fun d i h => arrange h i) l
  unfold Desk.arrangePasses
  dsimp only
  split
  · exact (hpasses _).start_tag_transition _ _ _
  · exact hpasses _

end Changes

end Desk

namespace Rwl

/-! ### Handlers -/

/-- The desk, and the configuration file a reload would read. -/
def store (s : Rwl) : Desk × Config := (s.desk, s.config_file)

/-- The store, the session and the grab. -/
def ground (s : Rwl) : (Desk × Config) × Session × Grab := (s.store, s.session, s.grab)

/-- The store and the grab. -/
def base (s : Rwl) : (Desk × Config) × Grab := (s.store, s.grab)

theorem store_of_base {s s' : Rwl} (h : s'.base = s.base) : s'.store = s.store :=
  congrArg Prod.fst h

theorem store_of_ground {s s' : Rwl} (h : s'.ground = s.ground) : s'.store = s.store :=
  congrArg Prod.fst h

/-- The desk of `s'` comes from that of `s` by small updates. -/
structure Moves (L : Desk → Desk → Prop) (s s' : Rwl) : Prop where
  file : s'.config_file = s.config_file
  changes : Desk.Changes s.config_file L s.desk s'.desk

namespace Moves

variable {L : Desk → Desk → Prop} {s₀ s : Rwl}

theorem refl (s : Rwl) : Moves L s s := ⟨rfl, .refl⟩

theorem trans {s₁ s₂ : Rwl} (h : Moves L s₀ s₁) (h' : Moves L s₁ s₂) : Moves L s₀ s₂ := by
  refine ⟨h'.file.trans h.file, h.changes.trans ?_⟩
  have hc := h'.changes
  rwa [h.file] at hc

/-- Something beside the desk changes. -/
theorem same (h : Moves L s₀ s) {s' : Rwl} (hs : s'.store = s.store) : Moves L s₀ s' := by
  obtain ⟨hdesk, hfile⟩ := Prod.mk.inj hs
  exact ⟨hfile.trans h.file, hdesk.symm ▸ h.changes⟩

/-- The desk changes by small updates. -/
theorem desk (h : Moves L s₀ s) {f : Desk → Desk}
    (hf : Desk.Changes s₀.config_file L s₀.desk s.desk →
      Desk.Changes s₀.config_file L s₀.desk (f s.desk)) : Moves L s₀ (s.modifyDesk f) :=
  ⟨h.file, hf h.changes⟩

theorem fire (h : Moves L s₀ s) (c : HookCall) : Moves L s₀ (s.fire c) := h.same rfl

theorem emit (h : Moves L s₀ s) (e : Effect) : Moves L s₀ (s.emit e) := h.same rfl

theorem kb_set_focus (h : Moves L s₀ s) (f : Option SurfaceId) : Moves L s₀ (s.kb_set_focus f) :=
  h.same rfl

theorem ptr_motion (h : Moves L s₀ s) (f : Option SurfaceId) (loc : PointF) :
    Moves L s₀ (s.ptr_motion f loc) := h.same rfl

theorem refresh_pointer_focus (h : Moves L s₀ s) : Moves L s₀ s.refresh_pointer_focus := by
  refine h.same ?_
  unfold Rwl.refresh_pointer_focus
  split_ifs <;> rfl

/-- A window changes but for its tags, the view it remembers and its links. -/
theorem window (h : Moves L s₀ s) (w : WinId) {f : WindowState → WindowState}
    (hf : ∀ st, Desk.SameLinks st (f st) ∧ (f st).tags = st.tags ∧
      (f st).switch_to_tag = st.switch_to_tag) :
    Moves L s₀ (s.modifyDesk fun d => d.modifyWindow w f) :=
  h.desk fun hc => hc.window w hf

theorem set_window_tags (h : Moves L s₀ s) (w : WinId) {tags : ℕ} (ht : s.desk.Origin tags) :
    Moves L s₀ (s.modifyDesk (Desk.set_window_tags · w tags)) :=
  h.desk fun hc => hc.set_window_tags w ht

theorem select (h : Moves L s₀ s) (i : ℕ) :
    Moves L s₀ (s.modifyDesk fun d => { d with sel_mon := i }) :=
  h.desk fun hc => hc.tail (.select _ i)

theorem arrange (h : Moves L s₀ s) (i : ℕ) : Moves L s₀ (s.arrange i) := h.desk fun hc => hc.arrange i

theorem arrange_all (h : Moves L s₀ s) : Moves L s₀ s.arrange_all :=
  ((h.desk fun hc => hc.arrangePasses).emit _).refresh_pointer_focus

/-! ### Focusing -/

theorem notifyFocus (h : Moves L s₀ s) : Moves L s₀ s.notifyFocus := by
  refine h.same ?_
  unfold Rwl.notifyFocus fireFocus
  dsimp only
  split
  · split_ifs <;> rfl
  · rfl

theorem followFocus (h : Moves L s₀ s) (w : WinId) (prev : Option WinId) :
    Moves L s₀ (s.followFocus w prev) := by
  have hsel := (h.select (s.desk.st w).mon_idx).arrange (s.desk.st w).mon_idx
  unfold Rwl.followFocus
  dsimp only
  split
  · split_ifs
    · exact hsel.arrange _
    · exact hsel
  · exact hsel

theorem focusChanged (h : Moves L s₀ s) (prev : Option WinId) : Moves L s₀ (s.focusChanged prev) := by
  unfold Rwl.focusChanged
  split
  · exact h.notifyFocus.followFocus _ prev
  · exact h.notifyFocus.arrange_all

/-- **Focusing a window.** -/
theorem focus_window (h : Moves L s₀ s) (window : Option WinId) :
    Moves L s₀ (s.focus_window window) := by
  have hfocus {s₁ : Rwl} (h₁ : Moves L s₀ s₁) (f : Option SurfaceId) (prev : Option WinId) :
      Moves L s₀ (if s₁.session.locked then s₁
        else if (s₁.kb_set_focus f).desk.focus_stack.head? = prev then s₁.kb_set_focus f
        else (s₁.kb_set_focus f).focusChanged prev) := by
    split_ifs
    · exact h₁
    · exact h₁.kb_set_focus f
    · exact (h₁.kb_set_focus f).focusChanged prev
  cases window with
  | none => exact hfocus h _ _
  | some w => exact hfocus (h.desk fun hc => hc.tail (.raise _ w)) _ _

theorem focus_top (h : Moves L s₀ s) : Moves L s₀ s.focus_top := h.focus_window _

theorem update_layer_focus (h : Moves L s₀ s) : Moves L s₀ s.update_layer_focus := by
  unfold Rwl.update_layer_focus
  split_ifs
  · exact h
  · split <;> exact h.kb_set_focus _

end Moves

end Rwl

end Compositor
