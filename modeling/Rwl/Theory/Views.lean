import Mathlib.Tactic.Common
import Rwl.Lib.Mask
import Rwl.Theory.StepChanges

/-!
# What monitors show stays valid

* `MonitorView.Valid`: both tag slots are non-empty masks of the configuration, and both layout
  slots and all pins are indices into its layouts;
* `Monitor.Keeps`: what the operations on a monitor keep; they keep the monitor valid;
* `Masked`: with it, the tags of the windows, the views they remember and the history stay
  within the mask;
* `Masked.change`: every small update keeps it under its configuration, `masked_life`: so does
  what an event makes or removes;
* `monitor_views_valid`: in every run under one configuration, every monitor is valid.
-/

namespace Compositor

open Mask (Within)

/-- What a monitor shows is made of tags and layouts the configuration has. -/
structure MonitorView.Valid (cfg : Config) (v : MonitorView) : Prop where
  shows : ∀ slot, v.tagset slot ≠ 0
  within : ∀ slot, Within cfg.tag_mask (v.tagset slot)
  layout : ∀ slot, v.lt slot < cfg.layouts.length
  pins : ∀ idx, some idx ∈ v.tag_lt_override → idx < cfg.layouts.length

/-! ### Operations on a monitor -/

namespace Monitor

/-- Kept by the few updates that the operations on a monitor are made of. -/
structure Keeps (cfg : Config) (P : Monitor → Prop) : Prop where
  pushTags : ∀ mon t, t ≠ 0 → Within cfg.tag_mask t → P mon → P (mon.pushTags t)
  flipTags : ∀ mon, P mon → P { mon with sel_tags := !mon.sel_tags }
  pushLayout : ∀ mon idx, idx < cfg.layouts.length → P mon → P (mon.pushLayout idx)
  flipLayout : ∀ mon, P mon → P { mon with sel_lt := !mon.sel_lt }
  /-- A layout in use is pinned to a tag, or a tag is unpinned. -/
  setPin : ∀ mon i pin, pin = none ∨ pin = some mon.layout_idx → P mon →
    P { mon with tag_lt_override := mon.tag_lt_override.set i pin }

namespace Keeps

variable {cfg : Config} {P : Monitor → Prop} {mon : Monitor} (hP : Keeps cfg P)

include hP

theorem set_monitor_layout (h : P mon) (idx : ℕ) :
    P (pertag_layouts.set_monitor_layout cfg mon idx) := by
  unfold pertag_layouts.set_monitor_layout
  split_ifs with hidx
  · exact hP.pushLayout mon idx hidx.1 h
  · exact h

theorem apply (h : P mon) (mask : ℕ) : P (pertag_layouts.apply cfg mon mask) := by
  unfold pertag_layouts.apply
  dsimp only
  split_ifs
  · exact h
  · split
    · exact hP.set_monitor_layout h _
    · split
      · exact hP.set_monitor_layout h _
      · exact h
      · exact h

theorem apply_dynamic (h : P mon) (mask count : ℕ) :
    P (pertag_layouts.apply_dynamic cfg mon mask count) := by
  unfold pertag_layouts.apply_dynamic
  dsimp only
  split_ifs
  · exact h
  · exact h
  · split
    · split
      · exact h
      · exact hP.set_monitor_layout h _
    · exact h
    · exact h

theorem reset (h : P mon) (mask : ℕ) : P (pertag_layouts.reset cfg mon mask) := by
  unfold pertag_layouts.reset
  dsimp only
  split_ifs
  · exact h
  · exact hP.apply (hP.setPin mon (pertag_layouts.trailing_zeros mask) none (.inl rfl) h) mask

theorem pinLayout (h : P mon) : P mon.pinLayout := by
  unfold Monitor.pinLayout
  split_ifs
  · exact hP.setPin mon (pertag_layouts.trailing_zeros mon.tags) (some mon.layout_idx) (.inr rfl) h
  · exact h

theorem set_layout (h : P mon) (idx : ℕ) : P (mon.set_layout cfg idx) := by
  unfold Monitor.set_layout
  split_ifs with _ hidx
  · exact hP.pinLayout (hP.flipLayout mon h)
  · exact hP.pinLayout (hP.pushLayout mon idx hidx.1 h)
  · exact h

theorem view (h : P mon) (mask : ℕ) : P (mon.view cfg mask) := by
  unfold Monitor.view
  dsimp only
  split_ifs with hmask
  · exact h
  · have hne : mask &&& cfg.tag_mask ≠ 0 := fun h0 => hmask (.inl h0)
    exact hP.apply (hP.pushTags mon _ hne (Mask.within_and _ _) h) _

theorem toggle_view (h : P mon) (mask : ℕ) : P (mon.toggle_view cfg mask) := by
  unfold Monitor.toggle_view
  dsimp only
  split_ifs with hnew
  · exact hP.pushTags mon _ hnew (Mask.within_and _ _) h
  · exact h

theorem view_prev (h : P mon) : P (mon.view_prev cfg) := hP.apply (hP.flipTags mon h) _

/-- **Every operation on a monitor keeps what these updates keep**; to show tags that
`auto_back_empty_tag` chose is an update of its own. -/
theorem run (h : P mon) (op : MonitorOp)
    (hop : ∀ t, op = .retag t → P { mon with tagset := Function.update mon.tagset mon.sel_tags t }) :
    P (op.run cfg mon) := by
  cases op with
  | view mask => exact hP.view h mask
  | toggle_view mask => exact hP.toggle_view h mask
  | view_prev => exact hP.view_prev h
  | set_layout idx => exact hP.set_layout h idx
  | reset => exact hP.reset h _
  | apply => exact hP.apply h _
  | apply_dynamic count => exact hP.apply_dynamic h _ count
  | retag t => exact hP.apply (hop t rfl) t

end Keeps

/-- The monitor shows tags and layouts the configuration has. -/
abbrev Valid (cfg : Config) (mon : Monitor) : Prop := mon.viewed.Valid cfg

variable {cfg : Config} {mon : Monitor}

namespace Valid

theorem within_tags (h : mon.Valid cfg) : Within cfg.tag_mask mon.tags := h.within mon.sel_tags

/-- One slot gets a view. -/
theorem update_tagset (h : mon.Valid cfg) (sel : Bool) {t : ℕ} (hne : t ≠ 0)
    (ht : Within cfg.tag_mask t) (slot : Bool) :
    Function.update mon.tagset sel t slot ≠ 0 ∧
      Within cfg.tag_mask (Function.update mon.tagset sel t slot) := by
  by_cases hs : slot = sel
  · rw [hs, Function.update_self]
    exact ⟨hne, ht⟩
  · rw [Function.update_of_ne hs]
    exact ⟨h.shows slot, h.within slot⟩

theorem pushTags (h : mon.Valid cfg) {t : ℕ} (hne : t ≠ 0) (ht : Within cfg.tag_mask t) :
    (mon.pushTags t).Valid cfg :=
  ⟨fun slot => (h.update_tagset _ hne ht slot).1, fun slot => (h.update_tagset _ hne ht slot).2,
    h.layout, h.pins⟩

theorem pushLayout (h : mon.Valid cfg) {idx : ℕ} (hidx : idx < cfg.layouts.length) :
    (mon.pushLayout idx).Valid cfg := by
  refine ⟨h.shows, h.within, fun slot => ?_, h.pins⟩
  change Function.update mon.lt (!mon.sel_lt) idx slot < _
  by_cases hs : slot = !mon.sel_lt
  · rwa [hs, Function.update_self]
  · rw [Function.update_of_ne hs]
    exact h.layout slot

theorem setPin (h : mon.Valid cfg) (i : ℕ) {pin : Option ℕ}
    (hpin : pin = none ∨ pin = some mon.layout_idx) :
    Valid cfg { mon with tag_lt_override := mon.tag_lt_override.set i pin } := by
  refine ⟨h.shows, h.within, h.layout, fun idx hidx => ?_⟩
  rcases List.mem_or_eq_of_mem_set hidx with hidx | hidx
  · exact h.pins idx hidx
  · rcases hpin with rfl | rfl
    · cases hidx
    · obtain rfl := Option.some.inj hidx
      exact h.layout mon.sel_lt

theorem keeps (cfg : Config) : Keeps cfg (Valid cfg) where
  pushTags _ _ hne ht h := h.pushTags hne ht
  flipTags _ h := ⟨h.shows, h.within, h.layout, h.pins⟩
  pushLayout _ _ hidx h := h.pushLayout hidx
  flipLayout _ h := ⟨h.shows, h.within, h.layout, h.pins⟩
  setPin _ i _ hpin h := h.setPin i hpin

/-- Showing tags that are not empty and within the mask. -/
theorem retag (h : mon.Valid cfg) {t : ℕ} (hne : t ≠ 0) (ht : Within cfg.tag_mask t) :
    ((MonitorOp.retag t).run cfg mon).Valid cfg := by
  refine (keeps cfg).run h (.retag t) fun t' heq => ?_
  obtain rfl := MonitorOp.retag.inj heq
  exact ⟨fun slot => (h.update_tagset _ hne ht slot).1,
    fun slot => (h.update_tagset _ hne ht slot).2, h.layout, h.pins⟩

/-- **Every operation on a monitor keeps it valid.** -/
theorem run (h : mon.Valid cfg) (op : MonitorOp) (hop : ∀ t, op ≠ .retag t) :
    (op.run cfg mon).Valid cfg :=
  (keeps cfg).run h op fun t heq => absurd heq (hop t)

end Valid

end Monitor

/-! ### The desk -/

/-- Everything that may become a view is within the mask. -/
structure Masked (cfg : Config) (d : Desk) : Prop where
  views : ∀ v ∈ d.viewed, v.Valid cfg
  tags : ∀ w, Within cfg.tag_mask (d.st w).tags
  jump : ∀ w t, (d.st w).switch_to_tag = some t → Within cfg.tag_mask t
  history : ∀ past ∈ d.tag_history, ∀ t ∈ past, Within cfg.tag_mask t

/-- A configuration with 1 to 31 tags and a layout. -/
structure Config.Usable (cfg : Config) : Prop where
  tags : 0 < cfg.tag_count ∧ cfg.tag_count ≤ 31
  layouts : cfg.layouts ≠ []

theorem Config.Usable.within_one {cfg : Config} (h : cfg.Usable) : Within cfg.tag_mask 1 :=
  Mask.within_one h.tags.1

theorem Config.Usable.min_lt {cfg : Config} (h : cfg.Usable) (i : ℕ) :
    min i (cfg.layouts.length - 1) < cfg.layouts.length := by
  have := List.length_pos_iff.2 h.layouts
  omega

namespace Masked

variable {cfg : Config} {d : Desk}

theorem valid (h : Masked cfg d) {mon : Monitor} (hm : mon ∈ d.monitors) : mon.Valid cfg :=
  h.views _ (List.mem_map_of_mem hm)

/-- Only the parts that count count. -/
theorem congr {d' : Desk} (h : Masked cfg d) (hviews : d'.viewed = d.viewed)
    (htags : ∀ w, (d'.st w).tags = (d.st w).tags)
    (hjump : ∀ w, (d'.st w).switch_to_tag = (d.st w).switch_to_tag)
    (hhistory : d'.tag_history = d.tag_history) : Masked cfg d' := by
  refine ⟨hviews ▸ h.views, fun w => htags w ▸ h.tags w, fun w t ht => ?_, hhistory ▸ h.history⟩
  exact h.jump w t (hjump w ▸ ht)

theorem shown (hcfg : cfg.Usable) (h : Masked cfg d) (i : ℕ) :
    Within cfg.tag_mask (((d.monitors[i]?).map Monitor.tags).getD 1) := by
  cases hm : d.monitors[i]? with
  | none => exact hcfg.within_one
  | some mon => exact (h.valid (List.mem_of_getElem? hm)).within_tags

theorem origin (hcfg : cfg.Usable) (h : Masked cfg d) (hd : d.cfg = cfg) {t : ℕ}
    (ht : d.Origin t) : Within cfg.tag_mask t := by
  cases ht with
  | hidden => exact Mask.within_zero _
  | first => exact hcfg.within_one
  | masked mask => exact hd ▸ Mask.within_and _ _
  | shown mon slot hm => exact (h.valid hm).within slot
  | window w => exact h.tags w

theorem modifyWindow (h : Masked cfg d) (w : WinId) {f : WindowState → WindowState}
    (htags : Within cfg.tag_mask (f (d.st w)).tags)
    (hjump : ∀ t, (f (d.st w)).switch_to_tag = some t → Within cfg.tag_mask t) :
    Masked cfg (d.modifyWindow w f) := by
  refine ⟨h.views, fun v => ?_, fun v t ht => ?_, h.history⟩
  · change Within _ (d.st.modify w f v).tags
    by_cases hv : v = w
    · subst hv
      rwa [Windows.modify_self]
    · rw [Windows.modify_of_ne hv]
      exact h.tags v
  · change (d.st.modify w f v).switch_to_tag = some t at ht
    by_cases hv : v = w
    · subst hv
      rw [Windows.modify_self] at ht
      exact hjump t ht
    · rw [Windows.modify_of_ne hv] at ht
      exact h.jump v t ht

theorem modifyMonitor (h : Masked cfg d) (i : ℕ) {f : Monitor → Monitor}
    (hf : ∀ mon, mon.Valid cfg → (f mon).Valid cfg) : Masked cfg (d.modifyMonitor i f) := by
  refine ⟨fun v hv => ?_, h.tags, h.jump, h.history⟩
  obtain ⟨mon, hmon, rfl⟩ := List.mem_map.1 hv
  exact Recency.forall_mem_modify hf (fun mon hm => h.valid hm) i mon hmon

/-- What the rule of `auto_back_empty_tag` chooses is a view. -/
theorem target (h : Masked cfg d) {i cur t : ℕ} {w : WinId}
    (ht : auto_back_empty_tag.target d i cur (d.st w).switch_to_tag = some t) :
    t ≠ 0 ∧ Within cfg.tag_mask t := by
  have hne {t : ℕ} (hw : auto_back_empty_tag.hasWindows d i t = true) : t ≠ 0 := by
    rintro rfl
    obtain ⟨v, -, hv⟩ := List.any_eq_true.1 hw
    simp [WindowState.visible_on] at hv
  unfold auto_back_empty_tag.target at ht
  dsimp only at ht
  rcases Option.or_eq_some_iff.1 ht with ht | ⟨-, ht⟩
  · rcases Option.or_eq_some_iff.1 ht with ht | ⟨-, ht⟩
    · rcases Option.or_eq_some_iff.1 ht with ht | ⟨-, ht⟩
      · -- the view the window jumped from
        obtain ⟨hjump, hprev⟩ := Option.filter_eq_some_iff.1 ht
        exact ⟨hne (Bool.and_eq_true_iff.1 hprev).2, h.jump w t hjump⟩
      · -- a view of the history
        obtain ⟨past, hpast, ht⟩ := Option.bind_eq_some_iff.1 ht
        refine ⟨hne (List.find?_some ht), h.history past (List.mem_of_getElem? hpast) t ?_⟩
        exact List.mem_reverse.1 (List.mem_of_find?_eq_some ht)
    · -- the other slot
      obtain ⟨mon, hmon, ht⟩ := Option.bind_eq_some_iff.1 ht
      split_ifs at ht with hprev
      obtain rfl := Option.some.inj ht
      exact ⟨fun h0 => hprev (.inl h0), (h.valid (List.mem_of_getElem? hmon)).within _⟩
  · -- the tags of any window
    obtain ⟨v, -, hv⟩ := List.exists_of_findSome?_eq_some ht
    split_ifs at hv with hw
    obtain rfl := Option.some.inj hv
    exact ⟨hw.2, h.tags v⟩

/-! ### Small updates -/

/-- One small update under the configuration keeps what may become a view within the mask. -/
theorem change {file : Config} {L : Desk → Desk → Prop} {d' : Desk} (hcfg : cfg.Usable)
    (h : Masked cfg d) (hd : d.cfg = cfg) (hL : ∀ d', L d d' → Masked cfg d')
    (hc : Desk.Change file L d d') : Masked cfg d' := by
  cases hc with
  | clock | processes | gaps | outputs | unslide | client | select | lower | front =>
    exact h.congr rfl (fun _ => rfl) (fun _ => rfl) rfl
  | raise w =>
    refine h.congr rfl (fun v => ?_) (fun v => ?_) rfl
    · exact Windows.modify_field WindowState.tags d.st w v _ fun _ => rfl
    · exact Windows.modify_field WindowState.switch_to_tag d.st w v _ fun _ => rfl
  | window w f hlinks htags hjump =>
    refine h.modifyWindow w ?_ fun t ht => ?_
    · rcases htags with htags | htags
      · exact htags ▸ h.tags w
      · exact h.origin hcfg hd htags
    · rcases hjump with hjump | ⟨mon, hm, slot, hjump⟩
      · exact h.jump w t (hjump ▸ ht)
      · obtain rfl := Option.some.inj (hjump.symm.trans ht)
        exact (h.valid hm).within slot
  | relaid _ hbare hviews =>
    refine h.congr hviews (fun w => ?_) (fun w => ?_) ?_
    · exact (congrArg (fun b : Desk => (b.st w).tags) hbare :)
    · exact (congrArg (fun b : Desk => (b.st w).switch_to_tag) hbare :)
    · exact (congrArg Desk.tag_history hbare :)
  | monitor i op hop =>
    rw [hd]
    exact h.modifyMonitor i fun mon hm => hm.run op hop
  | back i cur w t ht =>
    obtain ⟨hne, hwithin⟩ := h.target ht
    rw [hd]
    exact h.modifyMonitor i fun mon hm => hm.retag hne hwithin
  | tune i f hf =>
    exact h.congr (Desk.viewed_modifyMonitor d i f fun m => congrArg Prod.fst (hf m).1)
      (fun _ => rfl) (fun _ => rfl) rfl
  | rules _ hr =>
    have hviews := hr.viewed
    obtain ⟨ms, o, rfl, -, -⟩ := hr
    exact h.congr hviews (fun _ => rfl) (fun _ => rfl) rfl
  | history i tags =>
    unfold Desk.update_tag_history
    split
    · rename_i mon hmon
      have hmon := (h.valid (List.mem_of_getElem? hmon)).within_tags
      split_ifs
      · refine ⟨h.views, h.tags, h.jump, ?_⟩
        refine Recency.forall_mem_modify (fun past hpast t ht => ?_) h.history i
        have ht' : t ∈ past.filter (fun t => decide (t ≠ mon.tags)) ++ [mon.tags] := by
          unfold Desk.pushHistory at ht
          dsimp only at ht
          split_ifs at ht
          · exact List.mem_of_mem_tail ht
          · exact ht
        rcases List.mem_append.1 ht' with ht | ht
        · exact hpast t (List.mem_of_mem_filter ht)
        · exact List.mem_singleton.1 ht ▸ hmon
      · exact h
    · exact h
  | forget i tags =>
    refine ⟨h.views, h.tags, h.jump, ?_⟩
    exact Recency.forall_mem_modify (fun past hpast t ht => hpast t (List.mem_of_mem_filter ht))
      h.history i
  | reload => exact h.congr rfl (fun _ => rfl) (fun _ => rfl) rfl
  | every =>
    refine ⟨fun v hv => ?_, h.tags, h.jump, h.history⟩
    obtain ⟨mon, hmon, rfl⟩ := List.mem_map.1 hv
    obtain ⟨mon', hmon', rfl⟩ := List.mem_map.1 hmon
    rw [hd]
    exact (h.valid hmon').run .apply nofun
  | life _ hl => exact hL d' hl

end Masked

/-! ### What events make or remove -/

/-- The monitor of a new output is valid, also when an earlier one is remembered. -/
theorem valid_newMonitor {cfg : Config} (hcfg : cfg.Usable) {d : Desk} (hd : d.cfg = cfg)
    (o : OutputId) (info : OutputInfo) : (d.newMonitor o info).Valid cfg := by
  unfold Desk.newMonitor
  dsimp only
  rw [hd]
  split
  · refine ⟨fun _ => one_ne_zero, fun _ => hcfg.within_one, fun _ => hcfg.min_lt _, ?_⟩
    intro idx hidx
    obtain ⟨i, -, hi⟩ := List.mem_map.1 hidx
    obtain ⟨j, -, rfl⟩ := Option.map_eq_some_iff.1 hi
    exact hcfg.min_lt j
  · refine ⟨fun _ => one_ne_zero, fun _ => hcfg.within_one, fun _ => hcfg.min_lt _, ?_⟩
    intro idx hidx
    cases List.eq_of_mem_replicate hidx

theorem masked_insertWindow {cfg : Config} (hcfg : cfg.Usable) {d : Desk} (h : Masked cfg d)
    (w : WinId) (c : Client) {f : WindowState → WindowState}
    (hf : ∀ s, (f s).tags = s.tags ∧ (f s).switch_to_tag = s.switch_to_tag) :
    Masked cfg (Rwl.insertWindow d w c f) := by
  have hplace : Within cfg.tag_mask (Rwl.newPlace d).2 := by
    unfold Rwl.newPlace
    cases hsel : d.sel_monitor with
    | none => exact hcfg.within_one
    | some mon => exact (h.valid (List.mem_of_getElem? hsel)).within_tags
  refine ⟨h.views, fun v => ?_, fun v t ht => ?_, h.history⟩
  · change Within _ (Function.update d.st w _ v).tags
    by_cases hv : v = w
    · subst hv
      rw [Function.update_self, (hf _).1]
      exact hplace
    · rw [Function.update_of_ne hv]
      exact h.tags v
  · change (Function.update d.st w _ v).switch_to_tag = some t at ht
    by_cases hv : v = w
    · subst hv
      rw [Function.update_self, (hf _).2] at ht
      cases ht
    · rw [Function.update_of_ne hv] at ht
      exact h.jump v t ht

theorem masked_try_swallow {cfg : Config} {d : Desk} (h : Masked cfg d) (w : WinId) :
    Masked cfg (swallow.try_swallow d w) := by
  unfold swallow.try_swallow
  dsimp only
  split
  · rename_i term _
    have hchild := h.modifyWindow w (f := fun s =>
      { s with
        tags := (d.st term).tags
        mon_idx := (d.st term).mon_idx
        is_floating := (d.st term).is_floating
        cfact := (d.st term).cfact
        needs_centering := (d.st term).is_floating
        swallowing := some term }) (h.tags term) (h.jump w)
    exact hchild.modifyWindow term (hchild.tags term) (hchild.jump term)
  · exact h

theorem masked_on_unmap {cfg : Config} {d : Desk} (h : Masked cfg d) (w : WinId) :
    Masked cfg (swallow.on_unmap d w) := by
  have hforget {d' : Desk} (h' : Masked cfg d') : Masked cfg
      { d' with st := d'.st.modifyAll d'.windows fun _ s =>
        { s with swallowing := if s.swallowing = some w then none else s.swallowing } } := by
    refine h'.congr rfl (fun v => ?_) (fun v => ?_) rfl
    · exact Windows.modifyAll_field WindowState.tags d'.st _ v _ fun _ _ => rfl
    · exact Windows.modifyAll_field WindowState.switch_to_tag d'.st _ v _ fun _ _ => rfl
  have hback (term : WinId) := h.modifyWindow term (f := fun s =>
    { s with is_swallowed := false, tags := (d.st w).tags, mon_idx := (d.st w).mon_idx })
    (h.tags w) (h.jump term)
  unfold swallow.on_unmap
  dsimp only
  split
  · split_ifs
    · exact hforget (hback _)
    · exact hback _
  · split_ifs
    · exact hforget h
    · exact h

theorem masked_removeMonitor {cfg : Config} (hcfg : cfg.Usable) {d : Desk} (h : Masked cfg d)
    (idx : ℕ) : Masked cfg (d.removeMonitor idx) := by
  let target := d.migrationTarget idx
  let target_tags := ((d.monitors[target]?).map Monitor.tags).getD 1
  have htarget : Within cfg.tag_mask target_tags := h.shown hcfg target
  have hst (v : WinId) : (d.removeMonitor idx).st v =
      if v ∈ d.windows then
        { Desk.migrateWindow idx target target_tags (d.st v) with
          mon_idx := Desk.shiftIndex idx (Desk.migrateWindow idx target target_tags (d.st v)).mon_idx }
      else d.st v := rfl
  refine ⟨fun v hv => ?_, fun v => ?_, fun v t ht => ?_, fun past hpast => ?_⟩
  · obtain ⟨mon, hmon, rfl⟩ := List.mem_map.1 hv
    exact h.valid (List.mem_of_mem_eraseIdx hmon)
  · rw [hst]
    split_ifs
    · change Within _ (Desk.migrateWindow idx target target_tags (d.st v)).tags
      unfold Desk.migrateWindow
      split_ifs
      · exact htarget
      · exact h.tags v
      · exact h.tags v
    · exact h.tags v
  · rw [hst] at ht
    refine h.jump v t ?_
    split_ifs at ht
    · rw [← ht]
      change _ = (Desk.migrateWindow idx target target_tags (d.st v)).switch_to_tag
      unfold Desk.migrateWindow
      split_ifs <;> rfl
    · exact ht
  · exact h.history past (List.mem_of_mem_eraseIdx hpast)

/-- **What an event makes or removes stays within the mask.** -/
theorem masked_life {cfg : Config} (hcfg : cfg.Usable) {g : Grab} {e : Rwl.Event}
    {d d' : Desk} (h : Masked cfg d) (hd : d.cfg = cfg) (hl : Rwl.Life g e d d') : Masked cfg d' := by
  cases hl with
  | toplevel _ w c =>
    have hinsert := masked_insertWindow hcfg h w c (f := id) fun _ => ⟨rfl, rfl⟩
    exact hinsert.congr rfl (fun _ => rfl) (fun _ => rfl) rfl
  | x11 _ w c float => exact masked_insertWindow hcfg h w c fun _ => ⟨rfl, rfl⟩
  | override _ w c =>
    refine ⟨h.views, fun v => ?_, fun v t ht => ?_, h.history⟩
    · change Within _ (Function.update d.st w _ v).tags
      by_cases hv : v = w
      · subst hv
        rw [Function.update_self]
        exact Mask.within_zero _
      · rw [Function.update_of_ne hv]
        exact h.tags v
    · change (Function.update d.st w _ v).switch_to_tag = some t at ht
      by_cases hv : v = w
      · subst hv
        rw [Function.update_self] at ht
        cases ht
      · rw [Function.update_of_ne hv] at ht
        exact h.jump v t ht
  | unmapped _ f w => exact masked_on_unmap h w
  | swallowed _ f b w => exact masked_try_swallow h w
  | monitor _ o info =>
    refine ⟨fun v hv => ?_, h.tags, h.jump, fun past hpast => ?_⟩
    · obtain ⟨mon, hmon, rfl⟩ := List.mem_map.1 hv
      rcases List.mem_append.1 hmon with hmon | hmon
      · exact h.valid hmon
      · obtain rfl := List.mem_singleton.1 hmon
        exact valid_newMonitor hcfg hd o info
    · rcases List.mem_append.1 hpast with hpast | hpast
      · exact h.history past hpast
      · obtain rfl := List.mem_singleton.1 hpast
        nofun
  | unplugged _ o i => exact masked_removeMonitor hcfg h i
  | dragged_by _ _ _ _ hdrag | dragged_to _ _ _ _ hdrag =>
    obtain ⟨_, _, _, i, _, rfl⟩ := hdrag
    exact h.congr (Desk.viewed_modifyMonitor d i _ fun _ => rfl) (fun _ => rfl) (fun _ => rfl) rfl
  | closed | x11_unmapped | x11_destroyed | popup_unmapped | popup_destroyed | unpaired | paired
  | mapped | disconnected | jump | slide =>
    exact h.congr rfl (fun _ => rfl) (fun _ => rfl) rfl

/-! ### Runs -/

theorem cfg_life {g : Grab} {e : Rwl.Event} {d d' : Desk} (hl : Rwl.Life g e d d') :
    d'.cfg = d.cfg := by
  cases hl with
  | unmapped _ f w =>
    unfold swallow.on_unmap
    dsimp only
    split <;> split_ifs <;> rfl
  | swallowed _ f b w =>
    unfold swallow.try_swallow
    dsimp only
    split <;> rfl
  | toplevel | closed | x11 | override | x11_unmapped | x11_destroyed | popup_unmapped
  | popup_destroyed | unpaired | paired | mapped | disconnected | monitor | unplugged | jump
  | slide => rfl
  | dragged_by _ _ _ _ hd | dragged_to _ _ _ _ hd =>
    obtain ⟨_, _, _, _, _, rfl⟩ := hd
    rfl

/-- Only a reload changes the configuration. -/
theorem Desk.Change.cfg {file : Config} {L : Desk → Desk → Prop} {d d' : Desk}
    (hL : ∀ d', L d d' → d'.cfg = d.cfg) (hc : Desk.Change file L d d') :
    d'.cfg = d.cfg ∨ d'.cfg = file := by
  cases hc with
  | relaid _ hbare => exact .inl (congrArg Desk.cfg hbare :)
  | history i tags => exact .inl (Desk.cfg_update_tag_history d i tags)
  | life _ hl => exact .inl (hL d' hl)
  | reload => exact .inr rfl
  | rules _ hr =>
    obtain ⟨ms, o, rfl, -, -⟩ := hr
    exact .inl rfl
  | clock | processes | gaps | outputs | unslide | client | select | raise | lower | front
  | window | monitor | back | tune | forget | every => exact .inl rfl

namespace Rwl

/-- What small updates keep under a configuration is kept by a chain of them that starts and ends
under it: a reload of another configuration cannot be undone before the next event. -/
theorem Moves.under_config {cfg : Config} {I : Desk → Prop} {e : Event} {s s' : Rwl}
    (h : Moves (Life s.grab e) s s')
    (hstep : ∀ d d', d.cfg = cfg → I d → Desk.Change s.config_file (Life s.grab e) d d' → I d')
    (hs : s.desk.cfg = cfg) (hm : I s.desk) (hs' : s'.desk.cfg = cfg) : I s'.desk := by
  have hchain : ∀ d, Desk.Changes s.config_file (Life s.grab e) s.desk d →
      (d.cfg = cfg ∧ I d) ∨ (d.cfg = s.config_file ∧ s.config_file ≠ cfg) := by
    intro d hd
    induction hd with
    | refl => exact .inl ⟨hs, hm⟩
    | @tail d d' _ hc ih =>
      have hkeep := hc.cfg fun _ hl => cfg_life hl
      rcases ih with ⟨hd, hmd⟩ | ⟨hd, hfile⟩
      · have hmd' : I d' := hstep d d' hd hmd hc
        by_cases hd' : d'.cfg = cfg
        · exact .inl ⟨hd', hmd'⟩
        · rcases hkeep with hkeep | hkeep
          · exact absurd (hkeep.trans hd) hd'
          · exact .inr ⟨hkeep, fun hf => hd' (hkeep.trans hf)⟩
      · exact .inr ⟨hkeep.elim (fun h => h.trans hd) id, hfile⟩
  rcases hchain _ h.changes with ⟨-, hkept⟩ | ⟨hd, hfile⟩
  · exact hkept
  · exact absurd (hd.symm.trans hs') hfile

/-- The event leaves the configuration as it is. -/
def KeepsConfig (s : Rwl) (e : Event) : Prop := (step s e).desk.cfg = s.desk.cfg

/-- What small updates keep under a configuration is kept by an event that leaves it. -/
theorem step_under_config {cfg : Config} {I : Desk → Prop} {s : Rwl} {e : Event}
    (hstep : ∀ d d', d.cfg = cfg → I d → Desk.Change s.config_file (Life s.grab e) d d' → I d')
    (hs : s.desk.cfg = cfg) (hm : I s.desk) (he : KeepsConfig s e) : I (step s e).desk := by
  by_cases hwritten : ∃ file, e = .config_written file
  · obtain ⟨file, rfl⟩ := hwritten
    exact hm
  · have hmoves : Moves (Life s.grab e) s (step s e) :=
      .step s e (fun file hf => hwritten ⟨file, hf⟩) fun _ _ hl => hl
    exact hmoves.under_config hstep hs hm (he.trans hs)

theorem masked_step {cfg : Config} (hcfg : cfg.Usable) {s : Rwl} {e : Event}
    (hs : s.desk.cfg = cfg) (hm : Masked cfg s.desk) (he : KeepsConfig s e) :
    Masked cfg (step s e).desk :=
  step_under_config (fun _ _ hd hmd hc =>
    hmd.change hcfg hd (fun _ hl => masked_life hcfg hmd hd hl) hc) hs hm he

/-- While the file is the configuration in force, an event that does not write it keeps both. -/
theorem keepsConfig_of_file {s : Rwl} {e : Event} (hs : s.config_file = s.desk.cfg)
    (he : ∀ file, e ≠ .config_written file) :
    KeepsConfig s e ∧ (step s e).config_file = s.config_file := by
  have hmoves : Moves (Life s.grab e) s (step s e) := .step s e he fun _ _ hl => hl
  refine ⟨?_, hmoves.file⟩
  have hchain : ∀ d, Desk.Changes s.config_file (Life s.grab e) s.desk d → d.cfg = s.desk.cfg := by
    intro d hd
    induction hd with
    | refl => rfl
    | tail _ hc ih => exact (hc.cfg fun _ hl => cfg_life hl).elim (fun h => h.trans ih) (fun h => h.trans hs)
  exact hchain _ hmoves.changes

/-- A run that never writes the configuration file keeps its configuration. -/
theorem guarded_keepsConfig {s : Rwl} (hs : s.config_file = s.desk.cfg) {es : List Event}
    (hes : ∀ e ∈ es, ∀ file, e ≠ .config_written file) :
    Transition.Guarded step KeepsConfig s es := by
  induction es generalizing s with
  | nil => trivial
  | cons e es ih =>
    obtain ⟨hkeep, hfile⟩ := keepsConfig_of_file hs (hes e List.mem_cons_self)
    refine ⟨hkeep, ih ?_ fun e' he' => hes e' (List.mem_cons_of_mem e he')⟩
    rw [hfile, hs]
    exact hkeep.symm

/-- **Monitor views stay valid.** In every run that keeps its configuration, whatever the masks
and the indices of its events, both tag slots of every monitor are non-empty and within the tag
mask, and its layout slots and pins are layouts of the configuration. -/
theorem monitor_views_valid (env : Setup) (hcfg : env.cfg.Usable) (es : List Event)
    (h : Transition.Guarded step KeepsConfig (init env) es) :
    Transition.Always step (fun s => ∀ mon ∈ s.desk.monitors, mon.Valid s.desk.cfg) (init env)
      es := by
  have hinit : Masked env.cfg (init env).desk :=
    ⟨nofun, fun _ => Mask.within_zero _, nofun, nofun⟩
  have hinv := h.always (I := fun s => s.desk.cfg = env.cfg ∧ Masked env.cfg s.desk)
    (fun s e hs he => ⟨he.trans hs.1, masked_step hcfg hs.1 hs.2 he⟩) ⟨rfl, hinit⟩
  refine hinv.mono ?_
  rintro s ⟨hs, hm⟩ mon hmon
  exact hs ▸ hm.valid hmon

/-- Two outputs come and one goes, a key toggles a tag, the socket shows other tags and a layout
that does not exist. -/
theorem monitor_views_valid_plain :
    (plainConfig [⟨0, 5, .ToggleView 6, none⟩] []).Usable ∧
      Transition.Always step (fun s => ∀ mon ∈ s.desk.monitors, mon.Valid s.desk.cfg)
        (init (plainSetup [⟨0, 5, .ToggleView 6, none⟩] []))
        [.output_added 0 (plainOutput "a"), .output_added 1 (plainOutput "b"), .key 5 true,
          .ipc_outputs .view none 1000, .ipc_outputs .setlayout (some 1) 7, .ipc .ViewPrev,
          .output_removed 0] := by
  have hcfg : (plainConfig [⟨0, 5, .ToggleView 6, none⟩] []).Usable :=
    ⟨by decide, List.cons_ne_nil _ _⟩
  exact ⟨hcfg, monitor_views_valid _ hcfg _ (guarded_keepsConfig rfl (by simp))⟩

end Rwl

end Compositor
