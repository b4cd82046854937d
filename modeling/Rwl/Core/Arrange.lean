import Mathlib.Tactic.Common
import Rwl.Lib.Recency
import Rwl.Core.Desk

/-!
# Arranging the desk

* `Display`, `display`: the category the partition loop of `arrange` puts a window in;
* `hide`, `placeTiled`, `placeFloating`, `placeFullscreen`, `placeScratch`: what `arrange` does
  to one window of each category;
* `arrange`, `update_work_areas`, `arrangePasses` (the part of `arrange_all` that moves windows);
* the tag slides `mark_slide_outs`, `start_tag_transition`, `advance_tag_transitions`,
  `finalize_slide_outs`;
* `bare` forgets everything a layout pass may write; `bare_arrange`, `bare_arrangePasses` and
  their companions say that nothing else changes.
-/

namespace Compositor

namespace Desk

/-! ### One pass -/

/-- Where the partition of `arrange` puts a window; `off` windows are shown by another monitor,
or wait for their rules. -/
inductive Display
  | hidden
  | tiled
  | floating
  | fullscreen
  | off
  deriving DecidableEq

/-- The partition of `arrange` for the view `tags`. -/
def display (tags all_visible : ℕ) (st : WindowState) : Display :=
  if st.is_swallowed then .hidden
  else if st.tags &&& all_visible = 0 then .hidden
  else if st.tags &&& tags ≠ 0 then
    if st.is_fullscreen then .fullscreen
    else if st.is_floating then .floating
    else if st.rules_applied then .tiled
    else .off
  else .off

/-- The windows of one category, in window-list order. -/
def shown (d : Desk) (tags : ℕ) (k : Display) : List WinId :=
  d.windows.filter fun w => decide (display tags d.all_visible (d.st w) = k)

/-- Remember the position of a floating window that is about to be unmapped. -/
def saveLoc (d : Desk) (w : WinId) : Desk :=
  match d.element_geometry w with
  | some geom =>
      if (d.st w).is_floating then d.modifyWindow w fun s => { s with saved_loc := some geom.loc }
      else d
  | none => d

/-- Unmap a window; one that slides out stays. -/
def hide (d : Desk) (w : WinId) : Desk :=
  if (d.st w).slide_out ∧ (d.st w).slide_start.isSome then d
  else { d.saveLoc w with space := Space.unmap_elem d.space w }

/-- Put a tiled window at its rectangle. -/
def placeTiled (focused : Option WinId) (is_monocle : Bool) (d : Desk) (p : WinId × Rect) : Desk :=
  let (w, geom) := p
  let space := match d.element_geometry w with
    | none => Space.map_element d.space w geom.loc
    | some g =>
        if g.loc ≠ geom.loc then Space.relocate_element d.space w geom.loc
        else if focused = some w ∧ is_monocle then Space.map_element d.space w geom.loc
        else d.space
  { d.modifyWindow w (fun s => { s with pending_geom := some geom }) with space := space }

/-- The position a floating window takes: its current one, else the saved one, else the corner
of the work area. -/
def floatingLoc (d : Desk) (default_loc : Point) (w : WinId) : Point :=
  (((d.element_geometry w).map Rect.loc).or (d.st w).saved_loc).getD default_loc

/-- Map a floating window on top; a scratchpad is mapped later. -/
def placeFloating (default_loc : Point) (d : Desk) (w : WinId) : Desk :=
  let space :=
    if (d.st w).scratch_key = noScratch then
      Space.map_element d.space w (d.floatingLoc default_loc w)
    else d.space
  { d.modifyWindow w (fun s => { s with pending_geom := none }) with space := space }

/-- Map a fullscreen window over the whole output. -/
def placeFullscreen (fs_geom : Rect) (d : Desk) (w : WinId) : Desk :=
  { d.modifyWindow w (fun s => { s with pending_geom := some fs_geom }) with
    space := Space.map_element d.space w fs_geom.loc }

/-- Map a scratchpad above the fullscreen windows. -/
def placeScratch (default_loc : Point) (d : Desk) (w : WinId) : Desk :=
  { d with space := Space.map_element d.space w (d.floatingLoc default_loc w) }

/-- The count-based layout of a single-tag view. -/
def applyDynamic (d : Desk) (mon_idx tags : ℕ) : Desk :=
  if pertag_layouts.is_single tags then
    d.modifyMonitor mon_idx fun m => pertag_layouts.apply_dynamic d.cfg m tags (d.count_tiled tags)
  else d

/-- Keep `scroll_col` on the focused column in the scrollable layouts. -/
def syncScrollCol (d : Desk) (mon_idx : ℕ) (focused : Option WinId) (tiled : List WinId) : Desk :=
  d.modifyMonitor mon_idx fun m =>
    if m.layout_kind d.cfg = .Monocle ∨ m.layout_kind d.cfg = .Scroll then
      let focus_idx := tiled.findIdx? fun w => decide (focused = some w)
      { m with scroll_col := focus_idx.getD (min m.scroll_col (tiled.length - 1)) }
    else m

/-- The rectangles of the tiled windows of monitor `m`. -/
def tiledGeoms (d : Desk) (m : Monitor) (tiled : List WinId) : List Rect :=
  layout.arrange d.cfg d.gaps_enabled
    (d.on_arrange d.lua_calls tiled.length m.w m.mfact m.nmaster (m.layout_symbol d.cfg)) m
    (tiled.map fun w => (d.st w).cfact)

/-- Place the tiled windows of `mon_idx` where its layout puts them. -/
def placeTiles (d : Desk) (mon_idx : ℕ) (focused : Option WinId) (tiled : List WinId) : Desk :=
  match d.monitors[mon_idx]? with
  | none => d
  | some m =>
      let geoms := d.tiledGeoms m tiled
      let is_monocle := decide (m.layout_kind d.cfg = .Monocle)
      { (tiled.zip geoms).foldl (placeTiled focused is_monocle) d with
        lua_calls := d.lua_calls + 1 }

/-- `arrange`. -/
def arrange (d : Desk) (mon_idx : ℕ) : Desk :=
  match d.monitors[mon_idx]? with
  | none => d
  | some mon =>
      let tags := mon.tags
      let tiled := d.shown tags .tiled
      let floating := d.shown tags .floating
      let scratch := floating.filter fun w => decide ((d.st w).scratch_key ≠ noScratch)
      let focused := d.topOn tags mon_idx
      let d₁ := (d.shown tags .hidden).foldl hide (d.applyDynamic mon_idx tags)
      let d₂ := (d₁.syncScrollCol mon_idx focused tiled).placeTiles mon_idx focused tiled
      let d₃ := floating.foldl (placeFloating mon.w.loc) d₂
      let d₄ := (d.shown tags .fullscreen).foldl (placeFullscreen mon.m) d₃
      scratch.foldl (placeScratch mon.w.loc) d₄

/-! ### Work areas and tag slides -/

/-- The work area `update_work_areas` gives a monitor. -/
def workArea (info : OutputInfo) (mon : Monitor) : Rect :=
  let zone := info.zone
  let new_w :=
    if 0 < zone.size.w ∧ 0 < zone.size.h then
      ⟨⟨mon.m.loc.x + zone.loc.x, mon.m.loc.y + zone.loc.y⟩, zone.size⟩
    else mon.m
  -- a full-output zone while a bar is mapped is a transient state of the layer map
  if !info.layers.isEmpty ∧ info.has_exclusive_layers ∧ new_w = mon.m ∧ mon.w ≠ mon.m then mon.w
  else new_w

/-- `update_work_areas`. -/
def update_work_areas (d : Desk) : Desk :=
  { d with monitors := d.monitors.map fun mon => { mon with w := workArea (d.output mon.output) mon } }

/-- Whether a switch between the two views slides. -/
def slides (d : Desk) (old_tag new_tags : ℕ) : Prop :=
  old_tag ≠ 0 ∧ new_tags ≠ 0 ∧ new_tags ≠ old_tag ∧ d.cfg.tag_transition = true ∧
    d.cfg.tag_transition_ms ≠ 0

instance (d : Desk) (old_tag new_tags : ℕ) : Decidable (d.slides old_tag new_tags) :=
  inferInstanceAs (Decidable (_ ∧ _))

/-- The way the new view comes from: the sign of the slide distance. -/
def slideFrom (old_tag new_tags : ℕ) (output_w : ℚ) : ℚ :=
  if pertag_layouts.trailing_zeros old_tag ≤ pertag_layouts.trailing_zeros new_tags then output_w
  else -output_w

/-- `mark_slide_outs`. -/
def mark_slide_outs (d : Desk) (old_tag new_tag_raw : ℕ) (output_w : ℚ) : Desk :=
  let new_tags := new_tag_raw &&& d.cfg.tag_mask
  if d.slides old_tag new_tags then
    { d with st := d.st.modifyAll d.windows fun _ s =>
        if s.tags &&& old_tag ≠ 0 ∧ s.tags &&& new_tags = 0 then
          { s with
            slide_from_x := 0
            slide_to_x := -slideFrom old_tag new_tags output_w
            slide_offset_x := 0
            slide_out := true
            slide_start := some d.now }
        else s }
  else d

/-- `start_tag_transition`. -/
def start_tag_transition (d : Desk) (old_tag new_tag_raw : ℕ) (output_w : ℚ) : Desk :=
  let new_tags := new_tag_raw &&& d.cfg.tag_mask
  if d.slides old_tag new_tags then
    { d with st := d.st.modifyAll d.windows fun _ s =>
        if s.tags &&& new_tags ≠ 0 ∧ s.tags &&& old_tag = 0 ∧ s.slide_out = false ∧
            s.buffer_mapped = true then
          { s with
            slide_from_x := slideFrom old_tag new_tags output_w
            slide_to_x := 0
            slide_offset_x := slideFrom old_tag new_tags output_w
            slide_start := some d.now }
        else s }
  else d

/-- One window during `advance_tag_transitions`: cubic ease-out, and the end of the slide. -/
def advanceSlide (now duration_ms : ℕ) (s : WindowState) : WindowState :=
  match s.slide_start with
  | none => s
  | some start =>
      let t : ℚ := min ((now - start : ℕ) / duration_ms) 1
      let offset := s.slide_from_x + (s.slide_to_x - s.slide_from_x) * (1 - (1 - t) ^ 3)
      if 1 ≤ t then
        { s with
          slide_start := none
          slide_offset_x := if s.slide_out then offset else 0 }
      else { s with slide_offset_x := offset }

/-- `advance_tag_transitions`, on the mapped windows. -/
def advance_tag_transitions (d : Desk) : Desk :=
  if d.cfg.tag_transition = false ∨ d.cfg.tag_transition_ms = 0 then d
  else { d with st := d.st.modifyAll (d.space.map Prod.fst) fun _ s =>
    advanceSlide d.now d.cfg.tag_transition_ms s }

/-- Whether a mapped window still slides. -/
def anyTransitioning (d : Desk) : Bool :=
  d.cfg.tag_transition && decide (d.cfg.tag_transition_ms ≠ 0) &&
    d.space.any fun e => (d.st e.1).slide_start.isSome

/-- `finalize_slide_outs` on one window. -/
def finalizeSlideOut (all_visible : ℕ) (d : Desk) (w : WinId) : Desk :=
  let clear (s : WindowState) : WindowState := { s with slide_out := false, slide_offset_x := 0 }
  if (d.st w).tags &&& all_visible ≠ 0 then d.modifyWindow w clear
  else { (d.saveLoc w).modifyWindow w clear with space := Space.unmap_elem d.space w }

/-- `finalize_slide_outs`. -/
def finalize_slide_outs (d : Desk) : Desk :=
  (d.windows.filter fun w => (d.st w).slide_out && (d.st w).slide_start.isNone).foldl
    (finalizeSlideOut d.all_visible) d

/-- The desk part of `arrange_all`: work areas, one pass for each monitor, the pending slide. -/
def arrangePasses (d : Desk) : Desk :=
  let d₁ := { d.update_work_areas with pending_tag_transition := none }
  let d₂ := (List.range d₁.monitors.length).foldl arrange d₁
  match d.pending_tag_transition with
  | some (old, new, ow) => d₂.start_tag_transition old new ow
  | none => d₂

/-! ### What a layout pass leaves alone -/

/-- A monitor without the data a layout pass writes. -/
def bareMonitor (m : Monitor) : Monitor :=
  { m with lt := fun _ => 0, sel_lt := false, scroll_col := 0, w := Rect.zero }

/-- A window state without the data a layout pass or a slide writes. -/
def bareWindow (s : WindowState) : WindowState :=
  { s with
    saved_loc := none
    pending_geom := none
    slide_from_x := 0
    slide_to_x := 0
    slide_offset_x := 0
    slide_start := none
    slide_out := false }

/-- The desk without the data a layout pass writes. -/
def bare (d : Desk) : Desk :=
  { d with
    lua_calls := 0
    space := []
    st := fun w => bareWindow (d.st w)
    monitors := d.monitors.map bareMonitor
    pending_tag_transition := none }

theorem bare_modifyWindow (d : Desk) (w : WinId) (f : WindowState → WindowState)
    (h : ∀ s, bareWindow (f s) = bareWindow s) : (d.modifyWindow w f).bare = d.bare := by
  have : (fun v => bareWindow (d.st.modify w f v)) = fun v => bareWindow (d.st v) :=
    funext fun v => Windows.modify_field bareWindow d.st w v f h
  simp only [bare, modifyWindow, this]

theorem bare_modifyAll (d : Desk) (l : List WinId) (f : WinId → WindowState → WindowState)
    (h : ∀ w s, bareWindow (f w s) = bareWindow s) :
    ({ d with st := d.st.modifyAll l f } : Desk).bare = d.bare := by
  have : (fun v => bareWindow (d.st.modifyAll l f v)) = fun v => bareWindow (d.st v) :=
    funext fun v => Windows.modifyAll_field bareWindow d.st l v f h
  simp only [bare, this]

theorem bare_modifyMonitor (d : Desk) (i : ℕ) (f : Monitor → Monitor)
    (h : ∀ m, bareMonitor (f m) = bareMonitor m) : (d.modifyMonitor i f).bare = d.bare := by
  simp only [bare, modifyMonitor, Recency.map_modify_eq bareMonitor f h]

theorem bare_saveLoc (d : Desk) (w : WinId) : (d.saveLoc w).bare = d.bare := by
  unfold saveLoc
  split
  · split_ifs
    · exact bare_modifyWindow d w _ fun _ => rfl
    · rfl
  · rfl

theorem bare_hide (d : Desk) (w : WinId) : (d.hide w).bare = d.bare := by
  unfold hide
  split_ifs
  · rfl
  · exact bare_saveLoc d w

theorem bare_placeTiled (focused : Option WinId) (mono : Bool) (d : Desk) (p : WinId × Rect) :
    (placeTiled focused mono d p).bare = d.bare :=
  bare_modifyWindow d p.1 (fun s => { s with pending_geom := some p.2 }) fun _ => rfl

theorem bare_placeFloating (loc : Point) (d : Desk) (w : WinId) :
    (placeFloating loc d w).bare = d.bare :=
  bare_modifyWindow d w (fun s => { s with pending_geom := none }) fun _ => rfl

theorem bare_placeFullscreen (geom : Rect) (d : Desk) (w : WinId) :
    (placeFullscreen geom d w).bare = d.bare :=
  bare_modifyWindow d w (fun s => { s with pending_geom := some geom }) fun _ => rfl

theorem bare_placeScratch (loc : Point) (d : Desk) (w : WinId) :
    (placeScratch loc d w).bare = d.bare := rfl

theorem bareMonitor_apply_dynamic (cfg : Config) (m : Monitor) (tags n : ℕ) :
    bareMonitor (pertag_layouts.apply_dynamic cfg m tags n) = bareMonitor m := by
  have set (idx : ℕ) :
      bareMonitor (pertag_layouts.set_monitor_layout cfg m idx) = bareMonitor m := by
    unfold pertag_layouts.set_monitor_layout
    split_ifs <;> rfl
  unfold pertag_layouts.apply_dynamic
  dsimp only
  split_ifs
  · rfl
  · rfl
  · split
    · split
      · rfl
      · exact set _
    · rfl
    · rfl

theorem bare_applyDynamic (d : Desk) (i tags : ℕ) : (d.applyDynamic i tags).bare = d.bare := by
  unfold applyDynamic
  split_ifs
  · exact bare_modifyMonitor d i _ fun m => bareMonitor_apply_dynamic d.cfg m tags _
  · rfl

theorem bare_syncScrollCol (d : Desk) (i : ℕ) (focused : Option WinId) (tiled : List WinId) :
    (d.syncScrollCol i focused tiled).bare = d.bare := by
  refine bare_modifyMonitor d i _ fun m => ?_
  dsimp only
  split_ifs <;> rfl

theorem bare_placeTiles (d : Desk) (i : ℕ) (focused : Option WinId) (tiled : List WinId) :
    (d.placeTiles i focused tiled).bare = d.bare := by
  unfold placeTiles
  split
  · rfl
  · exact Recency.foldl_keeps bare _ (bare_placeTiled focused _) _ d

/-- **A layout pass writes layout data only.** -/
theorem bare_arrange (d : Desk) (i : ℕ) : (d.arrange i).bare = d.bare := by
  unfold arrange
  split
  · rfl
  · dsimp only
    rw [Recency.foldl_keeps bare _ (bare_placeScratch _), Recency.foldl_keeps bare _ (bare_placeFullscreen _),
      Recency.foldl_keeps bare _ (bare_placeFloating _), bare_placeTiles, bare_syncScrollCol,
      Recency.foldl_keeps bare hide bare_hide, bare_applyDynamic]

theorem bare_update_work_areas (d : Desk) : d.update_work_areas.bare = d.bare := by
  simp only [bare, update_work_areas, List.map_map]
  congr 1

theorem bare_mark_slide_outs (d : Desk) (old new : ℕ) (ow : ℚ) :
    (d.mark_slide_outs old new ow).bare = d.bare := by
  unfold mark_slide_outs
  dsimp only
  split_ifs
  · refine bare_modifyAll d _ _ fun _ s => ?_
    split_ifs <;> rfl
  · rfl

theorem bare_start_tag_transition (d : Desk) (old new : ℕ) (ow : ℚ) :
    (d.start_tag_transition old new ow).bare = d.bare := by
  unfold start_tag_transition
  dsimp only
  split_ifs
  · refine bare_modifyAll d _ _ fun _ s => ?_
    split_ifs <;> rfl
  · rfl

theorem bare_advance_tag_transitions (d : Desk) : d.advance_tag_transitions.bare = d.bare := by
  unfold advance_tag_transitions
  split_ifs
  · rfl
  · refine bare_modifyAll d _ _ fun _ s => ?_
    unfold advanceSlide
    split
    · rfl
    · dsimp only
      split_ifs <;> rfl

theorem bare_finalizeSlideOut (all_visible : ℕ) (d : Desk) (w : WinId) :
    (finalizeSlideOut all_visible d w).bare = d.bare := by
  have clear (d : Desk) :
      (d.modifyWindow w fun s => { s with slide_out := false, slide_offset_x := 0 }).bare =
        d.bare := bare_modifyWindow d w _ fun _ => rfl
  unfold finalizeSlideOut
  dsimp only
  split_ifs
  · exact clear d
  · exact (clear _).trans (bare_saveLoc d w)

theorem bare_finalize_slide_outs (d : Desk) : d.finalize_slide_outs.bare = d.bare :=
  Recency.foldl_keeps bare _ (bare_finalizeSlideOut _) _ d

/-- **`arrange_all` writes layout data only.** -/
theorem bare_arrangePasses (d : Desk) : d.arrangePasses.bare = d.bare := by
  have passes (l : List ℕ) :
      (l.foldl arrange { d.update_work_areas with pending_tag_transition := none }).bare =
        d.bare :=
    (Recency.foldl_keeps bare arrange bare_arrange l _).trans (bare_update_work_areas d)
  unfold arrangePasses
  dsimp only
  split
  · exact (bare_start_tag_transition _ _ _ _).trans (passes _)
  · exact passes _

end Desk

end Compositor
