import Mathlib.Tactic.Common
import Rwl.Lib.Stacking
import Rwl.Theory.InForce
import Rwl.Theory.LayoutColumns
import Rwl.Theory.Settled

/-!
# Layout passes as programs on the stack of windows

* `Desk.passed`: a monitor after its pass; `Desk.program`, `Desk.pendings`: what the pass does to
  the stack of windows and to the sizes asked for;
* `Desk.Alike`: two desks that a pass cannot tell apart but for stack and monitors;
* `arrange_space`, `arrange_monitors`, `arrange_st`: a pass is its program;
* `passes_space`, `passes_monitors`, `passes_st`: and so are the passes over all monitors;
* `arrange_all_settles`: after two rounds of passes a third changes nothing.
-/

namespace Compositor

open Stacking (Instr run)

namespace Desk

variable {d d' : Desk} {i : ℕ} {mon : Monitor}

/-! ### One pass, described -/

/-- The scrolled column follows the focused window in the scrollable layouts. -/
def synced (d : Desk) (i tags : ℕ) (m : Monitor) : Monitor :=
  if m.layout_kind d.cfg = .Monocle ∨ m.layout_kind d.cfg = .Scroll then
    let tiled := d.shown tags .tiled
    let focus_idx := tiled.findIdx? fun w => decide (d.topOn tags i = some w)
    { m with scroll_col := focus_idx.getD (min m.scroll_col (tiled.length - 1)) }
  else m

/-- A monitor after its layout pass. -/
def passed (d : Desk) (i : ℕ) (mon : Monitor) : Monitor :=
  d.synced i mon.tags
    (pertag_layouts.apply_dynamic d.cfg mon mon.tags (d.count_tiled mon.tags))

/-- The visible floating windows that are no scratchpads. -/
def floats (d : Desk) (tags : ℕ) : List WinId :=
  (d.shown tags .floating).filter fun w => decide ((d.st w).scratch_key = noScratch)

/-- The visible scratchpads. -/
def scratches (d : Desk) (tags : ℕ) : List WinId :=
  (d.shown tags .floating).filter fun w => decide ((d.st w).scratch_key ≠ noScratch)

/-- The hidden windows that a pass unmaps. -/
def leaving (d : Desk) (tags : ℕ) : List WinId :=
  (d.shown tags .hidden).filter fun w => !d.slidesOut w

/-- Bring a floating window to the top where it is, or where it was, or in the corner. -/
def lifted (d : Desk) (m : Monitor) (w : WinId) : Instr WinId Point :=
  .lift w ((d.st w).saved_loc.getD m.w.loc)

/-- Put a tiled window at its rectangle. -/
def tiledAt (d : Desk) (i : ℕ) (m : Monitor) (p : WinId × Rect) : Instr WinId Point :=
  .tile p.1 p.2.loc (decide (d.topOn m.tags i = some p.1 ∧ m.layout_kind d.cfg = .Monocle))

/-- The tiled windows with their rectangles. -/
def tiles (d : Desk) (m : Monitor) : List (WinId × Rect) :=
  (d.shown m.tags .tiled).zip (d.tiledGeoms m (d.shown m.tags .tiled))

/-- What the pass of monitor `i`, which is `m` afterwards, does to the stack of windows. -/
def program (d : Desk) (i : ℕ) (m : Monitor) : List (Instr WinId Point) :=
  (d.leaving m.tags).map Instr.drop ++ (d.tiles m).map (d.tiledAt i m) ++
    (d.floats m.tags).map (d.lifted m) ++
    (d.shown m.tags .fullscreen).map (fun w => Instr.cover w m.m.loc) ++
    (d.scratches m.tags).map (d.lifted m)

/-- The rectangles the pass asks its windows to take; a floating one chooses its own. -/
def pendings (d : Desk) (m : Monitor) : List (WinId × Option Rect) :=
  (d.tiles m).map (fun p => (p.1, some p.2)) ++
    (d.shown m.tags .floating).map (fun w => (w, none)) ++
    (d.shown m.tags .fullscreen).map fun w => (w, some m.m)

/-- The rectangle a window is asked to take last. -/
def lastPending (ps : List (WinId × Option Rect)) (w : WinId) (x : Option Rect) : Option Rect :=
  ps.foldl (fun x p => if p.1 = w then p.2 else x) x

/-- A window state with the rectangle asked for last. -/
def pended (ps : List (WinId × Option Rect)) (w : WinId) (s : WindowState) : WindowState :=
  { s with pending_geom := lastPending ps w s.pending_geom }

/-! ### The steps of a pass on the stack -/

/-- The steps of a round, one after the other, are a program. -/
theorem space_foldl {α : Type*} {f : Desk → α → Desk} {g : Desk → α → Instr WinId Point}
    (hspace : ∀ d a, (f d a).space = Stacking.exec d.space (g d a))
    (hkeep : ∀ d a, g (f d a) = g d) (l : List α) (d : Desk) :
    (l.foldl f d).space = run d.space (l.map (g d)) := by
  induction l generalizing d with
  | nil => rfl
  | cons a l ih =>
    rw [List.foldl_cons, ih, hkeep, hspace]
    rfl

/-- The steps that a round leaves out do nothing. -/
theorem space_foldl_filter {α : Type*} {f : Desk → α → Desk} {g : Desk → α → Instr WinId Point}
    {p : Desk → α → Bool}
    (hspace : ∀ d a, (f d a).space =
      if p d a = true then Stacking.exec d.space (g d a) else d.space)
    (hkeep : ∀ d a, g (f d a) = g d) (hp : ∀ d a, p (f d a) = p d) (l : List α) (d : Desk) :
    (l.foldl f d).space = run d.space ((l.filter (p d)).map (g d)) := by
  induction l generalizing d with
  | nil => rfl
  | cons a l ih =>
    rw [List.foldl_cons, ih, hkeep, hp, hspace]
    by_cases ha : p d a = true
    · rw [if_pos ha, List.filter_cons_of_pos ha]
      rfl
    · rw [if_neg ha, List.filter_cons_of_neg ha]

theorem space_hide (d : Desk) (w : WinId) :
    (d.hide w).space =
      if (!d.slidesOut w) = true then Stacking.exec d.space (.drop w) else d.space := by
  unfold hide slidesOut
  by_cases h : (d.st w).slide_out = true ∧ (d.st w).slide_start.isSome = true
  · rw [if_pos h, if_neg (by simp [h])]
  · have hslides : (!((d.st w).slide_out && (d.st w).slide_start.isSome)) = true := by
      rw [Bool.not_eq_true', ← Bool.not_eq_true, Bool.and_eq_true_iff]
      exact h
    rw [if_neg h, if_pos hslides]
    rfl

theorem space_foldl_hide (l : List WinId) (d : Desk) :
    (l.foldl hide d).space =
      run d.space ((l.filter fun w => !d.slidesOut w).map Instr.drop) :=
  space_foldl_filter (g := fun _ => Instr.drop) (p := fun d w => !d.slidesOut w) space_hide
    (fun _ _ => rfl)
    (fun d w => by rw [slidesOut_of_unplaced (unplaced_hide d w)]) l d

theorem space_placeTiled (focused : Option WinId) (mono : Bool) (d : Desk) (p : WinId × Rect) :
    (placeTiled focused mono d p).space =
      Stacking.exec d.space (.tile p.1 p.2.loc (decide (focused = some p.1 ∧ mono = true))) := by
  unfold placeTiled Stacking.exec element_geometry
  dsimp only
  have hloc : Space.element_location d.space p.1 = Stacking.loc d.space p.1 := rfl
  rw [hloc]
  rcases Stacking.loc d.space p.1 with _ | loc
  · rfl
  · simp only [Option.map_some, decide_eq_true_eq]
    rfl

theorem space_placeFloating (loc : Point) (d : Desk) (w : WinId) :
    (placeFloating loc d w).space =
      if decide ((d.st w).scratch_key = noScratch) = true then
        Stacking.exec d.space (.lift w ((d.st w).saved_loc.getD loc))
      else d.space := by
  unfold placeFloating floatingLoc element_geometry
  dsimp only
  have hloc : Space.element_location d.space w = Stacking.loc d.space w := rfl
  rw [hloc]
  simp only [decide_eq_true_eq]
  split_ifs
  · unfold Stacking.exec
    dsimp only
    rcases Stacking.loc d.space w with _ | x <;> rfl
  · rfl

theorem space_placeScratch (loc : Point) (d : Desk) (w : WinId) :
    (placeScratch loc d w).space =
      Stacking.exec d.space (.lift w ((d.st w).saved_loc.getD loc)) := by
  unfold placeScratch floatingLoc element_geometry Stacking.exec
  dsimp only
  have hloc : Space.element_location d.space w = Stacking.loc d.space w := rfl
  rw [hloc]
  rcases Stacking.loc d.space w with _ | x <;> rfl

/-! ### The rounds of a pass -/

theorem space_tiled (focused : Option WinId) (mono : Bool) (ps : List (WinId × Rect)) (d : Desk) :
    (ps.foldl (placeTiled focused mono) d).space = run d.space
      (ps.map fun p => .tile p.1 p.2.loc (decide (focused = some p.1 ∧ mono = true))) :=
  space_foldl (f := placeTiled focused mono)
    (g := fun _ p => .tile p.1 p.2.loc (decide (focused = some p.1 ∧ mono = true)))
    (space_placeTiled focused mono) (fun _ _ => rfl) ps d

theorem space_floating (loc : Point) (l : List WinId) (d : Desk) :
    (l.foldl (placeFloating loc) d).space = run d.space
      ((l.filter fun w => decide ((d.st w).scratch_key = noScratch)).map fun w =>
        .lift w ((d.st w).saved_loc.getD loc)) := by
  have hfield {α : Type} (g : WindowState → α)
      (hg : ∀ st : WindowState, g { st with pending_geom := none } = g st) (d : Desk)
      (w v : WinId) : g ((placeFloating loc d w).st v) = g (d.st v) :=
    Windows.modify_field g d.st w v _ hg
  refine space_foldl_filter (f := placeFloating loc)
    (g := fun d w => .lift w ((d.st w).saved_loc.getD loc))
    (p := fun d w => decide ((d.st w).scratch_key = noScratch)) (space_placeFloating loc)
    (fun d w => funext fun v => ?_) (fun d w => funext fun v => ?_) l d
  · rw [hfield WindowState.saved_loc fun _ => rfl]
  · rw [hfield WindowState.scratch_key fun _ => rfl]

theorem space_fullscreen (geom : Rect) (l : List WinId) (d : Desk) :
    (l.foldl (placeFullscreen geom) d).space = run d.space (l.map fun w => .cover w geom.loc) :=
  space_foldl (f := placeFullscreen geom) (g := fun _ w => .cover w geom.loc) (fun _ _ => rfl)
    (fun _ _ => rfl) l d

theorem space_scratches (loc : Point) (l : List WinId) (d : Desk) :
    (l.foldl (placeScratch loc) d).space = run d.space
      (l.map fun w => .lift w ((d.st w).saved_loc.getD loc)) :=
  space_foldl (f := placeScratch loc) (g := fun d w => .lift w ((d.st w).saved_loc.getD loc))
    (space_placeScratch loc) (fun _ _ => rfl) l d

/-! ### What a pass reads -/

/-- Two desks that a layout pass tells apart in the stack, the monitors and the number of its call
only. -/
structure Alike (d d' : Desk) : Prop where
  bare : d'.bare = d.bare
  slides : d'.slidesOut = d.slidesOut
  saved : ∀ w, d.belongs w → (d'.st w).saved_loc = (d.st w).saved_loc

/-- The layout callback answers the same whenever it is asked. -/
def Steady (d : Desk) : Prop := ∀ k l, d.on_arrange k = d.on_arrange l

theorem Alike.refl (d : Desk) : Alike d d := ⟨rfl, rfl, fun _ _ => rfl⟩

theorem Alike.belongs (h : Alike d d') (w : WinId) : d'.belongs w ↔ d.belongs w :=
  belongs_of_scene (scene_of_bare h.bare)

theorem Alike.trans {d'' : Desk} (h : Alike d d') (h' : Alike d' d'') : Alike d d'' where
  bare := h'.bare.trans h.bare
  slides := h'.slides.trans h.slides
  saved w hw := (h'.saved w ((h.belongs w).2 hw)).trans (h.saved w hw)

theorem Alike.bareWindow (h : Alike d d') (w : WinId) :
    Desk.bareWindow (d'.st w) = Desk.bareWindow (d.st w) :=
  (congrArg (fun b : Desk => b.st w) h.bare :)

theorem Alike.all_visible (h : Alike d d') : d'.all_visible = d.all_visible :=
  all_visible_of_views (views_of_scene (scene_of_bare h.bare))

theorem Alike.shown (h : Alike d d') (tags : ℕ) (k : Display) :
    d'.shown tags k = d.shown tags k := by
  have hwindows : d'.windows = d.windows := (congrArg Desk.windows h.bare :)
  unfold Desk.shown
  rw [hwindows, h.all_visible]
  refine List.filter_congr fun w _ => ?_
  have hdisplay : display tags d.all_visible (d'.st w) = display tags d.all_visible (d.st w) :=
    (congrArg (display tags d.all_visible) (h.bareWindow w) :)
  rw [hdisplay]

theorem Alike.topOn (h : Alike d d') (tags i : ℕ) : d'.topOn tags i = d.topOn tags i := by
  have hstack : d'.focus_stack = d.focus_stack := (congrArg Desk.focus_stack h.bare :)
  unfold Desk.topOn
  rw [hstack]
  refine congrArg (List.find? · d.focus_stack) (funext fun w => ?_)
  exact (congrArg (fun st : WindowState => st.visible_on tags && decide (st.mon_idx = i))
    (h.bareWindow w) :)

theorem Alike.passed (h : Alike d d') (i : ℕ) (m : Monitor) : d'.passed i m = d.passed i m := by
  have hcfg : d'.cfg = d.cfg := (congrArg Desk.cfg h.bare :)
  unfold Desk.passed Desk.synced
  rw [hcfg, count_tiled_congr h.bare, h.shown, h.topOn]

theorem Alike.scratch_key (h : Alike d d') (w : WinId) :
    (d'.st w).scratch_key = (d.st w).scratch_key :=
  (congrArg WindowState.scratch_key (h.bareWindow w) :)

theorem Alike.floats (h : Alike d d') (tags : ℕ) : d'.floats tags = d.floats tags := by
  unfold Desk.floats
  simp only [h.shown, h.scratch_key]

theorem Alike.scratches (h : Alike d d') (tags : ℕ) : d'.scratches tags = d.scratches tags := by
  unfold Desk.scratches
  simp only [h.shown, h.scratch_key]

theorem Alike.leaving (h : Alike d d') (tags : ℕ) : d'.leaving tags = d.leaving tags := by
  unfold Desk.leaving
  rw [h.shown, h.slides]

/-- The rectangles of a layout are the same when its callback is asked the same. -/
theorem Alike.tiledGeoms (h : Alike d d')
    (hcall : d'.on_arrange d'.lua_calls = d.on_arrange d.lua_calls) (m : Monitor)
    (tiled : List WinId) : d'.tiledGeoms m tiled = d.tiledGeoms m tiled := by
  have hcfg : d'.cfg = d.cfg := (congrArg Desk.cfg h.bare :)
  have hgaps : d'.gaps_enabled = d.gaps_enabled := (congrArg Desk.gaps_enabled h.bare :)
  have hfacts : (tiled.map fun w => (d'.st w).cfact) = tiled.map fun w => (d.st w).cfact :=
    List.map_congr_left fun w _ => (congrArg WindowState.cfact (h.bareWindow w) :)
  unfold Desk.tiledGeoms
  rw [hcfg, hgaps, hcall, hfacts]

theorem Alike.call (h : Alike d d') (hsteady : d.Steady) (k l : ℕ) :
    d'.on_arrange k = d.on_arrange l := by
  have hsame : d'.on_arrange = d.on_arrange := (congrArg Desk.on_arrange h.bare :)
  rw [hsame, hsteady k l]

theorem Alike.tiles (h : Alike d d') (hsteady : d.Steady) (m : Monitor) :
    d'.tiles m = d.tiles m := by
  unfold Desk.tiles
  rw [h.shown, h.tiledGeoms (h.call hsteady _ _)]

theorem Alike.pendings (h : Alike d d') (hsteady : d.Steady) (m : Monitor) :
    d'.pendings m = d.pendings m := by
  unfold Desk.pendings
  rw [h.tiles hsteady, h.shown, h.shown]

/-- A floating window belongs on the screen, so where it was is remembered. -/
theorem Alike.lifted (h : Alike d d') {m : Monitor} {l : List WinId}
    (hl : ∀ w ∈ l, w ∈ d.shown m.tags .floating) : l.map (d'.lifted m) = l.map (d.lifted m) := by
  refine List.map_congr_left fun w hw => ?_
  unfold Desk.lifted
  rw [h.saved w (belongs_of_maps (.inr (.inl (hl w hw))))]

/-- **The program of a pass reads nothing that a pass writes**, but for the monitor itself. -/
theorem Alike.program (h : Alike d d') (hsteady : d.Steady) (i : ℕ) (m : Monitor) :
    d'.program i m = d.program i m := by
  have hcfg : d'.cfg = d.cfg := (congrArg Desk.cfg h.bare :)
  have htiled : d'.tiledAt i m = d.tiledAt i m := by
    funext p
    unfold Desk.tiledAt
    rw [hcfg, h.topOn]
  have hfloats : (d.floats m.tags).map (d'.lifted m) = (d.floats m.tags).map (d.lifted m) :=
    h.lifted fun w hw => List.mem_of_mem_filter hw
  have hscratches : (d.scratches m.tags).map (d'.lifted m) =
      (d.scratches m.tags).map (d.lifted m) :=
    h.lifted fun w hw => List.mem_of_mem_filter hw
  unfold Desk.program
  rw [h.leaving, h.tiles hsteady, htiled, h.floats, h.shown, h.scratches, hfloats, hscratches]

/-! ### A pass is its program -/

theorem pended_append (ps qs : List (WinId × Option Rect)) (w : WinId) (s : WindowState) :
    pended (ps ++ qs) w s = pended qs w (pended ps w s) := by
  unfold pended lastPending
  rw [List.foldl_append]

/-- What is asked for last twice is asked for last once. -/
theorem pended_pended (ps : List (WinId × Option Rect)) (w : WinId) (s : WindowState) :
    pended ps w (pended ps w s) = pended ps w s := by
  have hlast (x : Option Rect) : lastPending ps w x =
      ((ps.reverse.find? fun p => decide (p.1 = w)).map Prod.snd).getD x :=
    Recency.foldl_latest (fun p : WinId × Option Rect => p.1 = w) Prod.snd ps x
  have hidem (x : Option Rect) : lastPending ps w (lastPending ps w x) = lastPending ps w x := by
    rw [hlast x, hlast]
    generalize (ps.reverse.find? fun p => decide (p.1 = w)).map Prod.snd = last
    cases last <;> rfl
  unfold pended
  rw [hidem]

/-- The steps of a round ask for rectangles, one after the other. -/
theorem st_foldl {α : Type*} {f : Desk → α → Desk} {k : α → WinId × Option Rect}
    (hst : ∀ d a, (f d a).st =
      d.st.modify (k a).1 fun s => { s with pending_geom := (k a).2 })
    (l : List α) (d : Desk) (w : WinId) :
    (l.foldl f d).st w = pended (l.map k) w (d.st w) := by
  induction l generalizing d with
  | nil => rfl
  | cons a l ih =>
    rw [List.foldl_cons, ih, hst]
    by_cases hw : (k a).1 = w
    · subst hw
      rw [Windows.modify_self]
      simp [pended, lastPending]
    · rw [Windows.modify_of_ne (Ne.symm hw)]
      simp [pended, lastPending, hw]

/-- What is remembered of a window that is about to be unmapped is its position. -/
theorem saveLoc_eq (d : Desk) (w : WinId) :
    d.saveLoc w = d ∨
      ∃ p, d.saveLoc w = d.modifyWindow w fun s => { s with saved_loc := some p } := by
  unfold saveLoc
  split
  · split_ifs
    · exact .inr ⟨_, rfl⟩
    · exact .inl rfl
  · exact .inl rfl

theorem st_foldl_hide {l : List WinId} {w : WinId} (hw : w ∉ l) (d : Desk) :
    (l.foldl hide d).st w = d.st w := by
  induction l generalizing d with
  | nil => rfl
  | cons v l ih =>
    obtain ⟨hne, hl⟩ := not_or.1 (mt List.mem_cons.2 hw)
    have hsave : (d.saveLoc v).st w = d.st w := by
      rcases d.saveLoc_eq v with heq | ⟨p, heq⟩
      · rw [heq]
      · rw [heq]
        simp [modifyWindow, hne]
    rw [List.foldl_cons, ih hl]
    unfold hide
    split_ifs
    · rfl
    · exact hsave

theorem alike_hides (d : Desk) (tags : ℕ) (l : List WinId) (hl : l ⊆ d.shown tags .hidden) :
    Alike d (l.foldl hide d) where
  bare := Recency.foldl_keeps bare hide bare_hide l d
  slides := slidesOut_of_unplaced (Recency.foldl_keeps unplaced hide unplaced_hide l d)
  saved w hw := by
    rw [st_foldl_hide fun hmem => (mem_hidden.1 (hl hmem)).2 hw]

/-- A pass writes the layout and the scrolled column of its monitor. -/
theorem passed_frame {α : Type*} (g : Monitor → α)
    (hg : ∀ (m : Monitor) (lt : Bool → ℕ) (sel : Bool) (col : ℕ),
      g { m with lt := lt, sel_lt := sel, scroll_col := col } = g m)
    (d : Desk) (i : ℕ) (m : Monitor) : g (d.passed i m) = g m := by
  have hdynamic : g (pertag_layouts.apply_dynamic d.cfg m m.tags (d.count_tiled m.tags)) = g m := by
    rw [pertag_layouts.apply_dynamic_eq]
    rcases pertag_layouts.counted d.cfg m.tag_lt_override m.tags (d.count_tiled m.tags) with _ | idx
    · rfl
    · rw [Option.map_some, Option.getD_some]
      unfold pertag_layouts.set_monitor_layout
      split_ifs
      · exact hg m _ _ m.scroll_col
      · rfl
  unfold passed synced
  generalize pertag_layouts.apply_dynamic d.cfg m m.tags (d.count_tiled m.tags) = m' at hdynamic
  split_ifs
  · exact (hg m' m'.lt m'.sel_lt _).trans hdynamic
  · exact hdynamic

@[simp] theorem passed_tags (d : Desk) (i : ℕ) (m : Monitor) : (d.passed i m).tags = m.tags :=
  passed_frame Monitor.tags (fun _ _ _ _ => rfl) d i m

@[simp] theorem passed_m (d : Desk) (i : ℕ) (m : Monitor) : (d.passed i m).m = m.m :=
  passed_frame Monitor.m (fun _ _ _ _ => rfl) d i m

@[simp] theorem passed_w (d : Desk) (i : ℕ) (m : Monitor) : (d.passed i m).w = m.w :=
  passed_frame Monitor.w (fun _ _ _ _ => rfl) d i m

/-- Hiding windows changes no monitor and asks no layout. -/
theorem monitors_foldl_hide (l : List WinId) (d : Desk) :
    (l.foldl hide d).monitors = d.monitors ∧ (l.foldl hide d).lua_calls = d.lua_calls := by
  have hpair := Recency.foldl_keeps (fun d : Desk => (d.monitors, d.lua_calls)) hide
    (fun d w => ?_) l d
  · exact Prod.mk.inj hpair
  · have hsave : ((d.saveLoc w).monitors, (d.saveLoc w).lua_calls) = (d.monitors, d.lua_calls) := by
      rcases d.saveLoc_eq w with heq | ⟨p, heq⟩
      · rw [heq]
      · rw [heq]
        rfl
    unfold hide
    split_ifs
    · rfl
    · exact hsave

/-- The desk for which the layout is asked has its monitor as it will stay. -/
theorem monitors_layoutDesk (hm : d.monitors[i]? = some mon) :
    (d.layoutDesk i mon).monitors = d.monitors.modify i (d.passed i) := by
  have hdynamic : (d.applyDynamic i mon.tags).monitors =
      d.monitors.modify i fun m =>
        pertag_layouts.apply_dynamic d.cfg m mon.tags (d.count_tiled mon.tags) := by
    unfold applyDynamic
    split_ifs with hsingle
    · rfl
    · have hself : (fun m => pertag_layouts.apply_dynamic d.cfg m mon.tags
          (d.count_tiled mon.tags)) = id := by
        funext m
        unfold pertag_layouts.apply_dynamic
        rw [if_pos (Bool.eq_false_iff.2 hsingle)]
        rfl
      rw [hself, List.modify_id]
  have hcfg : ((d.shown mon.tags .hidden).foldl hide (d.applyDynamic i mon.tags)).cfg = d.cfg :=
    (congrArg Desk.cfg ((Recency.foldl_keeps bare hide bare_hide _ _).trans
      (bare_applyDynamic d i mon.tags)) :)
  refine List.ext_getElem? fun j => ?_
  unfold layoutDesk syncScrollCol modifyMonitor
  rw [hcfg]
  dsimp only
  rw [(monitors_foldl_hide _ _).1, hdynamic, List.getElem?_modify, List.getElem?_modify,
    List.getElem?_modify]
  by_cases hij : i = j
  · subst hij
    rw [hm]
    simp only [if_true]
    rfl
  · simp [hij]

/-- Rounds that ask for rectangles leave what a pass reads. -/
theorem alike_round {α : Type*} {f : Desk → α → Desk} {k : α → WinId × Option Rect}
    (hbare : ∀ d a, (f d a).bare = d.bare) (hunplaced : ∀ d a, (f d a).unplaced = d.unplaced)
    (hst : ∀ d a, (f d a).st =
      d.st.modify (k a).1 fun s => { s with pending_geom := (k a).2 })
    (l : List α) (d : Desk) : Alike d (l.foldl f d) where
  bare := Recency.foldl_keeps bare f hbare l d
  slides := slidesOut_of_unplaced (Recency.foldl_keeps unplaced f hunplaced l d)
  saved w _ := by rw [st_foldl hst]; rfl

theorem alike_layoutDesk (d : Desk) (i : ℕ) (mon : Monitor) : Alike d (d.layoutDesk i mon) := by
  have hdynamic : Alike d (d.applyDynamic i mon.tags) :=
    ⟨bare_applyDynamic d i mon.tags, slidesOut_of_unplaced (unplaced_applyDynamic d i mon.tags),
      fun w _ => by unfold applyDynamic; split_ifs <;> rfl⟩
  have hhides := alike_hides (d.applyDynamic i mon.tags) mon.tags (d.shown mon.tags .hidden)
    (hdynamic.shown _ _ ▸ List.Subset.refl _)
  refine (hdynamic.trans hhides).trans ⟨bare_syncScrollCol _ _ _ _, rfl, fun _ _ => rfl⟩

theorem lua_calls_layoutDesk (d : Desk) (i : ℕ) (mon : Monitor) :
    (d.layoutDesk i mon).lua_calls = d.lua_calls := by
  have hdynamic : (d.applyDynamic i mon.tags).lua_calls = d.lua_calls := by
    unfold applyDynamic
    split_ifs <;> rfl
  exact (monitors_foldl_hide _ _).2.trans hdynamic

/-- The rounds of a pass: tiled, floating and fullscreen windows, and the scratchpads. -/
theorem arrange_eq_rounds (hm : d.monitors[i]? = some mon) :
    d.arrange i = (d.scratches mon.tags).foldl (placeScratch mon.w.loc)
      ((d.shown mon.tags .fullscreen).foldl (placeFullscreen mon.m)
        ((d.shown mon.tags .floating).foldl (placeFloating mon.w.loc)
          { (d.tiles (d.passed i mon)).foldl
              (placeTiled (d.topOn mon.tags i)
                (decide ((d.passed i mon).layout_kind d.cfg = .Monocle))) (d.layoutDesk i mon) with
            lua_calls := d.lua_calls + 1 })) := by
  have halike := alike_layoutDesk d i mon
  have hm₁ : (d.layoutDesk i mon).monitors[i]? = some (d.passed i mon) := by
    rw [monitors_layoutDesk hm, List.getElem?_modify_eq, hm]
    rfl
  have hcfg : (d.layoutDesk i mon).cfg = d.cfg := (congrArg Desk.cfg halike.bare :)
  have hon : (d.layoutDesk i mon).on_arrange = d.on_arrange :=
    (congrArg Desk.on_arrange halike.bare :)
  have hcall : (d.layoutDesk i mon).on_arrange (d.layoutDesk i mon).lua_calls =
      d.on_arrange d.lua_calls := by
    rw [hon, lua_calls_layoutDesk]
  rw [arrange_eq_layoutDesk hm]
  unfold placeTiles
  rw [hm₁]
  dsimp only
  rw [halike.tiledGeoms hcall, hcfg, lua_calls_layoutDesk]
  unfold tiles scratches
  rw [passed_tags]

/-- **A pass is its program**: what it does to the stack of windows. -/
theorem arrange_space (hm : d.monitors[i]? = some mon) :
    (d.arrange i).space = run d.space (d.program i (d.passed i mon)) := by
  have htags := passed_tags d i mon
  set m := d.passed i mon with hm_eq
  have hspace₁ : (d.layoutDesk i mon).space =
      run d.space ((d.leaving mon.tags).map Instr.drop) := by
    have hhides := space_foldl_hide (d.shown mon.tags .hidden) (d.applyDynamic i mon.tags)
    rw [slidesOut_of_unplaced (unplaced_applyDynamic d i mon.tags)] at hhides
    have hdynamic : (d.applyDynamic i mon.tags).space = d.space := by
      unfold applyDynamic
      split_ifs <;> rfl
    rw [hdynamic] at hhides
    exact hhides
  set d₁ := d.layoutDesk i mon with hd₁
  have halike₁ : Alike d d₁ := alike_layoutDesk d i mon
  rw [arrange_eq_rounds hm]
  set d₂ := { (d.tiles m).foldl (placeTiled (d.topOn mon.tags i)
    (decide (m.layout_kind d.cfg = .Monocle))) d₁ with lua_calls := d.lua_calls + 1 } with hd₂
  have hround₂ := alike_round (k := fun p => (p.1, some p.2))
    (bare_placeTiled (d.topOn mon.tags i) (decide (m.layout_kind d.cfg = .Monocle)))
    (unplaced_placeTiled _ _) (fun _ _ => rfl) (d.tiles m) d₁
  have halike₂ : Alike d d₂ := halike₁.trans ⟨hround₂.bare, hround₂.slides, hround₂.saved⟩
  have hspace₂ : d₂.space = run d₁.space ((d.tiles m).map (d.tiledAt i m)) := by
    have hround := space_tiled (d.topOn mon.tags i) (decide (m.layout_kind d.cfg = .Monocle))
      (d.tiles m) d₁
    have hat : d.tiledAt i m = fun p => Instr.tile p.1 p.2.loc
        (decide (d.topOn mon.tags i = some p.1 ∧ m.layout_kind d.cfg = .Monocle)) := by
      funext p
      unfold tiledAt
      rw [htags]
    simp only [decide_eq_true_eq] at hround
    rw [hat]
    exact hround
  set d₃ := (d.shown mon.tags .floating).foldl (placeFloating mon.w.loc) d₂ with hd₃
  have halike₃ : Alike d d₃ := halike₂.trans
    (alike_round (k := fun w => (w, none)) (bare_placeFloating mon.w.loc)
      (unplaced_placeFloating mon.w.loc) (fun _ _ => rfl) _ d₂)
  have hlifted {d' : Desk} (h : Alike d d') {l : List WinId}
      (hl : ∀ w ∈ l, w ∈ d.shown m.tags .floating) :
      (l.map fun w => Instr.lift w ((d'.st w).saved_loc.getD mon.w.loc)) = l.map (d.lifted m) := by
    rw [← h.lifted hl]
    unfold lifted
    rw [hm_eq, passed_w]
  have hspace₃ : d₃.space = run d₂.space ((d.floats mon.tags).map (d.lifted m)) := by
    have hfilter : ((d.shown mon.tags .floating).filter fun w =>
        decide ((d₂.st w).scratch_key = noScratch)) = d.floats mon.tags := by
      unfold floats
      simp only [halike₂.scratch_key]
    rw [hd₃, space_floating, hfilter, hlifted halike₂]
    rw [htags]
    exact fun w hw => List.mem_of_mem_filter hw
  set d₄ := (d.shown mon.tags .fullscreen).foldl (placeFullscreen mon.m) d₃ with hd₄
  have halike₄ : Alike d d₄ := halike₃.trans
    (alike_round (k := fun w => (w, some mon.m)) (bare_placeFullscreen mon.m)
      (unplaced_placeFullscreen mon.m) (fun _ _ => rfl) _ d₃)
  have hscratches : ∀ w ∈ d.scratches mon.tags, w ∈ d.shown m.tags .floating := by
    rw [htags]
    exact fun w hw => List.mem_of_mem_filter hw
  rw [space_scratches, hlifted halike₄ hscratches, hd₄, space_fullscreen, hspace₃, hspace₂, hspace₁]
  unfold program
  rw [htags, hm_eq, passed_m]
  simp only [Stacking.run_append]

/-- What a pass does to the monitors. -/
theorem arrange_monitors (hm : d.monitors[i]? = some mon) :
    (d.arrange i).monitors = d.monitors.modify i (d.passed i) := by
  rw [arrange_eq_rounds hm, ← monitors_layoutDesk hm,
    Recency.foldl_keeps Desk.monitors (placeScratch mon.w.loc) (fun _ _ => rfl),
    Recency.foldl_keeps Desk.monitors (placeFullscreen mon.m) (fun _ _ => rfl),
    Recency.foldl_keeps Desk.monitors (placeFloating mon.w.loc) (fun _ _ => rfl)]
  exact Recency.foldl_keeps Desk.monitors (placeTiled _ _) (fun _ _ => rfl) _ _

/-- What a pass does to the states of the windows. -/
theorem arrange_st (hm : d.monitors[i]? = some mon) (w : WinId) :
    (d.arrange i).st w = pended (d.pendings (d.passed i mon)) w
      (((d.shown mon.tags .hidden).foldl hide (d.applyDynamic i mon.tags)).st w) := by
  rw [arrange_eq_rounds hm,
    Recency.foldl_keeps Desk.st (placeScratch mon.w.loc) (fun _ _ => rfl),
    st_foldl (k := fun w => (w, some mon.m)) (f := placeFullscreen mon.m) (fun _ _ => rfl),
    st_foldl (k := fun w => (w, none)) (f := placeFloating mon.w.loc) (fun _ _ => rfl)]
  dsimp only
  rw [st_foldl (k := fun p => (p.1, some p.2)) (f := placeTiled _ _) (fun _ _ => rfl)]
  unfold pendings
  rw [pended_append, pended_append, passed_tags, passed_m]
  rfl

/-! ### The passes over all monitors -/

theorem arrange_of_none (hm : d.monitors[i]? = none) : d.arrange i = d := by
  unfold arrange
  rw [hm]

/-- A pass leaves what passes read. -/
theorem alike_arrange (d : Desk) (i : ℕ) : Alike d (d.arrange i) := by
  rcases hm : d.monitors[i]? with _ | mon
  · rw [arrange_of_none hm]
    exact Alike.refl d
  · refine ⟨bare_arrange d i, slidesOut_arrange d i, fun w hw => ?_⟩
    rw [arrange_st hm, st_foldl_hide fun hmem => (mem_hidden.1 hmem).2 hw]
    unfold pended applyDynamic
    split_ifs <;> rfl

/-- The column of the focused window, or the last one there is, does not move again. -/
theorem synced_synced (d : Desk) (i tags : ℕ) (m : Monitor) :
    d.synced i tags (d.synced i tags m) = d.synced i tags m := by
  by_cases hkind : m.layout_kind d.cfg = .Monocle ∨ m.layout_kind d.cfg = .Scroll
  · have hsynced : d.synced i tags m = { m with
        scroll_col := ((d.shown tags .tiled).findIdx? fun w =>
          decide (d.topOn tags i = some w)).getD
          (min m.scroll_col ((d.shown tags .tiled).length - 1)) } := if_pos hkind
    have hcol (c : ℕ) : d.synced i tags { m with scroll_col := c } = { m with
        scroll_col := ((d.shown tags .tiled).findIdx? fun w =>
          decide (d.topOn tags i = some w)).getD
          (min c ((d.shown tags .tiled).length - 1)) } := if_pos hkind
    rw [hsynced, hcol]
    generalize (d.shown tags .tiled).findIdx? (fun w => decide (d.topOn tags i = some w)) = idx
    cases idx with
    | none => simp
    | some k => rfl
  · have hsynced : d.synced i tags m = m := if_neg hkind
    rw [hsynced, hsynced]

/-- A monitor that had its pass stays as it is in the next one. -/
theorem passed_passed (d : Desk) (i : ℕ) (m : Monitor) :
    d.passed i (d.passed i m) = d.passed i m := by
  have htags := passed_tags d i m
  have hpins : (d.passed i m).tag_lt_override = m.tag_lt_override :=
    passed_frame Monitor.tag_lt_override (fun _ _ _ _ => rfl) d i m
  -- the count-based layout is in force after the first pass
  have hrest : pertag_layouts.apply_dynamic d.cfg (d.passed i m) m.tags (d.count_tiled m.tags) =
      d.passed i m := by
    apply pertag_layouts.apply_dynamic_eq_self
    have hidx : (d.passed i m).layout_idx = pertag_layouts.resting d.cfg m.tag_lt_override m.tags
        (d.count_tiled m.tags) m.layout_idx := by
      rw [← pertag_layouts.layout_idx_apply_dynamic]
      unfold passed synced
      split_ifs <;> rfl
    rw [hpins, hidx, pertag_layouts.resting_resting]
  show d.synced i (d.passed i m).tags (pertag_layouts.apply_dynamic d.cfg (d.passed i m)
    (d.passed i m).tags (d.count_tiled (d.passed i m).tags)) = d.passed i m
  rw [htags, hrest]
  exact synced_synced d i m.tags _

/-- What the pass of monitor `i` does to the stack. -/
def programOf (d : Desk) (i : ℕ) : List (Instr WinId Point) :=
  ((d.monitors[i]?).map fun m => d.program i (d.passed i m)).getD []

/-- The rectangles the pass of monitor `i` asks for. -/
def pendingsOf (d : Desk) (i : ℕ) : List (WinId × Option Rect) :=
  ((d.monitors[i]?).map fun m => d.pendings (d.passed i m)).getD []

/-- No window is about to be unmapped by a pass. -/
def Quiet (d : Desk) : Prop :=
  ∀ w ∈ d.windows, ¬d.belongs w → d.onScreen w → d.slidesOut w = true

/-- Hiding windows that are off the screen, or slide, changes no state. -/
theorem st_hides_of_quiet {l : List WinId} (h : ∀ w ∈ l, d.onScreen w → d.slidesOut w = true) :
    (l.foldl hide d).st = d.st := by
  induction l generalizing d with
  | nil => rfl
  | cons v l ih =>
    have hst : (d.hide v).st = d.st := by
      unfold hide
      split_ifs with hslides
      · rfl
      · have hoff : d.element_geometry v = none := by
          by_contra hon
          have hmem : v ∈ Stacking.keys d.space := by
            by_contra hmem
            have hloc : Stacking.loc d.space v = none := Stacking.loc_eq_none_iff.2 hmem
            exact hon (congrArg (Option.map _) hloc)
          exact hslides (Bool.and_eq_true_iff.1 (h v List.mem_cons_self hmem))
        show (d.saveLoc v).st = d.st
        unfold saveLoc
        rw [hoff]
    rw [List.foldl_cons, ih, hst]
    intro w hw hon
    rw [slidesOut_of_unplaced (unplaced_hide d v)]
    exact h w (List.mem_cons_of_mem _ hw) ((onScreen_hide d v).1 hon).1

/-- The state of every window after a pass that unmaps none. -/
theorem arrange_st_of_quiet (hm : d.monitors[i]? = some mon) (hq : d.Quiet) (w : WinId) :
    (d.arrange i).st w = pended (d.pendings (d.passed i mon)) w (d.st w) := by
  have hdynamic : (d.applyDynamic i mon.tags).st = d.st := by
    unfold applyDynamic
    split_ifs <;> rfl
  have hspace : (d.applyDynamic i mon.tags).onScreen = d.onScreen := by
    unfold applyDynamic
    split_ifs <;> rfl
  rw [arrange_st hm, st_hides_of_quiet, hdynamic]
  intro v hv hon
  rw [hspace] at hon
  obtain ⟨hmem, hnot⟩ := mem_hidden.1 hv
  rw [slidesOut_of_unplaced (unplaced_applyDynamic d i mon.tags)]
  exact hq v hmem hnot hon

theorem quiet_arrange {i : ℕ} (hi : i < d.monitors.length) : (d.arrange i).Quiet := by
  intro w hw hnot hon
  rw [slidesOut_arrange]
  exact leaves_arrange (windows_arrange d i ▸ hw) hi hon fun hb => hnot ((belongs_arrange i).2 hb)

/-- The passes over the first `k` monitors. -/
structure Passes (d : Desk) (k : ℕ) (d' : Desk) : Prop where
  alike : Alike d d'
  monitors : ∀ j, d'.monitors[j]? =
    (d.monitors[j]?).map fun m => if j < k then d.passed j m else m
  space : d'.space = run d.space ((List.range k).flatMap d.programOf)
  st : d.Quiet → ∀ w, d'.st w = pended ((List.range k).flatMap d.pendingsOf) w (d.st w)
  quiet : d.Quiet ∨ 0 < k ∧ d.monitors ≠ [] → d'.Quiet

/-- **The passes over the monitors are the programs of the first desk**, one after the other. -/
theorem passes (hsteady : d.Steady) (k : ℕ) (hk : k ≤ d.monitors.length) :
    Passes d k ((List.range k).foldl arrange d) := by
  induction k with
  | zero =>
    refine ⟨Alike.refl d, fun j => ?_, rfl, fun _ _ => rfl, fun h => ?_⟩
    · cases hj : d.monitors[j]? <;> simp [hj]
    · exact h.resolve_right fun h => absurd h.1 (lt_irrefl 0)
  | succ k ih =>
    obtain ⟨halike, hmonitors, hspace, hst, hquiet⟩ := ih (by omega)
    set d₁ := (List.range k).foldl arrange d with hd₁
    have hfold : (List.range (k + 1)).foldl arrange d = d₁.arrange k := by
      rw [List.range_succ, List.foldl_append]
      rfl
    have hflat {α : Type} (f : ℕ → List α) :
        (List.range (k + 1)).flatMap f = (List.range k).flatMap f ++ f k := by
      simp [List.range_succ]
    have hk' : k < d.monitors.length := hk
    obtain ⟨m, hm⟩ : ∃ m, d.monitors[k]? = some m := ⟨_, List.getElem?_eq_getElem hk'⟩
    have hm₁ : d₁.monitors[k]? = some m := by
      rw [hmonitors, hm]
      simp
    have hpassed : d₁.passed k m = d.passed k m := halike.passed k m
    have hlen : k < d₁.monitors.length := (List.getElem?_eq_some_iff.1 hm₁).1
    rw [hfold]
    refine ⟨halike.trans (alike_arrange d₁ k), fun j => ?_, ?_, fun hq w => ?_, fun _ =>
      quiet_arrange hlen⟩
    · rw [arrange_monitors hm₁, List.getElem?_modify, hmonitors]
      by_cases hkj : k = j
      · subst hkj
        rw [hm]
        simp [halike.passed]
      · have hlt : j < k + 1 ↔ j < k := by omega
        simp [hkj, hlt]
    · have hprogram : d.programOf k = d₁.program k (d₁.passed k m) := by
        unfold programOf
        rw [hm, halike.program hsteady, hpassed]
        rfl
      rw [arrange_space hm₁, hspace, hflat, Stacking.run_append, hprogram]
    · have hpendings : d.pendingsOf k = d₁.pendings (d₁.passed k m) := by
        unfold pendingsOf
        rw [hm, halike.pendings hsteady, hpassed]
        rfl
      rw [arrange_st_of_quiet hm₁ (hquiet (.inl hq)), hst hq, hflat, pended_append, hpendings]

end Desk

end Compositor
