import Mathlib.Tactic.Common
import Rwl.Theory.Refocus
import Rwl.Theory.Swallowed

/-!
# What layout passes put on screen

* `Desk.onScreen`, `Desk.slidesOut`: a window is mapped; a window slides out of its old view;
* the space and the steps of a pass: `onScreen_hide`, `onScreen_placeTiled` and their companions;
* `Desk.onScreen_arrange`: what one pass does to one window.
-/

namespace Compositor

/-! ### The space -/

namespace Space

variable (sp : Space) (v w : WinId) (loc : Point)

theorem mem_unmap_elem : v ∈ (unmap_elem sp w).map Prod.fst ↔ v ≠ w ∧ v ∈ sp.map Prod.fst := by
  unfold unmap_elem
  simp only [List.mem_map, List.mem_filter, decide_eq_true_eq]
  constructor
  · rintro ⟨e, ⟨he, hne⟩, rfl⟩
    exact ⟨hne, e, he, rfl⟩
  · rintro ⟨hne, e, he, rfl⟩
    exact ⟨e, ⟨he, hne⟩, rfl⟩

theorem mem_map_element :
    v ∈ (map_element sp w loc).map Prod.fst ↔ v = w ∨ v ∈ sp.map Prod.fst := by
  unfold map_element
  rw [List.map_append, List.mem_append, mem_unmap_elem]
  by_cases h : v = w <;> simp [h]

theorem mem_relocate_element :
    v ∈ (relocate_element sp w loc).map Prod.fst ↔ v ∈ sp.map Prod.fst := by
  unfold relocate_element
  rw [List.map_map]
  refine iff_of_eq (congrArg (v ∈ List.map · sp) (funext fun e => ?_))
  dsimp only [Function.comp]
  split_ifs with h
  · exact h.symm
  · rfl

end Space

namespace Desk

/-- A window is mapped. -/
def onScreen (d : Desk) (w : WinId) : Prop := w ∈ d.space.map Prod.fst

instance (d : Desk) (w : WinId) : Decidable (d.onScreen w) := inferInstanceAs (Decidable (_ ∈ _))

/-- A window slides out of the view it was on. -/
def slidesOut (d : Desk) (w : WinId) : Bool := (d.st w).slide_out && (d.st w).slide_start.isSome

variable {d : Desk} {w : WinId}

/-! ### Slides -/

theorem slidesOut_modifyWindow (d : Desk) (v : WinId) {f : WindowState → WindowState}
    (hf : ∀ st, (f st).slide_out = st.slide_out ∧ (f st).slide_start = st.slide_start) :
    (d.modifyWindow v f).slidesOut = d.slidesOut :=
  funext fun w => Windows.modify_field
    (fun st : WindowState => st.slide_out && st.slide_start.isSome) d.st v w f fun st => by
      rw [(hf st).1, (hf st).2]

/-- The states of the windows, but for where a pass puts them. -/
def unplaced (d : Desk) (w : WinId) : WindowState :=
  { d.st w with saved_loc := none, pending_geom := none }

theorem unplaced_modifyWindow (d : Desk) (v : WinId) {f : WindowState → WindowState}
    (hf : ∀ st, ({ f st with saved_loc := none, pending_geom := none } : WindowState) =
      { st with saved_loc := none, pending_geom := none }) :
    (d.modifyWindow v f).unplaced = d.unplaced :=
  funext fun w => Windows.modify_field (fun st : WindowState =>
    ({ st with saved_loc := none, pending_geom := none } : WindowState)) d.st v w f hf

theorem unplaced_saveLoc (d : Desk) (v : WinId) : (d.saveLoc v).unplaced = d.unplaced := by
  unfold saveLoc
  split
  · split_ifs
    · exact unplaced_modifyWindow d v fun _ => rfl
    · rfl
  · rfl

theorem unplaced_hide (d : Desk) (v : WinId) : (d.hide v).unplaced = d.unplaced := by
  unfold hide
  split_ifs
  · rfl
  · exact unplaced_saveLoc d v

theorem unplaced_placeTiled (focused : Option WinId) (mono : Bool) (d : Desk) (p : WinId × Rect) :
    (placeTiled focused mono d p).unplaced = d.unplaced :=
  unplaced_modifyWindow d p.1 (f := fun st => { st with pending_geom := some p.2 }) fun _ => rfl

theorem unplaced_placeTiles (d : Desk) (i : ℕ) (focused : Option WinId) (tiled : List WinId) :
    (d.placeTiles i focused tiled).unplaced = d.unplaced := by
  unfold placeTiles
  split
  · rfl
  · exact Recency.foldl_keeps unplaced _ (unplaced_placeTiled focused _) _ d

theorem unplaced_placeFloating (loc : Point) (d : Desk) (v : WinId) :
    (placeFloating loc d v).unplaced = d.unplaced :=
  unplaced_modifyWindow d v (f := fun st => { st with pending_geom := none }) fun _ => rfl

theorem unplaced_placeFullscreen (geom : Rect) (d : Desk) (v : WinId) :
    (placeFullscreen geom d v).unplaced = d.unplaced :=
  unplaced_modifyWindow d v (f := fun st => { st with pending_geom := some geom }) fun _ => rfl

theorem unplaced_applyDynamic (d : Desk) (i tags : ℕ) :
    (d.applyDynamic i tags).unplaced = d.unplaced := by
  unfold applyDynamic
  split_ifs <;> rfl

/-- A pass changes windows only in where it puts them. -/
theorem unplaced_arrange (d : Desk) (i : ℕ) : (d.arrange i).unplaced = d.unplaced := by
  unfold arrange
  split
  · rfl
  · dsimp only
    have hscratch (loc : Point) (l : List WinId) (d : Desk) :
        (l.foldl (placeScratch loc) d).unplaced = d.unplaced :=
      Recency.foldl_keeps unplaced (placeScratch loc) (fun _ _ => rfl) l d
    rw [hscratch, Recency.foldl_keeps unplaced _ (unplaced_placeFullscreen _),
      Recency.foldl_keeps unplaced _ (unplaced_placeFloating _), unplaced_placeTiles]
    exact (Recency.foldl_keeps unplaced hide unplaced_hide _ _).trans (unplaced_applyDynamic ..)

theorem slidesOut_of_unplaced {d d' : Desk} (h : d'.unplaced = d.unplaced) :
    d'.slidesOut = d.slidesOut :=
  funext fun w => (congrArg (fun st : WindowState => st.slide_out && st.slide_start.isSome)
    (congrFun h w) :)

/-- A pass starts and ends no slide. -/
theorem slidesOut_arrange (d : Desk) (i : ℕ) : (d.arrange i).slidesOut = d.slidesOut :=
  slidesOut_of_unplaced (unplaced_arrange d i)

/-! ### One pass -/

theorem onScreen_hide (d : Desk) (v : WinId) :
    (d.hide v).onScreen w ↔ d.onScreen w ∧ (v = w → d.slidesOut w = true) := by
  unfold hide
  split_ifs with hslides
  · refine (and_iff_left ?_).symm
    rintro rfl
    exact Bool.and_eq_true_iff.2 hslides
  · refine (Space.mem_unmap_elem d.space w v).trans ?_
    rw [and_comm]
    refine and_congr_right fun _ => ?_
    constructor
    · intro hne heq
      exact absurd heq.symm hne
    · rintro hslide rfl
      exact hslides (Bool.and_eq_true_iff.1 (hslide rfl))

/-- Hiding windows leaves those that slide out. -/
theorem onScreen_foldl_hide (l : List WinId) (d : Desk) :
    (l.foldl hide d).onScreen w ↔ d.onScreen w ∧ (w ∈ l → d.slidesOut w = true) := by
  induction l generalizing d with
  | nil => simp
  | cons v l ih =>
    rw [List.foldl_cons, ih, onScreen_hide, slidesOut_of_unplaced (unplaced_hide d v),
      List.mem_cons, and_assoc]
    refine and_congr_right fun _ => ?_
    constructor
    · rintro ⟨hv, hl⟩ (rfl | hmem)
      · exact hv rfl
      · exact hl hmem
    · intro h
      exact ⟨fun hv => h (.inl hv.symm), fun hmem => h (.inr hmem)⟩

/-- Steps that map windows add them to the screen. -/
theorem onScreen_foldl_place {α : Type*} {f : Desk → α → Desk} (key : α → WinId) {c : Desk → Prop}
    (hc : ∀ d a, c (f d a) ↔ c d)
    (hf : ∀ d a, (f d a).onScreen w ↔ d.onScreen w ∨ key a = w ∧ c d) (l : List α) (d : Desk) :
    (l.foldl f d).onScreen w ↔ d.onScreen w ∨ w ∈ l.map key ∧ c d := by
  induction l generalizing d with
  | nil => simp
  | cons a l ih =>
    rw [List.foldl_cons, ih, hf, hc, List.map_cons, List.mem_cons, or_assoc, or_and_right]
    refine or_congr_right (or_congr_left (and_congr_left fun _ => ?_))
    exact ⟨Eq.symm, Eq.symm⟩

theorem onScreen_placeTiled (focused : Option WinId) (mono : Bool) (d : Desk) (p : WinId × Rect) :
    (placeTiled focused mono d p).onScreen w ↔ d.onScreen w ∨ p.1 = w ∧ True := by
  have hmapped (h : (d.element_geometry p.1).isSome = true) : d.onScreen p.1 := by
    obtain ⟨g, hg⟩ := Option.isSome_iff_exists.1 h
    obtain ⟨loc, hloc, -⟩ := Option.map_eq_some_iff.1 hg
    obtain ⟨e, he, -⟩ := Option.map_eq_some_iff.1 hloc
    have heq : e.1 = p.1 := by simpa using List.find?_some he
    exact List.mem_map.2 ⟨e, List.mem_of_find?_eq_some he, heq⟩
  have hmap : w = p.1 ∨ d.onScreen w ↔ d.onScreen w ∨ p.1 = w ∧ True := by
    rw [and_true, or_comm, @eq_comm _ w]
  have hkept (h : (d.element_geometry p.1).isSome = true) :
      d.onScreen w ↔ d.onScreen w ∨ p.1 = w ∧ True := by
    refine (or_iff_left_of_imp ?_).symm
    rintro ⟨rfl, -⟩
    exact hmapped h
  unfold placeTiled onScreen
  dsimp only
  cases hg : d.element_geometry p.1 with
  | none => exact (Space.mem_map_element d.space w p.1 p.2.loc).trans hmap
  | some g =>
    have hsome : (d.element_geometry p.1).isSome = true := by rw [hg]; rfl
    dsimp only
    split_ifs
    · exact (Space.mem_relocate_element d.space w p.1 p.2.loc).trans (hkept hsome)
    · exact (Space.mem_map_element d.space w p.1 p.2.loc).trans hmap
    · exact hkept hsome

theorem onScreen_placeTiles {i : ℕ} {m : Monitor} (d : Desk) (hm : d.monitors[i]? = some m)
    (focused : Option WinId) (tiled : List WinId) :
    (d.placeTiles i focused tiled).onScreen w ↔ d.onScreen w ∨ w ∈ tiled := by
  have hkeys : (tiled.zip (d.tiledGeoms m tiled)).map Prod.fst = tiled := by
    refine List.map_fst_zip (le_of_eq ?_)
    unfold tiledGeoms
    rw [layout.length_arrange, List.length_map]
  unfold placeTiles
  rw [hm]
  dsimp only
  refine (onScreen_foldl_place Prod.fst (c := fun _ => True) (fun _ _ => Iff.rfl)
    (fun d p => onScreen_placeTiled focused _ d p) _ d).trans ?_
  rw [hkeys, and_true]

theorem onScreen_placeFloating (loc : Point) (d : Desk) (v : WinId) :
    (placeFloating loc d v).onScreen w ↔
      d.onScreen w ∨ v = w ∧ (d.st w).scratch_key = noScratch := by
  unfold placeFloating onScreen
  dsimp only
  split_ifs with hkey
  · refine (Space.mem_map_element d.space w v _).trans ?_
    rw [or_comm]
    refine or_congr_right ⟨?_, fun h => h.1.symm⟩
    rintro rfl
    exact ⟨rfl, hkey⟩
  · refine (or_iff_left ?_).symm
    rintro ⟨rfl, h⟩
    exact hkey h

theorem onScreen_placeFullscreen (geom : Rect) (d : Desk) (v : WinId) :
    (placeFullscreen geom d v).onScreen w ↔ d.onScreen w ∨ v = w ∧ True := by
  rw [and_true, or_comm, @eq_comm _ v]
  exact Space.mem_map_element d.space w v geom.loc

theorem onScreen_placeScratch (loc : Point) (d : Desk) (v : WinId) :
    (placeScratch loc d v).onScreen w ↔ d.onScreen w ∨ v = w ∧ True := by
  rw [and_true, or_comm, @eq_comm _ v]
  exact Space.mem_map_element d.space w v _

/-- A pass for the view `tags` maps the window. -/
def Maps (d : Desk) (tags : ℕ) (w : WinId) : Prop :=
  w ∈ d.shown tags .tiled ∨ w ∈ d.shown tags .floating ∨ w ∈ d.shown tags .fullscreen

/-- **A pass unmaps the hidden windows that do not slide out and maps the ones its monitor
shows.** -/
theorem onScreen_arrange {i : ℕ} {mon : Monitor} (hm : d.monitors[i]? = some mon) :
    (d.arrange i).onScreen w ↔
      d.onScreen w ∧ (w ∈ d.shown mon.tags .hidden → d.slidesOut w = true) ∨
        d.Maps mon.tags w := by
  set tags := mon.tags with htags
  set d₁ := (d.shown tags .hidden).foldl hide (d.applyDynamic i tags) with hd₁
  set d₂ := (d₁.syncScrollCol i (d.topOn tags i) (d.shown tags .tiled)).placeTiles i
    (d.topOn tags i) (d.shown tags .tiled) with hd₂
  -- a floating window is mapped in one of two rounds, by its scratchpad key
  have hkey : ∀ v, (d₂.st v).scratch_key = (d.st v).scratch_key := by
    intro v
    have hbare : d₂.bare = d.bare := by
      rw [hd₂, bare_placeTiles, bare_syncScrollCol, hd₁, Recency.foldl_keeps bare hide bare_hide,
        bare_applyDynamic]
    have hfield := congrArg (fun b : Desk => (b.st v).scratch_key) hbare
    exact hfield
  have hhidden : d₁.onScreen w ↔ d.onScreen w ∧
      (w ∈ d.shown tags .hidden → d.slidesOut w = true) := by
    rw [hd₁, onScreen_foldl_hide, slidesOut_of_unplaced (unplaced_applyDynamic d i tags)]
    refine and_congr_left fun _ => ?_
    unfold applyDynamic
    split_ifs <;> exact Iff.rfl
  have hmon₁ : ∃ m, (d₁.syncScrollCol i (d.topOn tags i) (d.shown tags .tiled)).monitors[i]? =
      some m := by
    have hbare : (d₁.syncScrollCol i (d.topOn tags i) (d.shown tags .tiled)).bare = d.bare := by
      rw [bare_syncScrollCol, hd₁, Recency.foldl_keeps bare hide bare_hide, bare_applyDynamic]
    have hlen := congrArg (fun b : Desk => b.monitors.length) hbare
    simp only [bare, List.length_map] at hlen
    exact ⟨_, List.getElem?_eq_getElem (hlen ▸ (List.getElem?_eq_some_iff.1 hm).1)⟩
  have htiled : d₂.onScreen w ↔ d₁.onScreen w ∨ w ∈ d.shown tags .tiled := by
    obtain ⟨m, hm₁⟩ := hmon₁
    exact onScreen_placeTiles _ hm₁ _ _
  have hfloats : ((d.shown tags .floating).foldl (placeFloating mon.w.loc) d₂).onScreen w ↔
      d₂.onScreen w ∨ w ∈ d.shown tags .floating ∧ (d₂.st w).scratch_key = noScratch := by
    have hround := onScreen_foldl_place id (w := w) (f := placeFloating mon.w.loc)
      (c := fun d => (d.st w).scratch_key = noScratch) (fun d v => ?_)
      (fun d v => onScreen_placeFloating mon.w.loc d v) (d.shown tags .floating) d₂
    · rwa [List.map_id] at hround
    · have hsame := congrArg (fun b : Desk => (b.st w).scratch_key)
        (bare_placeFloating mon.w.loc d v)
      exact iff_of_eq (congrArg (· = noScratch) hsame)
  unfold arrange
  rw [hm]
  dsimp only
  have hscratch := onScreen_foldl_place id (w := w) (f := placeScratch mon.w.loc)
    (c := fun _ => True) (fun _ _ => Iff.rfl) (fun d v => onScreen_placeScratch mon.w.loc d v)
  have hfull := onScreen_foldl_place id (w := w) (f := placeFullscreen mon.m)
    (c := fun _ => True) (fun _ _ => Iff.rfl) (fun d v => onScreen_placeFullscreen mon.m d v)
  rw [hscratch, hfull, hfloats, htiled, hhidden, hkey, List.map_id, List.map_id, and_true, and_true,
    List.mem_filter, decide_eq_true_eq]
  unfold Maps
  rw [← htags]
  by_cases hk : (d.st w).scratch_key = noScratch
  · simp only [hk, and_true, ne_eq, not_true_eq_false, and_false, or_false, or_assoc]
  · simp only [hk, and_false, or_false, ne_eq, not_false_eq_true, and_true]
    rw [or_right_comm]
    simp only [or_assoc]

end Desk

end Compositor
