import Mathlib.Tactic.Common
import Rwl.Theory.Closing
import Rwl.Theory.FocusStack
import Rwl.Theory.RollSteps

/-!
# A window destroyed during a grab

A grab keeps its window while the pointer drags it, and the handlers that forget a destroyed window
do not look at the grab.

* `Roll.Follows`: what one event may do to the windows there are and the ones that are mapped;
  `step_follows`: every event does no more, with `handed`, the windows it takes from a handle;
* `Enrolled`: every window that is listed has been made;
* `Away`: a window that is neither listed nor mapped; it stays so while no event is handed it;
* `Loses`, `Forgotten`: the event destroys the grabbed window, and leaves nothing of it listed;
* `lost_stays_lost`: a window lost in a grab does not come back in a run that is not handed it.
-/

namespace Compositor

/-! ### What an event may do to the roll -/

/-- A change makes fresh windows, and maps none but managed ones, fresh ones and those in `H`. -/
structure Roll.Follows (H : WinId → Prop) (r r' : Roll) : Prop where
  created : ∀ w ∈ r.created, w ∈ r'.created
  managed : ∀ w, r'.managed w → r.managed w ∨ w ∉ r.created ∧ w ∈ r'.created
  overrides : ∀ w ∈ r'.overrides, w ∈ r.overrides ∨ w ∉ r.created ∧ w ∈ r'.created
  client : ∀ w ∈ r.created, (r.client w).x11 = none → (r'.client w).x11 = none
  mapped : ∀ w, r'.mapped w → r.mapped w ∨ r.managed w ∨ w ∉ r.created ∨ H w

namespace Roll.Follows

variable {H : WinId → Prop} {r r' r'' : Roll}

theorem refl (r : Roll) : Roll.Follows H r r :=
  ⟨fun _ h => h, fun _ h => .inl h, fun _ h => .inl h, fun _ _ h => h, fun _ h => .inl h⟩

theorem trans (h : Roll.Follows H r r') (h' : Roll.Follows H r' r'') : Roll.Follows H r r'' := by
  have hfresh (w : WinId) (hw : w ∉ r'.created) : w ∉ r.created := fun hmem => hw (h.created w hmem)
  constructor
  · intro w hw
    exact h'.created w (h.created w hw)
  · intro w hw
    rcases h'.managed w hw with hw | ⟨hw, hw'⟩
    · rcases h.managed w hw with hw | ⟨hw, hw'⟩
      · exact .inl hw
      · exact .inr ⟨hw, h'.created w hw'⟩
    · exact .inr ⟨hfresh w hw, hw'⟩
  · intro w hw
    rcases h'.overrides w hw with hw | ⟨hw, hw'⟩
    · rcases h.overrides w hw with hw | ⟨hw, hw'⟩
      · exact .inl hw
      · exact .inr ⟨hw, h'.created w hw'⟩
    · exact .inr ⟨hfresh w hw, hw'⟩
  · intro w hw hx
    exact h'.client w (h.created w hw) (h.client w hw hx)
  · intro w hw
    rcases h'.mapped w hw with hw | hw | hw | hw
    · exact h.mapped w hw
    · rcases h.managed w hw with hw | ⟨hw, -⟩
      · exact .inr (.inl hw)
      · exact .inr (.inr (.inl hw))
    · exact .inr (.inr (.inl (hfresh w hw)))
    · exact .inr (.inr (.inr hw))

end Roll.Follows

namespace Desk

variable {H : WinId → Prop} {d d' : Desk}

/-- The windows there are. -/
def census (d : Desk) : List WinId × List WinId × List WinId × (WinId → Client) :=
  (d.created, d.windows, d.x11_or_windows, d.client)

theorem census_of_bare (h : d'.bare = d.bare) : d'.census = d.census :=
  (congrArg census h :)

/-- Only what is mapped changes. -/
theorem follows_of_census (hcensus : d'.census = d.census)
    (hmapped : ∀ w, d'.onScreen w → d.onScreen w ∨ w ∈ d.windows ∨ w ∉ d.created ∨ H w) :
    Roll.Follows H d.roll d'.roll := by
  unfold census at hcensus
  simp only [Prod.mk.injEq] at hcensus
  obtain ⟨hcreated, hwindows, hover, hclient⟩ := hcensus
  refine ⟨fun w hw => ?_, fun w hw => .inl ?_, fun w hw => .inl ?_, fun w _ hw => ?_, hmapped⟩
  · show w ∈ d'.created
    rwa [hcreated]
  · show w ∈ d.windows
    rwa [← hwindows]
  · show w ∈ d.x11_or_windows
    rwa [← hover]
  · exact (congrArg (fun c => (c w).x11) hclient).trans hw

/-- Windows leave the screen. -/
theorem follows_of_shrinks (hcensus : d'.census = d.census)
    (hspace : ∀ w, d'.onScreen w → d.onScreen w) : Roll.Follows H d.roll d'.roll :=
  follows_of_census hcensus fun w hw => .inl (hspace w hw)

/-- One window is mapped. -/
theorem follows_map_element (v : WinId) (loc : Point) (hv : H v) (hcensus : d'.census = d.census)
    (hspace : d'.space = Space.map_element d.space v loc) : Roll.Follows H d.roll d'.roll := by
  refine follows_of_census hcensus fun w hw => ?_
  unfold onScreen at hw
  rw [hspace, Space.mem_map_element] at hw
  rcases hw with rfl | hw
  · exact .inr (.inr (.inr hv))
  · exact .inl hw

theorem follows_arrange (d : Desk) (i : ℕ) : Roll.Follows H d.roll (d.arrange i).roll := by
  refine follows_of_census (census_of_bare (bare_arrange d i)) fun w hw => ?_
  rcases onScreen_of_arrange hw with hw | hw
  · exact .inl hw
  · exact .inr (.inl hw)

theorem roll_start_tag_transition (d : Desk) (old new : ℕ) (ow : ℚ) :
    (d.start_tag_transition old new ow).roll = d.roll := by
  unfold start_tag_transition
  dsimp only
  split_ifs <;> rfl

theorem roll_mark_slide_outs (d : Desk) (old new : ℕ) (ow : ℚ) :
    (d.mark_slide_outs old new ow).roll = d.roll := by
  unfold mark_slide_outs
  dsimp only
  split_ifs <;> rfl

theorem follows_arrangePasses (d : Desk) : Roll.Follows H d.roll d.arrangePasses.roll := by
  have hfold (l : List ℕ) (d : Desk) : Roll.Follows H d.roll (l.foldl arrange d).roll := by
    induction l generalizing d with
    | nil => exact .refl _
    | cons i l ih => exact (follows_arrange d i).trans (ih (d.arrange i))
  have hpasses := hfold (List.range d.update_work_areas.monitors.length)
    { d.update_work_areas with pending_tag_transition := none }
  unfold arrangePasses
  dsimp only
  split
  · rw [roll_start_tag_transition]
    exact hpasses
  · exact hpasses

/-- Every update follows, when those of the event do. -/
theorem Calm.follows {K : Desk → Desk → Prop}
    (hK : ∀ d d', K d d' → Roll.Follows H d.roll d'.roll) (h : Calm K d d') :
    Roll.Follows H d.roll d'.roll := by
  cases h with
  | same _ h =>
    have hroll : d'.roll = d.roll := congrArg Prod.fst h
    rw [hroll]
    exact .refl _
  | arrange i => exact follows_arrange d i
  | slide old new ow =>
    rw [roll_start_tag_transition]
    exact .refl _
  | own _ hk => exact hK _ _ hk

theorem Stir.follows {file : Config} {L : Desk → Desk → Prop}
    (hL : ∀ d d', L d d' → Roll.Follows H d.roll d'.roll) (h : Stir file L d d') :
    Roll.Follows H d.roll d'.roll := by
  cases h with
  | loose _ h =>
    have hroll : d'.roll = d.roll := congrArg Prod.fst h
    rw [hroll]
    exact .refl _
  | mark old new ow =>
    rw [roll_mark_slide_outs]
    exact .refl _
  | reload => exact .refl d.roll
  | own _ hl => exact hL _ _ hl

/-- **A chain follows when its updates do.** -/
theorem Stirred.follows {file : Config} {K L : Desk → Desk → Prop} {d₀ : Desk}
    (hK : ∀ d d', K d d' → Roll.Follows H d.roll d'.roll)
    (hL : ∀ d d', L d d' → Roll.Follows H d.roll d'.roll) (h : Stirred file K L d₀ d) :
    Roll.Follows H d₀.roll d.roll :=
  h.keeps (W := fun d => Roll.Follows H d₀.roll d.roll) (fun _ _ hc ih => ih.trans (hc.follows hK))
    (fun _ _ hs ih => ih.trans (hs.follows hL)) (fun _ ih => ih.trans (follows_arrangePasses _))
    (.refl _)

end Desk

namespace Rwl

open Transition

/-! ### Events -/

/-- The event takes the window `w` from where handles are kept, and may map it. -/
def handed (s : Rwl) (e : Event) (w : WinId) : Prop :=
  match e with
  | .motion .. | .motion_abs .. => s.Drags w
  | .commit f _ => s.desk.window_map f = some w
  | .x11_property xid | .x11_configure_request xid .. | .x11_configure_notify xid _ =>
      s.desk.window_for_x11 xid = some w
  | _ => False

instance (s : Rwl) (e : Event) (w : WinId) : Decidable (s.handed e w) := by
  apply Event.casesOn (motive := fun e => Decidable (s.handed e w)) e <;> intros <;>
    dsimp only [handed] <;> infer_instance

theorem follows_insertWindow {H : WinId → Prop} {d : Desk} {w : WinId} (hw : w ∉ d.created)
    (c : Client) (f : WindowState → WindowState) :
    Roll.Follows H d.roll (insertWindow d w c f).roll := by
  refine ⟨fun v hv => List.mem_cons_of_mem _ hv, fun v hv => ?_, fun v hv => .inl hv,
    fun v hv hx => ?_, fun v hv => ?_⟩
  · rcases List.mem_cons.1 (show v ∈ w :: d.windows from hv) with rfl | hv
    · exact .inr ⟨hw, List.mem_cons_self⟩
    · exact .inl hv
  · have hne : v ≠ w := fun h => hw (h ▸ hv)
    change (Function.update d.client w c v).x11 = none
    rwa [Function.update_of_ne hne]
  · rcases (Space.mem_map_element d.space v w _).1 hv with rfl | hv
    · exact .inr (.inr (.inl hw))
    · exact .inl hv

theorem follows_insertOverride {H : WinId → Prop} {d : Desk} {w : WinId} (hw : w ∉ d.created)
    (c : Client) : Roll.Follows H d.roll (d.insertOverride w c).roll := by
  refine ⟨fun v hv => List.mem_cons_of_mem _ hv, fun v hv => .inl hv, fun v hv => ?_,
    fun v hv hx => ?_, fun v hv => ?_⟩
  · rcases List.mem_append.1 (show v ∈ d.x11_or_windows ++ [w] from hv) with hv | hv
    · exact .inl hv
    · obtain rfl := List.mem_singleton.1 hv
      exact .inr ⟨hw, List.mem_cons_self⟩
  · have hne : v ≠ w := fun h => hw (h ▸ hv)
    change (Function.update d.client w c v).x11 = none
    rwa [Function.update_of_ne hne]
  · rcases (Space.mem_map_element d.space v w _).1 hv with rfl | hv
    · exact .inr (.inr (.inl hw))
    · exact .inl hv

/-- The clients change, and no X11 window becomes another kind. -/
theorem follows_clients {H : WinId → Prop} {d : Desk} {client : WinId → Client}
    (h : ∀ w, (d.client w).x11 = none → (client w).x11 = none) :
    Roll.Follows H d.roll ({ d with client := client } : Desk).roll :=
  ⟨fun _ hw => hw, fun _ hw => .inl hw, fun _ hw => .inl hw, fun w _ => h w, fun _ hw => .inl hw⟩

theorem follows_setX11Surface {H : WinId → Prop} (d : Desk) (xid : ℕ) (f : Option SurfaceId) :
    Roll.Follows H d.roll (d.setX11Surface xid f).roll := by
  refine follows_clients fun w hw => ?_
  split_ifs <;> exact hw

/-- Windows that are listed leave the lists and the screen. -/
theorem follows_removal {H : WinId → Prop} {d d' : Desk} (hcreated : d'.created = d.created)
    (hwindows : ∀ w ∈ d'.windows, w ∈ d.windows)
    (hover : ∀ w ∈ d'.x11_or_windows, w ∈ d.x11_or_windows) (hclient : d'.client = d.client)
    (hspace : ∀ w, d'.onScreen w → d.onScreen w) : Roll.Follows H d.roll d'.roll := by
  refine ⟨fun w hw => ?_, fun w hw => .inl (hwindows w hw), fun w hw => .inl (hover w hw),
    fun w _ hw => ?_, fun w hw => .inl (hspace w hw)⟩
  · show w ∈ d'.created
    rwa [hcreated]
  · show (d'.client w).x11 = none
    rwa [hclient]

theorem onScreen_foldl_unmap {sp : Space} {l : List WinId} {w : WinId}
    (h : w ∈ (l.foldl Space.unmap_elem sp).map Prod.fst) : w ∉ l ∧ w ∈ sp.map Prod.fst := by
  induction l generalizing sp with
  | nil => exact ⟨List.not_mem_nil, h⟩
  | cons v l ih =>
    obtain ⟨hl, hmem⟩ := ih h
    obtain ⟨hne, hsp⟩ := (Space.mem_unmap_elem sp w v).1 hmem
    refine ⟨fun hw => ?_, hsp⟩
    rcases List.mem_cons.1 hw with rfl | hw
    · exact hne rfl
    · exact hl hw

theorem census_centre (d : Desk) (w : WinId) : (Rwl.centre d w).census = d.census := by
  unfold Rwl.centre
  dsimp only
  split_ifs
  · split <;> rfl
  · split <;> rfl
  · rfl

theorem space_centre (d : Desk) (w : WinId) : (Rwl.centre d w).space = d.space ∨
    ∃ loc, (Rwl.centre d w).space = Space.map_element d.space w loc := by
  unfold Rwl.centre
  dsimp only
  split_ifs
  · split
    · exact .inl rfl
    · exact .inr ⟨_, rfl⟩
  · split <;> exact .inl rfl
  · exact .inl rfl

theorem center_x11_eq (d : Desk) (w : WinId) : d.center_x11 w = d ∨
    ∃ loc, d.center_x11 w = { d.modifyWindow w (fun s => { s with saved_loc := some loc }) with
      space := Space.map_element d.space w loc } := by
  unfold Desk.center_x11
  dsimp only
  split_ifs
  · exact .inl rfl
  · split
    · exact .inl rfl
    · exact .inr ⟨_, rfl⟩

theorem follows_center_x11 {H : WinId → Prop} (d : Desk) {w : WinId} (hw : H w) :
    Roll.Follows H d.roll (d.center_x11 w).roll := by
  rcases center_x11_eq d w with h | ⟨loc, h⟩
  · rw [h]
    exact .refl _
  · rw [h]
    exact Desk.follows_map_element w loc hw rfl rfl

theorem roll_advance_tag_transitions (d : Desk) : d.advance_tag_transitions.roll = d.roll := by
  unfold Desk.advance_tag_transitions
  split_ifs <;> rfl

theorem follows_finalize_slide_outs {H : WinId → Prop} (d : Desk) :
    Roll.Follows H d.roll d.finalize_slide_outs.roll := by
  have hone (all_visible : ℕ) (d : Desk) (w : WinId) :
      Roll.Follows H d.roll (Desk.finalizeSlideOut all_visible d w).roll := by
    unfold Desk.finalizeSlideOut
    dsimp only
    split_ifs
    · exact .refl d.roll
    · refine Desk.follows_of_shrinks ?_ fun v hv => ((Space.mem_unmap_elem _ v w).1 hv).2
      unfold Desk.saveLoc
      split
      · split_ifs <;> rfl
      · rfl
  have hfold (all_visible : ℕ) (l : List WinId) (d : Desk) :
      Roll.Follows H d.roll (l.foldl (Desk.finalizeSlideOut all_visible) d).roll := by
    induction l generalizing d with
    | nil => exact .refl d.roll
    | cons w l ih => exact (hone all_visible d w).trans (ih _)
  exact hfold _ _ d

/-- **What one event does on its own follows**, with the windows it is handed. -/
theorem Calming.follows {s : Rwl} {e : Event} {d d' : Desk} (h : Calming s e d d') :
    Roll.Follows (fun w => w ∉ s.desk.created ∨ s.handed e w) d.roll d'.roll := by
  cases h with
  | toplevel w c hw => exact follows_insertWindow hw c id
  | follow _ dx dy w loc hw hd =>
    exact Desk.follows_map_element w loc (.inr hw) rfl rfl
  | follow_abs _ fx fy w loc hw hd =>
    exact Desk.follows_map_element w loc (.inr hw) rfl rfl
  | press | move | x11_move | wait | keyed => exact Desk.follows_of_shrinks rfl fun _ h => h
  | client w c =>
    refine follows_clients fun v hv => ?_
    by_cases hvw : v = w
    · subst hvw
      rw [Function.update_self]
      unfold updateClient
      dsimp only
      rw [hv]
      rfl
    · rwa [Function.update_of_ne hvw]
  | centre _ f b w hw =>
    rcases space_centre d w with hspace | ⟨loc, hspace⟩
    · refine Desk.follows_of_shrinks (census_centre d w) fun v hv => ?_
      unfold Desk.onScreen at hv
      rwa [hspace] at hv
    · exact Desk.follows_map_element w loc (.inr hw) (census_centre d w) hspace
  | override w c hw => exact follows_insertOverride hw c
  | popup_unmapped xid w hw hor | popup_destroyed xid w hw hor =>
    exact follows_removal rfl (fun _ h => h) (fun _ h => List.mem_of_mem_filter h) rfl
      fun v hv => ((Space.mem_unmap_elem _ v w).1 hv).2
  | unpaired _ xid => exact follows_setX11Surface d xid none
  | paired xid f => exact follows_setX11Surface _ xid (some f)
  | configure xid x y w loc hw hfree =>
    exact Desk.follows_map_element w loc (.inr hw) rfl rfl
  | configured xid loc w hw =>
    exact Desk.follows_map_element w loc (.inr hw) rfl rfl
  | refresh _ o out p | winit_refresh _ o out p =>
    refine Desk.follows_of_shrinks rfl fun v hv => ?_
    obtain ⟨x, hx, rfl⟩ := List.mem_map.1 (show v ∈ (d.space.filter p).map Prod.fst from hv)
    exact List.mem_map_of_mem (List.mem_of_mem_filter hx)
  | advance | winit_advance =>
    rw [roll_advance_tag_transitions]
    exact .refl _
  | finalize | winit_finalize => exact follows_finalize_slide_outs d

theorem onScreen_dismiss_x11_popups {d : Desk} {w : WinId}
    (h : d.dismiss_x11_popups.onScreen w) : d.onScreen w :=
  (onScreen_foldl_unmap h).2

theorem Stirring.follows {s : Rwl} {e : Event} {d d' : Desk} (h : Stirring s e d d') :
    Roll.Follows (fun w => w ∉ s.desk.created ∨ s.handed e w) d.roll d'.roll := by
  cases h with
  | drop f =>
    exact follows_removal rfl (fun _ h => List.mem_of_mem_filter h) (fun _ h => h) rfl fun _ h => h
  | unmap _ f w hw =>
    exact Desk.follows_of_shrinks rfl fun v hv => ((Space.mem_unmap_elem _ v w).1 hv).2
  | x11 w c float hw => exact follows_insertWindow hw c _
  | centre _ w c hw => exact follows_center_x11 d (.inl hw)
  | centre_hint _ xid w hw => exact follows_center_x11 d (.inr hw)
  | unmapped xid w hw | destroyed xid w hw =>
    refine follows_removal rfl (fun _ h => List.mem_of_mem_filter h)
      (fun _ h => absurd h List.not_mem_nil) rfl fun v hv => ?_
    exact ((Space.mem_unmap_elem _ v w).1 (onScreen_dismiss_x11_popups hv)).2
  | disconnected =>
    refine follows_removal rfl (fun _ h => List.mem_of_mem_filter h)
      (fun _ h => absurd h List.not_mem_nil) rfl fun v hv => ?_
    exact (onScreen_foldl_unmap (onScreen_foldl_unmap hv).2).2
  | monitor o info => exact .refl s.desk.roll
  | unplugged o i hi => exact .refl s.desk.roll

/-- **Every event follows**, with the windows it is handed. -/
theorem step_follows (s : Rwl) (e : Event) :
    Roll.Follows (fun w => w ∉ s.desk.created ∨ s.handed e w) s.desk.roll
      (step s e).desk.roll := by
  by_cases he : ∃ cfg, e = .config_written cfg
  · obtain ⟨cfg, rfl⟩ := he
    exact .refl s.desk.roll
  · have hpasses := Passes.step s e fun cfg hcfg => he ⟨cfg, hcfg⟩
    exact hpasses.chain.stirred.follows (fun _ _ => Calming.follows) fun _ _ => Stirring.follows

/-! ### Windows that have gone -/

/-- Every listed window has been made, and no managed one is override-redirect. -/
structure Enrolled (d : Desk) : Prop where
  native : d.registry.Native
  overrides : ∀ w ∈ d.x11_or_windows, w ∈ d.created

theorem init_enrolled (env : Setup) : Enrolled (init env).desk :=
  ⟨fun _ hw => absurd hw List.not_mem_nil, fun _ hw => absurd hw List.not_mem_nil⟩

theorem step_enrolled (s : Rwl) (e : Event) (h : Enrolled s.desk) : Enrolled (step s e).desk := by
  have hfollows := step_follows s e
  refine ⟨(step_registry s e).native h.native, fun w hw => ?_⟩
  rcases hfollows.overrides w hw with hw | ⟨-, hw⟩
  · exact hfollows.created w (h.overrides w hw)
  · exact hw

theorem Enrolled.created {d : Desk} (h : Enrolled d) {xid : ℕ} {w : WinId}
    (hw : d.window_for_x11 xid = some w) : w ∈ d.created := by
  rcases List.mem_append.1 (List.mem_of_find?_eq_some hw) with hw | hw
  · exact (h.native w hw).1
  · exact h.overrides w hw

/-- The window is listed nowhere, mapped nowhere, and no longer an X11 popup. -/
structure Away (d : Desk) (w : WinId) : Prop where
  created : w ∈ d.created
  unmanaged : w ∉ d.windows
  unlisted : w ∈ d.x11_or_windows → (d.client w).x11 = none
  unmapped : ¬d.onScreen w
  unfocused : w ∉ d.focus_stack

/-- A window stays away while nothing takes it from a handle. -/
theorem Away.carry {H : WinId → Prop} {g : Registry.Grant WinId} {d d' : Desk} {w : WinId}
    (h : Away d w) (hfollows : Roll.Follows H d.roll d'.roll)
    (hsteps : Registry.Steps g d.registry d'.registry) (hH : ¬H w) (hg : ¬g.handle w) :
    Away d' w := by
  constructor
  · exact hfollows.created w h.created
  · intro hw
    rcases hfollows.managed w hw with hw | ⟨hw, -⟩
    · exact h.unmanaged hw
    · exact hw h.created
  · intro hw
    rcases hfollows.overrides w hw with hw | ⟨hw, -⟩
    · exact hfollows.client w h.created (h.unlisted hw)
    · exact absurd h.created hw
  · intro hw
    rcases hfollows.mapped w hw with hw | hw | hw | hw
    · exact h.unmapped hw
    · exact h.unmanaged hw
    · exact hw h.created
    · exact hH hw
  · exact hsteps.unrecent h.created h.unmanaged h.unfocused hg

/-- The event does not take the window `w` from where handles are kept, to map it or to focus it. -/
def Unheld (w : WinId) (s : Rwl) (e : Event) : Prop := ¬s.handed e w ∧ s.captured e ≠ some w

instance (w : WinId) (s : Rwl) (e : Event) : Decidable (s.Unheld w e) :=
  inferInstanceAs (Decidable (_ ∧ _))

theorem step_away {s : Rwl} {e : Event} {w : WinId} (h : Away s.desk w) (he : Unheld w s e) :
    Away (step s e).desk w := by
  refine h.carry (step_follows s e) (step_registry s e) ?_ he.2
  rintro (hw | hw)
  · exact hw h.created
  · exact he.1 hw

/-! ### The destruction -/

/-- The event destroys the window `w`. -/
def Destroys (w : WinId) (s : Rwl) : Event → Prop
  | .toplevel_destroyed f => w ∈ s.desk.windows ∧ isToplevel s.desk f w = true
  | .x11_unmapped xid | .x11_destroyed xid => s.desk.window_for_x11 xid = some w
  | .x11_disconnected => (s.desk.client w).x11.isSome ∧
      (w ∈ s.desk.windows ∨ w ∈ s.desk.x11_or_windows)
  | _ => False

/-- The event destroys the window `w` during a move or a resize of it. -/
def Loses (w : WinId) (s : Rwl) (e : Event) : Prop :=
  (s.grab.cursor_mode = .Move ∨ s.grab.cursor_mode = .Resize) ∧
    s.grab.grabbed_window = some w ∧ s.Destroys w e

/-- The handler finds the window `w` it is to forget; a popup is on no focus stack. -/
def Finds (w : WinId) (s : Rwl) : Event → Prop
  | .toplevel_destroyed f => s.desk.window_map f = some w
  | .x11_unmapped _ | .x11_destroyed _ =>
      (s.desk.st w).is_override_redirect = true → w ∉ s.desk.focus_stack
  | _ => True

instance (w : WinId) (s : Rwl) (e : Event) : Decidable (s.Finds w e) := by
  apply Event.casesOn (motive := fun e => Decidable (s.Finds w e)) e <;> intros <;>
    dsimp only [Finds] <;> infer_instance

/-- No handle is vouched for. -/
def handless : Registry.Grant WinId := ⟨fun _ => False, fun _ => True, False⟩

theorem away_toplevel_destroyed {s : Rwl} (hs : Enrolled s.desk) {f : SurfaceId} {w : WinId}
    (hw : w ∈ s.desk.windows) (htop : isToplevel s.desk f w = true)
    (hfound : s.desk.window_map f = some w) : Away (s.toplevel_destroyed f).desk w := by
  let s₁ := s.modifyDesk (dropToplevel · f)
  let s₂ := s₁.unmapped w
  have hdesk : s₂.desk = { dropToplevel s.desk f with
      space := Space.unmap_elem s.desk.space w } := desk_unmapped s₁ w
  have hdropped {l : List WinId} : w ∉ l.filter fun v => !isToplevel s.desk f v := by
    intro hmem
    have hnot := (List.mem_filter.1 hmem).2
    rw [htop] at hnot
    cases hnot
  have haway : Away s₂.desk w := by
    rw [hdesk]
    refine ⟨(hs.native w hw).1, hdropped, fun _ => ?_, fun hmem => ?_, hdropped⟩
    · exact Option.isNone_iff_eq_none.1 (Bool.and_eq_true_iff.1 htop).1
    · exact ((Space.mem_unmap_elem _ w w).1 hmem).1 rfl
  have hend : s.toplevel_destroyed f = ((s₁.windowGone w).modifyDesk
      (swallow.on_unmap · w)).refocus (s.desk.st w).buffer_mapped
        (swallow.restored (s₁.windowGone w).desk w) := by
    unfold toplevel_destroyed
    rw [hfound]
  have hchain : Stirs (fun _ _ => False) (fun _ _ => False) s₂ (s₁.windowGone w) :=
    Stirs.windowGone (Stirs.refl s₂)
  have hmends := (hchain.loose (f := (swallow.on_unmap · w))
    (Desk.outline_on_unmap _ w)).refocus (s.desk.st w).buffer_mapped
      (swallow.restored (s₁.windowGone w).desk w)
  have hsteps := ((Acts.refl (g := handless) s₁).settleGone w trivial
    (s.desk.st w).buffer_mapped).registry
  have hfrom : s₁.desk.registry = s₂.desk.registry := by
    rw [hdesk]
    rfl
  rw [hend]
  rw [hfrom] at hsteps
  exact haway.carry (H := fun _ => False) (hmends.chain.stirred.follows (fun _ _ h => h.elim)
    fun _ _ h => h.elim) hsteps id id

theorem away_settleX11 {s : Rwl} {w : WinId} (h : Away s.desk w) : Away s.settleX11.desk w := by
  have hmends : Mends (fun _ _ => False) (fun _ _ => False) s s.settleX11 :=
    (Stirs.refl s).settleX11
  exact h.carry (H := fun _ => False) (hmends.chain.stirred.follows (fun _ _ h => h.elim)
    fun _ _ h => h.elim) ((Acts.refl (g := handless) s).settleX11).registry id id

theorem away_unmap_x11_window {s : Rwl} (hs : Enrolled s.desk) {xid : ℕ} {w : WinId}
    (hw : s.desk.window_for_x11 xid = some w)
    (hpopup : (s.desk.st w).is_override_redirect = true → w ∉ s.desk.focus_stack) :
    Away (s.unmap_x11_window xid).desk w := by
  have hcreated := hs.created hw
  have hgone {l : List WinId} : w ∉ l.filter fun v => decide (v ≠ w) := by simp
  have hspace (sp : Space) : w ∉ (Space.unmap_elem sp w).map Prod.fst :=
    fun hmem => ((Space.mem_unmap_elem sp w w).1 hmem).1 rfl
  unfold unmap_x11_window
  rw [hw]
  dsimp only
  split_ifs with hor
  · refine ⟨hcreated, fun hmem => ?_, fun hmem => absurd hmem hgone, hspace _, hpopup hor⟩
    have hnative := (hs.native w hmem).2
    change (s.desk.st w).is_override_redirect = false at hnative
    rw [hor] at hnative
    cases hnative
  · refine away_settleX11 ⟨hcreated, hgone, fun hmem => absurd hmem List.not_mem_nil,
      fun hmem => ?_, hgone⟩
    exact hspace s.desk.space (onScreen_dismiss_x11_popups hmem)

theorem away_x11_disconnected {s : Rwl} (hs : Enrolled s.desk) {w : WinId}
    (hx : (s.desk.client w).x11.isSome = true)
    (hw : w ∈ s.desk.windows ∨ w ∈ s.desk.x11_or_windows) : Away s.x11_disconnected.desk w := by
  have hgone {l : List WinId} : w ∉ l.filter fun v => (s.desk.client v).x11.isNone := by
    intro hmem
    have hnone := (List.mem_filter.1 hmem).2
    rw [Option.isNone_iff_eq_none.1 hnone] at hx
    cases hx
  have hlisted {l : List WinId} (h : w ∈ l) : l.isEmpty = false := by
    cases l with
    | nil => exact absurd h List.not_mem_nil
    | cons => rfl
  have hdead (h : w ∈ s.desk.windows) : w ∈ s.desk.x11Windows := List.mem_filter.2 ⟨h, hx⟩
  unfold x11_disconnected
  split_ifs with hempty
  · rcases hw with hw | hw
    · rw [hlisted (hdead hw)] at hempty
      cases hempty.1
    · rw [hlisted hw] at hempty
      cases hempty.2
  · refine away_settleX11 ⟨?_, hgone, fun hmem => absurd hmem List.not_mem_nil, fun hmem => ?_,
      hgone⟩
    · rcases hw with hw | hw
      · exact (hs.native w hw).1
      · exact hs.overrides w hw
    · obtain ⟨hover, hmem⟩ := onScreen_foldl_unmap hmem
      rcases hw with hw | hw
      · exact (onScreen_foldl_unmap hmem).1 (hdead hw)
      · exact hover hw

/-- **The destruction leaves nothing of the window listed or mapped.** -/
theorem away_of_destroys {s : Rwl} (hs : Enrolled s.desk) {e : Event} {w : WinId}
    (hdestroys : s.Destroys w e) (hfinds : s.Finds w e) : Away (step s e).desk w := by
  cases e with
  | toplevel_destroyed f => exact away_toplevel_destroyed hs hdestroys.1 hdestroys.2 hfinds
  | x11_unmapped xid =>
    have haway := away_unmap_x11_window hs hdestroys hfinds
    exact haway.carry (H := fun _ => False) (follows_setX11Surface _ xid none)
      ((Acts.refl (g := handless) (s.unmap_x11_window xid)).setX11Surface xid none).registry id id
  | x11_destroyed xid => exact away_unmap_x11_window hs hdestroys hfinds
  | x11_disconnected => exact away_x11_disconnected hs hdestroys.1 hdestroys.2
  | _ => exact hdestroys.elim

/-- **A window that is destroyed during a drag of it does not come back** in a run that does not
take it from a handle: it is on no list of windows, on no focus stack and not on the screen. -/
theorem lost_stays_lost (env : Setup) (pre post : List Event) (e : Event) (w : WinId)
    (hloses : Loses w (run step (init env) pre) e) (hfinds : Finds w (run step (init env) pre) e)
    (hpost : Guarded step (Unheld w) (step (run step (init env) pre) e) post) :
    Always step (fun s => w ∉ s.desk.windows ∧ w ∉ s.desk.focus_stack ∧ ¬s.desk.onScreen w)
      (step (run step (init env) pre) e) post := by
  have henrolled : Enrolled (run step (init env) pre).desk :=
    Reach.inv (I := fun s => Enrolled s.desk) (fun s e h => step_enrolled s e h) ⟨pre, rfl⟩
      (init_enrolled env)
  have haway := away_of_destroys henrolled hloses.2.2 hfinds
  have hruns : Always step (fun s => Away s.desk w) (step (run step (init env) pre) e) post :=
    hpost.always (fun _ _ => step_away) haway
  exact hruns.mono fun s h => ⟨h.unmanaged, h.unfocused, h.unmapped⟩

/-- The client of a window asks for a move of it. -/
def dragged : List Event :=
  [.output_added 0 (plainOutput "a"), .new_toplevel 0 (plainClient 10), .commit 10 true,
    .move_request 10]

/-- The window goes, then the button is released, then the pointer moves. -/
theorem lost_stays_lost_released :
    Always step (fun s => 0 ∉ s.desk.windows ∧ 0 ∉ s.desk.focus_stack ∧ ¬s.desk.onScreen 0)
      (step (run step (init (plainSetup [] [])) dragged) (.toplevel_destroyed 10))
      [.button 1 false 1, .motion 5 5] :=
  lost_stays_lost _ dragged _ _ 0 ⟨.inl (by decide +kernel), by decide +kernel, by decide +kernel,
    by decide +kernel⟩ (by decide +kernel) ⟨by decide +kernel, by decide +kernel, trivial⟩

/-- The pointer moves before the button is released: the window is mapped again. -/
theorem not_lost_stays_lost :
    ¬∀ env pre e w post, Loses w (run step (init env) pre) e →
      Always step (fun s => w ∉ s.desk.windows ∧ w ∉ s.desk.focus_stack ∧ ¬s.desk.onScreen w)
        (step (run step (init env) pre) e) post := by
  intro h
  have hloses : Loses 0 (run step (init (plainSetup [] [])) dragged) (.toplevel_destroyed 10) :=
    ⟨.inl (by decide +kernel), by decide +kernel, by decide +kernel, by decide +kernel⟩
  have hend := (h _ dragged _ 0 [.motion 5 5] hloses).last
  refine hend.2.2 ?_
  decide +kernel

end Rwl

end Compositor
