import Mathlib.Tactic.Common
import Rwl.Core.XWayland
import Rwl.Core.Render
import Rwl.Core.Step
import Rwl.Theory.ShellActs

/-!
# XWayland, outputs and frames are chains of changes

* mapping, unmapping and the requests of X11 windows;
* `Acts.output_added`, `Acts.output_removed`;
* the part of a frame before it is composed;
* the socket commands.
-/

namespace Compositor

open Registry (Grant)

namespace Desk

/-! ### X11 windows -/

theorem registry_center_x11 (d : Desk) (w : WinId) : (d.center_x11 w).registry = d.registry := by
  unfold center_x11
  dsimp only
  split_ifs
  · rfl
  · split
    · rfl
    · exact registry_modifyWindow d w
        (f := fun s => { s with saved_loc := _ }) fun _ => ⟨rfl, rfl⟩

theorem registry_insertOverride (d : Desk) (w : WinId) (c : Client) :
    (d.insertOverride w c).registry = d.registry.insertForeign w c.wl_surface c.x11.isSome := by
  refine Registry.ext rfl rfl rfl rfl ?_ ?_ ?_ ?_ rfl rfl rfl
  · exact Function.comp_update Client.wl_surface d.client w c
  · exact Function.comp_update (fun c => c.x11.isSome) d.client w c
  · exact Function.comp_update WindowState.is_override_redirect d.st w _
  · exact Function.comp_update WindowState.mon_idx d.st w _

/-- Only X11 windows change their surface. -/
theorem steps_setX11Surface {g : Grant WinId} (d : Desk) (xid : ℕ) (f : Option SurfaceId) :
    Registry.Steps g d.registry (d.setX11Surface xid f).registry := by
  have hmovable : (fun w => ((d.setX11Surface xid f).client w).x11.isSome) =
      d.registry.movable := by
    funext w
    simp only [setX11Surface]
    split_ifs <;> rfl
  have hreg : (d.setX11Surface xid f).registry =
      { d.registry with keyOf := (d.setX11Surface xid f).wl_surface } :=
    Registry.ext rfl rfl rfl rfl rfl hmovable rfl rfl rfl rfl rfl
  rw [hreg]
  refine .single (.rekey _ _ fun w hw => ?_)
  have hwraps : (d.client w).wraps xid = false := by
    unfold Client.wraps
    cases hx : (d.client w).x11 with
    | none => rfl
    | some x => exact absurd hw (by simp [registry, hx])
  simp only [wl_surface, setX11Surface, hwraps]
  rfl

theorem window_for_x11_mem {d : Desk} {xid : ℕ} {w : WinId} (h : d.window_for_x11 xid = some w) :
    (d.client w).x11.isSome = true := by
  have hwraps := List.find?_some h
  simp only [Client.wraps, Option.any_eq_true] at hwraps
  obtain ⟨x, hx, _⟩ := hwraps
  exact Option.isSome_of_eq_some hx

theorem registry_removeX11 (d : Desk) (w : WinId) :
    (d.removeX11 w).registry =
      d.registry.remove (fun v => decide (v ≠ w)) fun k => decide (d.wl_surface w = some k) := by
  have hmap : (d.removeX11 w).window_map =
      fun k => if decide (d.wl_surface w = some k) = true then none else d.window_map k := by
    funext k
    unfold removeX11
    cases hf : d.wl_surface w with
    | none => simp
    | some f =>
      by_cases hk : k = f
      · subst hk
        simp
      · simp [Function.update_of_ne hk, Ne.symm hk]
  exact Registry.ext rfl rfl rfl hmap rfl rfl rfl rfl rfl rfl rfl

theorem registry_removeAllX11 (d : Desk) :
    d.removeAllX11.registry =
      d.registry.remove (fun w => (d.client w).x11.isNone)
        fun k => d.x11Windows.any fun w => decide (d.wl_surface w = some k) := rfl

/-! ### Outputs -/

theorem registry_addMonitor (d : Desk) (o : OutputId) (info : OutputInfo) :
    (d.addMonitor o info).registry =
      { d.registry with slots := d.registry.slots ++ [o], logs := d.registry.logs + 1 } := by
  have houtput : (d.newMonitor o info).output = o := by
    unfold newMonitor
    dsimp only
    split <;> rfl
  unfold addMonitor
  rw [registry_update_monitor_bounds]
  simp only [registry, List.map_append, List.length_append, List.map_cons, List.map_nil, houtput]
  rfl

theorem migrationTarget_spec (d : Desk) (idx : ℕ) :
    d.monitors.length ≤ 1 ∧ d.migrationTarget idx = 0 ∨
      d.migrationTarget idx ≠ idx ∧
        (d.migrationTarget idx = d.sel_mon ∨ d.migrationTarget idx < d.monitors.length) := by
  unfold migrationTarget
  split_ifs with hlen hsel
  · exact .inl ⟨hlen, rfl⟩
  · exact .inr ⟨hsel, .inl rfl⟩
  · refine .inr ?_
    have hother : ∃ i ∈ List.range d.monitors.length, decide (i ≠ idx) = true := by
      by_cases h0 : idx = 0
      · exact ⟨1, List.mem_range.2 (by omega), decide_eq_true (by omega)⟩
      · exact ⟨0, List.mem_range.2 (by omega), decide_eq_true (Ne.symm h0)⟩
    obtain ⟨i, hi⟩ := Option.isSome_iff_exists.1 (List.find?_isSome.2 hother)
    have hne := List.find?_some hi
    rw [hi, Option.getD_some]
    exact ⟨of_decide_eq_true hne, .inr (List.mem_range.1 (List.mem_of_find?_eq_some hi))⟩

/-- The tags a removed output gives its windows: those its target shows. -/
def migrationTags (d : Desk) (idx : ℕ) : ℕ :=
  ((d.monitors[d.migrationTarget idx]?).map Monitor.tags).getD 1

theorem st_removeMonitor (d : Desk) (idx : ℕ) (w : WinId) (hw : w ∈ d.windows) :
    (d.removeMonitor idx).st w =
      let s' := migrateWindow idx (d.migrationTarget idx) (d.migrationTags idx) (d.st w)
      { s' with mon_idx := shiftIndex idx s'.mon_idx } := by
  change (if w ∈ d.windows then _ else d.st w) = _
  rw [if_pos hw]
  rfl

theorem st_removeMonitor_of_not_mem (d : Desk) (idx : ℕ) (w : WinId) (hw : w ∉ d.windows) :
    (d.removeMonitor idx).st w = d.st w := by
  change (if w ∈ d.windows then _ else d.st w) = _
  rw [if_neg hw]

theorem mon_idx_migrateWindow (idx target tags : ℕ) (s : WindowState) :
    (migrateWindow idx target tags s).mon_idx = if s.mon_idx = idx then target else s.mon_idx := by
  unfold migrateWindow
  split_ifs <;> rfl

theorem is_override_redirect_migrateWindow (idx target tags : ℕ) (s : WindowState) :
    (migrateWindow idx target tags s).is_override_redirect = s.is_override_redirect := by
  unfold migrateWindow
  split_ifs <;> rfl

/-- **A removed output is a dropped slot.** -/
theorem registry_removeMonitor (d : Desk) (idx : ℕ) :
    (d.removeMonitor idx).registry = d.registry.dropSlot idx (d.migrationTarget idx) := by
  have hslot : (d.removeMonitor idx).registry.slot =
      (d.registry.dropSlot idx (d.migrationTarget idx)).slot := by
    funext w
    change ((d.removeMonitor idx).st w).mon_idx = if w ∈ d.windows then _ else (d.st w).mon_idx
    by_cases hw : w ∈ d.windows
    · rw [st_removeMonitor d idx w hw, if_pos hw]
      exact congrArg (shiftIndex idx) (mon_idx_migrateWindow ..)
    · rw [st_removeMonitor_of_not_mem d idx w hw, if_neg hw]
  have hforeign : (d.removeMonitor idx).registry.foreign = d.registry.foreign := by
    funext w
    change ((d.removeMonitor idx).st w).is_override_redirect = (d.st w).is_override_redirect
    by_cases hw : w ∈ d.windows
    · rw [st_removeMonitor d idx w hw]
      exact is_override_redirect_migrateWindow ..
    · rw [st_removeMonitor_of_not_mem d idx w hw]
  have hslots : (d.removeMonitor idx).registry.slots = d.registry.slots.eraseIdx idx :=
    (List.eraseIdx_map ..).symm
  have hlogs : (d.removeMonitor idx).registry.logs =
      if idx < d.registry.logs then d.registry.logs - 1 else d.registry.logs :=
    List.length_eraseIdx ..
  have hcur : (d.removeMonitor idx).registry.current =
      Registry.shiftCurrent idx (d.registry.slots.length - 1) d.registry.current := by
    rw [show d.registry.slots.length = d.monitors.length from List.length_map ..]
    rfl
  exact Registry.ext rfl rfl rfl rfl rfl rfl hforeign hslot hslots hcur hlogs

end Desk

namespace Rwl

namespace Acts

variable {g : Grant WinId} {s₀ s : Rwl}

/-! ### X11 windows -/

theorem center_x11 (h : Acts g s₀ s) (w : WinId) : Acts g s₀ (s.modifyDesk (Desk.center_x11 · w)) :=
  h.quiet (Desk.registry_center_x11 s.desk w)

theorem map_x11_window (h : Acts g s₀ s) {w : WinId} (hw : w ∉ s.desk.created) (c : Client) :
    Acts g s₀ (s.map_x11_window w c) := by
  have hinsert : (insertWindow s.desk w c fun st =>
      { st with is_floating := c.window_is_float_type }).registry =
        s.desk.registry.insert w c.wl_surface c.x11.isSome :=
    registry_insertWindow s.desk w c fun _ => ⟨rfl, rfl⟩
  have hmap : Acts g s₀ (s.modifyDesk fun d =>
      let d₁ := insertWindow d w c fun st => { st with is_floating := c.window_is_float_type }
      if c.window_is_float_type then d₁.center_x11 w else d₁) := by
    refine h.desk ?_
    have hreg : Registry.Steps g s.desk.registry (s.desk.registry.insert w c.wl_surface c.x11.isSome) :=
      .single (.insert _ w _ _ hw)
    dsimp only
    split_ifs
    · rw [Desk.registry_center_x11, hinsert]
      exact hreg
    · rw [hinsert]
      exact hreg
  unfold Rwl.map_x11_window
  dsimp only
  refine Acts.emit (Acts.arrange_all (hmap.focus_window (.of_mem ?_))) rfl
  change w ∈ Desk.windows (if c.window_is_float_type = true then _ else _)
  split_ifs
  · have := congrArg Registry.items (Desk.registry_center_x11
      (insertWindow s.desk w c fun st => { st with is_floating := c.window_is_float_type }) w)
    change Desk.windows _ = _ at this
    rw [this]
    exact List.mem_cons_self
  · exact List.mem_cons_self

theorem map_x11_override_redirect (h : Acts g s₀ s) {w : WinId} (hw : w ∉ s.desk.created)
    (c : Client) : Acts g s₀ (s.map_x11_override_redirect w c) := by
  refine h.desk ?_
  rw [Desk.registry_insertOverride]
  exact .single (.insertForeign _ w _ _ hw)

theorem settleX11 (h : Acts g s₀ s) : Acts g s₀ s.settleX11 := h.focus_top.arrange_all.emit rfl

/-- The surface keys an X11 window leaves behind when it is forgotten. -/
theorem unmap_x11_window (h : Acts g s₀ s) (xid : ℕ) (hh : ∀ w, ¬ g.handle w)
    (hc : g.clean → ∀ k w, s.desk.window_for_x11 xid = some w → s.desk.window_map k = some w →
      w ∈ s.desk.windows → (s.desk.st w).is_override_redirect = false →
        s.desk.wl_surface w = some k) :
    Acts g s₀ (s.unmap_x11_window xid) := by
  have hspace (w : WinId) := h.quiet
    (f := fun d => { d with space := Space.unmap_elem d.space w }) rfl
  unfold Rwl.unmap_x11_window
  split
  · exact h
  · rename_i w hw
    dsimp only
    split_ifs with hor
    · exact (hspace w).quiet rfl
    · refine Acts.settleX11 ((hspace w).desk (.single ?_))
      change Registry.Step g _ (Desk.removeX11 _ w).registry
      rw [Desk.registry_removeX11]
      refine .remove _ _ _ (fun v hv => absurd hv (hh v)) fun hg k v hk hv hne => ?_
      obtain rfl : v = w := by simpa using hne
      exact decide_eq_true (hc hg k v hw hk hv (Bool.eq_false_iff.2 hor))

theorem setX11Surface (h : Acts g s₀ s) (xid : ℕ) (f : Option SurfaceId) :
    Acts g s₀ (s.modifyDesk (Desk.setX11Surface · xid f)) :=
  h.desk (Desk.steps_setX11Surface s.desk xid f)

theorem surface_associated (h : Acts g s₀ s) (xid : ℕ) (f : SurfaceId)
    (hc : g.clean → ∀ w, (s.desk.setX11Surface xid (some f)).window_for_x11 xid = some w →
      w ∈ s.desk.windows) :
    Acts g s₀ (s.surface_associated xid f) := by
  refine h.desk ?_
  have hset := Desk.steps_setX11Surface (g := g) s.desk xid (some f)
  dsimp only
  split
  · rename_i w hw
    refine hset.tail (.bind _ f w (Desk.window_for_x11_mem hw) fun hg => hc hg w hw)
  · exact hset

theorem x11_property_notify (h : Acts g s₀ s) (xid : ℕ) :
    Acts g s₀ (s.x11_property_notify xid) := by
  unfold Rwl.x11_property_notify
  split
  · exact h
  · rename_i w _
    dsimp only
    split_ifs
    · exact h
    · refine Acts.emit (Acts.arrange_all (h.quiet ?_)) rfl
      rw [Desk.registry_center_x11, Desk.registry_modifyWindow _ w]
      exact fun _ => ⟨rfl, rfl⟩

theorem x11_configure_request (h : Acts g s₀ s) (xid : ℕ) (x y : Option ℤ) :
    Acts g s₀ (s.x11_configure_request xid x y) := by
  unfold Rwl.x11_configure_request
  split
  · exact h
  · rename_i w _
    dsimp only
    split_ifs
    · refine h.quiet ?_
      exact Desk.registry_modifyWindow s.desk w
        (f := fun st => { st with saved_loc := _ }) fun _ => ⟨rfl, rfl⟩
    · exact h

theorem x11_configure_notify (h : Acts g s₀ s) (xid : ℕ) (loc : Point) :
    Acts g s₀ (s.x11_configure_notify xid loc) := by
  unfold Rwl.x11_configure_notify
  split
  · exact h.quiet rfl
  · exact h

theorem x11_move_request (h : Acts g s₀ s) (xid : ℕ)
    (hw : ∀ w, s.desk.window_for_x11 xid = some w → Focusable g s.desk w) :
    Acts g s₀ (s.x11_move_request xid) := by
  unfold Rwl.x11_move_request
  split
  · rename_i w hx
    exact h.start_move (hw w hx)
  · exact h

theorem x11_resize_request (h : Acts g s₀ s) (xid : ℕ)
    (hw : ∀ w, s.desk.window_for_x11 xid = some w → Focusable g s.desk w) :
    Acts g s₀ (s.x11_resize_request xid) := by
  unfold Rwl.x11_resize_request
  split
  · rename_i w hx
    exact h.start_resize (hw w hx)
  · exact h

theorem x11_fullscreen_request (h : Acts g s₀ s) (xid : ℕ) (fs : Bool) :
    Acts g s₀ (s.x11_fullscreen_request xid fs) := by
  unfold Rwl.x11_fullscreen_request
  split
  · exact (h.set_fullscreen _ fs).arrange_all
  · exact h

theorem x11_disconnected (h : Acts g s₀ s) (hh : ∀ w, ¬ g.handle w)
    (hc : g.clean → ∀ k w, s.desk.window_map k = some w → w ∈ s.desk.windows →
      (s.desk.client w).x11.isSome = true → s.desk.wl_surface w = some k) :
    Acts g s₀ s.x11_disconnected := by
  unfold Rwl.x11_disconnected
  split_ifs
  · exact h
  · refine Acts.settleX11 (h.desk (.single ?_))
    rw [Desk.registry_removeAllX11]
    refine .remove _ _ _ (fun w hw => absurd hw (hh w)) fun hg k w hk hw hx => ?_
    have hx : (s.desk.client w).x11.isSome = true := by
      rw [← Option.not_isNone, hx]
      rfl
    exact List.any_eq_true.2 ⟨w, List.mem_filter.2 ⟨hw, hx⟩, decide_eq_true (hc hg k w hk hw hx)⟩

/-! ### Outputs -/

theorem output_added (h : Acts g s₀ s) {o : OutputId} (ho : s.desk.monitor_for_output o = none)
    (info : OutputInfo) : Acts g s₀ (s.output_added o info) := by
  have hadd : Acts g s₀ (s.modifyDesk (Desk.addMonitor · o info)) := by
    refine h.desk (.single ?_)
    rw [Desk.registry_addMonitor]
    refine .addSlot _ o fun hmem => ?_
    obtain ⟨m, hm, rfl⟩ := List.mem_map.1 hmem
    have hnone := List.findIdx?_eq_none_iff.1 ho m hm
    simp at hnone
  exact output_added_kept (fun _ h => h.rest rfl) (fun _ h => h.warp_cursor_to_focused)
    (fun _ h => h.rest rfl) (fun _ c h => h.fire c) (fun _ h => h.emit rfl) hadd.arrange_all

theorem output_removed (h : Acts g s₀ s) (o : OutputId) (hi : ∀ w, ¬ g.index w) :
    Acts g s₀ (s.output_removed o) := by
  unfold Rwl.output_removed
  dsimp only
  refine Acts.arrange_all ?_
  split
  · rename_i idx hidx
    refine Acts.emit (Acts.fire (Acts.fire (h.desk (.single ?_)) _) _) rfl
    rw [Desk.registry_removeMonitor]
    have hlen : s.desk.registry.slots.length = s.desk.monitors.length := List.length_map ..
    refine .dropSlot _ idx _ ?_ ?_ hi
    · rw [hlen]
      exact (List.findIdx?_eq_some_iff_getElem.1 hidx).1
    · rw [hlen]
      exact Desk.migrationTarget_spec s.desk idx
  · exact h

/-! ### Frames -/

theorem afterSlides (h : Acts g s₀ s) (transitioning : Bool) :
    Acts g s₀ (s.afterSlides transitioning) :=
  afterSlides_kept (fun _ h => h.arrange_all.focus_top) (fun _ _ h => h.rest rfl)
    (fun _ _ h => h.rest rfl) h transitioning

end Acts

/-- The window a frame focuses because the overview's closing animation ends on it. -/
def closesOn (s : Rwl) : Option WinId :=
  s.overview.bind fun ov =>
    if max s.desk.cfg.overview_animation_ms 1 ≤ s.desk.now - ov.anim_start then
      match ov.closing with
      | some (.Window w _) => some w
      | some .Cancel | none => none
    else none

/-- What decides `closesOn`. -/
def animation (s : Rwl) : Option OverviewState × ℕ × Config :=
  (s.overview, s.desk.now, s.desk.cfg)

theorem closesOn_congr {s s' : Rwl} (h : s'.animation = s.animation) :
    s'.closesOn = s.closesOn := by
  obtain ⟨hov, hrest⟩ := Prod.mk.inj h
  obtain ⟨hnow, hcfg⟩ := Prod.mk.inj hrest
  unfold closesOn
  rw [hov, hnow, hcfg]

theorem animation_of_bare (s : Rwl) {f : Desk → Desk} (hf : (f s.desk).bare = s.desk.bare) :
    (s.modifyDesk f).animation = s.animation := by
  have hnow : (f s.desk).bare.now = s.desk.bare.now := congrArg Desk.now hf
  have hcfg : (f s.desk).bare.cfg = s.desk.bare.cfg := congrArg Desk.cfg hf
  change (f s.desk).now = s.desk.now at hnow
  change (f s.desk).cfg = s.desk.cfg at hcfg
  simp only [animation, modifyDesk, hnow, hcfg]

@[simp] theorem animation_arrange (s : Rwl) (i : ℕ) : (s.arrange i).animation = s.animation :=
  animation_of_bare s (Desk.bare_arrange s.desk i)

@[simp] theorem animation_arrange_all (s : Rwl) : s.arrange_all.animation = s.animation := by
  unfold arrange_all refresh_pointer_focus
  have h := animation_of_bare s (Desk.bare_arrangePasses s.desk)
  split_ifs <;> exact h

@[simp] theorem animation_notifyFocus (s : Rwl) : s.notifyFocus.animation = s.animation := by
  unfold notifyFocus fireFocus
  dsimp only
  split
  · split_ifs <;> rfl
  · rfl

@[simp] theorem animation_followFocus (s : Rwl) (w : WinId) (prev : Option WinId) :
    (s.followFocus w prev).animation = s.animation := by
  unfold followFocus
  dsimp only
  split
  · split_ifs
    · rw [animation_arrange, animation_arrange]
      rfl
    · exact animation_arrange _ _
  · exact animation_arrange _ _

@[simp] theorem animation_focusChanged (s : Rwl) (prev : Option WinId) :
    (s.focusChanged prev).animation = s.animation := by
  unfold focusChanged
  split <;> simp

@[simp] theorem animation_focus_window (s : Rwl) (w : Option WinId) :
    (s.focus_window w).animation = s.animation := by
  unfold focus_window
  dsimp only
  split_ifs
  · split <;> rfl
  · split <;> rfl
  · rw [animation_focusChanged]
    split <;> rfl

@[simp] theorem animation_focus_top (s : Rwl) : s.focus_top.animation = s.animation :=
  animation_focus_window s _

@[simp] theorem animation_afterSlides (s : Rwl) (transitioning : Bool) :
    (s.afterSlides transitioning).animation = s.animation := by
  have hrefocus (t : Rwl) (h : t.animation = s.animation) :
      t.arrange_all.focus_top.animation = s.animation := by simp [h]
  exact afterSlides_kept hrefocus (fun _ _ h => h) (fun _ _ h => h) rfl transitioning

namespace Acts

variable {g : Grant WinId} {s₀ s : Rwl}

/-- The end of the overview's closing animation focuses the window it was heading for. -/
theorem advance (h : Acts g s₀ s) (hw : ∀ w, s.closesOn = some w → g.handle w ∧ g.index w) :
    Acts g s₀ (overview.advance s) := by
  unfold overview.advance overview.finish_close
  split
  · exact h
  · rename_i ov hov
    split_ifs with hdone
    · dsimp only
      split
      · rename_i w tag hclosing
        obtain ⟨hh, hi⟩ := hw w (by
          unfold closesOn
          rw [hov, Option.bind_some, if_pos hdone.2, hclosing])
        have hclosed : Acts g s₀ { s with overview := none } := h.rest rfl
        refine Acts.warp_cursor_to_focused (Acts.focus_window ?_ (.of_grant hh hi))
        split_ifs
        · exact hclosed.dispatch _
        · exact hclosed
      · exact h.rest rfl
      · exact h.rest rfl
    · exact h

theorem advanceSlides (h : Acts g s₀ s) : Acts g s₀ s.advanceSlides :=
  h.quiet (Desk.registry_advance_tag_transitions s.desk)

theorem animateVblank (h : Acts g s₀ s)
    (hw : ∀ w, s.closesOn = some w → g.handle w ∧ g.index w) : Acts g s₀ s.animateVblank := by
  have hslides : s.advanceSlides.closesOn = s.closesOn :=
    closesOn_congr (animation_of_bare s (Desk.bare_advance_tag_transitions s.desk))
  exact Acts.afterSlides ((h.advanceSlides.advance (hslides ▸ hw)).quiet
    (Desk.registry_finalize_slide_outs _)) _

theorem animateWinit (h : Acts g s₀ s)
    (hw : ∀ w, s.closesOn = some w → g.handle w ∧ g.index w) : Acts g s₀ s.animateWinit := by
  have hslides (b : Bool) : ((s.advanceSlides.modifyDesk Desk.finalize_slide_outs).afterSlides
      b).closesOn = s.closesOn := by
    refine closesOn_congr ?_
    rw [animation_afterSlides, animation_of_bare _ (Desk.bare_finalize_slide_outs _)]
    exact animation_of_bare s (Desk.bare_advance_tag_transitions s.desk)
  exact Acts.advance (Acts.afterSlides (h.advanceSlides.quiet
    (Desk.registry_finalize_slide_outs _)) _) ((hslides _) ▸ hw)

/-! ### The socket -/

theorem ipc_command (h : Acts g s₀ s) (cmd : IpcCmd) (which : Option ℕ) (val : ℕ) :
    Acts g s₀ (s.ipc_command cmd which val) := by
  have hone (d : Desk) (idx : ℕ) : (ipcApply cmd val d idx).registry = d.registry := by
    have hhistory (d : Desk) (tags : ℕ) : Desk.registry
        (if idx = d.sel_mon then d.update_tag_history idx tags else d) = d.registry := by
      split_ifs
      · exact Desk.registry_update_tag_history d idx tags
      · rfl
    cases cmd with
    | view =>
      by_cases hmask : val &&& d.cfg.tag_mask = 0
      · simp only [ipcApply, if_pos hmask]
      · simp only [ipcApply, if_neg hmask]
        refine (Desk.registry_pending_tag_transition _ _).trans ?_
        rw [Desk.registry_mark_slide_outs, Desk.registry_view, hhistory]
    | toggleview =>
      by_cases hnew : ((d.monitors[idx]?).map fun m => (m.tags ^^^ val) &&& d.cfg.tag_mask).getD 0 = 0
      · simp only [ipcApply, if_pos hnew]
      · simp only [ipcApply, if_neg hnew]
        rw [Desk.registry_modifyMonitor _ idx, hhistory]
        exact fun m => (Monitor.reviewed_toggle_view _ m val).sameOutput.1
    | setlayout =>
      exact Desk.registry_modifyMonitor d idx fun m => (Monitor.reviewed_set_layout _ m val).sameOutput.1
  have hall : Acts g s₀ (s.modifyDesk fun d =>
      (ipcOutputs s.desk which).foldl (ipcApply cmd val) d) :=
    h.quiet (Recency.foldl_keeps Desk.registry _ hone _ s.desk)
  have hevents (l : List ℕ) : ∀ {s}, Acts g s₀ s →
      Acts g s₀ (l.foldl (fun s idx => s.emit (.event (.tag idx))) s) := by
    induction l with
    | nil => exact fun h => h
    | cons i l ih => exact fun h => ih (h.emit rfl)
  unfold Rwl.ipc_command
  extract_lets indices s₁ s₂
  have h₁ : Acts g s₀ s₁ := hall.arrange_all
  have h₂ : Acts g s₀ s₂ := by
    dsimp only [s₂]
    split_ifs
    · exact h₁.focus_top
    · exact h₁
  split_ifs
  · exact h₂
  · exact hevents _ h₂

end Acts

end Rwl

end Compositor
