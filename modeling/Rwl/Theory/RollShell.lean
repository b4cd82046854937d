import Mathlib.Tactic.Common
import Rwl.Theory.RollActions

/-!
# Shell and X11 handlers mend what they stir

* `Passes`: a handler that mends what it stirs, whatever becomes of the grab; interactive moves and
  resizes;
* rules, leaving an empty view, closing a toplevel, commits, layers, titles and activation;
* X11 windows.

A handler that maps, makes or removes windows on its own asks that `K` or `L` allows it.
-/

namespace Compositor

namespace Desk

variable {file : Config} {K L : Desk → Desk → Prop} {d₀ d : Desk}

theorem picture_dragSplit (g : Grab) (i : ℕ) (delta : ℚ) (area : Monitor → ℤ) (d : Desk) :
    (grab.dragSplit g i delta area d).picture = d.picture := by
  refine picture_modifyMonitor d i fun m => ?_
  split_ifs <;> rfl

theorem picture_apply_cfact (g : Grab) (w : WinId) (len : ℤ) (delta : ℚ) (d : Desk) :
    (grab.apply_cfact g w len delta d).picture = d.picture := by
  unfold grab.apply_cfact
  split_ifs
  · rfl
  · exact picture_modifyWindow d w fun _ => ⟨rfl, rfl, rfl⟩

namespace Stirred

/-- A view jump leaves the slide for the passes. -/
theorem switchTo (h : Stirred file K L d₀ d) (w : WinId) (i mask : ℕ) :
    Stirred file K L d₀ (Compositor.switchTo d w i mask) := by
  have hrecord : Stirred file K L d₀ (d.update_tag_history i mask) :=
    h.loose (outline_update_tag_history d i mask)
  unfold Compositor.switchTo
  dsimp only
  split
  · exact hrecord
  · rename_i m _
    split_ifs
    · exact hrecord
    · have hmark := hrecord.mark m.tags (mask &&& d.cfg.tag_mask) m.w.size.w
      have hview := hmark.loose (outline_modifyMonitor _ i (Monitor.view d.cfg · mask))
      exact (hview.window w (f := fun s => { s with switch_to_tag := some m.tags })
        fun _ => ⟨rfl, rfl⟩).loose rfl

/-- The end of `apply_rules`. -/
theorem settle (h : Stirred file K L d₀ d) (w : WinId) (acc : RuleAccum) :
    Stirred file K L d₀ (Compositor.settle d w acc) := by
  unfold Compositor.settle
  refine window ?_ w fun _ => ⟨rfl, rfl⟩
  split
  · split_ifs
    · exact h
    · exact h.switchTo _ _ _
  · exact h

end Stirred

theorem outline_adoptParent (d : Desk) (w : WinId) (parent : SurfaceId) :
    (adoptParent d w parent).outline = d.outline := by
  unfold adoptParent
  exact outline_modifyWindow d w fun _ => ⟨rfl, rfl⟩

theorem outline_try_swallow (d : Desk) (w : WinId) :
    (swallow.try_swallow d w).outline = d.outline := by
  unfold swallow.try_swallow
  dsimp only
  split
  · unfold swallow.do_swallow
    dsimp only
    refine (outline_modifyWindow _ _ ?_).trans (outline_modifyWindow _ _ ?_) <;>
      exact fun _ => ⟨rfl, rfl⟩
  · rfl

theorem outline_on_unmap (d : Desk) (w : WinId) : (swallow.on_unmap d w).outline = d.outline := by
  -- the links of every window may change, and their slides stay
  have hlinks (d : Desk) : ({ d with st := d.st.modifyAll d.windows fun _ s =>
      { s with swallowing := if s.swallowing = some w then none else s.swallowing } } :
        Desk).outline = d.outline := by
    have hflags : ({ d with st := d.st.modifyAll d.windows fun _ s =>
        { s with swallowing := if s.swallowing = some w then none else s.swallowing } } :
          Desk).flags = d.flags :=
      funext fun v => Windows.modifyAll_field
        (fun st : WindowState => (st.slide_out, st.slide_start.isSome)) d.st d.windows v _
          fun _ _ => rfl
    unfold outline
    rw [hflags]
    rfl
  unfold swallow.on_unmap
  cases swallow.restored d w with
  | none =>
    dsimp only
    split_ifs
    · exact hlinks d
    · rfl
  | some term =>
    have hback := outline_modifyWindow d term (f := fun s =>
      { s with is_swallowed := false, tags := (d.st w).tags, mon_idx := (d.st w).mon_idx })
      fun _ => ⟨rfl, rfl⟩
    dsimp only
    split_ifs
    · exact (hlinks _).trans hback
    · exact hback

end Desk

/-- A grab holds the window `w`, and knows where the drag started and where `w` was then. -/
def Grab.Holding (g : Grab) (w : WinId) : Prop :=
  g.grabbed_window = some w ∧ g.grab_start.isSome ∧ g.grab_geom.isSome

instance (g : Grab) (w : WinId) : Decidable (g.Holding w) := inferInstanceAs (Decidable (_ ∧ _))

namespace Rwl

variable {K L : Desk → Desk → Prop} {s₀ s s' : Rwl}

/-! ### Interactive moves and resizes -/

/-- A handler mends what it stirs, whatever becomes of the session and the grab. -/
structure Passes (K L : Desk → Desk → Prop) (s s' : Rwl) : Prop where
  file : s'.config_file = s.config_file
  chain : Desk.Mended s.config_file K L s.desk s'.desk

theorem Mends.passes (h : Mends K L s₀ s) : Passes K L s₀ s := ⟨h.file, h.chain⟩

namespace Passes

theorem refl (s : Rwl) : Passes K L s s := ⟨rfl, .refl⟩

theorem trans (h : Passes K L s₀ s) (h' : Passes K L s s') : Passes K L s₀ s' := by
  refine ⟨h'.file.trans h.file, h.chain.trans ?_⟩
  have hc := h'.chain
  rwa [h.file] at hc

/-- A handler that mends what it stirs comes next. -/
theorem andThen (h : Passes K L s₀ s) (h' : Mends K L s s') : Passes K L s₀ s' := h.trans h'.passes

/-- Something beside the desk changes. -/
theorem same (h : Passes K L s₀ s) (hs : s'.store = s.store) : Passes K L s₀ s' := by
  obtain ⟨hdesk, hfile⟩ := Prod.mk.inj hs
  exact ⟨hfile.trans h.file, hdesk.symm ▸ h.chain⟩

/-- A move floats its window and focuses it. -/
theorem start_move (h : Passes K L s₀ s) (w : WinId)
    (hfloat : K s.desk (s.desk.modifyWindow w fun st => { st with is_floating := true })) :
    Passes K L s₀ (grab.start_move s w) := by
  have hchain : Passes K L s₀
      (s.modifyDesk fun d => d.modifyWindow w fun st => { st with is_floating := true }) :=
    ⟨h.file, .calm h.chain (.own _ _ hfloat)⟩
  unfold grab.start_move grab.begin
  refine andThen (hchain.same ?_) ((Mends.refl _).focus_window _)
  rfl

theorem start_resize (h : Passes K L s₀ s) (w : WinId) :
    Passes K L s₀ (grab.start_resize s w) := by
  unfold grab.start_resize grab.begin
  refine andThen (h.same ?_) ((Mends.refl _).focus_window _)
  rfl

theorem end_grab (h : Passes K L s₀ s) : Passes K L s₀ (grab.end_grab s) := by
  unfold grab.end_grab
  dsimp only
  split_ifs
  · split
    · rename_i w _
      -- the passes follow the window that is tiled again
      have hidle : Passes K L s₀ ({ s with grab := Grab.idle .Normal } : Rwl) := h.same rfl
      have htile := (Stirs.refl (K := K) (L := L) ({ s with grab := Grab.idle .Normal } : Rwl)).window
        w (f := fun st => { st with is_floating := false }) fun _ => ⟨rfl, rfl⟩
      exact hidle.andThen htile.arrange_all
    · have hidle : Passes K L s₀ ({ s with grab := Grab.idle .Normal } : Rwl) := h.same rfl
      exact hidle.andThen (Mends.refl _).arrange_all
  · split <;> exact h.same rfl

end Passes

namespace Mends

theorem handle_move (h : Mends K L s₀ s) (loc : PointF)
    (hmap : ∀ w loc, s.grab.Holding w →
      K s.desk { s.desk with space := Space.map_element s.desk.space w loc }) :
    Mends K L s₀ (grab.handle_move s loc) := by
  unfold grab.handle_move
  split
  · rename_i w start geom hw hstart hgeom
    refine h.own (f := fun d => { d with space := Space.map_element d.space w _ }) (hmap w _ ?_)
    exact ⟨hw, by rw [hstart]; rfl, by rw [hgeom]; rfl⟩
  · exact h

theorem handle_resize (h : Mends K L s₀ s) (loc : PointF) :
    Mends K L s₀ (grab.handle_resize s loc) := by
  have hdrag (g : Grab) (w : WinId) (i : ℕ) (len : ℤ) (d₁ d₂ : ℚ) (area : Monitor → ℤ) :
      Mends K L s₀ ((s.modifyDesk fun d =>
        grab.apply_cfact g w len d₁ (grab.dragSplit g i d₂ area d)).arrange i) := by
    have hsplit := Desk.picture_dragSplit g i d₂ area s.desk
    refine Mends.arrange (h.aside ?_) i
    exact (Desk.picture_apply_cfact g w len d₁ _).trans hsplit
  have hsplit (g : Grab) (i : ℕ) (delta : ℚ) (area : Monitor → ℤ) :
      Mends K L s₀ ((s.modifyDesk (grab.dragSplit g i delta area)).arrange i) :=
    Mends.arrange (h.aside (Desk.picture_dragSplit ..)) i
  unfold grab.handle_resize
  split
  · dsimp only
    split_ifs
    · exact h
    · split
      · exact h
      · split
        · exact hdrag ..
        · exact hdrag ..
        · exact hdrag ..
        · split
          · rename_i facts _
            exact (h.tune _ (f := fun m => { m with col_facts := facts }) fun _ => rfl).arrange _
          · exact h
        · split_ifs
          · exact hsplit ..
          · exact h
        · split_ifs
          · exact hsplit ..
          · exact h
        · exact h
        · exact h
  · exact h

end Mends

/-! ### Rules -/

theorem Stirs.apply_rules (h : Stirs K L s₀ s) (w : WinId) : Stirs K L s₀ (s.apply_rules w) := by
  unfold Rwl.apply_rules
  split
  · exact h.loose (Desk.outline_adoptParent s.desk w _)
  · dsimp only
    split
    · rename_i ov _
      refine (h.fire _).desk ?_
      have hkeep : Desk.Stirred s₀.config_file K L s.desk (s.desk.modifyWindow w fun st =>
          { st with no_swallow := ov.no_swallow.getD st.no_swallow }) :=
        Desk.Stirred.window .refl w fun _ => ⟨rfl, rfl⟩
      exact hkeep.settle w _
    · exact (h.fire _).desk (Desk.Stirred.settle .refl w _)

/-! ### Closing -/

theorem Stirs.cancelRepeat (h : Stirs K L s₀ s) : Stirs K L s₀ s.cancelRepeat := h.same rfl

theorem Stirs.auto_back_empty_tag (h : Stirs K L s₀ s) (i tags : ℕ) (jump : Option ℕ) :
    Stirs K L s₀ (auto_back_empty_tag.on_window_closed s i tags jump) := by
  have hforget : Stirs K L s₀ (s.modifyDesk fun d =>
      { d with tag_history := d.tag_history.modify i fun h =>
        h.filter fun t => decide (t ≠ tags) }) := h.loose rfl
  unfold auto_back_empty_tag.on_window_closed
  split_ifs
  · exact h
  · dsimp only
    split
    · exact hforget
    · rename_i t _
      have hback := hforget.monitor i fun cfg m => (MonitorOp.retag t).run cfg m
      have hmark (ow : ℚ) := (hback.mark tags t ow).cancelRepeat
      exact ((hmark _).arrange_all.slide tags t _).focus_top.stirs

/-- What follows once a closed window has left the screen. -/
theorem Stirs.windowGone {w : WinId} (hpip : Stirs K L s₀ ((pip.on_window_closed s w).modifyDesk
    fun d => { d with space := Space.unmap_elem d.space w })) :
    Stirs K L s₀ (s.windowGone w) := by
  have hdrain {s₁ : Rwl} (h₁ : Stirs K L s₀ s₁) : Stirs K L s₀ s₁.drain :=
    h₁.andThen (Mends.refl s₁).drain
  unfold Rwl.windowGone
  dsimp only
  split_ifs
  · exact (hdrain ((hpip.auto_back_empty_tag _ _ _).fire _)).emit _
  · exact (hdrain (hpip.fire _)).emit _
  · exact hpip.auto_back_empty_tag _ _ _
  · exact hpip

theorem Stirs.refocus (h : Stirs K L s₀ s) (was_visible : Bool) (restored : Option WinId) :
    Mends K L s₀ (s.refocus was_visible restored) := by
  have hfocus (top : Option WinId) := (h.focus_window top).arrange_all
  unfold Rwl.refocus
  dsimp only
  split_ifs
  · exact (hfocus _).warp_cursor_to_focused.same (ground_overview_on_window_closed _)
  · exact hfocus _

namespace Mends

/-- **A destroyed toplevel.** -/
theorem toplevel_destroyed (h : Mends K L s₀ s) (f : SurfaceId)
    (hdrop : L s.desk (dropToplevel s.desk f))
    (hunmap : ∀ w, s.desk.window_map f = some w → ∀ d, L d
      { d with space := Space.unmap_elem d.space w }) :
    Mends K L s₀ (s.toplevel_destroyed f) := by
  have hdropped : Stirs K L s₀ (s.modifyDesk (dropToplevel · f)) := h.stirs.own hdrop
  unfold Rwl.toplevel_destroyed
  dsimp only
  split
  · rename_i w hw
    have hgone := Stirs.windowGone ((hdropped.same (ground_pip_on_window_closed _ w)).own
      (f := fun d => { d with space := Space.unmap_elem d.space w }) (hunmap w hw _))
    exact Stirs.refocus (hgone.loose (f := (swallow.on_unmap · w))
      (Desk.outline_on_unmap _ w)) _ _
  · exact hdropped.refocus _ _

/-! ### Commits -/

/-- The first commit of a window. -/
theorem firstCommit (h : Mends K L s₀ s) (w : WinId) : Mends K L s₀ (s.firstCommit w) := by
  have hrules := (h.stirs.window w (f := fun st => { st with rules_applied := true })
    fun _ => ⟨rfl, rfl⟩).apply_rules w
  have hswallowed := (hrules.loose (f := (swallow.try_swallow · w))
    (Desk.outline_try_swallow _ w)).fire (.window_open w)
  exact ((hswallowed.andThen (Mends.refl _).drain).arrangedTop).emit _

theorem firstBuffer (h : Mends K L s₀ s) (w : WinId) : Mends K L s₀ (s.firstBuffer w) := by
  have hmapped := h.window w (f := fun st => { st with buffer_mapped := true })
    fun _ => ⟨rfl, rfl, rfl⟩
  have hfloat {s₁ : Rwl} (h₁ : Mends K L s₀ s₁) := (h₁.stirs.window w
    (f := fun st => { st with is_floating := true, needs_centering := true })
    fun _ => ⟨rfl, rfl⟩).arrange_all
  unfold Rwl.firstBuffer
  dsimp only
  split_ifs
  · exact hfloat hmapped.warp_cursor_to_focused
  · exact hmapped.warp_cursor_to_focused
  · exact hfloat hmapped
  · exact hmapped
  · exact h

theorem refreshNames (h : Mends K L s₀ s) (w : WinId) : Mends K L s₀ (s.refreshNames w) := by
  have hnames := h.window w (f := fun st =>
    { st with
      last_title := (namesNow (s.desk.client w)).1
      last_appid := (namesNow (s.desk.client w)).2 }) fun _ => ⟨rfl, rfl, rfl⟩
  unfold Rwl.refreshNames
  dsimp only
  split_ifs
  · exact hnames.emit _
  · exact h

theorem commit_window (h : Mends K L s₀ s) (w : WinId) (initial_sent : Bool)
    (hcentre : ∀ d, K d (Rwl.centre d w)) : Mends K L s₀ (s.commit_window w initial_sent) := by
  unfold Rwl.commit_window
  refine Mends.refreshNames (Mends.own (Mends.firstBuffer ?_ w) (hcentre _)) w
  split_ifs
  · exact h.firstCommit w
  · exact h.arrange_all
  · exact h

theorem commit_layer (h : Mends K L s₀ s) (idx : ℕ) : Mends K L s₀ (s.commit_layer idx) := by
  unfold Rwl.commit_layer
  refine Mends.update_layer_focus ?_
  split
  · exact h
  · rename_i mon _
    dsimp only
    split_ifs
    · exact (h.tune idx (f := fun m => { m with w := layerArea s.desk mon }) fun _ => rfl).arrange idx
    · exact h

/-- **A commit.** -/
theorem commit (h : Mends K L s₀ s) (f : SurfaceId) (initial_sent : Bool)
    (hcentre : ∀ w, s.desk.window_map f = some w → ∀ d, K d (Rwl.centre d w)) :
    Mends K L s₀ (s.commit f initial_sent) := by
  unfold Rwl.commit
  split
  · rename_i w hw
    exact h.commit_window w initial_sent (hcentre w hw)
  · split
    · exact h.commit_layer _
    · exact h

theorem layer_destroyed (h : Mends K L s₀ s) (f : SurfaceId) : Mends K L s₀ (s.layer_destroyed f) := by
  unfold Rwl.layer_destroyed
  exact Mends.update_layer_focus (Mends.arrange_all (h.aside rfl))

/-! ### Requests -/

theorem fullscreen_request (h : Mends K L s₀ s) (f : SurfaceId) (fs : Bool) :
    Mends K L s₀ (s.fullscreen_request f fs) := by
  unfold Rwl.fullscreen_request
  split
  · rename_i w _
    have hset := (h.stirs.set_fullscreen w fs).arrange_all
    dsimp only
    split_ifs
    · exact (hset.fire _).emit _
    · exact hset
  · exact h

theorem parent_changed (h : Mends K L s₀ s) (f : SurfaceId)
    (hwait : ∀ w, s.desk.window_map f = some w →
      K s.desk (s.desk.modifyWindow w fun st => { st with rules_applied := false })) :
    Mends K L s₀ (s.parent_changed f) := by
  unfold Rwl.parent_changed
  split
  · rename_i w hw
    split_ifs
    · exact h.own (hwait w hw)
    · exact h
  · exact h

theorem checkTitle (h : Mends K L s₀ s) (w : WinId) : Mends K L s₀ (s.checkTitle w) := by
  have hnames := h.window w (f := fun st =>
    { st with
      last_title := (namesNow (s.desk.client w)).1
      last_appid := (namesNow (s.desk.client w)).2 }) fun _ => ⟨rfl, rfl, rfl⟩
  unfold Rwl.checkTitle
  dsimp only
  split_ifs
  · exact hnames
  · split
    · exact (hnames.fire _).emit _
    · exact hnames.emit _

theorem check_toplevel_titles (h : Mends K L s₀ s) : Mends K L s₀ s.check_toplevel_titles := by
  unfold Rwl.check_toplevel_titles
  split_ifs
  · exact h
  · exact (foldl (fun _ w h => h.checkTitle w) _ h).emit _

theorem dialog_hint_changed (h : Mends K L s₀ s) (f : SurfaceId) :
    Mends K L s₀ (s.dialog_hint_changed f) := by
  unfold Rwl.dialog_hint_changed
  split
  · exact h
  · split_ifs
    · exact h
    · exact Stirs.arrange_all (h.stirs.window _ fun _ => ⟨rfl, rfl⟩)

theorem request_activation (h : Mends K L s₀ s) (f : SurfaceId) :
    Mends K L s₀ (s.request_activation f) := by
  unfold Rwl.request_activation
  split
  · exact h
  · rename_i w _
    have hurgent := h.window w (f := fun st => { st with is_urgent := true })
      fun _ => ⟨rfl, rfl, rfl⟩
    split_ifs
    · exact h
    · exact ((hurgent.fire _).emit _).focus_urgent

/-! ### X11 windows -/

theorem x11_fullscreen_request (h : Mends K L s₀ s) (xid : ℕ) (fs : Bool) :
    Mends K L s₀ (s.x11_fullscreen_request xid fs) := by
  unfold Rwl.x11_fullscreen_request
  split
  · exact (h.stirs.set_fullscreen _ fs).arrange_all
  · exact h

end Mends

theorem Stirs.settleX11 (h : Stirs K L s₀ s) : Mends K L s₀ s.settleX11 :=
  h.focus_top.arrange_all.emit _

namespace Mends

theorem map_x11_window (h : Mends K L s₀ s) (w : WinId) (c : Client)
    (hinsert : ∀ float, L s.desk
      (insertWindow s.desk w c fun st => { st with is_floating := float }))
    (hcentre : ∀ d, L d (d.center_x11 w)) : Mends K L s₀ (s.map_x11_window w c) := by
  let float := c.window_is_float_type
  let d₁ := insertWindow s.desk w c fun st => { st with is_floating := float }
  have hmapped : Desk.Stirred s₀.config_file K L s.desk d₁ :=
    .single (.stir (.own _ _ (hinsert float)))
  have hcentred : Stirs K L s₀ (s.modifyDesk fun _ => if float then d₁.center_x11 w else d₁) := by
    refine h.stirs.desk ?_
    split_ifs
    · exact hmapped.tail (.stir (.own _ _ (hcentre d₁)))
    · exact hmapped
  exact (hcentred.focus_window _).arrange_all.emit _

theorem unmap_x11_window (h : Mends K L s₀ s) (xid : ℕ)
    (hpopup : ∀ w, s.desk.window_for_x11 xid = some w →
      (s.desk.st w).is_override_redirect = true → K s.desk { s.desk with
        space := Space.unmap_elem s.desk.space w
        x11_or_windows := s.desk.x11_or_windows.filter fun v => decide (v ≠ w) })
    (hremove : ∀ w, s.desk.window_for_x11 xid = some w → L s.desk (Desk.dismiss_x11_popups
      (Desk.removeX11 { s.desk with space := Space.unmap_elem s.desk.space w } w))) :
    Mends K L s₀ (s.unmap_x11_window xid) := by
  unfold Rwl.unmap_x11_window
  split
  · exact h
  · rename_i w hw
    split_ifs with hor
    · exact h.own (f := fun d => { d with
        space := Space.unmap_elem d.space w
        x11_or_windows := d.x11_or_windows.filter fun v => decide (v ≠ w) }) (hpopup w hw hor)
    · exact Stirs.settleX11 (h.stirs.own (f := fun d => Desk.dismiss_x11_popups
        (Desk.removeX11 { d with space := Space.unmap_elem d.space w } w)) (hremove w hw))

theorem x11_configure_request (h : Mends K L s₀ s) (xid : ℕ) (x y : Option ℤ)
    (hmap : ∀ w loc, s.desk.window_for_x11 xid = some w →
      (s.desk.st w).is_override_redirect = true ∨ (s.desk.st w).is_floating = true →
        K s.desk { s.desk.modifyWindow w (fun st => { st with saved_loc := some loc }) with
          space := Space.map_element s.desk.space w loc }) :
    Mends K L s₀ (s.x11_configure_request xid x y) := by
  unfold Rwl.x11_configure_request
  split
  · exact h
  · rename_i w hw
    dsimp only
    split_ifs with hfree
    · exact h.own (hmap w _ hw hfree)
    · exact h

theorem x11_configure_notify (h : Mends K L s₀ s) (xid : ℕ) (loc : Point)
    (hmap : ∀ w, s.desk.window_for_x11 xid = some w →
      K s.desk { s.desk with space := Space.map_element s.desk.space w loc }) :
    Mends K L s₀ (s.x11_configure_notify xid loc) := by
  unfold Rwl.x11_configure_notify
  split
  · rename_i w hw
    exact h.own (hmap w hw)
  · exact h

theorem x11_disconnected (h : Mends K L s₀ s) (hremove : L s.desk (Desk.removeAllX11 s.desk)) :
    Mends K L s₀ s.x11_disconnected := by
  unfold Rwl.x11_disconnected
  split_ifs
  · exact h
  · exact Stirs.settleX11 (h.stirs.own hremove)

end Mends

end Rwl

end Compositor
