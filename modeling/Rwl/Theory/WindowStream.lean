import Mathlib.Tactic.Common
import Rwl.Theory.HeardEvents
import Rwl.Theory.SwallowRuns

/-!
# The window events of a run

* `toldOf`: what a list of news tells of one window;
* `Reports`: the invariant that ties the news to the windows and their stages;
* `Reported`: a window opens at most once, closes at most once and only after it opened, and one
  that opened and has gone has closed;
* `ReportsOnce`: the rules of a window run once, X11 windows go before their rules have run, and
  toplevels have had a buffer when they go; `window_stream`: the runs that meet it.
-/

namespace Compositor

/-! ### The news of one window -/

/-- What a list of news, newest first, tells of the window `w`, oldest first. -/
def toldOf (news : List (WinId × News)) (w : WinId) : List News :=
  ((news.filter fun p => decide (p.1 = w)).map Prod.snd).reverse

theorem toldOf_cons_self (w : WinId) (n : News) (news : List (WinId × News)) :
    toldOf ((w, n) :: news) w = toldOf news w ++ [n] := by
  simp [toldOf]

theorem toldOf_cons_of_ne {v w : WinId} (h : v ≠ w) (n : News) (news : List (WinId × News)) :
    toldOf ((v, n) :: news) w = toldOf news w := by
  simp [toldOf, h]

/-- What a window of a stage has had told of it. -/
def Stage.told (g : Stage) : List News :=
  if g.rules_applied || g.buffer_mapped then [.opened] else []

/-! ### The invariant -/

/-- The news `h.1` agree with the windows and their stages `h.2`: a managed window has opened when
its rules have run or it has a buffer, a window that has gone has closed if it opened, a window
that was never made has no news, and a window that hides a terminal has opened. -/
structure Reports (k : LinkPart) (h : List (WinId × News) × (WinId → Stage)) : Prop where
  managed : ∀ w, k.managed w = true → toldOf h.1 w = (h.2 w).told
  gone : ∀ w, k.managed w = false → toldOf h.1 w = [] ∨ toldOf h.1 w = [.opened, .closed]
  fresh : ∀ w, w ∉ k.created → toldOf h.1 w = []
  holding : ∀ w t, k.hides w = some t → toldOf h.1 w ≠ []

namespace Reports

variable {k k' : LinkPart} {h : List (WinId × News) × (WinId → Stage)}

/-- Windows that never opened may go. -/
theorem leave (hr : Reports k h) (hcreated : k'.created = k.created)
    (hhides : ∀ w t, k'.hides w = some t → k.hides w = some t)
    (hmanaged : ∀ w, k'.managed w = true → k.managed w = true)
    (hgone : ∀ w, k.managed w = true → k'.managed w = false → (h.2 w).told = []) :
    Reports k' h := by
  refine ⟨fun w hw => hr.managed w (hmanaged w hw), fun w hw => ?_, fun w hw => ?_,
    fun w t ht => hr.holding w t (hhides w t ht)⟩
  · cases hm : k.managed w with
    | true => exact .inl ((hr.managed w hm).trans (hgone w hm hw))
    | false => exact hr.gone w hm
  · rw [hcreated] at hw
    exact hr.fresh w hw

/-- The links change but not the windows. -/
theorem congr (hr : Reports k h) (hcreated : k'.created = k.created) (hhides : k'.hides = k.hides)
    (hmanaged : k'.managed = k.managed) : Reports k' h := by
  refine hr.leave hcreated (fun w t ht => hhides ▸ ht) (fun w hw => hmanaged ▸ hw)
    fun w hw hw' => ?_
  rw [hmanaged, hw] at hw'
  cases hw'

/-- A fresh managed window joins. -/
theorem insert (hr : Reports k h) {w : WinId} (hw : w ∉ k.created) (x : Bool)
    (f : Option SurfaceId) :
    Reports (k.insert w x f) (h.1, Function.update h.2 w ⟨false, false⟩) := by
  constructor
  · intro v hv
    by_cases hvw : v = w
    · subst hvw
      dsimp only
      rw [Function.update_self]
      exact hr.fresh v hw
    · dsimp only
      rw [Function.update_of_ne hvw]
      exact hr.managed v ((Function.update_of_ne hvw ..).symm.trans hv)
  · intro v hv
    by_cases hvw : v = w
    · subst hvw
      exact .inl (hr.fresh v hw)
    · exact hr.gone v ((Function.update_of_ne hvw ..).symm.trans hv)
  · exact fun v hv => hr.fresh v fun hmem => hv (List.mem_cons_of_mem w hmem)
  · intro v t ht
    by_cases hvw : v = w
    · subst hvw
      cases (Function.update_self ..).symm.trans ht
    · exact hr.holding v t ((Function.update_of_ne hvw ..).symm.trans ht)

/-- A fresh window joins that the compositor does not manage. -/
theorem popup (hr : Reports k h) {w : WinId} (hw : w ∉ k.created) (hm : k.managed w = false)
    (g : Stage) (hmanaged : k'.managed = k.managed) (hcreated : k'.created = w :: k.created)
    (hhides : k'.hides = Function.update k.hides w none) :
    Reports k' (h.1, Function.update h.2 w g) := by
  constructor
  · intro v hv
    rw [hmanaged] at hv
    have hvw : v ≠ w := by
      rintro rfl
      rw [hm] at hv
      cases hv
    dsimp only
    rw [Function.update_of_ne hvw]
    exact hr.managed v hv
  · intro v hv
    rw [hmanaged] at hv
    exact hr.gone v hv
  · intro v hv
    rw [hcreated] at hv
    exact hr.fresh v fun hmem => hv (List.mem_cons_of_mem w hmem)
  · intro v t ht
    rw [hhides] at ht
    by_cases hvw : v = w
    · subst hvw
      cases (Function.update_self ..).symm.trans ht
    · exact hr.holding v t ((Function.update_of_ne hvw ..).symm.trans ht)

/-- The stage of a window changes but not what it tells of it. -/
theorem restage (hr : Reports k h) {w : WinId} {g : Stage}
    (hg : k.managed w = true → g.told = (h.2 w).told) :
    Reports k (h.1, Function.update h.2 w g) := by
  refine ⟨fun v hv => ?_, hr.gone, hr.fresh, hr.holding⟩
  by_cases hvw : v = w
  · subst hvw
    dsimp only
    rw [Function.update_self, hg hv]
    exact hr.managed v hv
  · dsimp only
    rw [Function.update_of_ne hvw]
    exact hr.managed v hv

/-- A managed window that has not opened opens; it may hide a terminal from now on. -/
theorem opens (hr : Reports k h) {w : WinId} (hm : k.managed w = true) (hw : (h.2 w).told = [])
    (hcreated : k'.created = k.created) (hmanaged : k'.managed = k.managed)
    (hhides : ∀ v, v ≠ w → k'.hides v = k.hides v)
    (hknown : w ∈ k.created) (mapped : Bool) :
    Reports k' ((w, .opened) :: h.1, Function.update h.2 w ⟨true, mapped⟩) := by
  have htold : toldOf ((w, .opened) :: h.1) w = [.opened] := by
    rw [toldOf_cons_self, hr.managed w hm, hw, List.nil_append]
  have hother {v : WinId} (hvw : v ≠ w) : toldOf ((w, .opened) :: h.1) v = toldOf h.1 v :=
    toldOf_cons_of_ne (Ne.symm hvw) _ _
  constructor
  · intro v hv
    by_cases hvw : v = w
    · subst hvw
      dsimp only
      rw [htold, Function.update_self]
      rfl
    · dsimp only
      rw [hother hvw, Function.update_of_ne hvw]
      exact hr.managed v (hmanaged ▸ hv)
  · intro v hv
    rw [hmanaged] at hv
    have hvw : v ≠ w := by
      rintro rfl
      rw [hm] at hv
      cases hv
    rw [hother hvw]
    exact hr.gone v hv
  · intro v hv
    rw [hcreated] at hv
    have hvw : v ≠ w := fun heq => hv (heq ▸ hknown)
    rw [hother hvw]
    exact hr.fresh v hv
  · intro v t ht
    by_cases hvw : v = w
    · subst hvw
      rw [htold]
      exact List.cons_ne_nil _ _
    · rw [hother hvw]
      exact hr.holding v t (hhides v hvw ▸ ht)

/-- A managed window that has opened closes and goes. -/
theorem closes (hr : Reports k h) {w : WinId} (hm : k.managed w = true)
    (hw : (h.2 w).told = [.opened]) (hcreated : k'.created = k.created)
    (hmanaged : ∀ v, k'.managed v = true ↔ k.managed v = true ∧ v ≠ w)
    (hhides : ∀ v t, k'.hides v = some t → k.hides v = some t) (hknown : w ∈ k.created) :
    Reports k' ((w, .closed) :: h.1, h.2) := by
  have htold : toldOf ((w, .closed) :: h.1) w = [.opened, .closed] := by
    rw [toldOf_cons_self, hr.managed w hm, hw]
    rfl
  have hother {v : WinId} (hvw : v ≠ w) : toldOf ((w, .closed) :: h.1) v = toldOf h.1 v :=
    toldOf_cons_of_ne (Ne.symm hvw) _ _
  constructor
  · intro v hv
    obtain ⟨hv, hvw⟩ := (hmanaged v).1 hv
    rw [hother hvw]
    exact hr.managed v hv
  · intro v hv
    by_cases hvw : v = w
    · subst hvw
      exact .inr htold
    · rw [hother hvw]
      refine hr.gone v (Bool.eq_false_iff.2 fun hmv => ?_)
      rw [(hmanaged v).2 ⟨hmv, hvw⟩] at hv
      cases hv
  · intro v hv
    rw [hcreated] at hv
    have hvw : v ≠ w := fun heq => hv (heq ▸ hknown)
    rw [hother hvw]
    exact hr.fresh v hv
  · intro v t ht
    by_cases hvw : v = w
    · subst hvw
      rw [htold]
      exact List.cons_ne_nil _ _
    · rw [hother hvw]
      exact hr.holding v t (hhides v t ht)

end Reports

namespace Rwl

/-! ### The guard -/

/-- One event keeps the event stream in order: the rules of a window run once and while it is
managed, an X11 window goes before its rules have run, a toplevel that goes has had a buffer once
its rules have run, and a surface has one role. -/
def ReportsOnce (s : Rwl) : Event → Prop
  | .commit f _ => ∀ w ∈ s.desk.window_map f, (s.desk.st w).rules_applied = false →
      w ∈ s.desk.windows ∧ (s.desk.st w).buffer_mapped = false
  | .parent_changed f => ∀ w ∈ s.desk.window_map f,
      (s.desk.client w).toplevel_parent.isSome = true → (s.desk.st w).is_floating = false →
        (s.desk.st w).rules_applied = true → (s.desk.st w).buffer_mapped = true
  | .toplevel_destroyed f => ∀ w ∈ s.desk.window_map f, (s.desk.client w).x11 = none ∧
      ((s.desk.st w).rules_applied = true → (s.desk.st w).buffer_mapped = true)
  | .x11_unmapped xid | .x11_destroyed xid => ∀ w ∈ s.desk.window_for_x11 xid,
      (s.desk.st w).is_override_redirect = false →
        (s.desk.st w).rules_applied = false ∧ (s.desk.st w).buffer_mapped = false
  | .x11_disconnected => ∀ w ∈ s.desk.x11Windows,
      (s.desk.st w).rules_applied = false ∧ (s.desk.st w).buffer_mapped = false
  | e => SwallowsOnce s e

instance (s : Rwl) (e : Event) : Decidable (ReportsOnce s e) := by
  apply Event.casesOn (motive := fun e => Decidable (ReportsOnce s e)) e <;>
    (intros; dsimp only [ReportsOnce]; infer_instance)

/-! ### Steps -/

variable {s : Rwl}

theorem told_stage_eq_nil {w : WinId} (hrules : (s.desk.st w).rules_applied = false)
    (hbuffer : (s.desk.st w).buffer_mapped = false) : (s.heard.2 w).told = [] := by
  change (if (s.desk.st w).rules_applied || (s.desk.st w).buffer_mapped then [News.opened]
    else []) = []
  rw [hrules, hbuffer]
  rfl

/-- The guard gives the guard of the links: a window that hides a terminal has opened. -/
theorem swallowsOnce_of_reportsOnce (hr : Reports s.desk.linkPart s.heard) {e : Event}
    (hg : ReportsOnce s e) : SwallowsOnce s e := by
  cases e with
  | commit f b =>
    intro w hw hrules hhides
    obtain ⟨hm, hbuffer⟩ := hg w hw hrules
    obtain ⟨t, ht⟩ := Option.isSome_iff_exists.1 hhides
    have htold := hr.managed w (decide_eq_true hm)
    rw [told_stage_eq_nil hrules hbuffer] at htold
    exact absurd htold (hr.holding w t ht)
  | parent_changed | toplevel_destroyed | x11_unmapped | x11_destroyed | x11_disconnected =>
    trivial
  | _ => exact hg

theorem reports_commit (hl : Linked s.desk.linkPart) (hr : Reports s.desk.linkPart s.heard)
    (f : SurfaceId) (b : Bool) (hg : ReportsOnce s (.commit f b)) :
    Reports (s.commit f b).desk.linkPart (s.commit f b).heard := by
  unfold commit
  split
  · rename_i w hw
    obtain ⟨mapped, hmapped, hheard⟩ := heard_commit_window s w b
    rw [hheard]
    have hstill (s₁ : Rwl) := Still.linkPart (still_afterRules s₁ w)
    cases hrules : (s.desk.st w).rules_applied with
    | true =>
      have hpart : (s.commit_window w b).desk.linkPart = s.desk.linkPart := by
        unfold commit_window
        dsimp only
        rw [hstill, if_neg (by simp [hrules])]
        split_ifs
        · exact Still.linkPart (Moves.refl s).arrange_all
        · rfl
      rw [hpart]
      refine hr.restage fun _ => ?_
      change (if true || mapped then [News.opened] else []) =
        if (s.desk.st w).rules_applied || (s.desk.st w).buffer_mapped then [News.opened] else []
      rw [hrules, Bool.true_or, Bool.true_or]
    | false =>
      obtain ⟨hm, hbuffer⟩ := hg w hw hrules
      have hpart : (s.commit_window w b).desk.linkPart =
          (swallow.try_swallow (s.withRules w).desk w).linkPart := by
        unfold commit_window
        dsimp only
        rw [hstill, if_pos hrules]
        exact Still.linkPart (still_firstCommit s w)
      have hm' : s.desk.linkPart.managed w = true := decide_eq_true hm
      rw [hpart]
      refine hr.opens hm' (told_stage_eq_nil hrules hbuffer) ?_ ?_ (fun v hvw => ?_)
        (hl.created w (.inl hm')) mapped
      all_goals
        rcases linkPart_try_swallow (s.withRules w).desk w with h | ⟨term, h⟩
        all_goals rw [h, linkPart_withRules]
      · rfl
      · rfl
      · exact Function.update_of_ne hvw ..
  · split
    · rw [heard_commit_layer, Still.linkPart ((Moves.refl s).commit_layer _)]
      exact hr
    · exact hr

theorem reports_toplevel_destroyed (hl : Linked s.desk.linkPart)
    (hr : Reports s.desk.linkPart s.heard) (f : SurfaceId)
    (hg : ReportsOnce s (.toplevel_destroyed f)) :
    Reports (s.toplevel_destroyed f).desk.linkPart (s.toplevel_destroyed f).heard := by
  rw [linkPart_toplevel_destroyed hl, heard_toplevel_destroyed]
  cases hw : s.desk.window_map f with
  | none =>
    refine hr.leave rfl (fun _ _ h => h) (fun v hv => (Bool.and_eq_true_iff.1 hv).1)
      fun v hv hgone => ?_
    -- no toplevel is left on a surface that finds none
    have hout : (!s.desk.linkPart.x11 v && decide (s.desk.linkPart.surface v = some f)) = true := by
      simpa [LinkPart.drop, hv] using hgone
    rw [Bool.and_eq_true_iff, Bool.not_eq_true', decide_eq_true_eq] at hout
    obtain ⟨g, hsurface, hfound⟩ := hl.surface v hv hout.1
    obtain rfl := Option.some.inj (hsurface.symm.trans hout.2)
    exact absurd (hfound.symm.trans hw) (Option.some_ne_none v)
  | some w =>
    obtain ⟨hx, hbuffer⟩ := hg w hw
    have hwx : s.desk.linkPart.x11 w = false := by
      simp [Desk.linkPart, hx]
    obtain ⟨hm, hsurface⟩ := hl.mapped f w hw hwx
    have hmanaged (v : WinId) : (s.desk.linkPart.drop f).managed v = true ↔
        s.desk.linkPart.managed v = true ∧ v ≠ w := by
      change (s.desk.linkPart.managed v && !(!s.desk.linkPart.x11 v &&
        decide (s.desk.linkPart.surface v = some f))) = true ↔ _
      rw [Bool.and_eq_true_iff, and_congr_right_iff]
      intro hv
      rw [Bool.not_eq_true', Bool.and_eq_false_iff, Bool.not_eq_false', decide_eq_false_iff_not]
      constructor
      · rintro (hvx | hvf) rfl
        · rw [hwx] at hvx
          cases hvx
        · exact hvf hsurface
      · intro hvw
        cases hvx : s.desk.linkPart.x11 v with
        | true => exact .inl rfl
        | false =>
          refine .inr fun hvf => hvw ?_
          obtain ⟨g, hs, hfound⟩ := hl.surface v hv hvx
          obtain rfl := Option.some.inj (hs.symm.trans hvf)
          exact Option.some.inj (hfound.symm.trans hw)
    have hhides (v t : WinId) (ht : ((s.desk.linkPart.drop f).unlink w).hides v = some t) :
        s.desk.linkPart.hides v = some t := by
      unfold LinkPart.unlink Backlink.cleared at ht
      dsimp only at ht
      split_ifs at ht
      exact ht
    dsimp only
    cases hb : (s.desk.st w).buffer_mapped with
    | true =>
      have htold : (s.heard.2 w).told = [.opened] := by
        change (if (s.desk.st w).rules_applied || (s.desk.st w).buffer_mapped then
          [News.opened] else []) = _
        rw [hb, Bool.or_true]
        rfl
      exact hr.closes hm htold rfl hmanaged hhides (hl.created w (.inl hm))
    | false =>
      refine hr.leave rfl hhides (fun v hv => ((hmanaged v).1 hv).1) fun v hv hgone => ?_
      have hvw : v = w := by
        by_contra hne
        have hstays := (hmanaged v).2 ⟨hv, hne⟩
        exact absurd (hstays.symm.trans hgone) (by decide)
      subst hvw
      have hrules : (s.desk.st v).rules_applied = false :=
        Bool.eq_false_iff.2 fun hrules => by simp [hbuffer hrules] at hb
      exact told_stage_eq_nil hrules hb

theorem reports_unmap_x11_window (hr : Reports s.desk.linkPart s.heard) (xid : ℕ)
    (hg : ∀ w ∈ s.desk.window_for_x11 xid, (s.desk.st w).is_override_redirect = false →
      (s.desk.st w).rules_applied = false ∧ (s.desk.st w).buffer_mapped = false) :
    Reports (s.unmap_x11_window xid).desk.linkPart (s.unmap_x11_window xid).heard := by
  rw [heard_unmap_x11_window]
  unfold unmap_x11_window
  split
  · exact hr
  · rename_i w hw
    dsimp only
    split_ifs with hover
    · exact hr.congr rfl rfl rfl
    · obtain ⟨hrules, hbuffer⟩ := hg w hw (Bool.eq_false_iff.2 hover)
      rw [Still.linkPart (Moves.refl _).settleX11]
      refine hr.leave rfl (fun _ _ h => h) (fun v hv => ?_) fun v hv hgone => ?_
      · exact decide_eq_true (List.mem_of_mem_filter (of_decide_eq_true hv))
      · have hvw : v = w := by
          by_contra hne
          refine of_decide_eq_false hgone (List.mem_filter.2 ⟨of_decide_eq_true hv, ?_⟩)
          exact decide_eq_true hne
        subst hvw
        exact told_stage_eq_nil hrules hbuffer

theorem reports_x11_disconnected (hr : Reports s.desk.linkPart s.heard)
    (hg : ReportsOnce s .x11_disconnected) :
    Reports s.x11_disconnected.desk.linkPart s.x11_disconnected.heard := by
  rw [heard_x11_disconnected]
  unfold x11_disconnected
  split_ifs
  · exact hr
  · rw [Still.linkPart (Moves.refl _).settleX11]
    refine hr.leave rfl (fun _ _ h => h) (fun v hv => ?_) fun v hv hgone => ?_
    · exact decide_eq_true (List.mem_of_mem_filter (of_decide_eq_true hv))
    · have hx : (s.desk.client v).x11.isSome = true := by
        by_contra hx
        refine of_decide_eq_false hgone (List.mem_filter.2 ⟨of_decide_eq_true hv, ?_⟩)
        simpa using hx
      obtain ⟨hrules, hbuffer⟩ := hg v (List.mem_filter.2 ⟨of_decide_eq_true hv, hx⟩)
      exact told_stage_eq_nil hrules hbuffer

/-- **One event keeps the news in order.** -/
theorem reports_step (hl : Linked s.desk.linkPart) (hr : Reports s.desk.linkPart s.heard)
    {e : Event} (hg : ReportsOnce s e) :
    Reports (step s e).desk.linkPart (step s e).heard := by
  have hother (he : e.isLife = false) (hlinks : e.links = false) :
      Reports (step s e).desk.linkPart (step s e).heard := by
    rw [heard_step s e he, linkPart_step s e hlinks]
    exact hr
  have hunmanaged {w : WinId} (hw : w ∉ s.desk.created) : s.desk.linkPart.managed w = false :=
    Bool.eq_false_iff.2 fun hm => hw (hl.created w (.inl hm))
  cases e with
  | commit f b => exact reports_commit hl hr f b hg
  | toplevel_destroyed f => exact reports_toplevel_destroyed hl hr f hg
  | parent_changed f =>
    rw [linkPart_step s _ rfl]
    simp only [step, heard_parent_changed]
    cases hw : s.desk.window_map f with
    | none => exact hr
    | some w =>
      dsimp only
      split_ifs with hcond
      · refine hr.restage fun _ => ?_
        change (if false || (s.desk.st w).buffer_mapped then [News.opened] else []) =
          if (s.desk.st w).rules_applied || (s.desk.st w).buffer_mapped then [News.opened] else []
        cases hrules : (s.desk.st w).rules_applied with
        | false => rfl
        | true => rw [hg w hw hcond.1 hcond.2 hrules, Bool.or_true, Bool.or_true]
      · exact hr
  | new_toplevel w c =>
    change Reports (if w ∈ s.desk.created ∨ c.x11.isSome ∨ c.wl_surface.isNone then s
      else s.new_toplevel w c).desk.linkPart (if w ∈ s.desk.created ∨ c.x11.isSome ∨
        c.wl_surface.isNone then s else s.new_toplevel w c).heard
    split_ifs with hstale
    · exact hr
    · rw [linkPart_new_toplevel, heard_new_toplevel]
      exact hr.insert (fun hw => hstale (.inl hw)) _ _
  | x11_map w c =>
    change Reports (if w ∈ s.desk.created ∨ c.x11.isNone then s
      else s.map_x11_window w c).desk.linkPart (if w ∈ s.desk.created ∨ c.x11.isNone then s
        else s.map_x11_window w c).heard
    split_ifs with hstale
    · exact hr
    · rw [linkPart_map_x11_window, heard_map_x11_window]
      exact hr.insert (fun hw => hstale (.inl hw)) _ _
  | x11_map_override w c =>
    change Reports (if w ∈ s.desk.created ∨ c.x11.isNone then s
      else s.map_x11_override_redirect w c).desk.linkPart (if w ∈ s.desk.created ∨ c.x11.isNone
        then s else s.map_x11_override_redirect w c).heard
    split_ifs with hstale
    · exact hr
    · have hw : w ∉ s.desk.created := fun hw => hstale (.inl hw)
      rw [linkPart_map_x11_override_redirect, heard_map_x11_override_redirect]
      exact hr.popup hw (hunmanaged hw) _ rfl rfl rfl
  | x11_unmapped xid =>
    exact (reports_unmap_x11_window hr xid hg).congr rfl rfl rfl
  | x11_destroyed xid => exact reports_unmap_x11_window hr xid hg
  | x11_associated xid f =>
    rw [heard_step s _ rfl]
    refine hr.congr ?_ ?_ ?_
    all_goals
      simp only [step, surface_associated, modifyDesk]
      split <;> rfl
  | x11_disconnected => exact reports_x11_disconnected hr hg
  | _ => exact hother rfl rfl

/-! ### Runs -/

/-- What the event stream has told of the window `w`, oldest first. -/
def told (s : Rwl) (w : WinId) : List News := toldOf s.heard.1 w

/-- The event stream tells of `w` that it opened once, and after that that it closed once; when it
opened and has gone, both. -/
structure Reported (s : Rwl) (w : WinId) : Prop where
  order : told s w = [] ∨ told s w = [.opened] ∨ told s w = [.opened, .closed]
  gone : w ∉ s.desk.windows → .opened ∈ told s w → .closed ∈ told s w

theorem reported_of_reports (hr : Reports s.desk.linkPart s.heard) (w : WinId) : Reported s w := by
  by_cases hw : w ∈ s.desk.windows
  · have htold : told s w = (s.heard.2 w).told := hr.managed w (decide_eq_true hw)
    refine ⟨?_, fun hnot => absurd hw hnot⟩
    rw [htold, Stage.told]
    split_ifs
    · exact .inr (.inl rfl)
    · exact .inl rfl
  · rcases hr.gone w (decide_eq_false hw) with h | h
    · refine ⟨.inl h, fun _ hmem => ?_⟩
      rw [told, h] at hmem
      cases hmem
    · refine ⟨.inr (.inr h), fun _ _ => ?_⟩
      rw [told, h]
      decide

theorem reports_init (env : Setup) : Reports (init env).desk.linkPart (init env).heard where
  managed _ h := by cases h
  gone _ _ := .inl rfl
  fresh _ _ := rfl
  holding _ _ h := by cases h

open Transition

/-- **The window events of a run are in order when the rules of a window run once, X11 windows go
before their rules have run, and toplevels have had a buffer when they go.** -/
theorem window_stream (env : Setup) (es : List Event)
    (h : Guarded step ReportsOnce (init env) es) :
    Always step (fun s => ∀ w, Reported s w) (init env) es := by
  have hinv : Always step (fun s => Linked s.desk.linkPart ∧ Reports s.desk.linkPart s.heard)
      (init env) es := by
    refine h.always (fun s e hs hg => ?_) ⟨linked_init env, reports_init env⟩
    obtain ⟨hl, hr⟩ := hs
    exact ⟨linked_step hl (swallowsOnce_of_reportsOnce hr hg), reports_step hl hr hg⟩
  exact hinv.mono fun _ hs w => reported_of_reports hs.2 w

/-- A terminal and a program it starts, which hides it and exits. -/
theorem window_stream_plain :
    Always step (fun s => ∀ w, Reported s w) (init terminalSetup)
      (swallowRun ++ [.toplevel_destroyed 11, .toplevel_destroyed 10]) :=
  window_stream _ _ (by decide +kernel)

/-- Two windows; the second becomes a dialog of the first after its first commit, so that its
rules run again. -/
def reparentRun : List Event :=
  [.output_added 0 (plainOutput "A"), .new_toplevel 0 (plainClient 10), .commit 10 true,
    .new_toplevel 1 (plainClient 11), .commit 11 true,
    .client_update 1 { plainClient 11 with parent := some 10 }, .parent_changed 11,
    .commit 11 true]

/-- The dialog opens twice. -/
theorem not_window_stream :
    ¬∀ env es, Always step (fun s => ∀ w, Reported s w) (init env) es := by
  intro h
  have hend := ((h (plainSetup [] []) reparentRun).last 1).order
  revert hend
  decide +kernel

/-- An X11 window is mapped and unmapped. -/
def x11Run : List Event :=
  [.output_added 0 (plainOutput "A"),
    .x11_map 0 { plainClient 10 with x11 := some ⟨5, false, none, none, none, false⟩ },
    .x11_associated 5 10, .commit 10 true, .x11_unmapped 5]

example : (run step (init (plainSetup [] [])) x11Run).desk.windows = [] ∧
    told (run step (init (plainSetup [] [])) x11Run) 0 = [.opened] := by decide +kernel

end Rwl

end Compositor
