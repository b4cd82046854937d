import Mathlib.Tactic.Common
import Rwl.Lib.Backlink
import Rwl.Theory.InForce
import Rwl.Theory.Swallowed

/-!
# The links between a terminal and its child

A swallowed terminal has a flag, the window that swallowed it has its handle. Rules that run again
look for a terminal again.

* `LinkPart`, `Linked`: what the links depend on, and the invariant;
* `Linked.insert`, `Linked.forget`, `Linked.close`, `Linked.swallow`: windows come, go and swallow;
* `Moves.linkPart`: small updates keep the links;
* `SwallowsOnce`, `swallow_links`: when the rules of a window that hides a terminal run again they
  find no other one; then the two ends agree all along.
-/

namespace Compositor

/-! ### What the links depend on -/

/-- The windows, how surfaces find them, and both ends of the links. -/
@[ext] structure LinkPart where
  managed : WinId → Bool
  created : List WinId
  popups : List WinId
  window_map : SurfaceId → Option WinId
  hidden : WinId → Bool
  hides : WinId → Option WinId
  x11 : WinId → Bool
  surface : WinId → Option SurfaceId

/-- The links of a desk. -/
def Desk.linkPart (d : Desk) : LinkPart where
  managed w := decide (w ∈ d.windows)
  created := d.created
  popups := d.x11_or_windows
  window_map := d.window_map
  hidden w := (d.st w).is_swallowed
  hides w := (d.st w).swallowing
  x11 w := (d.client w).x11.isSome
  surface w := (d.client w).wl_surface

namespace LinkPart

/-- A fresh managed window. -/
def insert (k : LinkPart) (w : WinId) (x : Bool) (f : Option SurfaceId) : LinkPart :=
  { k with
    managed := Function.update k.managed w true
    created := w :: k.created
    window_map := match f with
      | some f => Function.update k.window_map f (some w)
      | none => k.window_map
    hidden := Function.update k.hidden w false
    hides := Function.update k.hides w none
    x11 := Function.update k.x11 w x
    surface := Function.update k.surface w f }

/-- The toplevel of a surface is forgotten. -/
def drop (k : LinkPart) (f : SurfaceId) : LinkPart :=
  { k with
    managed := fun w => k.managed w && !(!k.x11 w && decide (k.surface w = some f))
    window_map := Function.update k.window_map f none }

/-- The links of `w` are undone. -/
def unlink (k : LinkPart) (w : WinId) : LinkPart :=
  { k with
    hidden := Backlink.freed w (fun v => k.managed v = true) k.hidden k.hides
    hides := Backlink.cleared w (fun v => k.managed v = true) k.hidden k.hides }

/-- `child` swallows `term`. -/
def swallow (k : LinkPart) (child term : WinId) : LinkPart :=
  { k with
    hidden := Function.update k.hidden term true
    hides := Function.update k.hides child (some term) }

end LinkPart

/-- The two ends of the links agree, X11 windows have none, and the surface of a managed toplevel
finds it and nothing else. -/
structure Linked (k : LinkPart) : Prop where
  links : Backlink.Paired (fun w => k.managed w = true) k.hidden k.hides
  created : ∀ w, k.managed w = true ∨ w ∈ k.popups → w ∈ k.created
  mapped_created : ∀ f w, k.window_map f = some w → w ∈ k.created
  x11 : ∀ w, k.x11 w = true → k.hidden w = false ∧ k.hides w = none
  surface : ∀ w, k.managed w = true → k.x11 w = false →
    ∃ f, k.surface w = some f ∧ k.window_map f = some w
  mapped : ∀ f w, k.window_map f = some w → k.x11 w = false →
    k.managed w = true ∧ k.surface w = some f
  roles : ∀ x v, k.managed x = true ∨ x ∈ k.popups → k.x11 x = true →
    k.managed v = true → k.x11 v = false → k.surface x ≠ k.surface v

namespace Linked

variable {k : LinkPart}

/-- A fresh window joins. A toplevel brings a surface no window has, an X11 window none that a
toplevel has. -/
theorem insert (h : Linked k) {w : WinId} {x : Bool} {f : Option SurfaceId} (hw : w ∉ k.created)
    (hx : x = false → f.isSome = true ∧
      ∀ v, k.managed v = true ∨ v ∈ k.popups → k.x11 v = true → k.surface v ≠ f)
    (hf : ∀ v, k.managed v = true → k.x11 v = false → k.surface v ≠ f) :
    Linked (k.insert w x f) := by
  have hne {v : WinId} (hv : v ∈ k.created) : v ≠ w := fun heq => hw (heq ▸ hv)
  have hmanaged {v : WinId} : (k.insert w x f).managed v = true ↔ v = w ∨ k.managed v = true := by
    by_cases hvw : v = w
    · simp [LinkPart.insert, hvw]
    · simp [LinkPart.insert, hvw]
  have hx11 {v : WinId} (hvw : v ≠ w) : (k.insert w x f).x11 v = k.x11 v :=
    Function.update_of_ne hvw ..
  have hsurface {v : WinId} (hvw : v ≠ w) : (k.insert w x f).surface v = k.surface v :=
    Function.update_of_ne hvw ..
  have hx11_self : (k.insert w x f).x11 w = x := Function.update_self ..
  have hsurface_self : (k.insert w x f).surface w = f := Function.update_self ..
  have hmap (g : SurfaceId) : (k.insert w x f).window_map g =
      if f = some g then some w else k.window_map g := by
    cases f with
    | none => rfl
    | some f =>
      by_cases hgf : g = f
      · simp [LinkPart.insert, hgf]
      · have hfg : f ≠ g := Ne.symm hgf
        simp [LinkPart.insert, hgf, hfg]
  constructor
  · have hunmanaged : ¬k.managed w = true := fun hm => hw (h.created w (.inl hm))
    exact (h.links.join hunmanaged).restrict (fun v hv => hmanaged.1 hv)
      (fun v hv hnot => absurd (hmanaged.2 hv) hnot) (fun _ _ => rfl) fun _ _ => rfl
  · rintro v (hv | hv)
    · rcases hmanaged.1 hv with rfl | hv
      · exact List.mem_cons_self
      · exact List.mem_cons_of_mem w (h.created v (.inl hv))
    · exact List.mem_cons_of_mem w (h.created v (.inr hv))
  · intro g v hg
    rw [hmap] at hg
    split_ifs at hg
    · obtain rfl := Option.some.inj hg
      exact List.mem_cons_self
    · exact List.mem_cons_of_mem w (h.mapped_created g v hg)
  · intro v hv
    by_cases hvw : v = w
    · subst hvw
      exact ⟨Function.update_self .., Function.update_self ..⟩
    · rw [hx11 hvw] at hv
      obtain ⟨hhidden, hhides⟩ := h.x11 v hv
      exact ⟨(Function.update_of_ne hvw ..).trans hhidden,
        (Function.update_of_ne hvw ..).trans hhides⟩
  · intro v hv hvx
    by_cases hvw : v = w
    · subst hvw
      rw [hx11_self] at hvx
      obtain ⟨g, rfl⟩ := Option.isSome_iff_exists.1 (hx hvx).1
      exact ⟨g, hsurface_self, (hmap g).trans (if_pos rfl)⟩
    · rw [hx11 hvw] at hvx
      have hv := (hmanaged.1 hv).resolve_left hvw
      obtain ⟨g, hg, hgv⟩ := h.surface v hv hvx
      refine ⟨g, (hsurface hvw).trans hg, ?_⟩
      rw [hmap, if_neg fun hfg => hf v hv hvx (hg.trans hfg.symm)]
      exact hgv
  · intro g v hg hvx
    rw [hmap] at hg
    split_ifs at hg with hfg
    · obtain rfl := Option.some.inj hg
      exact ⟨hmanaged.2 (.inl rfl), hsurface_self.trans hfg⟩
    · have hvw := hne (h.mapped_created g v hg)
      rw [hx11 hvw] at hvx
      obtain ⟨hm, hs⟩ := h.mapped g v hg hvx
      exact ⟨hmanaged.2 (.inr hm), (hsurface hvw).trans hs⟩
  · intro y v hy hyx hv hvx
    have hy' : y = w ∨ k.managed y = true ∨ y ∈ k.popups := by
      rcases hy with hy | hy
      · exact (hmanaged.1 hy).imp_right .inl
      · exact .inr (.inr hy)
    by_cases hyw : y = w
    · subst hyw
      have hvw : v ≠ y := fun heq => by simp [heq, hyx] at hvx
      rw [hx11 hvw] at hvx
      rw [hsurface_self, hsurface hvw]
      exact (hf v ((hmanaged.1 hv).resolve_left hvw) hvx).symm
    · rw [hx11 hyw] at hyx
      rw [hsurface hyw]
      by_cases hvw : v = w
      · subst hvw
        rw [hx11_self] at hvx
        rw [hsurface_self]
        exact (hx hvx).2 y (hy'.resolve_left hyw) hyx
      · rw [hx11 hvw] at hvx
        rw [hsurface hvw]
        exact h.roles y v (hy'.resolve_left hyw) hyx ((hmanaged.1 hv).resolve_left hvw) hvx

/-- Windows without links go, and surfaces no toplevel has are forgotten. -/
theorem forget (h : Linked k) {p : WinId → Bool} {m : SurfaceId → Option WinId} {l : List WinId}
    (hp : ∀ w, k.managed w = true → p w = true → k.x11 w = true)
    (hm : ∀ f, m f = k.window_map f ∨
      m f = none ∧ ∀ v, k.managed v = true → k.x11 v = false → k.surface v ≠ some f)
    (hl : ∀ w ∈ l, w ∈ k.popups) :
    Linked { k with managed := fun w => k.managed w && !p w, window_map := m, popups := l } := by
  have hstays {w : WinId} : (k.managed w && !p w) = true → k.managed w = true := by
    intro hw
    exact (Bool.and_eq_true_iff.1 hw).1
  have hm' {f : SurfaceId} {w : WinId} (hf : m f = some w) : k.window_map f = some w := by
    rcases hm f with heq | ⟨hnone, -⟩
    · exact heq.symm.trans hf
    · rw [hnone] at hf
      cases hf
  have hstays' {w : WinId} (hw : k.managed w = true) (hx : k.x11 w = false) :
      (k.managed w && !p w) = true := by
    cases hpw : p w with
    | false => simp [hw]
    | true => simp [hp w hw hpw] at hx
  constructor
  · refine h.links.restrict (fun _ hw => hstays hw) (fun w hw hnot => ?_) (fun _ _ => rfl)
      fun _ _ => rfl
    cases hx : k.x11 w with
    | false => exact absurd (hstays' hw hx) hnot
    | true => exact h.x11 w hx
  · rintro w (hw | hw)
    · exact h.created w (.inl (hstays hw))
    · exact h.created w (.inr (hl w hw))
  · exact fun f w hf => h.mapped_created f w (hm' hf)
  · exact h.x11
  · intro w hw hx
    obtain ⟨f, hf, hfw⟩ := h.surface w (hstays hw) hx
    refine ⟨f, hf, ?_⟩
    rcases hm f with heq | ⟨-, hno⟩
    · exact heq.trans hfw
    · exact absurd hf (hno w (hstays hw) hx)
  · intro f w hf hx
    obtain ⟨hw, hs⟩ := h.mapped f w (hm' hf) hx
    exact ⟨hstays' hw hx, hs⟩
  · intro x v hx hxx hv hvx
    exact h.roles x v (hx.imp hstays (hl x)) hxx (hstays hv) hvx

/-- A fresh override-redirect window. -/
theorem popup (h : Linked k) {w : WinId} {f : Option SurfaceId} (hw : w ∉ k.created)
    (hf : ∀ v, k.managed v = true → k.x11 v = false → k.surface v ≠ f) :
    Linked { k with
      created := w :: k.created
      popups := k.popups ++ [w]
      hidden := Function.update k.hidden w false
      hides := Function.update k.hides w none
      x11 := Function.update k.x11 w true
      surface := Function.update k.surface w f } := by
  have hmanaged {v : WinId} (hv : k.managed v = true) : v ≠ w :=
    fun heq => hw (heq ▸ h.created v (.inl hv))
  constructor
  · exact h.links.restrict (fun _ hv => hv) (fun v hv hnot => absurd hv hnot)
      (fun v hv => Function.update_of_ne (hmanaged hv) ..)
      fun v hv => Function.update_of_ne (hmanaged hv) ..
  · rintro v (hv | hv)
    · exact List.mem_cons_of_mem w (h.created v (.inl hv))
    · rcases List.mem_append.1 hv with hv | hv
      · exact List.mem_cons_of_mem w (h.created v (.inr hv))
      · exact List.mem_singleton.1 hv ▸ List.mem_cons_self
  · exact fun g v hg => List.mem_cons_of_mem w (h.mapped_created g v hg)
  · intro v hv
    by_cases hvw : v = w
    · subst hvw
      exact ⟨Function.update_self .., Function.update_self ..⟩
    · dsimp only at hv ⊢
      rw [Function.update_of_ne hvw] at hv ⊢
      rw [Function.update_of_ne hvw]
      exact h.x11 v hv
  · intro v hv hvx
    dsimp only at hvx ⊢
    rw [Function.update_of_ne (hmanaged hv)] at hvx ⊢
    exact h.surface v hv hvx
  · intro g v hg hvx
    have hvw : v ≠ w := fun heq => hw (heq ▸ h.mapped_created g v hg)
    dsimp only at hvx ⊢
    rw [Function.update_of_ne hvw] at hvx ⊢
    exact h.mapped g v hg hvx
  · intro x v hx hxx hv hvx
    dsimp only at hx hxx hv hvx ⊢
    rw [Function.update_of_ne (hmanaged hv)] at hvx ⊢
    by_cases hxw : x = w
    · subst hxw
      rw [Function.update_self]
      exact (hf v hv hvx).symm
    · rw [Function.update_of_ne hxw] at hxx ⊢
      refine h.roles x v (hx.imp_right fun hx => ?_) hxx hv hvx
      exact (List.mem_append.1 hx).resolve_right fun hx => hxw (List.mem_singleton.1 hx)

/-- X11 windows are paired with a surface that no toplevel has. -/
theorem pair (h : Linked k) {p : WinId → Bool} {f : Option SurfaceId}
    (hp : ∀ w, p w = true → k.x11 w = true)
    (hf : ∀ v, k.managed v = true → k.x11 v = false → k.surface v ≠ f) :
    Linked { k with surface := fun w => if p w then f else k.surface w } := by
  have htoplevel {w : WinId} (hx : k.x11 w = false) :
      (if p w then f else k.surface w) = k.surface w := by
    refine if_neg fun hpw => ?_
    simp [hp w hpw] at hx
  refine ⟨h.links, h.created, h.mapped_created, h.x11, ?_, ?_, ?_⟩
  · intro w hw hx
    obtain ⟨g, hg, hgw⟩ := h.surface w hw hx
    exact ⟨g, (htoplevel hx).trans hg, hgw⟩
  · intro g w hg hx
    obtain ⟨hw, hs⟩ := h.mapped g w hg hx
    exact ⟨hw, (htoplevel hx).trans hs⟩
  · intro x v hx hxx hv hvx
    dsimp only
    rw [htoplevel hvx]
    split_ifs
    · exact (hf v hv hvx).symm
    · exact h.roles x v hx hxx hv hvx

/-- The map finds an X11 window by a surface that no toplevel has. -/
theorem associate (h : Linked k) {w : WinId} {f : SurfaceId}
    (hw : k.managed w = true ∨ w ∈ k.popups) (hx : k.x11 w = true)
    (hf : ∀ v, k.managed v = true → k.x11 v = false → k.surface v ≠ some f) :
    Linked { k with window_map := Function.update k.window_map f (some w) } := by
  refine ⟨h.links, h.created, ?_, h.x11, ?_, ?_, h.roles⟩
  · intro g v hg
    by_cases hgf : g = f
    · subst hgf
      dsimp only at hg
      rw [Function.update_self] at hg
      exact Option.some.inj hg ▸ h.created w hw
    · dsimp only at hg
      rw [Function.update_of_ne hgf] at hg
      exact h.mapped_created g v hg
  · intro v hv hvx
    obtain ⟨g, hg, hgv⟩ := h.surface v hv hvx
    have hgf : g ≠ f := fun heq => hf v hv hvx (heq ▸ hg)
    exact ⟨g, hg, (Function.update_of_ne hgf ..).trans hgv⟩
  · intro g v hg hvx
    by_cases hgf : g = f
    · subst hgf
      dsimp only at hg
      rw [Function.update_self] at hg
      simp [← Option.some.inj hg, hx] at hvx
    · dsimp only at hg
      rw [Function.update_of_ne hgf] at hg
      exact h.mapped g v hg hvx

/-- A window that hides nothing swallows a toplevel that nothing hides. -/
theorem swallow (h : Linked k) {child term : WinId} (hc : k.managed child = true)
    (hcx : k.x11 child = false) (ht : k.managed term = true) (htx : k.x11 term = false)
    (hfree : k.hidden term = false) (hnone : k.hides child = none) :
    Linked (k.swallow child term) := by
  refine ⟨h.links.link hc ht hfree hnone, h.created, h.mapped_created, ?_, h.surface, h.mapped,
    h.roles⟩
  intro w hw
  have hwt : w ≠ term := fun heq => by simp [← heq, show k.x11 w = true from hw] at htx
  have hwc : w ≠ child := fun heq => by simp [← heq, show k.x11 w = true from hw] at hcx
  obtain ⟨hhidden, hhides⟩ := h.x11 w hw
  exact ⟨(Function.update_of_ne hwt ..).trans hhidden, (Function.update_of_ne hwc ..).trans hhides⟩

/-- A surface that no toplevel has is forgotten. -/
theorem drop_other (h : Linked k) {f : SurfaceId}
    (hf : ∀ v, k.managed v = true → k.x11 v = false → k.surface v ≠ some f) :
    Linked (k.drop f) := by
  refine h.forget (fun w hw hpw => ?_) (fun g => ?_) fun _ hw => hw
  · rw [Bool.and_eq_true, Bool.not_eq_true', decide_eq_true_eq] at hpw
    exact absurd hpw.2 (hf w hw hpw.1)
  · by_cases hgf : g = f
    · subst hgf
      exact .inr ⟨Function.update_self .., hf⟩
    · exact .inl (Function.update_of_ne hgf ..)

/-- A window without links has none to undo. -/
theorem unlink_free {w : WinId} (hhidden : k.hidden w = false) (hhides : k.hides w = none) :
    k.unlink w = k := by
  unfold LinkPart.unlink
  congr 1
  · funext t
    exact if_neg fun hcond => by simp [hhides] at hcond
  · funext c
    exact if_neg fun hcond => by simp [hhidden] at hcond

/-- Only an X11 window outlives the surface that finds it. -/
theorem x11_of_drop (h : Linked k) {f : SurfaceId} {w : WinId} (hf : k.window_map f = some w)
    (hw : (k.drop f).managed w = true) : k.x11 w = true := by
  by_contra hx
  obtain ⟨-, hs⟩ := h.mapped f w hf (Bool.eq_false_iff.2 hx)
  simp [LinkPart.drop, hx, hs] at hw

/-- **A surface goes with its window, and the links of that are undone.** -/
theorem close (h : Linked k) {f : SurfaceId} {w : WinId} (hf : k.window_map f = some w) :
    Linked ((k.drop f).unlink w) := by
  -- only `w` can be a toplevel of this surface
  have honly {v : WinId} (hv : k.managed v = true) (hx : k.x11 v = false)
      (hs : k.surface v = some f) : v = w := by
    obtain ⟨g, hg, hgv⟩ := h.surface v hv hx
    obtain rfl := Option.some.inj (hg.symm.trans hs)
    exact Option.some.inj (hgv.symm.trans hf)
  cases hwx : k.x11 w with
  | true =>
    obtain ⟨hhidden, hhides⟩ := h.x11 w hwx
    rw [unlink_free (k := k.drop f) hhidden hhides]
    refine h.drop_other fun v hv hx hs => ?_
    obtain rfl := honly hv hx hs
    simp [hwx] at hx
  | false =>
    obtain ⟨hw, hws⟩ := h.mapped f w hf hwx
    have hmanaged (v : WinId) : (k.drop f).managed v = true ↔ k.managed v = true ∧ v ≠ w := by
      unfold LinkPart.drop
      dsimp only
      constructor
      · intro hv
        obtain ⟨hv, hnot⟩ := Bool.and_eq_true_iff.1 hv
        refine ⟨hv, fun heq => ?_⟩
        simp [heq, hwx, hws] at hnot
      · rintro ⟨hv, hne⟩
        refine Bool.and_eq_true_iff.2 ⟨hv, ?_⟩
        cases hx : k.x11 v with
        | true => rfl
        | false =>
          have hs : k.surface v ≠ some f := fun hs => hne (honly hv hx hs)
          simp [hs]
    constructor
    · exact h.links.leave hw hmanaged
    · rintro v (hv | hv)
      · exact h.created v (.inl ((hmanaged v).1 hv).1)
      · exact h.created v (.inr hv)
    · intro g v hg
      by_cases hgf : g = f
      · simp [LinkPart.unlink, LinkPart.drop, hgf] at hg
      · exact h.mapped_created g v ((Function.update_of_ne hgf ..).symm.trans hg)
    · intro v hv
      obtain ⟨hhidden, hhides⟩ := h.x11 v hv
      exact ⟨Backlink.freed_eq_false (P := fun v => (k.drop f).managed v = true) hhidden,
        Backlink.cleared_eq_none (P := fun v => (k.drop f).managed v = true) hhides⟩
    · intro v hv hx
      obtain ⟨hv, hne⟩ := (hmanaged v).1 hv
      obtain ⟨g, hg, hgv⟩ := h.surface v hv hx
      have hgf : g ≠ f := fun heq => hne (Option.some.inj (hgv.symm.trans (heq ▸ hf)))
      exact ⟨g, hg, (Function.update_of_ne hgf ..).trans hgv⟩
    · intro g v hg hx
      by_cases hgf : g = f
      · simp [LinkPart.unlink, LinkPart.drop, hgf] at hg
      · obtain ⟨hv, hs⟩ := h.mapped g v ((Function.update_of_ne hgf ..).symm.trans hg) hx
        refine ⟨(hmanaged v).2 ⟨hv, fun heq => ?_⟩, hs⟩
        exact hgf (Option.some.inj (hs.symm.trans (heq ▸ hws)))
    · intro x v hx hxx hv hvx
      exact h.roles x v (hx.imp_left fun hx => ((hmanaged x).1 hx).1) hxx ((hmanaged v).1 hv).1 hvx

end Linked

end Compositor
