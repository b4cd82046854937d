import Mathlib.Tactic.Common
import Rwl.Theory.PopupWalks

/-!
# Runs of the popup manager

Popups of clients that keep the order of the protocol: each is made on a root or on a popup that is
shown, destroyed after the popups on it, and takes its grab while it is shown.

* `Orderly`, `Tidy`: what such clients do, and what holds after it; `tidy_run`;
* `popups_drawn`: what is drawn of a root.
-/

namespace Compositor

namespace PopupManager

open Transition

variable {m : PopupManager} {root : SurfaceId → Bool}

/-! ### A popup comes into a tree -/

section Insert

variable {f : Forest SurfaceId} {p q x g : SurfaceId}

theorem insert_of_mem (hq : q ∈ f.front) :
    ∃ f', f.graft q p = some f' ∧ insert f p q = f' := by
  obtain ⟨f', hf'⟩ := Option.ne_none_iff_exists'.1 fun hnone => Forest.graft_eq_none.1 hnone hq
  refine ⟨f', hf', ?_⟩
  unfold insert
  rw [hf']
  rfl

theorem insert_of_not_mem (hq : q ∉ f.front) : insert f p q = f.push p := by
  unfold insert
  rw [Forest.graft_eq_none.2 hq]
  rfl

theorem perm_insert (hf : f.front.Nodup) : (insert f p q).front.Perm (p :: f.front) := by
  by_cases hq : q ∈ f.front
  · obtain ⟨f', hgraft, heq⟩ := insert_of_mem hq
    rw [heq]
    exact Forest.perm_graft hf hgraft
  · rw [insert_of_not_mem hq, Forest.front_push]

theorem mem_front_insert (hf : f.front.Nodup) :
    x ∈ (insert f p q).front ↔ x = p ∨ x ∈ f.front := by
  rw [(perm_insert hf).mem_iff, List.mem_cons]

theorem mem_branch_insert (hf : f.front.Nodup) (hp : p ∉ f.front) :
    x ∈ (insert f p q).branch g ↔ x ∈ f.branch g ∨ x = p ∧ (g = p ∨ q ∈ f.branch g) := by
  by_cases hq : q ∈ f.front
  · obtain ⟨f', hgraft, heq⟩ := insert_of_mem hq
    rw [heq]
    exact Forest.mem_branch_graft hf hp hgraft
  · have hnot : q ∉ f.branch g := fun h => hq (Forest.mem_front_of_mem_branch h)
    rw [insert_of_not_mem hq, Forest.branch_push hp]
    by_cases hg : p = g
    · subst hg
      rw [if_pos rfl, Forest.branch_eq_nil hp]
      simp
    · have hg' : ¬g = p := fun h => hg h.symm
      rw [if_neg hg]
      tauto

theorem grown_insert {P : SurfaceId → SurfaceId → Prop} {r : SurfaceId} (hf : f.Grown P r)
    (hp : P p q) (hq : q = r ∨ q ∈ f.front) : (insert f p q).Grown P r := by
  by_cases hmem : q ∈ f.front
  · obtain ⟨f', hgraft, heq⟩ := insert_of_mem hmem
    rw [heq]
    exact hf.graft hp hgraft
  · rw [insert_of_not_mem hmem]
    exact hf.push ((hq.resolve_right hmem) ▸ hp)

end Insert

/-! ### Clients that keep the order -/

/-- What a client that keeps the order of the protocol does: a popup is made on a root or on a
popup that is shown, or first without a parent and then given to a layer surface; it is destroyed
after the popups on it, and so is a root; it takes its grab while it is shown. -/
def Orderly (root : SurfaceId → Bool) (m : PopupManager) : Event → Prop
  | .get_popup p parent => root p = false ∧ ∀ q, parent = some q → m.alive q = true ∧
      (root q = true ∨ ∃ r, q ∈ (m.tree r).front)
  | .layer_get_popup r p => root r = true ∧ p ∈ m.unmapped_popups
  | .popup_destroyed p => p ∈ m.known ∧
      ∀ r, ∀ x ∈ (m.tree r).branch p, m.alive x = true → x = p
  | .root_destroyed r => root r = true
  | .grab p _ => m.alive p = true ∧ ∃ r, p ∈ (m.tree r).front
  | .commit _ | .ungrab | .cleanup => True

/-- A popup grows on its parent, as long as it is not destroyed. -/
def OnParent (m : PopupManager) (p q : SurfaceId) : Prop := m.alive p = true → m.parent p = some q

/-- What holds while all clients keep the order. -/
structure Tidy (root : SurfaceId → Bool) (m : PopupManager) : Prop where
  running : m.hung = false
  popup_iff : ∀ p, m.is_popup p = true ↔ p ∈ m.known
  not_root : ∀ p ∈ m.known, root p = false
  nodup : ∀ r, (m.tree r).front.Nodup
  of_mem : ∀ r, ∀ p ∈ (m.tree r).front, p ∈ m.known ∧ root r = true ∧ p ∉ m.unmapped_popups ∧
    p ∉ m.popup_done
  one_tree : ∀ p r r', p ∈ (m.tree r).front → p ∈ (m.tree r').front → r = r'
  grown : ∀ r, (m.tree r).Grown m.OnParent r
  below : ∀ r p, ∀ x ∈ (m.tree r).branch p, m.alive x = true → m.alive p = true
  told : m.popup_done.Nodup
  told_known : ∀ p ∈ m.popup_done, p ∈ m.known
  unmapped : m.unmapped_popups.Nodup
  of_unmapped : ∀ p ∈ m.unmapped_popups, p ∈ m.known ∧ p ∉ m.popup_done ∧
    ∀ q, m.parent p = some q → root q = true
  quiet : m.orphaned = []
  registered : ∀ r, m.tree r ≠ .nil → r ∈ m.popup_trees

/-- A live popup that should be shown and is not. -/
structure Lost (m : PopupManager) (p : SurfaceId) : Prop where
  known : p ∈ m.known
  alive : m.alive p = true
  mapped : p ∉ m.unmapped_popups
  parent : ∃ q, m.parent p = some q
  untold : p ∉ m.popup_done
  out : ∀ r, p ∉ (m.tree r).front

theorem tidy_init (root : SurfaceId → Bool) : Tidy root (init root) := by
  constructor <;> simp [init, Forest.Grown, Forest.branch]

namespace Tidy

variable (h : Tidy root m)

include h

theorem root_of_mem {r p : SurfaceId} (hp : p ∈ (m.tree r).front) : root r = true :=
  (h.of_mem r p hp).2.1

theorem rootLoop_root {r : SurfaceId} (hr : root r = true) (n : ℕ) :
    m.rootLoop (n + 1) r = some (some r) := by
  refine rootLoop_succ_of_root (Bool.eq_false_iff.2 fun hpopup => ?_)
  have := h.not_root r ((h.popup_iff r).1 hpopup)
  rw [hr] at this
  cases this

omit h in
theorem find_of_parent {p q : SurfaceId} (hq : m.parent p = some q) :
    m.find_popup_root_surface p = m.rootLoop (m.known.length + 1) q := by
  unfold find_popup_root_surface
  rw [hq]

theorem rootLoop_known {n : ℕ} {f : SurfaceId} {o : Option SurfaceId}
    (hn : m.rootLoop n f = some o) : m.rootLoop (m.known.length + 1) f = some o :=
  rootLoop_of_returns (fun p hp => (h.popup_iff p).1 hp) hn

/-- From a live popup of a tree the walk ends at the root of the tree. -/
theorem rootLoop_of_mem {r p : SurfaceId} (hp : p ∈ (m.tree r).front) (halive : m.alive p = true) :
    m.rootLoop (m.known.length + 1) p = some (some r) := by
  have hpopup {x : SurfaceId} (hx : x ∈ (m.tree r).front) : m.is_popup x = true :=
    (h.popup_iff x).2 (h.of_mem r x hx).1
  suffices ∀ x ∈ (m.tree r).front, m.alive x = true → ∃ n, m.rootLoop n x = some (some r) by
    obtain ⟨n, hn⟩ := this p hp halive
    exact h.rootLoop_known hn
  refine (h.grown r).forall_front (h.nodup r) ?_ ?_
  · intro x hx hon hlive
    refine ⟨2, ?_⟩
    rw [rootLoop_succ_of_popup (hpopup hx) (hon hlive), h.rootLoop_root (h.root_of_mem hx)]
  · intro x y hon hxy hy hC hlive
    obtain ⟨n, hn⟩ := hC (h.below r y x hxy hlive)
    refine ⟨n + 1, ?_⟩
    rw [rootLoop_succ_of_popup (hpopup (Forest.mem_front_of_mem_branch hxy)) (hon hlive), hn]

/-- A live popup of a tree is found with the root of the tree. -/
theorem find_of_mem {r p : SurfaceId} (hp : p ∈ (m.tree r).front) (halive : m.alive p = true) :
    m.find_popup_root_surface p = some (some r) := by
  rcases (h.grown r).exists_of_mem (h.nodup r) hp with ⟨hon, -⟩ | ⟨q, hq, hon, -, hiff⟩
  · rw [find_of_parent (hon halive)]
    exact h.rootLoop_root (h.root_of_mem hp) _
  · rw [find_of_parent (hon halive)]
    exact h.rootLoop_of_mem hq
      (h.below r q p ((hiff q).2 (Or.inr (Forest.mem_branch_self hq))) halive)

/-! ### What keeps it -/

omit h in
/-- A change of the tree of one root. -/
theorem mem_update {f : Forest SurfaceId} {r r' x : SurfaceId} :
    x ∈ (Function.update m.tree r f r').front ↔
      r' = r ∧ x ∈ f.front ∨ r' ≠ r ∧ x ∈ (m.tree r').front := by
  by_cases hr : r' = r
  · subst hr
    simp
  · simp [hr]

/-- A new popup comes into a tree. -/
theorem insert {p q r : SurfaceId} (hp : p ∈ m.known) (hfresh : ∀ r, p ∉ (m.tree r).front)
    (hnew : p ∉ m.unmapped_popups ∧ p ∉ m.popup_done) (hq : m.parent p = some q)
    (hr : root r = true) (hon : q = r ∨ q ∈ (m.tree r).front ∧ m.alive q = true) :
    Tidy root { m with
      tree := Function.update m.tree r (PopupManager.insert (m.tree r) p q)
      popup_trees := if r ∈ m.popup_trees then m.popup_trees else m.popup_trees ++ [r] } := by
  have hnodup := h.nodup r
  have hother {r' : SurfaceId} {f : Forest SurfaceId} (hne : r' ≠ r) :
      Function.update m.tree r f r' = m.tree r' := Function.update_of_ne hne _ _
  constructor <;> dsimp only
  case running => exact h.running
  case popup_iff => exact h.popup_iff
  case not_root => exact h.not_root
  case told => exact h.told
  case told_known => exact h.told_known
  case unmapped => exact h.unmapped
  case of_unmapped => exact h.of_unmapped
  case quiet => exact h.quiet
  case nodup =>
    intro r'
    by_cases hne : r' = r
    · subst hne
      rw [Function.update_self, (perm_insert hnodup).nodup_iff, List.nodup_cons]
      exact ⟨hfresh r', hnodup⟩
    · rw [hother hne]
      exact h.nodup r'
  case of_mem =>
    intro r' x hx
    rcases mem_update.1 hx with ⟨rfl, hx⟩ | ⟨-, hx⟩
    · rcases (mem_front_insert hnodup).1 hx with rfl | hx
      · exact ⟨hp, hr, hnew⟩
      · exact h.of_mem r' x hx
    · exact h.of_mem r' x hx
  case one_tree =>
    intro x r₁ r₂ h₁ h₂
    have hcases {r' : SurfaceId} (hx : x ∈ (Function.update m.tree r
        (PopupManager.insert (m.tree r) p q) r').front) :
        x = p ∧ r' = r ∨ x ∈ (m.tree r').front := by
      rcases mem_update.1 hx with ⟨rfl, hx⟩ | ⟨-, hx⟩
      · rcases (mem_front_insert hnodup).1 hx with rfl | hx
        · exact Or.inl ⟨rfl, rfl⟩
        · exact Or.inr hx
      · exact Or.inr hx
    rcases hcases h₁ with ⟨hx₁, hr₁⟩ | h₁ <;> rcases hcases h₂ with ⟨hx₂, hr₂⟩ | h₂
    · rw [hr₁, hr₂]
    · exact absurd (hx₁ ▸ h₂) (hfresh r₂)
    · exact absurd (hx₂ ▸ h₁) (hfresh r₁)
    · exact h.one_tree x r₁ r₂ h₁ h₂
  case grown =>
    intro r'
    by_cases hne : r' = r
    · subst hne
      rw [Function.update_self]
      exact grown_insert (h.grown r') (fun _ => hq) (hon.imp_right And.left)
    · rw [hother hne]
      exact h.grown r'
  case below =>
    intro r' g x hx halive
    by_cases hne : r' = r
    · subst hne
      rw [Function.update_self, mem_branch_insert hnodup (hfresh r')] at hx
      rcases hx with hx | ⟨rfl, rfl | hx⟩
      · exact h.below r' g x hx halive
      · exact halive
      · rcases hon with rfl | ⟨-, hlive⟩
        · -- the root is in no tree
          have hroot := h.not_root q (h.of_mem q q (Forest.mem_front_of_mem_branch hx)).1
          rw [hr] at hroot
          cases hroot
        · exact h.below r' g q hx hlive
    · rw [hother hne] at hx
      exact h.below r' g x hx halive
  case registered =>
    intro r' hr'
    by_cases hne : r' = r
    · subst hne
      split_ifs with hmem
      · exact hmem
      · simp
    · rw [hother hne] at hr'
      have := h.registered r' hr'
      split_ifs
      · exact this
      · exact List.mem_append_left _ this

omit h in
/-- A popup that comes into a tree is not lost. -/
theorem lost_insert {p q r x : SurfaceId} {trees : List SurfaceId} (hnodup : (m.tree r).front.Nodup)
    (hlost : Lost { m with
      tree := Function.update m.tree r (PopupManager.insert (m.tree r) p q)
      popup_trees := trees } x) : x ≠ p ∧ Lost m x := by
  have hout : x ∉ (Function.update m.tree r (PopupManager.insert (m.tree r) p q) r).front :=
    hlost.out r
  rw [Function.update_self, mem_front_insert hnodup, not_or] at hout
  refine ⟨hout.1, hlost.known, hlost.alive, hlost.mapped, hlost.parent, hlost.untold, fun r' => ?_⟩
  by_cases hne : r' = r
  · rw [hne]
    exact hout.2
  · have : x ∉ (Function.update m.tree r (PopupManager.insert (m.tree r) p q) r').front :=
      hlost.out r'
    rwa [Function.update_of_ne hne] at this

/-- A popup that is made or given a parent comes into the tree its parent is in. -/
theorem add_popup {p q r : SurfaceId} (hp : p ∈ m.known) (hfresh : ∀ r, p ∉ (m.tree r).front)
    (hnew : p ∉ m.unmapped_popups ∧ p ∉ m.popup_done) (hq : m.parent p = some q)
    (hon : q = r ∧ root r = true ∨ q ∈ (m.tree r).front ∧ m.alive q = true) :
    Tidy root (m.add_popup p) ∧ ∀ x, Lost (m.add_popup p) x → x ≠ p ∧ Lost m x := by
  have hr : root r = true := by
    rcases hon with ⟨-, hr⟩ | ⟨hmem, -⟩
    · exact hr
    · exact h.root_of_mem hmem
  have hfind : m.find_popup_root_surface p = some (some r) := by
    rw [find_of_parent hq]
    rcases hon with ⟨rfl, -⟩ | ⟨hmem, hlive⟩
    · exact h.rootLoop_root hr _
    · exact h.rootLoop_of_mem hmem hlive
  have heq : m.add_popup p = { m with
      tree := Function.update m.tree r (PopupManager.insert (m.tree r) p q)
      popup_trees := if r ∈ m.popup_trees then m.popup_trees else m.popup_trees ++ [r] } := by
    unfold PopupManager.add_popup
    rw [hq, hfind]
  rw [heq]
  exact ⟨h.insert hp hfresh hnew hq hr (hon.imp_left And.left),
    fun x => lost_insert (h.nodup r)⟩

/-- A popup is made; it is in no tree yet. -/
theorem made {p : SurfaceId} (hp : p ∉ m.known) (hroot : root p = false)
    (parent : Option SurfaceId) : Tidy root (m.give_role p parent) := by
  have hne {x : SurfaceId} (hx : x ∈ m.known) : x ≠ p := fun heq => hp (heq ▸ hx)
  have hin {r x : SurfaceId} (hx : x ∈ (m.tree r).front) : x ≠ p := hne (h.of_mem r x hx).1
  constructor <;> dsimp only [give_role]
  case running => exact h.running
  case nodup => exact h.nodup
  case one_tree => exact h.one_tree
  case told => exact h.told
  case unmapped => exact h.unmapped
  case quiet => exact h.quiet
  case registered => exact h.registered
  case popup_iff =>
    intro x
    by_cases hx : x = p
    · simp [hx]
    · simp [hx, h.popup_iff]
  case not_root =>
    intro x hx
    rcases List.mem_cons.1 hx with rfl | hx
    · exact hroot
    · exact h.not_root x hx
  case of_mem =>
    intro r x hx
    obtain ⟨hk, hrest⟩ := h.of_mem r x hx
    exact ⟨List.mem_cons_of_mem _ hk, hrest⟩
  case told_known => exact fun x hx => List.mem_cons_of_mem _ (h.told_known x hx)
  case of_unmapped =>
    intro x hx
    obtain ⟨hk, hdone, hpar⟩ := h.of_unmapped x hx
    refine ⟨List.mem_cons_of_mem _ hk, hdone, ?_⟩
    rw [Function.update_of_ne (hne hk)]
    exact hpar
  case grown =>
    intro r
    refine (h.grown r).mono fun x hx y hon => ?_
    unfold OnParent
    dsimp only [give_role]
    rwa [Function.update_of_ne (hin hx), Function.update_of_ne (hin hx)]
  case below =>
    intro r g x hx
    rw [Function.update_of_ne (hin (Forest.mem_front_of_mem_branch hx)),
      Function.update_of_ne (hin (Forest.mem_front_of_branch hx))]
    exact h.below r g x hx

omit h in
theorem lost_made {p x : SurfaceId} {parent : Option SurfaceId} (hx : x ≠ p)
    (hlost : Lost (m.give_role p parent) x) : Lost m x := by
  obtain ⟨hknown, halive, hmapped, hparent, huntold, hout⟩ := hlost
  dsimp only [give_role] at hknown halive hmapped hparent huntold hout
  rw [Function.update_of_ne hx] at halive hparent
  exact ⟨(List.mem_cons.1 hknown).resolve_left hx, halive, hmapped, hparent, huntold, hout⟩

/-- A popup without a parent waits for one. -/
theorem wait {p : SurfaceId} (hp : p ∈ m.known) (hfresh : ∀ r, p ∉ (m.tree r).front)
    (hnew : p ∉ m.unmapped_popups ∧ p ∉ m.popup_done) (hnone : m.parent p = none) :
    Tidy root { m with unmapped_popups := m.unmapped_popups ++ [p] } := by
  constructor <;> dsimp only
  case running => exact h.running
  case popup_iff => exact h.popup_iff
  case not_root => exact h.not_root
  case nodup => exact h.nodup
  case one_tree => exact h.one_tree
  case grown => exact h.grown
  case below => exact h.below
  case told => exact h.told
  case told_known => exact h.told_known
  case quiet => exact h.quiet
  case registered => exact h.registered
  case unmapped =>
    rw [List.nodup_append]
    refine ⟨h.unmapped, List.nodup_singleton p, ?_⟩
    rintro x hx y hy rfl
    exact hnew.1 (List.mem_singleton.1 hy ▸ hx)
  case of_mem =>
    intro r x hx
    obtain ⟨hk, hr, hmap, hdone⟩ := h.of_mem r x hx
    refine ⟨hk, hr, ?_, hdone⟩
    rw [List.mem_append, List.mem_singleton, not_or]
    exact ⟨hmap, fun heq => hfresh r (heq ▸ hx)⟩
  case of_unmapped =>
    intro x hx
    rcases List.mem_append.1 hx with hx | hx
    · exact h.of_unmapped x hx
    · rw [List.mem_singleton.1 hx]
      refine ⟨hp, hnew.2, fun q hq => ?_⟩
      rw [hnone] at hq
      cases hq

/-- `get_popup` of a client that keeps the order. -/
theorem get_popup {p : SurfaceId} {parent : Option SurfaceId} (hp : p ∉ m.known)
    (he : Orderly root m (.get_popup p parent)) :
    Tidy root (m.get_popup p parent) ∧ ∀ x, Lost (m.get_popup p parent) x → Lost m x := by
  obtain ⟨hroot, hparent⟩ := he
  have hmade := h.made hp hroot parent
  have hfresh (r : SurfaceId) : p ∉ (m.tree r).front := fun hx => hp (h.of_mem r p hx).1
  have hnew : p ∉ m.unmapped_popups ∧ p ∉ m.popup_done :=
    ⟨fun hx => hp (h.of_unmapped p hx).1, fun hx => hp (h.told_known p hx)⟩
  have hrole : (m.give_role p parent).parent p = parent := Function.update_self _ _ _
  unfold PopupManager.get_popup PopupManager.track_popup
  rw [hrole]
  cases parent with
  | none =>
    rw [if_neg (by simp)]
    refine ⟨hmade.wait List.mem_cons_self hfresh hnew hrole, fun x hx => ?_⟩
    have hne : x ≠ p := by
      rintro rfl
      exact hx.mapped (by simp)
    refine lost_made hne
      ⟨hx.known, hx.alive, fun hmem => hx.mapped ?_, hx.parent, hx.untold, hx.out⟩
    exact List.mem_append_left _ hmem
  | some q =>
    rw [if_pos Option.isSome_some]
    obtain ⟨hlive, hq⟩ := hparent q rfl
    obtain ⟨r, hon⟩ : ∃ r, q = r ∧ root r = true ∨ q ∈ (m.tree r).front ∧ m.alive q = true := by
      rcases hq with hq | ⟨r, hq⟩
      · exact ⟨q, Or.inl ⟨rfl, hq⟩⟩
      · exact ⟨r, Or.inr ⟨hq, hlive⟩⟩
    have hlive' (hq : q ∈ (m.tree r).front) : (m.give_role p (some q)).alive q = true := by
      dsimp only [give_role]
      have hne : q ≠ p := by
        rintro rfl
        exact hp (h.of_mem r q hq).1
      rwa [Function.update_of_ne hne]
    obtain ⟨htidy, hlost⟩ := hmade.add_popup (r := r) List.mem_cons_self hfresh hnew hrole
      (hon.imp_right fun hq => ⟨hq.1, hlive' hq.1⟩)
    exact ⟨htidy, fun x hx => lost_made (hlost x hx).1 (hlost x hx).2⟩

/-- A layer surface becomes the parent of a popup that waits for one. -/
theorem layer_get_popup {r p : SurfaceId} (he : Orderly root m (.layer_get_popup r p)) :
    Tidy root (m.layer_get_popup r p) ∧ ∀ x, Lost (m.layer_get_popup r p) x → Lost m x := by
  obtain ⟨hr, hp⟩ := he
  have hin {r' x : SurfaceId} (hx : x ∈ (m.tree r').front) : x ≠ p := by
    rintro rfl
    exact (h.of_mem r' x hx).2.2.1 hp
  refine ⟨?_, fun x hx => ?_⟩
  · constructor <;> dsimp only [PopupManager.layer_get_popup]
    case running => exact h.running
    case popup_iff => exact h.popup_iff
    case not_root => exact h.not_root
    case nodup => exact h.nodup
    case of_mem => exact h.of_mem
    case one_tree => exact h.one_tree
    case below => exact h.below
    case told => exact h.told
    case told_known => exact h.told_known
    case unmapped => exact h.unmapped
    case quiet => exact h.quiet
    case registered => exact h.registered
    case grown =>
      intro r'
      refine (h.grown r').mono fun x hx y hon => ?_
      unfold OnParent
      dsimp only [PopupManager.layer_get_popup]
      rwa [Function.update_of_ne (hin hx)]
    case of_unmapped =>
      intro x hx
      obtain ⟨hk, hdone, hpar⟩ := h.of_unmapped x hx
      refine ⟨hk, hdone, fun q hq => ?_⟩
      by_cases hxp : x = p
      · subst hxp
        rw [Function.update_self] at hq
        rw [← Option.some.inj hq]
        exact hr
      · rw [Function.update_of_ne hxp] at hq
        exact hpar q hq
  · have hne : x ≠ p := by
      rintro rfl
      exact hx.mapped hp
    obtain ⟨q, hq⟩ := hx.parent
    dsimp only [PopupManager.layer_get_popup] at hq
    rw [Function.update_of_ne hne] at hq
    exact ⟨hx.known, hx.alive, hx.mapped, ⟨q, hq⟩, hx.untold, hx.out⟩

omit h in
/-- `swap_remove` leaves the other entries. -/
theorem swap_remove_spec {l : List SurfaceId} {p : SurfaceId} (hl : l.Nodup) (hp : p ∈ l) :
    (swap_remove l p).Nodup ∧ ∀ x, x ∈ swap_remove l p ↔ x ∈ l ∧ x ≠ p := by
  rcases l.eq_nil_or_concat with rfl | ⟨l, last, rfl⟩
  · exact absurd hp List.not_mem_nil
  rw [List.concat_eq_append] at hl hp ⊢
  have hlast : last ∉ l := fun h =>
    (List.nodup_append.1 hl).2.2 last h last (List.mem_singleton_self _) rfl
  have hnodup := (List.nodup_append.1 hl).1
  unfold swap_remove
  rw [List.getLast?_concat, List.dropLast_concat]
  dsimp only
  by_cases heq : last = p
  · rw [if_pos heq]
    refine ⟨hnodup, fun x => ?_⟩
    rw [List.mem_append, List.mem_singleton]
    constructor
    · intro hx
      exact ⟨Or.inl hx, fun hxp => hlast (by rw [heq, ← hxp]; exact hx)⟩
    · rintro ⟨hx | hx, hne⟩
      · exact hx
      · exact absurd (hx.trans heq) hne
  · rw [if_neg heq]
    have hpl : p ∈ l := by
      rcases List.mem_append.1 hp with hp | hp
      · exact hp
      · exact absurd (List.mem_singleton.1 hp).symm heq
    refine ⟨hnodup.map_on fun x hx y hy hxy => ?_, fun x => ?_⟩
    · split_ifs at hxy with h₁ h₂ h₂
      · rw [h₁, h₂]
      · exact absurd (hxy ▸ hy) hlast
      · exact absurd (hxy ▸ hx) hlast
      · exact hxy
    · rw [List.mem_map, List.mem_append, List.mem_singleton]
      constructor
      · rintro ⟨y, hy, rfl⟩
        split_ifs with hyp
        · exact ⟨Or.inr rfl, heq⟩
        · exact ⟨Or.inl hy, hyp⟩
      · rintro ⟨hx | rfl, hne⟩
        · exact ⟨x, hx, if_neg hne⟩
        · exact ⟨p, hpl, if_pos rfl⟩

/-- A popup that waits is committed. -/
theorem commit (p : SurfaceId) :
    Tidy root (m.commit p) ∧ ∀ x, Lost (m.commit p) x → Lost m x := by
  unfold PopupManager.commit
  by_cases hwait : m.is_popup p = true ∧ p ∈ m.unmapped_popups
  swap
  · rw [if_neg hwait]
    exact ⟨h, fun x hx => hx⟩
  rw [if_pos hwait]
  have hp := hwait.2
  obtain ⟨hnodup, hmem⟩ := swap_remove_spec h.unmapped hp
  obtain ⟨hknown, hdone, hroot⟩ := h.of_unmapped p hp
  have hfresh (r : SurfaceId) : p ∉ (m.tree r).front := fun hx => (h.of_mem r p hx).2.2.1 hp
  have htaken : Tidy root { m with unmapped_popups := swap_remove m.unmapped_popups p } := by
    constructor <;> dsimp only
    case running => exact h.running
    case popup_iff => exact h.popup_iff
    case not_root => exact h.not_root
    case nodup => exact h.nodup
    case one_tree => exact h.one_tree
    case grown => exact h.grown
    case below => exact h.below
    case told => exact h.told
    case told_known => exact h.told_known
    case unmapped => exact hnodup
    case quiet => exact h.quiet
    case registered => exact h.registered
    case of_mem =>
      intro r x hx
      obtain ⟨hk, hr, hmap, hdone⟩ := h.of_mem r x hx
      exact ⟨hk, hr, fun hx => hmap ((hmem x).1 hx).1, hdone⟩
    case of_unmapped => exact fun x hx => h.of_unmapped x ((hmem x).1 hx).1
  have hlost {x : SurfaceId} (hx : x ≠ p)
      (hl : Lost { m with unmapped_popups := swap_remove m.unmapped_popups p } x) : Lost m x :=
    ⟨hl.known, hl.alive, fun hmap => hl.mapped ((hmem x).2 ⟨hmap, hx⟩), hl.parent, hl.untold,
      hl.out⟩
  cases hq : m.parent p with
  | none =>
    have heq : ({ m with unmapped_popups := swap_remove m.unmapped_popups p } :
        PopupManager).add_popup p = { m with
          unmapped_popups := swap_remove m.unmapped_popups p } := by
      have hfind : ({ m with unmapped_popups := swap_remove m.unmapped_popups p } :
          PopupManager).find_popup_root_surface p = some none := by
        unfold find_popup_root_surface
        dsimp only
        rw [hq]
      unfold PopupManager.add_popup
      rw [hfind]
      dsimp only
      rw [hq]
    rw [heq]
    refine ⟨htaken, fun x hx => hlost ?_ hx⟩
    rintro rfl
    obtain ⟨q, hq'⟩ := hx.parent
    dsimp only at hq'
    rw [hq] at hq'
    cases hq'
  | some q =>
    have hnew : p ∉ swap_remove m.unmapped_popups p := fun hx => ((hmem p).1 hx).2 rfl
    obtain ⟨htidy, hlost'⟩ := htaken.add_popup (r := q) hknown hfresh ⟨hnew, hdone⟩ hq
      (Or.inl ⟨rfl, hroot q hq⟩)
    exact ⟨htidy, fun x hx => hlost (hlost' x hx).1 (hlost' x hx).2⟩

/-- A popup is destroyed after the popups on it. -/
theorem popup_destroyed {p : SurfaceId} (he : Orderly root m (.popup_destroyed p)) :
    Tidy root (step m (.popup_destroyed p)) ∧
      ∀ x, Lost (step m (.popup_destroyed p)) x → Lost m x := by
  obtain ⟨hp, htop⟩ := he
  have heq : step m (.popup_destroyed p) = { m with
      alive := Function.update m.alive p false
      parent := Function.update m.parent p none } := by
    unfold step
    rw [if_neg (by rw [h.running]; exact Bool.false_ne_true)]
  have hlive {x : SurfaceId} (hx : Function.update m.alive p false x = true) :
      x ≠ p ∧ m.alive x = true := by
    by_cases hxp : x = p
    · rw [hxp, Function.update_self] at hx
      cases hx
    · rw [Function.update_of_ne hxp] at hx
      exact ⟨hxp, hx⟩
  rw [heq]
  refine ⟨?_, fun x hx => ?_⟩
  · constructor <;> dsimp only
    case running => exact h.running
    case popup_iff => exact h.popup_iff
    case not_root => exact h.not_root
    case nodup => exact h.nodup
    case of_mem => exact h.of_mem
    case one_tree => exact h.one_tree
    case told => exact h.told
    case told_known => exact h.told_known
    case unmapped => exact h.unmapped
    case quiet => exact h.quiet
    case registered => exact h.registered
    case grown =>
      intro r
      refine (h.grown r).mono fun x hx y hon hx' => ?_
      obtain ⟨hne, hx'⟩ := hlive hx'
      dsimp only
      rw [Function.update_of_ne hne]
      exact hon hx'
    case below =>
      intro r g x hx hx'
      obtain ⟨hne, halive⟩ := hlive hx'
      have hg : g ≠ p := by
        rintro rfl
        exact hne (htop r x hx halive)
      rw [Function.update_of_ne hg]
      exact h.below r g x hx halive
    case of_unmapped =>
      intro x hx
      obtain ⟨hk, hdone, hpar⟩ := h.of_unmapped x hx
      refine ⟨hk, hdone, fun q hq => ?_⟩
      by_cases hxp : x = p
      · rw [hxp, Function.update_self] at hq
        cases hq
      · rw [Function.update_of_ne hxp] at hq
        exact hpar q hq
  · obtain ⟨hne, halive⟩ := hlive hx.alive
    obtain ⟨q, hq⟩ := hx.parent
    dsimp only at hq
    rw [Function.update_of_ne hne] at hq
    exact ⟨hx.known, halive, hx.mapped, ⟨q, hq⟩, hx.untold, hx.out⟩

/-- The surface of a root is destroyed. -/
theorem root_destroyed {r : SurfaceId} (he : Orderly root m (.root_destroyed r)) :
    Tidy root (step m (.root_destroyed r)) ∧
      ∀ x, Lost (step m (.root_destroyed r)) x → Lost m x := by
  have heq : step m (.root_destroyed r) = { m with alive := Function.update m.alive r false } := by
    unfold step
    rw [if_neg (by rw [h.running]; exact Bool.false_ne_true)]
  have hne {x : SurfaceId} (hx : x ∈ m.known) : x ≠ r := by
    rintro rfl
    have := h.not_root x hx
    rw [show root x = true from he] at this
    cases this
  rw [heq]
  refine ⟨?_, fun x hx => ?_⟩
  · constructor <;> dsimp only
    case running => exact h.running
    case popup_iff => exact h.popup_iff
    case not_root => exact h.not_root
    case nodup => exact h.nodup
    case of_mem => exact h.of_mem
    case one_tree => exact h.one_tree
    case told => exact h.told
    case told_known => exact h.told_known
    case unmapped => exact h.unmapped
    case of_unmapped => exact h.of_unmapped
    case quiet => exact h.quiet
    case registered => exact h.registered
    case grown =>
      intro r'
      refine (h.grown r').mono fun x hx y hon hx' => ?_
      dsimp only at hx'
      rw [Function.update_of_ne (hne (h.of_mem r' x hx).1)] at hx'
      exact hon hx'
    case below =>
      intro r' g x hx
      rw [Function.update_of_ne (hne (h.of_mem r' x (Forest.mem_front_of_mem_branch hx)).1),
        Function.update_of_ne (hne (h.of_mem r' g (Forest.mem_front_of_branch hx)).1)]
      exact h.below r' g x hx
  · have halive := hx.alive
    dsimp only at halive
    rw [Function.update_of_ne (hne hx.known)] at halive
    exact ⟨hx.known, halive, hx.mapped, hx.parent, hx.untold, hx.out⟩

/-- Only the grabs change. -/
theorem with_grabs (active dismissed refused : List SurfaceId) (serial : Option ℕ)
    (grab_root : Option SurfaceId) : Tidy root { m with
      active_grabs := active
      dismissed_grabs := dismissed
      refused := refused
      grab_serial := serial
      grab_root := grab_root } :=
  ⟨h.running, h.popup_iff, h.not_root, h.nodup, h.of_mem, h.one_tree, h.grown, h.below, h.told,
    h.told_known, h.unmapped, h.of_unmapped, h.quiet, h.registered⟩

/-- What is left of a tree after a popup was dismissed. -/
theorem mem_front_uproot {r p x : SurfaceId} :
    x ∈ ((m.tree r).uproot p).2.front ↔ x ∈ (m.tree r).front ∧ x ∉ (m.tree r).branch p := by
  rw [Forest.front_uproot (h.nodup r), List.mem_filter, decide_eq_true_eq]

/-- A popup is dismissed: with those on it, it is told and out of the tree. -/
theorem dismiss_popup (r p : SurfaceId) :
    Tidy root (m.dismiss_popup r p) ∧ ∀ x, Lost (m.dismiss_popup r p) x → Lost m x := by
  have huproot := Forest.uproot_eq (p := p) (h.nodup r)
  have hcut : ((m.tree r).uproot p).1 = (m.tree r).branch p := by rw [huproot]
  have hpruned : ((m.tree r).uproot p).2 = (m.tree r).prune fun x => decide (x ≠ p) := by
    rw [huproot]
  have htold {x : SurfaceId} (hx : x ∈ ((m.tree r).uproot p).1.filter m.alive) :
      x ∈ (m.tree r).branch p ∧ m.alive x = true := by
    rw [List.mem_filter, hcut] at hx
    exact hx
  have hleft {r' x : SurfaceId}
      (hx : x ∈ (Function.update m.tree r ((m.tree r).uproot p).2 r').front) :
      x ∈ (m.tree r').front ∧ (r' = r → x ∉ (m.tree r).branch p) := by
    rcases mem_update.1 hx with ⟨rfl, hx⟩ | ⟨hne, hx⟩
    · exact ⟨(h.mem_front_uproot.1 hx).1, fun _ => (h.mem_front_uproot.1 hx).2⟩
    · exact ⟨hx, fun heq => absurd heq hne⟩
  have hbranch {r' g x : SurfaceId}
      (hx : x ∈ (Function.update m.tree r ((m.tree r).uproot p).2 r').branch g) :
      x ∈ (m.tree r').branch g := by
    by_cases hne : r' = r
    · subst hne
      rw [Function.update_self, hpruned, Forest.mem_branch_prune (h.nodup r')] at hx
      exact hx.1
    · rwa [Function.update_of_ne hne] at hx
  unfold PopupManager.dismiss_popup
  refine ⟨?_, fun x hx => ?_⟩
  · constructor <;> dsimp only
    case running => exact h.running
    case popup_iff => exact h.popup_iff
    case not_root => exact h.not_root
    case unmapped => exact h.unmapped
    case quiet => exact h.quiet
    case nodup =>
      intro r'
      by_cases hne : r' = r
      · subst hne
        rw [Function.update_self, hpruned]
        exact Forest.nodup_prune _ (h.nodup r')
      · rw [Function.update_of_ne hne]
        exact h.nodup r'
    case of_mem =>
      intro r' x hx
      obtain ⟨hmem, hoff⟩ := hleft hx
      obtain ⟨hk, hr, hmap, hdone⟩ := h.of_mem r' x hmem
      refine ⟨hk, hr, hmap, fun hx => ?_⟩
      rcases List.mem_append.1 hx with hx | hx
      · exact hdone hx
      · have hb := (htold hx).1
        exact hoff (h.one_tree x r' r hmem (Forest.mem_front_of_mem_branch hb)) hb
    case one_tree => exact fun x r₁ r₂ h₁ h₂ => h.one_tree x r₁ r₂ (hleft h₁).1 (hleft h₂).1
    case grown =>
      intro r'
      by_cases hne : r' = r
      · subst hne
        rw [Function.update_self, hpruned]
        exact (h.grown r').prune _
      · rw [Function.update_of_ne hne]
        exact h.grown r'
    case below => exact fun r' g x hx => h.below r' g x (hbranch hx)
    case told =>
      rw [List.nodup_append]
      refine ⟨h.told, ?_, ?_⟩
      · obtain ⟨l, t, heq⟩ := Forest.front_eq_append_branch p (h.nodup r)
        have hfront := h.nodup r
        rw [heq] at hfront
        rw [hcut]
        exact ((List.nodup_append.1 (List.nodup_append.1 hfront).2.1).1).filter _
      · rintro x hx y hy rfl
        exact (h.of_mem r x (Forest.mem_front_of_mem_branch (htold hy).1)).2.2.2 hx
    case told_known =>
      intro x hx
      rcases List.mem_append.1 hx with hx | hx
      · exact h.told_known x hx
      · exact (h.of_mem r x (Forest.mem_front_of_mem_branch (htold hx).1)).1
    case of_unmapped =>
      intro x hx
      obtain ⟨hk, hdone, hpar⟩ := h.of_unmapped x hx
      refine ⟨hk, fun hx' => ?_, hpar⟩
      rcases List.mem_append.1 hx' with hx' | hx'
      · exact hdone hx'
      · exact (h.of_mem r x (Forest.mem_front_of_mem_branch (htold hx').1)).2.2.1 hx
    case registered =>
      intro r' hr'
      by_cases hne : r' = r
      · subst hne
        refine h.registered r' fun hnil => hr' ?_
        rw [Function.update_self, hnil]
        rfl
      · rw [Function.update_of_ne hne] at hr'
        exact h.registered r' hr'
  · obtain ⟨hknown, halive, hmapped, hparent, huntold, hout⟩ := hx
    dsimp only at hknown halive hmapped hparent huntold hout
    rw [List.mem_append, not_or] at huntold
    refine ⟨hknown, halive, hmapped, hparent, huntold.1, fun r' hmem => hout r' ?_⟩
    rw [mem_update]
    by_cases hne : r' = r
    · subst hne
      refine Or.inl ⟨rfl, h.mem_front_uproot.2 ⟨hmem, fun hb => huntold.2 ?_⟩⟩
      rw [List.mem_filter, hcut]
      exact ⟨hb, halive⟩
    · exact Or.inr ⟨hne, hmem⟩

omit h in
/-- No popup is told that its parent is gone when all on a dead one are dead. -/
theorem orphans_eq_nil {alive : SurfaceId → Bool} {f : Forest SurfaceId} {destroyed : Bool}
    (hf : f.front.Nodup) (hbelow : ∀ p, ∀ x ∈ f.branch p, alive x = true → alive p = true)
    (hdestroyed : destroyed = true → ∀ x ∈ f.front, alive x = false) :
    orphans alive destroyed f = [] := by
  induction f generalizing destroyed with
  | nil => rfl
  | node a c s ihc ihs =>
    obtain ⟨hs, hc, -⟩ := Forest.nodup_node.1 hf
    have hbranch {x : SurfaceId} (g : SurfaceId) := Forest.mem_branch_node (g := g) (x := x) hf
    unfold orphans
    rw [ihc hc fun p x hx => hbelow p x ((hbranch p).2 (Or.inr (Or.inl hx))),
      ihs hs (fun p x hx => hbelow p x ((hbranch p).2 (Or.inl hx)))
        fun hd x hx => hdestroyed hd x (by simp [hx]), List.append_nil, List.append_nil, if_neg]
    · rintro ⟨ha, hd⟩
      rw [hdestroyed hd a (by simp)] at ha
      cases ha
    · intro hd x hx
      rw [Bool.eq_false_iff]
      intro hlive
      have := hbelow a x ((hbranch a).2 (Or.inr (Or.inr ⟨rfl, Or.inl hx⟩))) hlive
      rw [this] at hd
      cases hd

/-- What `cleanup` leaves of a tree. -/
theorem cleaned (r : SurfaceId) : m.cleanup.tree r = (m.tree r).prune m.alive := by
  by_cases hr : r ∈ m.popup_trees
  · exact if_pos hr
  · have hnil : m.tree r = .nil := by
      by_contra hne
      exact hr (h.registered r hne)
    have hkeep : m.cleanup.tree r = m.tree r := if_neg hr
    rw [hkeep, hnil]
    rfl

theorem mem_front_cleaned {r x : SurfaceId} :
    x ∈ ((m.tree r).prune m.alive).front ↔ x ∈ (m.tree r).front ∧ m.alive x = true := by
  rw [Forest.mem_front_prune (h.nodup r)]
  constructor
  · rintro ⟨hx, hall⟩
    exact ⟨hx, hall x (Forest.mem_branch_self hx)⟩
  · rintro ⟨hx, halive⟩
    exact ⟨hx, fun g hg => h.below r g x hg halive⟩

/-- What is destroyed is taken out. -/
theorem cleanup : Tidy root m.cleanup ∧ ∀ x, Lost m.cleanup x → Lost m x := by
  have hmem {r x : SurfaceId} (hx : x ∈ (m.cleanup.tree r).front) : x ∈ (m.tree r).front := by
    rw [h.cleaned] at hx
    exact (h.mem_front_cleaned.1 hx).1
  refine ⟨?_, fun x hx => ?_⟩
  · constructor
    case running => exact h.running
    case popup_iff => exact h.popup_iff
    case not_root => exact h.not_root
    case told => exact h.told
    case told_known => exact h.told_known
    case unmapped => exact h.unmapped.filter _
    case nodup =>
      intro r
      rw [h.cleaned]
      exact Forest.nodup_prune _ (h.nodup r)
    case of_mem =>
      intro r x hx
      obtain ⟨hk, hr, hmap, hdone⟩ := h.of_mem r x (hmem hx)
      exact ⟨hk, hr, fun hx => hmap (List.mem_filter.1 hx).1, hdone⟩
    case one_tree => exact fun x r₁ r₂ h₁ h₂ => h.one_tree x r₁ r₂ (hmem h₁) (hmem h₂)
    case grown =>
      intro r
      rw [h.cleaned]
      exact (h.grown r).prune _
    case below =>
      intro r g x hx
      rw [h.cleaned, Forest.mem_branch_prune (h.nodup r)] at hx
      exact h.below r g x hx.1
    case of_unmapped => exact fun x hx => h.of_unmapped x (List.mem_filter.1 hx).1
    case quiet =>
      have hnone : m.popup_trees.flatMap (fun r => orphans m.alive false (m.tree r)) = [] := by
        rw [List.flatMap_eq_nil_iff]
        exact fun r _ => orphans_eq_nil (h.nodup r) (h.below r) fun hd => by cases hd
      show m.orphaned ++ m.popup_trees.flatMap (fun r => orphans m.alive false (m.tree r)) = []
      rw [h.quiet, hnone]
      rfl
    case registered =>
      intro r hr
      have hreg : r ∈ m.popup_trees := by
        refine h.registered r fun hnil => hr ?_
        rw [h.cleaned, hnil]
        rfl
      exact List.mem_filter.2 ⟨hreg, decide_eq_true hr⟩
  · obtain ⟨hknown, halive, hmapped, hparent, huntold, hout⟩ := hx
    refine ⟨hknown, halive, fun hmem => hmapped (List.mem_filter.2 ⟨hmem, halive⟩), hparent,
      huntold, fun r hmem => hout r ?_⟩
    rw [h.cleaned]
    exact h.mem_front_cleaned.2 ⟨hmem, halive⟩

/-- A popup that is shown asks for a grab. -/
theorem grab_popup {p : SurfaceId} {serial : ℕ} (he : Orderly root m (.grab p serial)) :
    Tidy root (m.grab_popup p serial) ∧ ∀ x, Lost (m.grab_popup p serial) x → Lost m x := by
  obtain ⟨halive, r, hp⟩ := he
  have hclean : Tidy root m.cleanup_grabs := h.with_grabs _ _ _ _ _
  have hlost {active dismissed refused : List SurfaceId} {serial : Option ℕ}
      {grab_root : Option SurfaceId} {x : SurfaceId} (hx : Lost { m with
        active_grabs := active
        dismissed_grabs := dismissed
        refused := refused
        grab_serial := serial
        grab_root := grab_root } x) : Lost m x :=
    ⟨hx.known, hx.alive, hx.mapped, hx.parent, hx.untold, hx.out⟩
  unfold PopupManager.grab_popup
  rw [h.find_of_mem hp halive]
  cases hq : m.parent p with
  | none => exact ⟨h, fun x hx => hx⟩
  | some q =>
    dsimp only
    cases hgrab : m.grab p q serial with
    | ok m' =>
      unfold grab at hgrab
      dsimp only at hgrab
      split_ifs at hgrab
      cases hgrab
      exact ⟨h.with_grabs _ _ _ _ _, fun x => hlost⟩
    | error err =>
      cases err with
      | DeadResource => exact ⟨h, fun x hx => hx⟩
      | NotTheTopmostPopup => exact ⟨h.with_grabs _ _ _ _ _, fun x => hlost⟩
      | ParentDismissed =>
        dsimp only
        split_ifs
        · obtain ⟨htidy, hdismissed⟩ := hclean.dismiss_popup r p
          exact ⟨htidy, fun x hx => hlost (hdismissed x hx)⟩
        · exact ⟨hclean, fun x => hlost⟩

/-- All grabs end. -/
theorem ungrab : Tidy root m.ungrab ∧ ∀ x, Lost m.ungrab x → Lost m x := by
  unfold PopupManager.ungrab
  cases hroot : m.grab_root with
  | none => exact ⟨h, fun x hx => hx⟩
  | some r =>
    cases hgrabs : m.active_grabs with
    | nil => exact ⟨h, fun x hx => hx⟩
    | cons g grabs =>
      dsimp only
      split_ifs
      · obtain ⟨htidy, hlost⟩ := h.dismiss_popup r g
        exact ⟨htidy.with_grabs _ _ _ _ _, fun x hx =>
          hlost x ⟨hx.known, hx.alive, hx.mapped, hx.parent, hx.untold, hx.out⟩⟩
      · exact ⟨h.with_grabs _ _ _ _ _, fun x hx =>
          ⟨hx.known, hx.alive, hx.mapped, hx.parent, hx.untold, hx.out⟩⟩

end Tidy

/-- One step. -/
theorem tidy_step {e : Event} (h : Tidy root m) (he : Orderly root m e) :
    Tidy root (step m e) ∧ ∀ x, Lost (step m e) x → Lost m x := by
  have hstep (f : PopupManager) (hf : (if m.hung then m else f) = step m e)
      (hgoal : Tidy root f ∧ ∀ x, Lost f x → Lost m x) :
      Tidy root (step m e) ∧ ∀ x, Lost (step m e) x → Lost m x := by
    rwa [← hf, if_neg (by rw [h.running]; exact Bool.false_ne_true)]
  cases e with
  | get_popup p parent =>
    refine hstep (if p ∈ m.known then m else m.get_popup p parent) rfl ?_
    split_ifs with hp
    · exact ⟨h, fun x hx => hx⟩
    · exact h.get_popup hp he
  | layer_get_popup r p => exact hstep _ rfl (h.layer_get_popup he)
  | commit p => exact hstep _ rfl (h.commit p)
  | popup_destroyed p => exact h.popup_destroyed he
  | root_destroyed r => exact h.root_destroyed he
  | grab p serial => exact hstep _ rfl (h.grab_popup he)
  | ungrab => exact hstep _ rfl h.ungrab
  | cleanup => exact hstep _ rfl h.cleanup

/-- A run of clients that keep the order. -/
theorem tidy_run {es : List Event} (h : Guarded step (Orderly root) (init root) es) :
    Tidy root (run step (init root) es) ∧ ∀ x, ¬Lost (run step (init root) es) x := by
  refine h.inv_run (I := fun m => Tidy root m ∧ ∀ x, ¬Lost m x) ?_ ⟨tidy_init root, ?_⟩
  · rintro m e ⟨htidy, hlost⟩ he
    obtain ⟨htidy', hlost'⟩ := tidy_step htidy he
    exact ⟨htidy', fun x hx => hlost x (hlost' x hx)⟩
  · intro x hx
    exact List.not_mem_nil hx.known

/-! ### What is drawn -/

section Drawn

variable {alive : SurfaceId → Bool} {location : SurfaceId → Point} {loc : Point}
  {f : Forest SurfaceId} {P : SurfaceId → SurfaceId → Prop} {r : SurfaceId}

/-- The popups drawn are what a cleanup would leave. -/
theorem map_fst_iter_popups :
    (iter_popups alive location loc f).map Prod.fst = (f.prune alive).front := by
  induction f generalizing loc with
  | nil => rfl
  | node a c s ihc ihs =>
    unfold iter_popups Forest.prune
    by_cases ha : alive a = true
    · rw [if_pos ha, if_pos ha, List.map_append, ihs, List.map_append, ihc, Forest.front_node]
      rfl
    · rw [if_neg ha, if_neg ha, List.append_nil, ihs]

/-- A popup is drawn where it is on what it grows on, and in front of it. -/
theorem place_of_mem_iter_popups (h : f.Grown P r) {x : SurfaceId} {o : Point}
    (hx : (x, o) ∈ iter_popups alive location loc f) :
    P x r ∧ o = ⟨loc.x + (location x).x, loc.y + (location x).y⟩ ∨
      ∃ y o', P x y ∧ [(x, o), (y, o')].Sublist (iter_popups alive location loc f) ∧
        o = ⟨o'.x + (location x).x, o'.y + (location x).y⟩ := by
  induction f generalizing r loc with
  | nil => exact absurd hx List.not_mem_nil
  | node a c s ihc ihs =>
    obtain ⟨ha, hc, hs⟩ := h
    unfold iter_popups at hx ⊢
    rcases List.mem_append.1 hx with hx | hx
    · rcases ihs hs hx with hroot | ⟨y, o', hP, hsub, ho⟩
      · exact Or.inl hroot
      · exact Or.inr ⟨y, o', hP, hsub.trans (List.sublist_append_left _ _), ho⟩
    · by_cases halive : alive a = true
      · rw [if_pos halive] at hx ⊢
        dsimp only at hx ⊢
        rcases List.mem_append.1 hx with hx | hx
        · right
          rcases ihc hc hx with ⟨hP, ho⟩ | ⟨y, o', hP, hsub, ho⟩
          · refine ⟨a, _, hP, ?_, ho⟩
            refine List.Sublist.trans ?_ (List.sublist_append_right _ _)
            exact (List.singleton_sublist.2 hx).append (List.Sublist.refl _)
          · exact ⟨y, o', hP, (hsub.trans (List.sublist_append_left _ _)).trans
              (List.sublist_append_right _ _), ho⟩
        · cases List.mem_singleton.1 hx
          exact Or.inl ⟨ha, rfl⟩
      · rw [if_neg halive] at hx
        exact absurd hx List.not_mem_nil

end Drawn

/-- A menu on a window, and a submenu that is taken down again. -/
def submenuRun : List Event :=
  [.get_popup 1 (some 0), .get_popup 2 (some 1), .grab 1 5, .popup_destroyed 2, .cleanup,
    .get_popup 3 (some 1)]

theorem submenuRun_orderly :
    Guarded step (Orderly fun f => decide (f = 0)) (init fun f => decide (f = 0)) submenuRun := by
  refine ⟨⟨rfl, ?_⟩, ⟨rfl, ?_⟩, ⟨rfl, 0, by decide⟩, ⟨by decide, ?_⟩, trivial, ⟨rfl, ?_⟩, trivial⟩
  · rintro q ⟨⟩
    exact ⟨rfl, Or.inl rfl⟩
  · rintro q ⟨⟩
    exact ⟨rfl, Or.inr ⟨0, by decide⟩⟩
  · intro r x hx _
    by_cases hr : r = 0
    · subst hr
      change x ∈ [2] at hx
      exact List.mem_singleton.1 hx
    · change x ∈ (Function.update (Function.update (fun _ => Forest.nil) 0
        (Forest.node 1 .nil .nil)) 0 (Forest.node 1 (.node 2 .nil .nil) .nil) r).branch 2 at hx
      rw [Function.update_of_ne hr, Function.update_of_ne hr] at hx
      exact absurd hx List.not_mem_nil
  · rintro q ⟨⟩
    exact ⟨rfl, Or.inr ⟨0, by decide⟩⟩

end PopupManager

end Compositor
