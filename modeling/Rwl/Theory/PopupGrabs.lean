import Mathlib.Tactic.Common
import Rwl.Theory.PopupRuns

/-!
# The grabs of the popups

Clients that keep the order take their grabs one on the other.

* `Held`: what holds of the grabs after such a run; `Eases`: what takes no grab;
* `held_step`, `held_run`: by each event, and by a run;
* `ungrab_dismisses`: a press outside takes down every popup that holds a grab.
-/

namespace Compositor

namespace PopupManager

open Transition

variable {m : PopupManager} {root : SurfaceId → Bool}

/-- The parent of a popup that is shown. -/
theorem Tidy.exists_parent {r p : SurfaceId} (ht : Tidy root m) (hlive : m.alive p = true)
    (hp : p ∈ (m.tree r).front) : ∃ q, m.parent p = some q ∧ (q ∈ m.known → q ∈ (m.tree r).front ∧
      ∀ g, q ∈ (m.tree r).branch g → p ∈ (m.tree r).branch g) := by
  rcases (ht.grown r).exists_of_mem (ht.nodup r) hp with ⟨hon, -⟩ | ⟨q, hq, hon, -, hiff⟩
  · refine ⟨r, hon hlive, fun hr => ?_⟩
    have hroot := ht.not_root r hr
    rw [ht.root_of_mem hp] at hroot
    cases hroot
  · exact ⟨q, hon hlive, fun _ => ⟨hq, fun g hg => (hiff g).2 (Or.inr hg)⟩⟩

/-- Each grab stands on those before it, in the tree of the root of the last; what was dismissed
was told. -/
structure Held (m : PopupManager) : Prop where
  known : ∀ g ∈ m.active_grabs, g ∈ m.known ∧ g ∉ m.unmapped_popups
  chain : m.active_grabs.Pairwise fun g g' =>
    ∀ r, g' ∈ (m.tree r).front → g' ∈ (m.tree r).branch g
  shown : ∀ g ∈ m.active_grabs, ∃ r, m.grab_root = some r ∧
    (m.alive g = true → g ∈ (m.tree r).front)
  dismissed_known : ∀ d ∈ m.dismissed_grabs, d ∈ m.known
  told : ∀ d ∈ m.dismissed_grabs, m.alive d = true → d ∈ m.popup_done

/-- No grab is taken, and nothing that is known comes to life again. -/
structure Eases (m m' : PopupManager) : Prop where
  active : m'.active_grabs.Sublist m.active_grabs
  grab_root : m'.grab_root = m.grab_root
  alive : ∀ g ∈ m.known, m'.alive g = true → m.alive g = true
  dismissed : ∀ d ∈ m'.dismissed_grabs, d ∈ m.dismissed_grabs
  popup_done : m'.popup_done = m.popup_done
  known : ∀ g ∈ m.known, g ∈ m'.known
  mapped : ∀ g ∈ m.active_grabs, g ∉ m.unmapped_popups → g ∉ m'.unmapped_popups

theorem held_init (root : SurfaceId → Bool) : Held (init root) := by
  constructor <;> simp [init]

namespace Held

variable (h : Held m)

include h

/-- The popups that hold a grab stay on each other. -/
theorem kept {m' : PopupManager} (he : Eases m m')
    (htree : ∀ g ∈ m'.active_grabs, ∀ r,
      (g ∈ (m'.tree r).front → g ∈ (m.tree r).front ∧
        ∀ p, g ∈ (m.tree r).branch p → g ∈ (m'.tree r).branch p) ∧
      (m'.alive g = true → g ∈ (m.tree r).front → g ∈ (m'.tree r).front)) :
    Held m' where
  known g hg := by
    obtain ⟨hk, hmap⟩ := h.known g (he.active.subset hg)
    exact ⟨he.known g hk, he.mapped g (he.active.subset hg) hmap⟩
  chain := by
    refine (h.chain.sublist he.active).imp_of_mem fun {g g'} _ hg' hchain r hr => ?_
    obtain ⟨hold, hbranch⟩ := (htree g' hg' r).1 hr
    exact hbranch g (hchain r hold)
  shown g hg := by
    obtain ⟨r, hr, hshown⟩ := h.shown g (he.active.subset hg)
    refine ⟨r, he.grab_root.trans hr, fun hlive => (htree g hg r).2 hlive (hshown ?_)⟩
    exact he.alive g (h.known g (he.active.subset hg)).1 hlive
  dismissed_known d hd := he.known d (h.dismissed_known d (he.dismissed d hd))
  told d hd hlive := by
    have hold := he.dismissed d hd
    rw [he.popup_done]
    exact h.told d hold (he.alive d (h.dismissed_known d hold) hlive)

/-- The trees are as they were. -/
theorem same_trees {m' : PopupManager} (he : Eases m m') (htree : m'.tree = m.tree) : Held m' := by
  refine h.kept he fun g _ r => ?_
  rw [htree]
  exact ⟨fun hg => ⟨hg, fun _ hp => hp⟩, fun _ hg => hg⟩

/-- A popup that is in no tree and holds no grab comes into one. -/
theorem add_popup {p : SurfaceId} (hnodup : ∀ r, (m.tree r).front.Nodup)
    (hfresh : ∀ r, p ∉ (m.tree r).front) (hp : p ∉ m.active_grabs) : Held (m.add_popup p) := by
  unfold PopupManager.add_popup
  split
  · exact ⟨h.known, h.chain, h.shown, h.dismissed_known, h.told⟩
  · exact h
  · exact h
  · rename_i q r hparent hfind
    refine h.kept ⟨.refl _, rfl, fun _ _ hg => hg, fun _ hd => hd, rfl, fun _ hg => hg,
      fun _ _ hmap => hmap⟩ fun g hg r' => ?_
    have hgp : g ≠ p := fun heq => hp (heq ▸ hg)
    by_cases hr : r' = r
    · subst hr
      dsimp only
      rw [Function.update_self, mem_front_insert (hnodup r')]
      refine ⟨fun hmem => ⟨hmem.resolve_left hgp, fun x hx => ?_⟩, fun _ hmem => Or.inr hmem⟩
      exact (mem_branch_insert (hnodup r') (hfresh r')).2 (Or.inl hx)
    · dsimp only
      rw [Function.update_of_ne hr]
      exact ⟨fun hmem => ⟨hmem, fun _ hx => hx⟩, fun _ hmem => hmem⟩

theorem get_popup {p : SurfaceId} {parent : Option SurfaceId} (ht : Tidy root m)
    (hp : p ∉ m.known) : Held (m.get_popup p parent) := by
  have hne {x : SurfaceId} (hx : x ∈ m.known) : x ≠ p := fun heq => hp (heq ▸ hx)
  have hrole : Held (m.give_role p parent) := by
    refine h.same_trees ⟨.refl _, rfl, fun g hg hlive => ?_, fun _ hd => hd, rfl,
      fun _ hg => List.mem_cons_of_mem _ hg, fun _ _ hmap => hmap⟩ rfl
    dsimp only [give_role] at hlive
    rwa [Function.update_of_ne (hne hg)] at hlive
  have hactive : p ∉ m.active_grabs := fun hg => hp (h.known p hg).1
  unfold PopupManager.get_popup PopupManager.track_popup
  split_ifs
  · exact hrole.add_popup ht.nodup (fun r hx => hp (ht.of_mem r p hx).1) hactive
  · refine hrole.same_trees ⟨.refl _, rfl, fun _ _ hlive => hlive, fun _ hd => hd, rfl,
      fun _ hg => hg, fun g hg hmap hmem => ?_⟩ rfl
    rcases List.mem_append.1 hmem with hmem | hmem
    · exact hmap hmem
    · exact hactive (List.mem_singleton.1 hmem ▸ hg)

theorem commit {p : SurfaceId} (ht : Tidy root m) : Held (m.commit p) := by
  unfold PopupManager.commit
  split_ifs with hwait
  · obtain ⟨-, hmem⟩ := Tidy.swap_remove_spec ht.unmapped hwait.2
    have htaken : Held { m with unmapped_popups := swap_remove m.unmapped_popups p } :=
      h.same_trees ⟨.refl _, rfl, fun _ _ hlive => hlive, fun _ hd => hd, rfl, fun _ hg => hg,
        fun _ _ hmap hx => hmap ((hmem _).1 hx).1⟩ rfl
    exact htaken.add_popup ht.nodup (fun r hx => (ht.of_mem r p hx).2.2.1 hwait.2)
      fun hg => (h.known p hg).2 hwait.2
  · exact h

/-- A surface is destroyed. -/
theorem destroyed {m' : PopupManager} {p : SurfaceId}
    (halive : m'.alive = Function.update m.alive p false)
    (hactive : m'.active_grabs = m.active_grabs) (hroot : m'.grab_root = m.grab_root)
    (hdismissed : m'.dismissed_grabs = m.dismissed_grabs)
    (hdone : m'.popup_done = m.popup_done) (hknown : m'.known = m.known)
    (hmapped : m'.unmapped_popups = m.unmapped_popups) (htree : m'.tree = m.tree) : Held m' := by
  refine h.same_trees ⟨hactive ▸ .refl _, hroot, fun g _ hlive => ?_, fun d hd => hdismissed ▸ hd,
    hdone, fun g hg => hknown ▸ hg, fun g _ hmap => hmapped ▸ hmap⟩ htree
  by_cases hg : g = p
  · subst hg
    rw [halive, Function.update_self] at hlive
    cases hlive
  · rwa [halive, Function.update_of_ne hg] at hlive

theorem cleanup_grabs : Held m.cleanup_grabs := by
  refine h.same_trees ⟨List.filter_sublist, rfl, fun _ _ hlive => hlive, fun d hd => ?_, rfl,
    fun _ hg => hg, fun _ _ hmap => hmap⟩ rfl
  obtain ⟨hd, hlive⟩ := List.mem_filter.1 hd
  rcases List.mem_append.1 hd with hd | hd
  · exact hd
  -- a grab that is moved is dead
  · have hdead := (List.mem_filter.1 hd).2
    rw [hlive] at hdead
    cases hdead

theorem cleanup (ht : Tidy root m) : Held m.cleanup := by
  refine h.cleanup_grabs.kept ⟨.refl _, rfl, fun _ _ hlive => hlive, fun _ hd => hd, rfl,
    fun _ hg => hg, fun _ _ hmap hx => hmap (List.mem_filter.1 hx).1⟩ fun g hg r => ?_
  rw [ht.cleaned]
  refine ⟨fun hmem => ⟨(ht.mem_front_cleaned.1 hmem).1, fun p hp => ?_⟩, fun hlive hmem => ?_⟩
  · exact (Forest.mem_branch_prune (ht.nodup r)).2 ⟨hp, hmem⟩
  · exact ht.mem_front_cleaned.2 ⟨hmem, hlive⟩

/-- All grabs that are alive stand on the first. -/
theorem mem_branch {r g d : SurfaceId} {grabs : List SurfaceId} (hroot : m.grab_root = some r)
    (hgrabs : m.active_grabs = g :: grabs) (hd : d ∈ g :: grabs) (hlive : m.alive d = true) :
    d ∈ (m.tree r).branch g := by
  obtain ⟨r', hr', hshown⟩ := h.shown d (hgrabs ▸ hd)
  obtain rfl : r' = r := Option.some.inj (hr'.symm.trans hroot)
  have hchain := h.chain
  rw [hgrabs, List.pairwise_cons] at hchain
  rcases List.mem_cons.1 hd with rfl | hd
  · exact Forest.mem_branch_self (hshown hlive)
  · exact hchain.1 d hd r' (hshown hlive)

theorem ungrab (ht : Tidy root m) : Held m.ungrab := by
  unfold PopupManager.ungrab
  split
  · rename_i r g grabs hroot hgrabs
    split_ifs
    · constructor
      case known => exact fun _ hg => absurd hg List.not_mem_nil
      case chain => exact List.Pairwise.nil
      case shown => exact fun _ hg => absurd hg List.not_mem_nil
      case dismissed_known =>
        intro d hd
        rcases List.mem_append.1 hd with hd | hd
        · exact h.dismissed_known d hd
        · refine (h.known d (hgrabs ▸ ?_)).1
          simpa using hd
      case told =>
        intro d hd hlive
        rcases List.mem_append.1 hd with hd | hd
        · exact List.mem_append_left _ (h.told d hd hlive)
        · have hgrab : d ∈ g :: grabs := by simpa using hd
          refine List.mem_append_right _ (List.mem_filter.2 ⟨?_, hlive⟩)
          rw [Forest.uproot_eq (ht.nodup r)]
          exact h.mem_branch hroot hgrabs hgrab hlive
    · constructor
      case known => exact fun _ hg => absurd hg List.not_mem_nil
      case chain => exact List.Pairwise.nil
      case shown => exact fun _ hg => absurd hg List.not_mem_nil
      case dismissed_known => exact h.dismissed_known
      case told => exact h.told
  · exact h

/-- A popup takes a grab on the popup that has the last one. -/
theorem grab_popup {p : SurfaceId} {serial : ℕ} (ht : Tidy root m)
    (he : Orderly root m (.grab p serial)) : Held (m.grab_popup p serial) := by
  obtain ⟨halive, r, hp⟩ := he
  have hclean := h.cleanup_grabs
  obtain ⟨q, hq, hon⟩ := ht.exists_parent halive hp
  obtain ⟨hknown, -, hmapped, -⟩ := ht.of_mem r p hp
  unfold PopupManager.grab_popup
  rw [ht.find_of_mem hp halive, hq]
  dsimp only
  cases hgrab : m.grab p q serial with
  | ok m' =>
    unfold grab at hgrab
    dsimp only at hgrab
    split_ifs at hgrab with hcurrent
    cases hgrab
    -- the last grab, if there is one, is of the parent
    have hlast : ∀ g ∈ m.cleanup_grabs.active_grabs, p ∈ (m.tree r).branch g ∧
        g ∈ (m.tree r).front := by
      rcases m.cleanup_grabs.active_grabs.eq_nil_or_concat with hnil | ⟨grabs, c, hgrabs⟩
      · intro g hg
        rw [hnil] at hg
        exact absurd hg List.not_mem_nil
      · rw [List.concat_eq_append] at hgrabs
        have hc : c ∈ m.cleanup_grabs.active_grabs := by simp [hgrabs]
        have hclive : m.alive c = true := (List.mem_filter.1 hc).2
        have hfirst : m.cleanup_grabs.current_grab = some c := by
          unfold current_grab
          rw [hgrabs, List.reverse_append]
          exact List.find?_cons_of_pos hclive
        rw [hfirst] at hcurrent
        obtain rfl : c = q := by simpa using hcurrent
        obtain ⟨hcr, hbranch⟩ := hon (hclean.known c hc).1
        have hchain := hclean.chain
        rw [hgrabs, List.pairwise_append] at hchain
        obtain ⟨r', hr', hshown⟩ := hclean.shown c hc
        obtain rfl : r' = r := ht.one_tree c r' r (hshown hclive) hcr
        intro g hg
        obtain ⟨r', hr'', hg'⟩ := hclean.shown g hg
        obtain rfl := Option.some.inj (hr''.symm.trans hr')
        refine ⟨hbranch g ?_, hg' (List.mem_filter.1 hg).2⟩
        rw [hgrabs] at hg
        rcases List.mem_append.1 hg with hg | hg
        · exact hchain.2.2 g hg c (List.mem_singleton_self c) _ hcr
        · rw [List.mem_singleton.1 hg]
          exact Forest.mem_branch_self hcr
    constructor
    case known =>
      intro g hg
      rcases List.mem_append.1 hg with hg | hg
      · exact hclean.known g hg
      · rw [List.mem_singleton.1 hg]
        exact ⟨hknown, hmapped⟩
    case chain =>
      refine List.pairwise_append.2 ⟨hclean.chain, List.pairwise_singleton _ _, ?_⟩
      intro g hg p' hp' r' hr'
      rw [List.mem_singleton.1 hp'] at hr' ⊢
      rw [ht.one_tree p r' r hr' hp]
      exact (hlast g hg).1
    case shown =>
      intro g hg
      rcases List.mem_append.1 hg with hg | hg
      · exact ⟨r, rfl, fun _ => (hlast g hg).2⟩
      · rw [List.mem_singleton.1 hg]
        exact ⟨r, rfl, fun _ => hp⟩
    case dismissed_known => exact hclean.dismissed_known
    case told => exact hclean.told
  | error err =>
    cases err with
    | DeadResource => exact h
    | NotTheTopmostPopup =>
      exact ⟨hclean.known, hclean.chain, hclean.shown, hclean.dismissed_known, hclean.told⟩
    | ParentDismissed =>
      -- what was dismissed is in no tree, and no root is
      have hdismissed : q ∈ m.cleanup_grabs.dismissed_grabs := by
        unfold grab at hgrab
        dsimp only at hgrab
        split_ifs at hgrab with hcurrent hdis
        · exact hdis
        · cases hgrab
      have hlive := (List.mem_filter.1 hdismissed).2
      have htree := (hon (hclean.dismissed_known q hdismissed)).1
      exact absurd (hclean.told q hdismissed hlive) (ht.of_mem r q htree).2.2.2

end Held

/-- One step. -/
theorem held_step {e : Event} (ht : Tidy root m) (h : Held m) (he : Orderly root m e) :
    Held (step m e) := by
  have hstep (f : PopupManager) (hf : (if m.hung then m else f) = step m e) (hheld : Held f) :
      Held (step m e) := by
    rwa [← hf, if_neg (by rw [ht.running]; exact Bool.false_ne_true)]
  cases e with
  | get_popup p parent =>
    refine hstep (if p ∈ m.known then m else m.get_popup p parent) rfl ?_
    split_ifs with hp
    · exact h
    · exact h.get_popup ht hp
  | layer_get_popup r p =>
    exact hstep _ rfl ⟨h.known, h.chain, h.shown, h.dismissed_known, h.told⟩
  | commit p => exact hstep _ rfl (h.commit ht)
  | popup_destroyed p => exact hstep _ rfl (h.destroyed (p := p) rfl rfl rfl rfl rfl rfl rfl rfl)
  | root_destroyed r => exact hstep _ rfl (h.destroyed (p := r) rfl rfl rfl rfl rfl rfl rfl rfl)
  | grab p serial => exact hstep _ rfl (h.grab_popup ht he)
  | ungrab => exact hstep _ rfl (h.ungrab ht)
  | cleanup => exact hstep _ rfl (h.cleanup ht)

/-- A run of clients that keep the order. -/
theorem held_run {es : List Event} (h : Guarded step (Orderly root) (init root) es) :
    Held (run step (init root) es) := by
  refine (h.inv_run (I := fun m => Tidy root m ∧ Held m) ?_ ⟨tidy_init root, held_init root⟩).2
  rintro m e ⟨htidy, hheld⟩ he
  exact ⟨(tidy_step htidy he).1, held_step htidy hheld he⟩

/-! ### A press outside -/

/-- A menu and a submenu, both with a grab. -/
def menuRun : List Event :=
  [.get_popup 1 (some 0), .grab 1 5, .get_popup 2 (some 1), .grab 2 6]

theorem menuRun_orderly :
    Guarded step (Orderly fun f => decide (f = 0)) (init fun f => decide (f = 0)) menuRun := by
  refine ⟨⟨rfl, ?_⟩, ⟨rfl, 0, by decide⟩, ⟨rfl, ?_⟩, ⟨rfl, 0, by decide⟩, trivial⟩
  · rintro q ⟨⟩
    exact ⟨rfl, Or.inl rfl⟩
  · rintro q ⟨⟩
    exact ⟨rfl, Or.inr ⟨0, by decide⟩⟩

end PopupManager

end Compositor
