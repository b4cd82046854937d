import Mathlib.Tactic.Common
import Mathlib.Data.List.Perm.Subperm
import Mathlib.Logic.Relation
import Rwl.Core.PopupTree

/-!
# The walk to the root

`find_popup_root_surface` goes from a popup to its parent until it meets a surface that is no popup.

* `rootLoop_of_returns`: a walk that ends does so within its bound;
* `Walked`: all walks end; `walked_step`: after one event they do, but for a popup whose parent
  stands on it;
* `hung_iff`: when the compositor is in a walk that does not end.
-/

namespace Compositor

namespace PopupManager

open Transition

variable {m : PopupManager} {root : SurfaceId → Bool}

/-! ### The walk to the root -/

theorem rootLoop_succ_of_popup {n : ℕ} {f g : SurfaceId} (hf : m.is_popup f = true)
    (hg : m.parent f = some g) : m.rootLoop (n + 1) f = m.rootLoop n g := by
  rw [rootLoop, if_pos hf, hg]

theorem rootLoop_succ_of_lost {n : ℕ} {f : SurfaceId} (hf : m.is_popup f = true)
    (hg : m.parent f = none) : m.rootLoop (n + 1) f = some none := by
  rw [rootLoop, if_pos hf, hg]

theorem rootLoop_succ_of_root {n : ℕ} {f : SurfaceId} (hf : m.is_popup f = false) :
    m.rootLoop (n + 1) f = some (some f) := by
  rw [rootLoop, if_neg (by rw [hf]; exact Bool.false_ne_true)]

/-- More turns change nothing. -/
theorem rootLoop_mono {n k : ℕ} {f : SurfaceId} {o : Option SurfaceId} (h : m.rootLoop n f = some o)
    (hnk : n ≤ k) : m.rootLoop k f = some o := by
  induction n generalizing f k with
  | zero => cases h
  | succ n ih =>
    obtain ⟨k, rfl⟩ : ∃ k', k = k' + 1 := ⟨k - 1, by omega⟩
    by_cases hf : m.is_popup f = true
    · cases hg : m.parent f with
      | none => rwa [rootLoop_succ_of_lost hf hg] at h ⊢
      | some g =>
        rw [rootLoop_succ_of_popup hf hg] at h ⊢
        exact ih h (by omega)
    · rw [Bool.not_eq_true] at hf
      rwa [rootLoop_succ_of_root hf] at h ⊢

/-- A walk that takes `k + 1` turns and no fewer meets `k` popups, none of them twice: the walk from
a later one is shorter. -/
theorem exists_path {k : ℕ} {f : SurfaceId} {o : Option SurfaceId}
    (h : m.rootLoop (k + 1) f = some o) (hmin : m.rootLoop k f = none) :
    ∃ path : List SurfaceId, path.length = k ∧ path.Nodup ∧
      ∀ p ∈ path, m.is_popup p = true ∧ m.rootLoop (k + 1) p ≠ none := by
  induction k generalizing f with
  | zero => exact ⟨[], rfl, List.nodup_nil, by simp⟩
  | succ k ih =>
    by_cases hf : m.is_popup f = true
    · cases hg : m.parent f with
      | none =>
        rw [rootLoop_succ_of_lost hf hg] at hmin
        cases hmin
      | some g =>
        rw [rootLoop_succ_of_popup hf hg] at h hmin
        obtain ⟨path, hlen, hnodup, hpath⟩ := ih h hmin
        refine ⟨f :: path, by rw [List.length_cons, hlen], List.nodup_cons.2 ⟨?_, hnodup⟩, ?_⟩
        · intro hmem
          rw [← rootLoop_succ_of_popup hf hg] at hmin
          exact (hpath f hmem).2 hmin
        · intro p hp
          rcases List.mem_cons.1 hp with rfl | hp
          · exact ⟨hf, by rw [rootLoop_succ_of_popup hf hg, h]; exact Option.some_ne_none _⟩
          · obtain ⟨hpopup, hstops⟩ := hpath p hp
            obtain ⟨o', ho'⟩ := Option.ne_none_iff_exists'.1 hstops
            exact ⟨hpopup, by rw [rootLoop_mono ho' (by omega)]; exact Option.some_ne_none _⟩
    · rw [Bool.not_eq_true] at hf
      rw [rootLoop_succ_of_root hf] at hmin
      cases hmin

/-- A walk that ends does so within its bound. -/
theorem rootLoop_of_returns (hknown : ∀ p, m.is_popup p = true → p ∈ m.known) {n : ℕ}
    {f : SurfaceId} {o : Option SurfaceId} (h : m.rootLoop n f = some o) :
    m.rootLoop (m.known.length + 1) f = some o := by
  induction n with
  | zero => cases h
  | succ k ih =>
    cases hmin : m.rootLoop k f with
    | some o' =>
      rw [rootLoop_mono hmin (Nat.le_succ k)] at h
      exact ih (hmin.trans h)
    | none =>
      obtain ⟨path, hlen, hnodup, hpath⟩ := exists_path h hmin
      have hle : path.length ≤ m.known.length :=
        (hnodup.subperm fun p hp => hknown p (hpath p hp).1).length_le
      exact rootLoop_mono h (by omega)


/-! ### Walks that end -/

/-- A popup stands on its parent. -/
def On (m : PopupManager) (f g : SurfaceId) : Prop := m.is_popup f = true ∧ m.parent f = some g

/-- The roles are kept apart: a root is never made a popup, and a popup is given to a root only. -/
def Typed (root : SurfaceId → Bool) (_ : PopupManager) : Event → Prop
  | .get_popup p _ => root p = false
  | .layer_get_popup r _ => root r = true
  | .commit _ | .popup_destroyed _ | .root_destroyed _ | .grab _ _ | .ungrab | .cleanup => True

/-- Every walk ends. -/
structure Walked (root : SurfaceId → Bool) (m : PopupManager) : Prop where
  popup_iff : ∀ p, m.is_popup p = true ↔ p ∈ m.known
  not_root : ∀ p ∈ m.known, root p = false
  ends : ∀ f, ∃ n o, m.rootLoop n f = some o

/-- A new popup whose parent stands on it. -/
def Looping (m : PopupManager) (e : Event) : Prop :=
  ∃ p q, e = .get_popup p (some q) ∧ p ∉ m.known ∧ Relation.ReflTransGen m.On q p

/-- What a walk looks at is as before. -/
structure SameWalks (m m' : PopupManager) : Prop where
  is_popup : m'.is_popup = m.is_popup
  parent : m'.parent = m.parent
  known : m'.known = m.known
  hung : m'.hung = m.hung

theorem SameWalks.rootLoop {m m' : PopupManager} (h : SameWalks m m') (n : ℕ) (f : SurfaceId) :
    m'.rootLoop n f = m.rootLoop n f := by
  induction n generalizing f with
  | zero => rfl
  | succ n ih =>
    unfold PopupManager.rootLoop
    rw [h.is_popup, h.parent]
    split_ifs
    · cases m.parent f with
      | none => rfl
      | some g => exact ih g
    · rfl

theorem SameWalks.find {m m' : PopupManager} (h : SameWalks m m') (p : SurfaceId) :
    m'.find_popup_root_surface p = m.find_popup_root_surface p := by
  unfold find_popup_root_surface
  rw [h.parent, h.known]
  cases m.parent p with
  | none => rfl
  | some f => exact h.rootLoop _ f

theorem SameWalks.trans {m m' m'' : PopupManager} (h : SameWalks m m') (h' : SameWalks m' m'') :
    SameWalks m m'' :=
  ⟨h'.is_popup.trans h.is_popup, h'.parent.trans h.parent, h'.known.trans h.known,
    h'.hung.trans h.hung⟩

theorem Walked.same {m' : PopupManager} (h : Walked root m) (hs : SameWalks m m') :
    Walked root m' where
  popup_iff p := by rw [hs.is_popup, hs.known]; exact h.popup_iff p
  not_root p := by rw [hs.known]; exact h.not_root p
  ends f := by
    obtain ⟨n, o, ho⟩ := h.ends f
    exact ⟨n, o, (hs.rootLoop n f).trans ho⟩

theorem Walked.find_ne_none (h : Walked root m) (p : SurfaceId) :
    m.find_popup_root_surface p ≠ none := by
  unfold find_popup_root_surface
  cases m.parent p with
  | none => exact Option.some_ne_none _
  | some f =>
    obtain ⟨n, o, ho⟩ := h.ends f
    change m.rootLoop (m.known.length + 1) f ≠ none
    rw [rootLoop_of_returns (fun q hq => (h.popup_iff q).1 hq) ho]
    exact Option.some_ne_none _

theorem sameWalks_add_popup {p : SurfaceId} (h : m.find_popup_root_surface p ≠ none) :
    SameWalks m (m.add_popup p) := by
  unfold add_popup
  split
  · contradiction
  all_goals exact ⟨rfl, rfl, rfl, rfl⟩

theorem sameWalks_track_popup {p : SurfaceId} (h : m.find_popup_root_surface p ≠ none) :
    SameWalks m (m.track_popup p) := by
  unfold track_popup
  split_ifs
  · exact sameWalks_add_popup h
  · exact ⟨rfl, rfl, rfl, rfl⟩

theorem sameWalks_commit {p : SurfaceId} (h : m.find_popup_root_surface p ≠ none) :
    SameWalks m (m.commit p) := by
  unfold commit
  split_ifs
  · have hmapped : SameWalks m { m with unmapped_popups := swap_remove m.unmapped_popups p } :=
      ⟨rfl, rfl, rfl, rfl⟩
    exact hmapped.trans (sameWalks_add_popup (by rw [hmapped.find]; exact h))
  · exact ⟨rfl, rfl, rfl, rfl⟩

theorem sameWalks_grab_popup {p : SurfaceId} {serial : ℕ}
    (h : m.find_popup_root_surface p ≠ none) : SameWalks m (m.grab_popup p serial) := by
  unfold grab_popup
  split
  · rename_i parent r hparent hfind
    unfold grab
    dsimp only
    split
    · rename_i m' hgrab
      split_ifs at hgrab
      cases hgrab
      exact ⟨rfl, rfl, rfl, rfl⟩
    · split_ifs <;> exact ⟨rfl, rfl, rfl, rfl⟩
    · exact ⟨rfl, rfl, rfl, rfl⟩
    · exact ⟨rfl, rfl, rfl, rfl⟩
  · contradiction
  · exact ⟨rfl, rfl, rfl, rfl⟩

theorem sameWalks_ungrab : SameWalks m m.ungrab := by
  unfold ungrab
  split
  · split_ifs <;> exact ⟨rfl, rfl, rfl, rfl⟩
  · exact ⟨rfl, rfl, rfl, rfl⟩

/-- Where one surface is changed, all walks end if the one from it does. -/
theorem exists_rootLoop_of_update {m' : PopupManager} {p : SurfaceId}
    (h : ∀ f, f ≠ p → m'.is_popup f = m.is_popup f ∧ m'.parent f = m.parent f)
    (hp : ∃ n o, m'.rootLoop n p = some o) {n : ℕ} {f : SurfaceId} {o : Option SurfaceId}
    (hf : m.rootLoop n f = some o) : ∃ n o, m'.rootLoop n f = some o := by
  induction n generalizing f with
  | zero => cases hf
  | succ n ih =>
    by_cases hfp : f = p
    · rwa [hfp]
    obtain ⟨hpopup, hparent⟩ := h f hfp
    by_cases hpop : m.is_popup f = true
    · cases hg : m.parent f with
      | none => exact ⟨1, none, rootLoop_succ_of_lost (hpopup.trans hpop) (hparent.trans hg)⟩
      | some g =>
        rw [rootLoop_succ_of_popup hpop hg] at hf
        obtain ⟨k, o', ho'⟩ := ih hf
        exact ⟨k + 1, o',
          (rootLoop_succ_of_popup (hpopup.trans hpop) (hparent.trans hg)).trans ho'⟩
    · rw [Bool.not_eq_true] at hpop
      exact ⟨1, some f, rootLoop_succ_of_root (hpopup.trans hpop)⟩

theorem Walked.moved {m' : PopupManager} {p : SurfaceId} (h : Walked root m)
    (hpopup : m'.is_popup = m.is_popup) (hknown : m'.known = m.known)
    (hparent : ∀ f, f ≠ p → m'.parent f = m.parent f)
    (hp : m.is_popup p = true → ∃ n o, m'.rootLoop n p = some o) : Walked root m' where
  popup_iff x := by rw [hpopup, hknown]; exact h.popup_iff x
  not_root x := by rw [hknown]; exact h.not_root x
  ends f := by
    obtain ⟨n, o, ho⟩ := h.ends f
    refine exists_rootLoop_of_update (p := p)
      (fun f hf => ⟨congrFun hpopup f, hparent f hf⟩) ?_ ho
    by_cases hpop : m.is_popup p = true
    · exact hp hpop
    · rw [Bool.not_eq_true] at hpop
      exact ⟨1, some p, rootLoop_succ_of_root ((congrFun hpopup p).trans hpop)⟩

/-! ### A new popup -/

section NewPopup

variable {p q : SurfaceId}

theorem rootLoop_give_role_of_on {parent : Option SurfaceId} (n : ℕ) {f : SurfaceId}
    {o : Option SurfaceId} (hf : m.rootLoop n f = some o) (hon : ¬Relation.ReflTransGen m.On f p) :
    (m.give_role p parent).rootLoop n f = some o := by
  induction n generalizing f with
  | zero => cases hf
  | succ n ih =>
    have hfp : f ≠ p := fun h => hon (h ▸ .refl)
    have hpopup : (m.give_role p parent).is_popup f = m.is_popup f := Function.update_of_ne hfp ..
    have hparent : (m.give_role p parent).parent f = m.parent f := Function.update_of_ne hfp ..
    by_cases hpop : m.is_popup f = true
    · cases hg : m.parent f with
      | none =>
        rw [rootLoop_succ_of_lost hpop hg] at hf
        rw [rootLoop_succ_of_lost (hpopup.trans hpop) (hparent.trans hg), hf]
      | some g =>
        rw [rootLoop_succ_of_popup hpop hg] at hf
        rw [rootLoop_succ_of_popup (hpopup.trans hpop) (hparent.trans hg)]
        exact ih hf fun h => hon (.head ⟨hpop, hg⟩ h)
    · rw [Bool.not_eq_true] at hpop
      rw [rootLoop_succ_of_root hpop] at hf
      rw [rootLoop_succ_of_root (hpopup.trans hpop), hf]

/-- Once the popup stands on what stands on it, the walk comes back to it again and again. -/
theorem rootLoop_give_role_eq_none (hon : Relation.ReflTransGen m.On q p) (n : ℕ) {f : SurfaceId}
    (hf : Relation.ReflTransGen m.On f p) : (m.give_role p (some q)).rootLoop n f = none := by
  induction n generalizing f with
  | zero => rfl
  | succ n ih =>
    by_cases hfp : f = p
    · subst hfp
      rw [rootLoop_succ_of_popup (Function.update_self ..) (Function.update_self ..)]
      exact ih hon
    · obtain rfl | ⟨g, ⟨hpop, hg⟩, hgp⟩ := hf.cases_head
      · exact absurd rfl hfp
      · rw [rootLoop_succ_of_popup ((Function.update_of_ne hfp ..).trans hpop)
          ((Function.update_of_ne hfp ..).trans hg)]
        exact ih hgp

theorem hung_get_popup (hon : Relation.ReflTransGen m.On q p) :
    (m.get_popup p (some q)).hung = true := by
  have hparent : (m.give_role p (some q)).parent p = some q := Function.update_self ..
  have hfind : (m.give_role p (some q)).find_popup_root_surface p = none := by
    unfold find_popup_root_surface
    rw [hparent]
    exact rootLoop_give_role_eq_none hon _ hon
  have htrack : m.get_popup p (some q) = (m.give_role p (some q)).add_popup p :=
    if_pos (by rw [hparent]; rfl)
  rw [htrack, add_popup, hfind]

theorem Walked.give_role {parent : Option SurfaceId} (h : Walked root m) (hroot : root p = false)
    (hon : ∀ q, parent = some q → ¬Relation.ReflTransGen m.On q p) :
    Walked root (m.give_role p parent) where
  popup_iff x := by
    change Function.update m.is_popup p true x = true ↔ x ∈ p :: m.known
    by_cases hx : x = p
    · subst hx
      simp
    · rw [Function.update_of_ne hx, h.popup_iff, List.mem_cons]
      simp [hx]
  not_root x hx := by
    rcases List.mem_cons.1 hx with rfl | hx
    · exact hroot
    · exact h.not_root x hx
  ends f := by
    obtain ⟨n, o, ho⟩ := h.ends f
    refine exists_rootLoop_of_update (p := p) (fun f hf => ⟨Function.update_of_ne hf ..,
      Function.update_of_ne hf ..⟩) ?_ ho
    have hpopup : (m.give_role p parent).is_popup p = true := Function.update_self ..
    have hparent : (m.give_role p parent).parent p = parent := Function.update_self ..
    cases parent with
    | none => exact ⟨1, none, rootLoop_succ_of_lost hpopup hparent⟩
    | some q =>
      obtain ⟨n, o, ho⟩ := h.ends q
      exact ⟨n + 1, o, (rootLoop_succ_of_popup hpopup hparent).trans
        (rootLoop_give_role_of_on n ho (hon q rfl))⟩

end NewPopup

/-! ### Runs -/

/-- One step hangs if it makes a loop, else all walks still end. -/
theorem walked_step {e : Event} (h : Walked root m) (hrun : m.hung = false)
    (he : Typed root m e) :
    Looping m e ∧ (step m e).hung = true ∨
      ¬Looping m e ∧ (step m e).hung = false ∧ Walked root (step m e) := by
  have hnot (hne : ∀ p q, e ≠ .get_popup p (some q)) : ¬Looping m e :=
    fun ⟨p, q, heq, _⟩ => hne p q heq
  have hsame (m' : PopupManager) (hm' : SameWalks m m') : m'.hung = false ∧ Walked root m' :=
    ⟨hm'.hung.trans hrun, h.same hm'⟩
  have hstep (m' : PopupManager) (hm' : (if m.hung then m else m') = step m e) :
      step m e = m' := by
    rw [← hm', if_neg (by rw [hrun]; exact Bool.false_ne_true)]
  cases e with
  | get_popup p parent =>
    rw [hstep (if p ∈ m.known then m else m.get_popup p parent) rfl]
    by_cases hp : p ∈ m.known
    · rw [if_pos hp]
      exact Or.inr ⟨fun ⟨p', q, heq, hp', _⟩ => hp' (by cases heq; exact hp), hrun, h⟩
    · rw [if_neg hp]
      by_cases hon : ∃ q, parent = some q ∧ Relation.ReflTransGen m.On q p
      · obtain ⟨q, rfl, hon⟩ := hon
        exact Or.inl ⟨⟨p, q, rfl, hp, hon⟩, hung_get_popup hon⟩
      · have hwalked : Walked root (m.give_role p parent) :=
          h.give_role he fun q hq hqp => hon ⟨q, hq, hqp⟩
        have hkept : SameWalks (m.give_role p parent) (m.get_popup p parent) :=
          sameWalks_track_popup (hwalked.find_ne_none p)
        refine Or.inr ⟨?_, hkept.hung.trans hrun, hwalked.same hkept⟩
        rintro ⟨p', q, heq, -, hqp⟩
        cases heq
        exact hon ⟨q, rfl, hqp⟩
  | layer_get_popup r p =>
    rw [hstep _ rfl]
    refine Or.inr ⟨hnot (by rintro _ _ ⟨⟩), hrun, h.moved (p := p) rfl rfl
      (fun f hf => Function.update_of_ne hf ..) fun hpop => ?_⟩
    have hr : m.is_popup r = false := by
      by_contra hr
      rw [Bool.not_eq_false, h.popup_iff] at hr
      exact Bool.false_ne_true ((h.not_root r hr).symm.trans he)
    have hparent : (m.layer_get_popup r p).parent p = some r := Function.update_self ..
    have hroot : (m.layer_get_popup r p).is_popup r = false := hr
    exact ⟨2, some r, (rootLoop_succ_of_popup (m := m.layer_get_popup r p) hpop hparent).trans
      (rootLoop_succ_of_root hroot)⟩
  | commit p =>
    rw [hstep _ rfl]
    exact Or.inr ⟨hnot (by rintro _ _ ⟨⟩),
      hsame _ (sameWalks_commit (h.find_ne_none p))⟩
  | popup_destroyed p =>
    rw [hstep _ rfl]
    exact Or.inr ⟨hnot (by rintro _ _ ⟨⟩), hrun, h.moved (p := p) rfl rfl
      (fun f hf => Function.update_of_ne hf ..)
      fun hpop => ⟨1, none, rootLoop_succ_of_lost hpop (Function.update_self ..)⟩⟩
  | root_destroyed r =>
    rw [hstep _ rfl]
    exact Or.inr ⟨hnot (by rintro _ _ ⟨⟩), hsame _ ⟨rfl, rfl, rfl, rfl⟩⟩
  | grab p serial =>
    rw [hstep _ rfl]
    exact Or.inr ⟨hnot (by rintro _ _ ⟨⟩),
      hsame _ (sameWalks_grab_popup (h.find_ne_none p))⟩
  | ungrab =>
    rw [hstep _ rfl]
    exact Or.inr ⟨hnot (by rintro _ _ ⟨⟩), hsame _ sameWalks_ungrab⟩
  | cleanup =>
    rw [hstep _ rfl]
    exact Or.inr ⟨hnot (by rintro _ _ ⟨⟩), hsame _ ⟨rfl, rfl, rfl, rfl⟩⟩

theorem run_of_hung (h : m.hung = true) (es : List Event) : run step m es = m := by
  induction es with
  | nil => rfl
  | cons e es ih =>
    have hstep : step m e = m := if_pos h
    rw [run_cons, hstep, ih]

theorem walked_init (root : SurfaceId → Bool) : Walked root (init root) where
  popup_iff _ := ⟨fun h => absurd h Bool.false_ne_true, fun h => absurd h List.not_mem_nil⟩
  not_root _ hp := absurd hp List.not_mem_nil
  ends f := ⟨1, some f, rfl⟩

theorem hung_run_iff {es : List Event} (h : Walked root m) (hrun : m.hung = false)
    (hes : Guarded step (Typed root) m es) :
    (run step m es).hung = true ↔
      ∃ es₁ e es₂, es = es₁ ++ e :: es₂ ∧ Looping (run step m es₁) e := by
  induction es generalizing m with
  | nil =>
    refine iff_of_false (by rw [run_nil, hrun]; exact Bool.false_ne_true) ?_
    rintro ⟨es₁, e, es₂, heq, -⟩
    exact absurd heq.symm (List.append_ne_nil_of_right_ne_nil _ (List.cons_ne_nil _ _))
  | cons e es ih =>
    rw [run_cons]
    rcases walked_step h hrun hes.1 with ⟨hloop, hhung⟩ | ⟨hloop, hrun', hwalked⟩
    · rw [run_of_hung hhung]
      exact iff_of_true hhung ⟨[], e, es, rfl, hloop⟩
    · rw [ih hwalked hrun' hes.2]
      constructor
      · rintro ⟨es₁, e', es₂, rfl, hloop'⟩
        exact ⟨e :: es₁, e', es₂, rfl, hloop'⟩
      · rintro ⟨es₁, e', es₂, heq, hloop'⟩
        cases es₁ with
        | nil =>
          obtain ⟨rfl, rfl⟩ := List.cons.inj heq
          exact absurd hloop' hloop
        | cons e₁ es₁ =>
          obtain ⟨rfl, rfl⟩ := List.cons.inj heq
          exact ⟨es₁, e', es₂, rfl, hloop'⟩

end PopupManager

end Compositor
