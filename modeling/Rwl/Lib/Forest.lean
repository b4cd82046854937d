import Mathlib.Tactic.Common
import Mathlib.Data.List.Nodup

/-!
# Ordered forests

A forest is kept as first child and next sibling: `node a children rest` is a tree with the root `a`
followed by the trees of `rest`.

* `front`: the nodes, the last tree first and each node after what grows on it;
* `branch p`: what grows on `p`, and `p`;
* `push`, `graft`: a new tree at the end, a new last child of a node;
* `uproot`: take out a node with its branch; `prune`: take out many;
* `Grown P r`: each node may, by `P`, grow on the node it grows on, a root on `r`.

With no node twice, `graft` puts the new node right before the branch it goes to (`front_graft`),
`uproot` takes out one branch (`uproot_eq`, `front_uproot`), and what `prune` leaves is the nodes
that grow only on nodes it keeps (`mem_front_prune`).
-/

/-- An ordered forest. -/
inductive Forest (α : Type*)
  | nil
  | node (a : α) (children rest : Forest α)
  deriving DecidableEq

namespace Forest

variable {α : Type*}

/-- The nodes from the last tree to the first, each after what grows on it. -/
def front : Forest α → List α
  | nil => []
  | node a c s => front s ++ (front c ++ [a])

/-- A new tree at the end. -/
def push (p : α) : Forest α → Forest α
  | nil => node p nil nil
  | node a c s => node a c (push p s)

@[simp] theorem front_nil : (nil : Forest α).front = [] := rfl

@[simp] theorem front_node (a : α) (c s : Forest α) :
    (node a c s).front = s.front ++ (c.front ++ [a]) := rfl

@[simp] theorem front_push (p : α) (f : Forest α) : (f.push p).front = p :: f.front := by
  induction f with
  | nil => rfl
  | node a c s _ ih => simp [push, ih]

theorem nodup_node {a : α} {c s : Forest α} :
    (node a c s).front.Nodup ↔ s.front.Nodup ∧ c.front.Nodup ∧ a ∉ c.front ∧ a ∉ s.front ∧
      ∀ x ∈ s.front, x ∉ c.front := by
  simp only [front_node, List.nodup_append, List.mem_append, List.mem_singleton, List.nodup_cons,
    List.not_mem_nil, not_false_eq_true, List.nodup_nil, and_true, true_and]
  constructor
  · rintro ⟨hs, ⟨hc, hac⟩, hdisj⟩
    exact ⟨hs, hc, fun h => hac a h a rfl rfl, fun h => hdisj a h a (Or.inr rfl) rfl,
      fun x hx hxc => hdisj x hx x (Or.inl hxc) rfl⟩
  · rintro ⟨hs, hc, hac, has, hdisj⟩
    refine ⟨hs, ⟨hc, ?_⟩, ?_⟩
    · rintro x hx y rfl rfl
      exact hac hx
    · rintro x hx y (hy | rfl) rfl
      · exact hdisj x hx hy
      · exact has hx

variable [DecidableEq α]

/-- A new last child of the node `q`, if there is one. -/
def graft (q p : α) : Forest α → Option (Forest α)
  | nil => none
  | node a c s =>
      if a = q then some (node a (c.push p) s)
      else match graft q p c with
        | some c' => some (node a c' s)
        | none => (graft q p s).map (node a c)

/-- The nodes that grow on `p`, and `p`. -/
def branch (p : α) : Forest α → List α
  | nil => []
  | node a c s => if a = p then c.front ++ [a] else branch p s ++ branch p c

/-- Take out `p`: its branch, and the rest. -/
def uproot (p : α) : Forest α → List α × Forest α
  | nil => ([], nil)
  | node a c s =>
      if a = p then (c.front ++ [a], s)
      else
        let (cut, c') := uproot p c
        let (cut', s') := uproot p s
        (cut ++ cut', node a c' s')

/-- Take out the nodes that are not kept, with what grows on them. -/
def prune (keep : α → Bool) : Forest α → Forest α
  | nil => nil
  | node a c s => if keep a then node a (prune keep c) (prune keep s) else prune keep s

/-! ### Branches -/

theorem branch_node (a p : α) (c s : Forest α) :
    (node a c s).branch p = if a = p then c.front ++ [a] else s.branch p ++ c.branch p := rfl

theorem mem_front_of_mem_branch {p x : α} {f : Forest α} (h : x ∈ f.branch p) : x ∈ f.front := by
  induction f with
  | nil => exact h
  | node a c s ihc ihs =>
    unfold branch at h
    rw [front_node]
    split_ifs at h
    · exact List.mem_append_right _ h
    · rcases List.mem_append.1 h with h | h
      · exact List.mem_append_left _ (ihs h)
      · exact List.mem_append_right _ (List.mem_append_left _ (ihc h))

/-- A branch that is not empty is one of a node. -/
theorem mem_front_of_branch {p x : α} {f : Forest α} (h : x ∈ f.branch p) : p ∈ f.front := by
  induction f with
  | nil => exact absurd h List.not_mem_nil
  | node a c s ihc ihs =>
    unfold branch at h
    rw [front_node]
    split_ifs at h with ha
    · simp [ha]
    · rcases List.mem_append.1 h with h | h
      · exact List.mem_append_left _ (ihs h)
      · exact List.mem_append_right _ (List.mem_append_left _ (ihc h))

theorem branch_eq_nil {p : α} {f : Forest α} (h : p ∉ f.front) : f.branch p = [] :=
  List.eq_nil_iff_forall_not_mem.2 fun _ hx => h (mem_front_of_branch hx)

theorem mem_branch_self {p : α} {f : Forest α} (h : p ∈ f.front) : p ∈ f.branch p := by
  induction f with
  | nil => exact h
  | node a c s ihc ihs =>
    unfold branch
    split_ifs with ha
    · simp [ha]
    · rw [front_node, List.mem_append, List.mem_append, List.mem_singleton] at h
      rcases h with h | h | h
      · exact List.mem_append_left _ (ihs h)
      · exact List.mem_append_right _ (ihc h)
      · exact absurd h.symm ha

/-- A branch is a stretch of the front. -/
theorem front_eq_append_branch (p : α) {f : Forest α} (hf : f.front.Nodup) :
    ∃ l r, f.front = l ++ (f.branch p ++ r) := by
  induction f with
  | nil => exact ⟨[], [], rfl⟩
  | node a c s ihc ihs =>
    obtain ⟨hs, hc, hac, has, hdisj⟩ := nodup_node.1 hf
    unfold branch
    by_cases ha : a = p
    · rw [if_pos ha]
      exact ⟨s.front, [], by simp⟩
    rw [if_neg ha]
    by_cases hp : p ∈ s.front
    · obtain ⟨l, r, h⟩ := ihs hs
      refine ⟨l, r ++ (c.front ++ [a]), ?_⟩
      rw [front_node, h, branch_eq_nil (hdisj p hp)]
      simp
    · obtain ⟨l, r, h⟩ := ihc hc
      refine ⟨s.front ++ l, r ++ [a], ?_⟩
      rw [front_node, h, branch_eq_nil hp]
      simp

/-! ### Grafts -/

theorem graft_eq_none {q p : α} {f : Forest α} : f.graft q p = none ↔ q ∉ f.front := by
  induction f with
  | nil => simp [graft]
  | node a c s ihc ihs =>
    unfold graft
    split_ifs with ha
    · simp [ha]
    · cases hc : c.graft q p with
      | some c' =>
        have hq : q ∈ c.front := by
          by_contra hq
          rw [ihc.2 hq] at hc
          cases hc
        simp [hq]
      | none =>
        have hne : ¬q = a := fun h => ha h.symm
        simp [ihs, ihc.1 hc, hne]

/-- The new node comes right before the branch it grows on. -/
theorem front_graft {q p : α} {f f' : Forest α} (hf : f.front.Nodup)
    (h : f.graft q p = some f') : ∃ l r, f.front = l ++ (f.branch q ++ r) ∧
      f'.front = l ++ p :: (f.branch q ++ r) := by
  induction f generalizing f' with
  | nil => cases h
  | node a c s ihc ihs =>
    obtain ⟨hs, hc, hac, has, hdisj⟩ := nodup_node.1 hf
    unfold graft at h
    unfold branch
    by_cases ha : a = q
    · rw [if_pos ha] at h ⊢
      cases h
      exact ⟨s.front, [], by simp, by simp⟩
    rw [if_neg ha] at h ⊢
    cases hgc : c.graft q p with
    | some c' =>
      rw [hgc] at h
      cases h
      have hq : q ∉ s.front := by
        intro hq
        rw [graft_eq_none.2 (hdisj q hq)] at hgc
        cases hgc
      obtain ⟨l, r, h₁, h₂⟩ := ihc hc hgc
      refine ⟨s.front ++ l, r ++ [a], ?_, ?_⟩
      · rw [front_node, h₁, branch_eq_nil hq]
        simp
      · rw [front_node, h₂, branch_eq_nil hq]
        simp
    | none =>
      rw [hgc] at h
      obtain ⟨s', hgs, rfl⟩ := Option.map_eq_some_iff.1 h
      obtain ⟨l, r, h₁, h₂⟩ := ihs hs hgs
      refine ⟨l, r ++ (c.front ++ [a]), ?_, ?_⟩
      · rw [front_node, h₁, branch_eq_nil (graft_eq_none.1 hgc)]
        simp
      · rw [front_node, h₂, branch_eq_nil (graft_eq_none.1 hgc)]
        simp

theorem perm_graft {q p : α} {f f' : Forest α} (hf : f.front.Nodup)
    (h : f.graft q p = some f') : f'.front.Perm (p :: f.front) := by
  obtain ⟨l, r, h₁, h₂⟩ := front_graft hf h
  rw [h₁, h₂]
  exact List.perm_middle

theorem branch_push {g p : α} {f : Forest α} (hp : p ∉ f.front) :
    (f.push p).branch g = if p = g then [p] else f.branch g := by
  induction f with
  | nil =>
    unfold push branch
    rfl
  | node a c s _ ihs =>
    rw [front_node, List.mem_append, List.mem_append, List.mem_singleton, not_or, not_or] at hp
    unfold push branch
    rw [ihs hp.1]
    by_cases hg : p = g
    · subst hg
      rw [if_neg fun h => hp.2.2 h.symm, if_pos rfl, if_pos rfl, branch_eq_nil hp.2.1,
        List.append_nil]
    · rw [if_neg hg, if_neg hg]

/-- A graft adds the new node to the branches of the node it grows on, and begins its own. -/
theorem mem_branch_graft {q p g x : α} {f f' : Forest α} (hf : f.front.Nodup) (hp : p ∉ f.front)
    (h : f.graft q p = some f') :
    x ∈ f'.branch g ↔ x ∈ f.branch g ∨ x = p ∧ (g = p ∨ q ∈ f.branch g) := by
  induction f generalizing f' with
  | nil => cases h
  | node a c s ihc ihs =>
    obtain ⟨hs, hc, hac, has, hdisj⟩ := nodup_node.1 hf
    rw [front_node, List.mem_append, List.mem_append, List.mem_singleton, not_or, not_or] at hp
    unfold graft at h
    by_cases ha : a = q
    · subst ha
      rw [if_pos rfl] at h
      cases h
      unfold branch
      by_cases hg : a = g
      · subst hg
        simp only [if_true, front_push, List.cons_append, List.mem_cons, List.mem_append]
        tauto
      · simp only [if_neg hg, branch_push hp.2.1, List.mem_append]
        have hq : a ∉ s.branch g ∧ a ∉ c.branch g :=
          ⟨fun h => has (mem_front_of_mem_branch h), fun h => hac (mem_front_of_mem_branch h)⟩
        by_cases hgp : p = g
        · subst hgp
          simp only [if_true, List.mem_singleton, branch_eq_nil hp.1, branch_eq_nil hp.2.1,
            List.not_mem_nil]
          tauto
        · have hgp' : ¬g = p := fun h => hgp h.symm
          simp only [if_neg hgp]
          tauto
    rw [if_neg ha] at h
    cases hgc : c.graft q p with
    | some c' =>
      rw [hgc] at h
      cases h
      have hqc : q ∈ c.front := by
        by_contra hq
        rw [graft_eq_none.2 hq] at hgc
        cases hgc
      have hqs : q ∉ s.branch g := fun h => hdisj q (mem_front_of_mem_branch h) hqc
      unfold branch
      by_cases hg : a = g
      · subst hg
        simp only [if_true, List.mem_append, (perm_graft hc hgc).mem_iff, List.mem_cons]
        tauto
      · simp only [if_neg hg, List.mem_append, ihc hc hp.2.1 hgc]
        tauto
    | none =>
      rw [hgc] at h
      obtain ⟨s', hgs, rfl⟩ := Option.map_eq_some_iff.1 h
      have hqc : q ∉ c.front := graft_eq_none.1 hgc
      have hqc' : q ∉ c.branch g := fun h => hqc (mem_front_of_mem_branch h)
      unfold branch
      by_cases hg : a = g
      · subst hg
        have hpa : ¬a = p := fun h => hp.2.2 h.symm
        have hqa : ¬q = a := fun h => ha h.symm
        simp only [if_true, List.mem_append, List.mem_singleton]
        tauto
      · simp only [if_neg hg, List.mem_append, ihs hs hp.1 hgs]
        tauto

/-! ### Taking nodes out -/

omit [DecidableEq α] in
theorem front_prune_sublist (keep : α → Bool) (f : Forest α) :
    (f.prune keep).front.Sublist f.front := by
  induction f with
  | nil => exact List.Sublist.refl _
  | node a c s ihc ihs =>
    unfold prune
    split_ifs
    · exact ihs.append (ihc.append (List.Sublist.refl _))
    · exact ihs.trans (List.sublist_append_left _ _)

omit [DecidableEq α] in
theorem nodup_prune (keep : α → Bool) {f : Forest α} (hf : f.front.Nodup) :
    (f.prune keep).front.Nodup := hf.sublist (front_prune_sublist keep f)

theorem mem_branch_node {a g x : α} {c s : Forest α} (hf : (node a c s).front.Nodup) :
    x ∈ (node a c s).branch g ↔
      x ∈ s.branch g ∨ x ∈ c.branch g ∨ g = a ∧ (x ∈ c.front ∨ x = a) := by
  obtain ⟨-, -, hac, has, -⟩ := nodup_node.1 hf
  rw [branch_node]
  by_cases hg : a = g
  · subst hg
    simp [branch_eq_nil hac, branch_eq_nil has]
  · have hg' : ¬g = a := fun h => hg h.symm
    simp [hg, hg']

/-- A node is left when it and the nodes it grows on are kept. -/
theorem mem_front_prune {keep : α → Bool} {x : α} {f : Forest α} (hf : f.front.Nodup) :
    x ∈ (f.prune keep).front ↔ x ∈ f.front ∧ ∀ g, x ∈ f.branch g → keep g = true := by
  induction f with
  | nil => simp [prune]
  | node a c s ihc ihs =>
    obtain ⟨hs, hc, hac, has, hdisj⟩ := nodup_node.1 hf
    have hbranch (g : α) := mem_branch_node (g := g) (x := x) hf
    have hsub (t : Forest α) (h : x ∉ t.front) (g : α) : x ∉ t.branch g :=
      fun h' => h (mem_front_of_mem_branch h')
    -- a node of a later tree keeps out of this one
    have hlater (hx : x ∈ s.front) (g : α) (hg : x ∈ (node a c s).branch g) : x ∈ s.branch g := by
      rcases (hbranch g).1 hg with hg | hg | ⟨-, hg | rfl⟩
      · exact hg
      · exact absurd hg (hsub c (hdisj x hx) g)
      · exact absurd hg (hdisj x hx)
      · exact absurd hx has
    have hleft : x ∈ s.front ∧ (∀ g, x ∈ s.branch g → keep g = true) →
        x ∈ (node a c s).front ∧ ∀ g, x ∈ (node a c s).branch g → keep g = true :=
      fun h => ⟨List.mem_append_left _ h.1, fun g hg => h.2 g (hlater h.1 g hg)⟩
    unfold prune
    by_cases hkeep : keep a = true
    · rw [if_pos hkeep, front_node, List.mem_append, List.mem_append, List.mem_singleton, ihc hc,
        ihs hs]
      constructor
      · rintro (h | ⟨hx, hall⟩ | rfl)
        · exact hleft h
        · refine ⟨by simp [hx], fun g hg => ?_⟩
          rcases (hbranch g).1 hg with hg | hg | ⟨rfl, -⟩
          · exact absurd hx (hdisj x (mem_front_of_mem_branch hg))
          · exact hall g hg
          · exact hkeep
        · refine ⟨by simp, fun g hg => ?_⟩
          rcases (hbranch g).1 hg with hg | hg | ⟨rfl, -⟩
          · exact absurd hg (hsub s has g)
          · exact absurd hg (hsub c hac g)
          · exact hkeep
      · rintro ⟨hx, hall⟩
        rw [front_node, List.mem_append, List.mem_append, List.mem_singleton] at hx
        rcases hx with hx | hx | rfl
        · exact Or.inl ⟨hx, fun g hg => hall g ((hbranch g).2 (Or.inl hg))⟩
        · exact Or.inr (Or.inl ⟨hx, fun g hg => hall g ((hbranch g).2 (Or.inr (Or.inl hg)))⟩)
        · exact Or.inr (Or.inr rfl)
    · rw [if_neg hkeep, ihs hs]
      refine ⟨hleft, fun ⟨hx, hall⟩ => ?_⟩
      rw [front_node, List.mem_append, List.mem_append, List.mem_singleton] at hx
      rcases hx with hx | hx
      · exact ⟨hx, fun g hg => hall g ((hbranch g).2 (Or.inl hg))⟩
      · exact absurd (hall a ((hbranch a).2 (Or.inr (Or.inr ⟨rfl, hx⟩)))) hkeep

/-- What is left of a branch. -/
theorem mem_branch_prune {keep : α → Bool} {g x : α} {f : Forest α} (hf : f.front.Nodup) :
    x ∈ (f.prune keep).branch g ↔ x ∈ f.branch g ∧ x ∈ (f.prune keep).front := by
  induction f with
  | nil => simp [prune, branch]
  | node a c s ihc ihs =>
    obtain ⟨hs, hc, hac, has, hdisj⟩ := nodup_node.1 hf
    have hsubc := (front_prune_sublist keep c).subset
    have hsubs := (front_prune_sublist keep s).subset
    have hnodup := nodup_prune keep hf
    unfold prune at hnodup ⊢
    by_cases hkeep : keep a = true
    · rw [if_pos hkeep] at hnodup ⊢
      rw [mem_branch_node hnodup, mem_branch_node hf, ihc hc, ihs hs, front_node, List.mem_append,
        List.mem_append, List.mem_singleton]
      constructor
      · rintro (⟨h, h'⟩ | ⟨h, h'⟩ | ⟨rfl, h | rfl⟩)
        · exact ⟨Or.inl h, Or.inl h'⟩
        · exact ⟨Or.inr (Or.inl h), Or.inr (Or.inl h')⟩
        · exact ⟨Or.inr (Or.inr ⟨rfl, Or.inl (hsubc h)⟩), Or.inr (Or.inl h)⟩
        · exact ⟨Or.inr (Or.inr ⟨rfl, Or.inr rfl⟩), Or.inr (Or.inr rfl)⟩
      · rintro ⟨h | h | ⟨rfl, h | rfl⟩, h'⟩
        · have hxs := mem_front_of_mem_branch h
          rcases h' with h' | h' | rfl
          · exact Or.inl ⟨h, h'⟩
          · exact absurd (hsubc h') (hdisj x hxs)
          · exact absurd hxs has
        · have hxc := mem_front_of_mem_branch h
          rcases h' with h' | h' | rfl
          · exact absurd hxc (hdisj x (hsubs h'))
          · exact Or.inr (Or.inl ⟨h, h'⟩)
          · exact absurd hxc hac
        · rcases h' with h' | h' | rfl
          · exact absurd h (hdisj x (hsubs h'))
          · exact Or.inr (Or.inr ⟨rfl, Or.inl h'⟩)
          · exact absurd h hac
        · exact Or.inr (Or.inr ⟨rfl, Or.inr rfl⟩)
    · rw [if_neg hkeep, ihs hs, mem_branch_node hf]
      constructor
      · rintro ⟨h, h'⟩
        exact ⟨Or.inl h, h'⟩
      · rintro ⟨h | h | ⟨-, h | rfl⟩, h'⟩
        · exact ⟨h, h'⟩
        · exact absurd (mem_front_of_mem_branch h) (hdisj x (hsubs h'))
        · exact absurd h (hdisj x (hsubs h'))
        · exact absurd (hsubs h') has

/-- To take out a node is to take out its branch. -/
theorem uproot_eq {p : α} {f : Forest α} (hf : f.front.Nodup) :
    f.uproot p = (f.branch p, f.prune fun x => decide (x ≠ p)) := by
  have hgone (t : Forest α) (h : p ∉ t.front) : t.prune (fun x => decide (x ≠ p)) = t := by
    induction t with
    | nil => rfl
    | node a c s ihc ihs =>
      rw [front_node, List.mem_append, List.mem_append, List.mem_singleton, not_or, not_or] at h
      have ha : a ≠ p := fun h' => h.2.2 h'.symm
      unfold prune
      rw [if_pos (decide_eq_true ha), ihc h.2.1, ihs h.1]
  induction f with
  | nil => rfl
  | node a c s ihc ihs =>
    obtain ⟨hs, hc, hac, has, hdisj⟩ := nodup_node.1 hf
    unfold uproot branch prune
    by_cases ha : a = p
    · subst ha
      rw [if_pos rfl, if_pos rfl, if_neg (by simp), hgone s has]
    · rw [if_neg ha, if_neg ha, if_pos (decide_eq_true ha), ihc hc, ihs hs]
      dsimp only
      by_cases hp : p ∈ s.front
      · rw [branch_eq_nil (hdisj p hp), List.nil_append, List.append_nil]
      · rw [branch_eq_nil hp, List.nil_append, List.append_nil]

omit [DecidableEq α] in
/-- A sublist of a list with nothing twice is a part of it, in its order. -/
theorem eq_filter_of_sublist {l m : List α} (h : l.Sublist m) (hm : m.Nodup) {P : α → Bool}
    (hP : ∀ x ∈ m, P x = true ↔ x ∈ l) : l = m.filter P := by
  induction h with
  | slnil => rfl
  | @cons l m a h ih =>
    obtain ⟨ham, hm⟩ := List.nodup_cons.1 hm
    have ha : ¬P a = true := fun ha => ham (h.subset ((hP a List.mem_cons_self).1 ha))
    rw [List.filter_cons_of_neg ha]
    exact ih hm fun x hx => hP x (List.mem_cons_of_mem _ hx)
  | @cons_cons l m a h ih =>
    obtain ⟨ham, hm⟩ := List.nodup_cons.1 hm
    rw [List.filter_cons_of_pos ((hP a List.mem_cons_self).2 List.mem_cons_self)]
    refine congrArg (a :: ·) (ih hm fun x hx => ?_)
    have hne : x ≠ a := fun h => ham (h ▸ hx)
    rw [hP x (List.mem_cons_of_mem _ hx), List.mem_cons]
    exact or_iff_right hne

/-- The nodes left are the ones off the branch, in their order. -/
theorem front_uproot {p : α} {f : Forest α} (hf : f.front.Nodup) :
    (f.uproot p).2.front = f.front.filter fun x => decide (x ∉ f.branch p) := by
  rw [uproot_eq hf]
  refine eq_filter_of_sublist (front_prune_sublist _ f) hf fun x hx => ?_
  rw [mem_front_prune hf, decide_eq_true_eq]
  constructor
  · intro h
    refine ⟨hx, fun g hg => decide_eq_true ?_⟩
    rintro rfl
    exact h hg
  · rintro ⟨-, h⟩ hp
    exact absurd rfl (of_decide_eq_true (h p hp))

/-! ### What grows where -/

omit [DecidableEq α]

/-- Each node may grow, by `P`, on the node it grows on, and each root on `r`. -/
def Grown (P : α → α → Prop) : α → Forest α → Prop
  | _, nil => True
  | r, node a c s => P a r ∧ Grown P a c ∧ Grown P r s

variable {P Q : α → α → Prop} {r : α}

theorem Grown.mono {f : Forest α} (h : f.Grown P r) (hPQ : ∀ x ∈ f.front, ∀ y, P x y → Q x y) :
    f.Grown Q r := by
  induction f generalizing r with
  | nil => trivial
  | node a c s ihc ihs =>
    obtain ⟨ha, hc, hs⟩ := h
    exact ⟨hPQ a (by simp) r ha, ihc hc fun x hx => hPQ x (by simp [hx]),
      ihs hs fun x hx => hPQ x (by simp [hx])⟩

theorem Grown.push {f : Forest α} {p : α} (h : f.Grown P r) (hp : P p r) :
    (f.push p).Grown P r := by
  induction f with
  | nil => exact ⟨hp, trivial, trivial⟩
  | node a c s _ ihs => exact ⟨h.1, h.2.1, ihs h.2.2⟩

theorem Grown.prune {f : Forest α} (h : f.Grown P r) (keep : α → Bool) :
    (f.prune keep).Grown P r := by
  induction f generalizing r with
  | nil => trivial
  | node a c s ihc ihs =>
    obtain ⟨ha, hc, hs⟩ := h
    unfold Forest.prune
    split_ifs
    · exact ⟨ha, ihc hc, ihs hs⟩
    · exact ihs hs

variable [DecidableEq α]

theorem Grown.graft {f f' : Forest α} {q p : α} (h : f.Grown P r) (hp : P p q)
    (hgraft : f.graft q p = some f') : f'.Grown P r := by
  induction f generalizing r f' with
  | nil => cases hgraft
  | node a c s ihc ihs =>
    obtain ⟨ha, hc, hs⟩ := h
    unfold Forest.graft at hgraft
    split_ifs at hgraft with haq
    · cases hgraft
      subst haq
      exact ⟨ha, hc.push hp, hs⟩
    · cases hgc : c.graft q p with
      | some c' =>
        rw [hgc] at hgraft
        cases hgraft
        exact ⟨ha, ihc hc hgc, hs⟩
      | none =>
        rw [hgc] at hgraft
        obtain ⟨s', hgs, rfl⟩ := Option.map_eq_some_iff.1 hgraft
        exact ⟨ha, hc, ihs hs hgs⟩

/-- A node grows on `r` or on a node, whose branches are the ones it is on besides its own. -/
theorem Grown.exists_of_mem {f : Forest α} {x : α} (h : f.Grown P r) (hf : f.front.Nodup)
    (hx : x ∈ f.front) : (P x r ∧ ∀ g, x ∈ f.branch g → g = x) ∨
      ∃ y ∈ f.front, P x y ∧ x ≠ y ∧ ∀ g, x ∈ f.branch g ↔ g = x ∨ y ∈ f.branch g := by
  induction f generalizing r with
  | nil => exact absurd hx List.not_mem_nil
  | node a c s ihc ihs =>
    obtain ⟨ha, hc, hs⟩ := h
    have hbranch {x : α} (g : α) := mem_branch_node (g := g) (x := x) hf
    obtain ⟨hns, hnc, hac, has, hdisj⟩ := nodup_node.1 hf
    rw [front_node, List.mem_append, List.mem_append, List.mem_singleton] at hx
    rcases hx with hx | hx | rfl
    · have hlocal {y : α} (hy : y ∈ s.front) (g : α) :
          y ∈ (node a c s).branch g ↔ y ∈ s.branch g := by
        rw [hbranch]
        constructor
        · rintro (h | h | ⟨-, h | rfl⟩)
          · exact h
          · exact absurd (mem_front_of_mem_branch h) (hdisj y hy)
          · exact absurd h (hdisj y hy)
          · exact absurd hy has
        · exact Or.inl
      rcases ihs hs hns hx with ⟨hP, hown⟩ | ⟨y, hy, hP, hne, hiff⟩
      · exact Or.inl ⟨hP, fun g hg => hown g ((hlocal hx g).1 hg)⟩
      · refine Or.inr ⟨y, by simp [hy], hP, hne, fun g => ?_⟩
        rw [hlocal hx, hlocal hy, hiff]
    · have hlocal {y : α} (hy : y ∈ c.front) (g : α) :
          y ∈ (node a c s).branch g ↔ y ∈ c.branch g ∨ g = a := by
        rw [hbranch]
        constructor
        · rintro (h | h | ⟨rfl, -⟩)
          · exact absurd hy (hdisj y (mem_front_of_mem_branch h))
          · exact Or.inl h
          · exact Or.inr rfl
        · rintro (h | rfl)
          · exact Or.inr (Or.inl h)
          · exact Or.inr (Or.inr ⟨rfl, Or.inl hy⟩)
      right
      rcases ihc hc hnc hx with ⟨hP, hown⟩ | ⟨y, hy, hP, hne, hiff⟩
      · refine ⟨a, by simp, hP, fun h => hac (h ▸ hx), fun g => ?_⟩
        rw [hlocal hx, hbranch]
        constructor
        · rintro (h | rfl)
          · exact Or.inl (hown g h)
          · exact Or.inr (Or.inr (Or.inr ⟨rfl, Or.inr rfl⟩))
        · rintro (rfl | h | h | ⟨rfl, -⟩)
          · exact Or.inl (mem_branch_self hx)
          · exact absurd (mem_front_of_mem_branch h) has
          · exact absurd (mem_front_of_mem_branch h) hac
          · exact Or.inr rfl
      · refine ⟨y, by simp [hy], hP, hne, fun g => ?_⟩
        rw [hlocal hx, hlocal hy, hiff]
        tauto
    · refine Or.inl ⟨ha, fun g hg => ?_⟩
      rcases (hbranch g).1 hg with h | h | ⟨rfl, -⟩
      · exact absurd (mem_front_of_mem_branch h) has
      · exact absurd (mem_front_of_mem_branch h) hac
      · rfl

/-- What holds of the roots, and of a node when of the one it grows on, holds of every node. -/
theorem Grown.forall_front {C : α → Prop} {f : Forest α} (h : f.Grown P r) (hf : f.front.Nodup)
    (hroot : ∀ x ∈ f.front, P x r → C x)
    (hnode : ∀ x y, P x y → x ∈ f.branch y → y ∈ f.front → C y → C x) : ∀ x ∈ f.front, C x := by
  induction f generalizing r with
  | nil => simp
  | node a c s ihc ihs =>
    obtain ⟨ha, hc, hs⟩ := h
    obtain ⟨hns, hnc, -⟩ := nodup_node.1 hf
    have hCa := hroot a (by simp) ha
    have hbranch {x : α} (g : α) := mem_branch_node (g := g) (x := x) hf
    intro x hx
    rw [front_node, List.mem_append, List.mem_append, List.mem_singleton] at hx
    rcases hx with hx | hx | rfl
    · exact ihs hs hns (fun x hx => hroot x (by simp [hx]))
        (fun x y hP hxy hy => hnode x y hP ((hbranch y).2 (Or.inl hxy)) (by simp [hy])) x hx
    · refine ihc hc hnc (fun x hx hP => ?_)
        (fun x y hP hxy hy => hnode x y hP ((hbranch y).2 (Or.inr (Or.inl hxy))) (by simp [hy]))
        x hx
      exact hnode x a hP ((hbranch a).2 (Or.inr (Or.inr ⟨rfl, Or.inl hx⟩))) (by simp) hCa
    · exact hCa

end Forest
