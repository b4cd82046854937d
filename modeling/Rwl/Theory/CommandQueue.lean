import Mathlib.Tactic.Common
import Mathlib.Data.List.Sublists
import Rwl.Core.CommandQueue
import Rwl.Lib.Run

/-!
# Queued commands are applied once and in order

Whatever the callbacks enqueue, also while commands are applied.

* `numbered`: commands with their numbers;
* `drain_drainBody`: `drain` meets its own recursion, since `DRAINING` stops a nested call;
* `Flows p p' s s'`: from `s`, with the commands `p` of a batch waiting, to `s'`, with `p'` waiting,
  commands are enqueued, applied in order and never dropped but by `install`;
* one lemma for each operation, a batch, a drain and a run;
* `commands_in_order`: the whole statement, for every state of every run.
-/

namespace Compositor

namespace hooks

open Transition

/-- The commands `l`, numbered from `n`. -/
def numbered (n : ℕ) (l : List HookCmd) : List Queued := l.mapIdx fun i cmd => ⟨n + i, cmd⟩

@[simp] theorem numbered_nil (n : ℕ) : numbered n [] = [] := rfl

theorem numbered_append (n : ℕ) (l m : List HookCmd) :
    numbered n (l ++ m) = numbered n l ++ numbered (n + l.length) m := by
  unfold numbered
  rw [List.mapIdx_append]
  simp only [Nat.add_assoc, Nat.add_comm l.length]

theorem map_number_numbered (n : ℕ) (l : List HookCmd) :
    (numbered n l).map Queued.number = List.range' n l.length := by
  unfold numbered
  induction l generalizing n with
  | nil => rfl
  | cons c l ih =>
    have hshift : (fun (i : ℕ) (cmd : HookCmd) => (⟨n + (i + 1), cmd⟩ : Queued)) =
        fun i cmd => ⟨n + 1 + i, cmd⟩ := by
      funext i cmd
      congr 1
      omega
    rw [List.mapIdx_cons, List.map_cons, hshift, ih (n + 1), List.length_cons, List.range'_succ]
    rfl

variable {ops : ℕ → Queued → List QueueOp} {s₀ s s' s'' : Store} {p p' p'' : List Queued}

/-! ### What the operations keep -/

/-- Commands are enqueued and applied, in order; none is dropped unless a VM is replaced. `p` and
`p'` are the commands of a batch that wait before and after. -/
structure Flows (p p' : List Queued) (s s' : Store) : Prop where
  installs : s.installs ≤ s'.installs
  applied : s.applied <+: s'.applied
  order : ∃ new, s'.enqueued = s.enqueued ++ new ∧
    (s'.applied ++ p' ++ s'.queue).Sublist
      (s.applied ++ p ++ s.queue ++ numbered s.enqueued.length new) ∧
    (s'.installs = s.installs → s'.applied ++ p' ++ s'.queue =
      s.applied ++ p ++ s.queue ++ numbered s.enqueued.length new)

theorem Flows.of_eq (hinst : s'.installs = s.installs) (hpre : s.applied <+: s'.applied)
    (henq : s'.enqueued = s.enqueued)
    (h : s'.applied ++ p' ++ s'.queue = s.applied ++ p ++ s.queue) : Flows p p' s s' where
  installs := hinst.ge
  applied := hpre
  order := by
    refine ⟨[], by rw [henq, List.append_nil], ?_, fun _ => ?_⟩
    · rw [numbered_nil, List.append_nil, h]
    · rw [numbered_nil, List.append_nil, h]

theorem Flows.refl (p : List Queued) (s : Store) : Flows p p s s :=
  .of_eq rfl (List.prefix_refl _) rfl rfl

theorem Flows.trans (h : Flows p p' s s') (h' : Flows p' p'' s' s'') : Flows p p'' s s'' := by
  obtain ⟨new, henq, hsub, heq⟩ := h.order
  obtain ⟨new', henq', hsub', heq'⟩ := h'.order
  have hnum : numbered s.enqueued.length (new ++ new') =
      numbered s.enqueued.length new ++ numbered s'.enqueued.length new' := by
    rw [numbered_append, henq, List.length_append]
  refine ⟨h.installs.trans h'.installs, h.applied.trans h'.applied, new ++ new', ?_, ?_, ?_⟩
  · rw [henq', henq, List.append_assoc]
  · rw [hnum, ← List.append_assoc]
    exact hsub'.trans (hsub.append (List.Sublist.refl _))
  · intro hinst
    have hle := h.installs
    have hle' := h'.installs
    rw [heq' (by omega), heq (by omega), hnum, ← List.append_assoc]

theorem flows_enqueue (p : List Queued) (s : Store) (cmd : HookCmd) :
    Flows p p s (enqueue s cmd) where
  installs := le_rfl
  applied := List.prefix_refl _
  order := by
    have h : s.applied ++ p ++ (s.queue ++ [⟨s.enqueued.length, cmd⟩]) =
        s.applied ++ p ++ s.queue ++ numbered s.enqueued.length [cmd] := by
      rw [← List.append_assoc]
      rfl
    refine ⟨[cmd], rfl, ?_, fun _ => h⟩
    exact h ▸ List.Sublist.refl _

theorem flows_install (p : List Queued) (s : Store) : Flows p p s (install s) where
  installs := Nat.le_succ _
  applied := List.prefix_refl _
  order := by
    refine ⟨[], (List.append_nil _).symm, ?_, fun h => ?_⟩
    · show (s.applied ++ p ++ []).Sublist (s.applied ++ p ++ s.queue ++ [])
      rw [List.append_nil, List.append_nil]
      exact List.sublist_append_left _ _
    · exact absurd h (Nat.succ_ne_self _)

/-- An operation of code that runs while the queue is drained. -/
theorem flows_nested (p : List Queued) (s : Store) (op : QueueOp) :
    Flows p p s (QueueOp.run id s op) := by
  cases op with
  | enqueue cmd => exact flows_enqueue p s cmd
  | drain => exact .refl p s
  | install => exact flows_install p s

theorem flows_foldl {α : Type*} {f : Store → α → Store} (hf : ∀ s a, Flows p p s (f s a))
    (l : List α) (s : Store) : Flows p p s (l.foldl f s) := by
  induction l generalizing s with
  | nil => exact .refl p s
  | cons a l ih => exact (hf s a).trans (ih _)

/-- The first waiting command is applied. -/
theorem flows_apply (q : Queued) (p : List Queued) (s : Store) :
    Flows (q :: p) p s (apply ops id s q) := by
  have hlog : Flows (q :: p) p s { s with applied := s.applied ++ [q] } :=
    .of_eq rfl (List.prefix_append _ _) rfl (by simp)
  exact hlog.trans (flows_foldl (fun s op => flows_nested p s op) _ _)

theorem flows_batch (l : List Queued) (s : Store) :
    Flows l [] s (l.foldl (apply ops id) s) := by
  induction l generalizing s with
  | nil => exact .refl [] s
  | cons q l ih => exact (flows_apply q l s).trans (ih _)

theorem flows_take (s : Store) : Flows [] s.queue s (take s) :=
  .of_eq rfl (List.prefix_refl _) rfl (by simp [take])

theorem flows_rounds (n : ℕ) (s : Store) : Flows [] [] s (rounds ops id n s) := by
  induction n generalizing s with
  | zero => exact .refl [] s
  | succ n ih =>
    unfold rounds
    split_ifs
    · exact .refl [] s
    · exact ((flows_take s).trans (flows_batch s.queue _)).trans (ih _)

theorem flows_drain (s : Store) : Flows [] [] s (drain ops s) := by
  unfold drain drainBody
  split_ifs
  · exact .refl [] s
  · have hstart : Flows [] [] s { s with draining := true, batches := 0 } :=
      .of_eq rfl (List.prefix_refl _) rfl rfl
    exact (hstart.trans (flows_rounds 8 _)).trans (.of_eq rfl (List.prefix_refl _) rfl rfl)

variable (ops) in
theorem flows_run (l : List QueueOp) (s : Store) :
    Flows [] [] s (run (QueueOp.run (drain ops)) s l) := by
  induction l generalizing s with
  | nil => exact .refl [] s
  | cons op l ih =>
    have hop : Flows [] [] s (QueueOp.run (drain ops) s op) := by
      cases op with
      | enqueue cmd => exact flows_enqueue [] s cmd
      | drain => exact flows_drain s
      | install => exact flows_install [] s
    exact hop.trans (ih _)

/-! ### What a drain does -/

theorem applied_nested (s : Store) (op : QueueOp) : (QueueOp.run id s op).applied = s.applied := by
  cases op <;> rfl

theorem batches_nested (s : Store) (op : QueueOp) : (QueueOp.run id s op).batches = s.batches := by
  cases op <;> rfl

theorem draining_nested (s : Store) (op : QueueOp) :
    (QueueOp.run id s op).draining = s.draining := by
  cases op <;> rfl

theorem foldl_nested_keeps {α : Type*} (f : Store → α)
    (hf : ∀ s op, f (QueueOp.run id s op) = f s) (l : List QueueOp) (s : Store) :
    f (l.foldl (QueueOp.run id) s) = f s := by
  induction l generalizing s with
  | nil => rfl
  | cons op l ih => rw [List.foldl_cons, ih, hf]

variable (ops) in
theorem applied_batch (l : List Queued) (s : Store) :
    (l.foldl (apply ops id) s).applied = s.applied ++ l := by
  induction l generalizing s with
  | nil => exact (List.append_nil _).symm
  | cons q l ih =>
    have happly : (apply ops id s q).applied = s.applied ++ [q] :=
      foldl_nested_keeps Store.applied applied_nested _ _
    rw [List.foldl_cons, ih, happly, List.append_assoc]
    rfl

theorem batches_batch (l : List Queued) (s : Store) :
    (l.foldl (apply ops id) s).batches = s.batches := by
  induction l generalizing s with
  | nil => rfl
  | cons q l ih =>
    have happly : (apply ops id s q).batches = s.batches :=
      foldl_nested_keeps Store.batches batches_nested _ _
    rw [List.foldl_cons, ih, happly]

variable (ops) in
theorem batches_rounds (n : ℕ) (s : Store) :
    (rounds ops id n s).batches ≤ s.batches + n ∧
      ((rounds ops id n s).batches < s.batches + n → (rounds ops id n s).queue = []) := by
  induction n generalizing s with
  | zero => exact ⟨le_rfl, fun h => absurd h (Nat.lt_irrefl _)⟩
  | succ n ih =>
    unfold rounds
    split_ifs with hempty
    · exact ⟨by omega, fun _ => List.isEmpty_iff.1 hempty⟩
    · have hbatch : (s.queue.foldl (apply ops id) (take s)).batches = s.batches + 1 :=
        batches_batch s.queue (take s)
      obtain ⟨hle, hlt⟩ := ih (s.queue.foldl (apply ops id) (take s))
      rw [hbatch] at hle hlt
      exact ⟨by omega, fun h => hlt (by omega)⟩

/-- A drain applies the whole queue before anything enqueued meanwhile. -/
theorem applied_drain {s : Store} (h : s.draining = false) :
    s.applied ++ s.queue <+: (drain ops s).applied := by
  unfold drain drainBody
  rw [if_neg (by rw [h]; decide)]
  show s.applied ++ s.queue <+: (rounds ops id 8 { s with draining := true, batches := 0 }).applied
  unfold rounds
  split_ifs with hempty
  · rw [show s.queue = [] from List.isEmpty_iff.1 hempty, List.append_nil]
  · have hbatch := applied_batch ops s.queue
      (take { s with draining := true, batches := 0 })
    rw [show s.applied ++ s.queue = _ from hbatch.symm]
    exact (flows_rounds 7 _).applied

/-- While the queue is drained, a nested drain is the identity. -/
theorem drain_of_draining {s : Store} (h : s.draining = true) : drain ops s = s := by
  unfold drain drainBody
  rw [if_pos h]

theorem run_drain_of_draining {s : Store} (h : s.draining = true) (op : QueueOp) :
    QueueOp.run (drain ops) s op = QueueOp.run id s op := by
  cases op with
  | enqueue cmd => rfl
  | drain => exact drain_of_draining h
  | install => rfl

theorem foldl_drain_of_draining (l : List QueueOp) {s : Store} (h : s.draining = true) :
    l.foldl (QueueOp.run (drain ops)) s = l.foldl (QueueOp.run id) s ∧
      (l.foldl (QueueOp.run id) s).draining = true := by
  induction l generalizing s with
  | nil => exact ⟨rfl, h⟩
  | cons op l ih =>
    rw [List.foldl_cons, List.foldl_cons, run_drain_of_draining h]
    exact ih ((draining_nested s op).trans h)

variable (ops) in
theorem apply_drain_of_draining (q : Queued) {s : Store} (h : s.draining = true) :
    apply ops (drain ops) s q = apply ops id s q ∧ (apply ops id s q).draining = true :=
  foldl_drain_of_draining _ (s := { s with applied := s.applied ++ [q] }) h

variable (ops) in
theorem batch_drain_of_draining (l : List Queued) {s : Store} (h : s.draining = true) :
    l.foldl (apply ops (drain ops)) s = l.foldl (apply ops id) s ∧
      (l.foldl (apply ops id) s).draining = true := by
  induction l generalizing s with
  | nil => exact ⟨rfl, h⟩
  | cons q l ih =>
    obtain ⟨heq, hstill⟩ := apply_drain_of_draining ops q h
    rw [List.foldl_cons, List.foldl_cons, heq]
    exact ih hstill

theorem rounds_drain_of_draining (n : ℕ) {s : Store} (h : s.draining = true) :
    rounds ops (drain ops) n s = rounds ops id n s := by
  induction n generalizing s with
  | zero => rfl
  | succ n ih =>
    unfold rounds
    split_ifs
    · rfl
    · obtain ⟨heq, hstill⟩ := batch_drain_of_draining ops s.queue (s := take s) h
      rw [heq, ih hstill]

/-- `drain` does what its body does with `drain` for the nested calls. -/
theorem drain_drainBody : drainBody ops (drain ops) = drain ops := by
  funext s
  unfold drain
  change drainBody ops (drain ops) s = drainBody ops id s
  unfold drainBody
  rw [rounds_drain_of_draining (s := { s with draining := true, batches := 0 }) 8 rfl]

/-! ### Runs -/

/-- What holds of the queue between two calls of the compositor's code. -/
structure Orderly (ops : ℕ → Queued → List QueueOp) (s : Store) : Prop where
  /-- `drain` returns, and its nested calls are the function itself. -/
  recursion : drain ops s = drainBody ops (drain ops) s
  /-- It takes at most eight batches, and fewer only when nothing is left. -/
  batches : (drain ops s).batches ≤ 8 ∧
    ((drain ops s).batches < 8 → (drain ops s).queue = [])
  /-- Applied and waiting commands stand in the order they were enqueued in. -/
  order : (s.applied ++ s.queue).Sublist (numbered 0 s.enqueued)
  once : (s.applied.map Queued.number).Nodup
  /-- No command is lost before a VM is replaced. -/
  kept : s.installs = 0 → s.applied ++ s.queue = numbered 0 s.enqueued
  /-- Nor after that, up to the next one. -/
  kept_after : ∀ l : List QueueOp, (run (QueueOp.run (drain ops)) s l).installs = s.installs →
    ∃ new, (run (QueueOp.run (drain ops)) s l).enqueued = s.enqueued ++ new ∧
      (run (QueueOp.run (drain ops)) s l).applied ++ (run (QueueOp.run (drain ops)) s l).queue =
        s.applied ++ s.queue ++ numbered s.enqueued.length new
  /-- What a drain left is what the next one applies first. -/
  later : s.applied ++ s.queue <+: (drain ops s).applied

variable (ops) in
theorem draining_run (l : List QueueOp) {s : Store} (h : s.draining = false) :
    (run (QueueOp.run (drain ops)) s l).draining = false := by
  induction l generalizing s with
  | nil => exact h
  | cons op l ih =>
    refine ih ?_
    cases op with
    | enqueue cmd => exact h
    | drain =>
      show (drain ops s).draining = false
      unfold drain drainBody
      rw [if_neg (by rw [h]; decide)]
    | install => exact h

theorem batches_drain {s : Store} (h : s.draining = false) :
    (drain ops s).batches ≤ 8 ∧ ((drain ops s).batches < 8 → (drain ops s).queue = []) := by
  unfold drain drainBody
  rw [if_neg (by rw [h]; decide)]
  have hrounds := batches_rounds ops 8 { s with draining := true, batches := 0 }
  rwa [Nat.zero_add] at hrounds

/-- **Whatever the callbacks enqueue and whenever, commands are applied once and in the order they
were enqueued in, at most eight batches a drain, and none is lost while its VM stays.** -/
theorem commands_in_order (ops : ℕ → Queued → List QueueOp) (l : List QueueOp) :
    Orderly ops (run (QueueOp.run (drain ops)) start l) := by
  have hdraining := draining_run ops l (s := start) rfl
  have hflow := flows_run ops l start
  obtain ⟨new, henq, hsub, heq⟩ := hflow.order
  set s := run (QueueOp.run (drain ops)) start l
  have hnew : s.enqueued = new := henq
  have hsub : (s.applied ++ s.queue).Sublist (numbered 0 s.enqueued) := by
    have h : (s.applied ++ [] ++ s.queue).Sublist (numbered 0 new) := hsub
    rwa [hnew, ← List.append_nil s.applied]
  refine ⟨?_, batches_drain hdraining, hsub, ?_, fun hinst => ?_, fun l' hinst => ?_,
    applied_drain hdraining⟩
  · rw [drain_drainBody]
  · have happlied := ((List.sublist_append_left s.applied s.queue).trans hsub).map Queued.number
    rw [map_number_numbered] at happlied
    exact happlied.nodup (List.nodup_range' _)
  · have h : s.applied ++ [] ++ s.queue = numbered 0 new := heq hinst
    rwa [hnew, ← List.append_nil s.applied]
  · obtain ⟨new', henq', -, heq'⟩ := (flows_run ops l' s).order
    refine ⟨new', henq', ?_⟩
    have h := heq' hinst
    simpa only [List.append_nil] using h

/-- A function that calls for itself again each time it runs: one drain runs eight calls, and leaves
the ninth to the next one. -/
example :
    let ops : ℕ → Queued → List QueueOp := fun _ _ => callLua [.Notify "again"]
    let s := run (QueueOp.run (drain ops)) start (callLua [.Notify "first"])
    s.applied.map Queued.number = List.range 8 ∧ s.queue.map Queued.number = [8] := by
  decide

end hooks

end Compositor
