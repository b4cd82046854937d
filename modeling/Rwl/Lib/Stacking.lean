import Mathlib.Tactic.Common
import Mathlib.Data.List.Nodup
import Mathlib.Logic.Function.Basic

/-!
# Stacks of placed things

A stack is a list of things with their places, the topmost last. A program arranges it: it takes
things out, puts things at given places, and brings things to the top.

* `keys`, `loc`, `drop`, `raise`, `relocate`: the order, the places and the three updates;
* `Instr`, `exec`, `run`: the programs; `loc_run`, `keys_run`: what a run does to the places, and
  what it does to the order once the places are known;
* `acts_acts`: the same moves twice are the same moves once; `acts_raise`: the end of the order;
* `run_run_run`: a program that ran twice changes nothing the third time.
-/

namespace Stacking

variable {α β : Type*} [DecidableEq α]

/-! ### Stacks -/

/-- The things of a stack, the topmost last. -/
def keys (s : List (α × β)) : List α := s.map Prod.fst

/-- The place of a thing. -/
def loc (s : List (α × β)) (a : α) : Option β :=
  (s.find? fun e => decide (e.1 = a)).map Prod.snd

/-- Take a thing out. -/
def drop (s : List (α × β)) (a : α) : List (α × β) := s.filter fun e => decide (e.1 ≠ a)

/-- Put a thing on top, at a place. -/
def raise (s : List (α × β)) (a : α) (b : β) : List (α × β) := drop s a ++ [(a, b)]

/-- Move a thing that is there to a place. -/
def relocate (s : List (α × β)) (a : α) (b : β) : List (α × β) :=
  s.map fun e => if e.1 = a then (a, b) else e

variable (s : List (α × β)) (a c : α) (b : β)

theorem keys_drop : keys (drop s a) = (keys s).filter fun c => decide (c ≠ a) := by
  rw [keys, keys, List.filter_map]
  rfl

theorem keys_raise : keys (raise s a b) = ((keys s).filter fun c => decide (c ≠ a)) ++ [a] := by
  rw [raise, keys, List.map_append, ← keys, keys_drop]
  rfl

theorem keys_relocate : keys (relocate s a b) = keys s := by
  rw [keys, relocate, List.map_map]
  refine congrArg (List.map · s) (funext fun e => ?_)
  dsimp only [Function.comp]
  split_ifs with h
  · exact h.symm
  · rfl

theorem loc_eq_none_iff {s : List (α × β)} {a : α} : loc s a = none ↔ a ∉ keys s := by
  simp only [loc, keys, Option.map_eq_none_iff, List.find?_eq_none, decide_eq_true_eq,
    List.mem_map, not_exists, not_and]

theorem loc_cons (e : α × β) :
    loc (e :: s) c = if e.1 = c then some e.2 else loc s c := by
  unfold loc
  by_cases h : e.1 = c
  · rw [List.find?_cons_of_pos (by exact decide_eq_true h), if_pos h]
    rfl
  · rw [List.find?_cons_of_neg (by simpa using h), if_neg h]

theorem loc_drop : loc (drop s a) c = if c = a then none else loc s c := by
  split_ifs with h
  · rw [loc_eq_none_iff, keys_drop]
    simp [h]
  · induction s with
    | nil => rfl
    | cons e s ih =>
      rw [loc_cons, ← ih]
      by_cases he : e.1 = a
      · rw [drop, List.filter_cons_of_neg (by simpa using he), if_neg fun hc : e.1 = c =>
          h (hc.symm.trans he)]
        rfl
      · rw [drop, List.filter_cons_of_pos (by simpa using he), loc_cons]
        rfl

theorem loc_raise : loc (raise s a b) c = if c = a then some b else loc s c := by
  have hlast : loc [(a, b)] c = if c = a then some b else none := by
    rw [loc_cons]
    by_cases h : c = a
    · rw [if_pos h.symm, if_pos h]
    · rw [if_neg fun h' => h h'.symm, if_neg h]
      rfl
  have happend : loc (drop s a ++ [(a, b)]) c = (loc (drop s a) c).or (loc [(a, b)] c) := by
    simp only [loc, List.find?_append, Option.map_or]
  rw [raise, happend, loc_drop, hlast]
  split_ifs
  · rfl
  · exact Option.or_none

theorem loc_relocate :
    loc (relocate s a b) c = if c = a then (loc s a).map fun _ => b else loc s c := by
  induction s with
  | nil => simp [relocate, loc]
  | cons e s ih =>
    have hcons : relocate (e :: s) a b = (if e.1 = a then (a, b) else e) :: relocate s a b := rfl
    rw [hcons, loc_cons, ih, loc_cons, loc_cons]
    by_cases he : e.1 = a <;> by_cases hc : c = a
    · simp [he, hc]
    · simp [he, hc, Ne.symm hc]
    · simp [he, hc]
    · simp [he, hc]

/-- Order and places make the stack. -/
theorem ext {s t : List (α × β)} (hnodup : (keys s).Nodup) (hkeys : keys s = keys t)
    (hloc : ∀ a, loc s a = loc t a) : s = t := by
  induction s generalizing t with
  | nil =>
    cases t with
    | nil => rfl
    | cons e t => cases hkeys
  | cons e s ih =>
    cases t with
    | nil => cases hkeys
    | cons e' t =>
      obtain ⟨hkey, hkeys⟩ : e.1 = e'.1 ∧ keys s = keys t := List.cons.inj hkeys
      obtain ⟨hnot, hnodup⟩ : e.1 ∉ keys s ∧ (keys s).Nodup := List.nodup_cons.1 hnodup
      have hplace : e.2 = e'.2 := by
        have := hloc e.1
        rw [loc_cons, loc_cons, if_pos rfl, if_pos hkey.symm] at this
        exact Option.some.inj this
      have hrest : s = t := by
        refine ih hnodup hkeys fun c => ?_
        by_cases hc : e.1 = c
        · rw [loc_eq_none_iff.2 (hc ▸ hnot), loc_eq_none_iff.2 (hc ▸ hkeys ▸ hnot)]
        · have := hloc c
          rwa [loc_cons, loc_cons, if_neg hc, if_neg fun h => hc (hkey.trans h)] at this
      rw [hrest, Prod.ext hkey hplace]

/-! ### Moves: the order alone -/

/-- What becomes of a thing's position in the order. -/
inductive Move (α : Type*)
  | keep
  | drop (a : α)
  | raise (a : α)

/-- The things a move may displace. -/
def Move.touches : Move α → List α
  | .keep => []
  | .drop a => [a]
  | .raise a => [a]

/-- A move on an order. -/
def act (l : List α) : Move α → List α
  | .keep => l
  | .drop a => l.filter fun c => decide (c ≠ a)
  | .raise a => (l.filter fun c => decide (c ≠ a)) ++ [a]

/-- The moves in turn. -/
def acts (l : List α) (q : List (Move α)) : List α := q.foldl act l

/-- A move leaves the order of the rest, and what it adds goes on top. -/
theorem act_append (l l' : List α) (m : Move α) :
    act (l ++ l') m = (l.filter fun c => decide (c ∉ m.touches)) ++ act l' m := by
  cases m with
  | keep => simp [act, Move.touches]
  | drop a => simp [act, Move.touches]
  | raise a => simp [act, Move.touches]

/-- The moves leave the order of the things they do not touch; the others end above. -/
theorem acts_append (l l' : List α) (q : List (Move α)) :
    acts (l ++ l') q =
      (l.filter fun c => decide (c ∉ q.flatMap Move.touches)) ++ acts l' q := by
  induction q generalizing l l' with
  | nil => simp [acts]
  | cons m q ih =>
    have hstep : acts (l ++ l') (m :: q) = acts (act (l ++ l') m) q := rfl
    rw [hstep, act_append, ih, List.filter_filter]
    refine congrArg (· ++ _) (List.filter_congr fun c _ => ?_)
    simp only [List.flatMap_cons, List.mem_append, not_or, Bool.decide_and, Bool.and_comm]

theorem acts_eq (l : List α) (q : List (Move α)) :
    acts l q = (l.filter fun c => decide (c ∉ q.flatMap Move.touches)) ++ acts [] q := by
  have := acts_append l [] q
  rwa [List.append_nil] at this

theorem mem_act {l : List α} {m : Move α} {c : α} (h : c ∈ act l m) : c ∈ l ∨ c ∈ m.touches := by
  cases m with
  | keep => exact Or.inl h
  | drop a => exact Or.inl (List.mem_filter.1 h).1
  | raise a =>
    rcases List.mem_append.1 h with h | h
    · exact Or.inl (List.mem_filter.1 h).1
    · exact Or.inr h

/-- Nothing comes into the order but by a move. -/
theorem mem_acts {l : List α} {q : List (Move α)} {c : α} (h : c ∈ acts l q) :
    c ∈ l ∨ c ∈ q.flatMap Move.touches := by
  induction q generalizing l with
  | nil => exact Or.inl h
  | cons m q ih =>
    rw [List.flatMap_cons, List.mem_append]
    rcases ih (l := act l m) h with h | h
    · rcases mem_act h with h | h
      · exact Or.inl h
      · exact Or.inr (Or.inl h)
    · exact Or.inr (Or.inr h)

/-- **The same moves twice are the same moves once.** -/
theorem acts_acts (l : List α) (q : List (Move α)) : acts (acts l q) q = acts l q := by
  rw [acts_eq (acts l q), acts_eq l, List.filter_append, List.filter_filter]
  have htouched : (acts [] q).filter (fun c => decide (c ∉ q.flatMap Move.touches)) = [] := by
    refine List.filter_eq_nil_iff.2 fun c hc => ?_
    have hmem := (mem_acts hc).resolve_left List.not_mem_nil
    simpa using hmem
  rw [htouched, List.append_nil]
  simp only [Bool.and_self]

theorem nodup_act {l : List α} (h : l.Nodup) (m : Move α) : (act l m).Nodup := by
  cases m with
  | keep => exact h
  | drop a => exact h.filter _
  | raise a =>
    refine List.Nodup.append (h.filter _) (List.nodup_singleton a) fun c hc hc' => ?_
    have hne := of_decide_eq_true (List.mem_filter.1 hc).2
    exact hne (List.mem_singleton.1 hc')

/-- Things raised in turn end on top, in that order. -/
theorem acts_raise (l : List α) {top : List α} (h : top.Nodup) :
    acts l (top.map Move.raise) = (l.filter fun c => decide (c ∉ top)) ++ top := by
  induction top generalizing l with
  | nil => simp [acts]
  | cons a top ih =>
    obtain ⟨hnot, h⟩ := List.nodup_cons.1 h
    have hstep : acts l ((a :: top).map Move.raise) =
        acts ((l.filter fun c => decide (c ≠ a)) ++ [a]) (top.map Move.raise) := rfl
    have hsingle : [a].filter (fun c => decide (c ∉ top)) = [a] := by simp [hnot]
    rw [hstep, ih _ h, List.filter_append, hsingle, List.filter_filter, List.append_assoc]
    refine congrArg (· ++ _) (List.filter_congr fun c _ => ?_)
    simp only [List.mem_cons, not_or, Bool.decide_and, Bool.and_comm, ne_eq]

/-! ### Programs -/

/-- An instruction: take out; put at a place, and to the top when it is new or `front` and in
place; bring to the top, at the old place when there is one; bring to the top at a place. -/
inductive Instr (α β : Type*)
  | drop (a : α)
  | tile (a : α) (b : β) (front : Bool)
  | lift (a : α) (b : β)
  | cover (a : α) (b : β)

namespace Instr

/-- The thing an instruction is about. -/
def key : Instr α β → α
  | .drop a => a
  | .tile a _ _ => a
  | .lift a _ => a
  | .cover a _ => a

/-- The place it gives the thing. -/
def place : Instr α β → Option β → Option β
  | .drop _, _ => none
  | .tile _ b _, _ => some b
  | .lift _ b, x => some (x.getD b)
  | .cover _ b, _ => some b

/-- The move it makes, from the place the thing has. -/
def move [DecidableEq β] : Instr α β → Option β → Move α
  | .drop a, _ => .drop a
  | .tile a _ _, none => .raise a
  | .tile a b front, some b' => if b' = b ∧ front = true then .raise a else .keep
  | .lift a _, _ => .raise a
  | .cover a _, _ => .raise a

end Instr

variable [DecidableEq β]

/-- One instruction. -/
def exec (s : List (α × β)) : Instr α β → List (α × β)
  | .drop a => drop s a
  | .tile a b front =>
      match loc s a with
      | none => raise s a b
      | some b' => if b' ≠ b then relocate s a b else if front = true then raise s a b else s
  | .lift a b => raise s a ((loc s a).getD b)
  | .cover a b => raise s a b

/-- A program. -/
def run (s : List (α × β)) (p : List (Instr α β)) : List (α × β) := p.foldl exec s

theorem run_append (s : List (α × β)) (p q : List (Instr α β)) :
    run s (p ++ q) = run (run s p) q :=
  List.foldl_append

theorem keys_exec (s : List (α × β)) (i : Instr α β) :
    keys (exec s i) = act (keys s) (i.move (loc s i.key)) := by
  cases i with
  | drop a => exact keys_drop s a
  | lift a b => exact keys_raise s a _
  | cover a b => exact keys_raise s a b
  | tile a b front =>
    dsimp only [exec, Instr.key]
    rcases loc s a with _ | b'
    · exact keys_raise s a b
    · dsimp only [Instr.move]
      by_cases hb : b' = b
      · rw [if_neg (not_not.2 hb)]
        by_cases hf : front = true
        · rw [if_pos hf, if_pos ⟨hb, hf⟩]
          exact keys_raise s a b
        · rw [if_neg hf, if_neg fun h => hf h.2]
          rfl
      · rw [if_pos hb, if_neg fun h => hb h.1]
        exact keys_relocate s a b

theorem loc_tile (s : List (α × β)) (a c : α) (b : β) (front : Bool) :
    loc (exec s (.tile a b front)) c = if c = a then some b else loc s c := by
  dsimp only [exec]
  rcases hloc : loc s a with _ | b'
  · exact loc_raise s a c b
  · dsimp only
    by_cases hb : b' = b
    · rw [if_neg (not_not.2 hb)]
      by_cases hf : front = true
      · rw [if_pos hf]
        exact loc_raise s a c b
      · rw [if_neg hf]
        by_cases hc : c = a
        · rw [if_pos hc, hc, hloc, hb]
        · rw [if_neg hc]
    · rw [if_pos hb, loc_relocate, hloc]
      rfl

theorem loc_exec (s : List (α × β)) (i : Instr α β) :
    loc (exec s i) = Function.update (loc s) i.key (i.place (loc s i.key)) := by
  funext c
  rw [Function.update_apply]
  cases i with
  | drop a => exact loc_drop s a c
  | tile a b front => exact loc_tile s a c b front
  | lift a b => exact loc_raise s a c _
  | cover a b => exact loc_raise s a c b

theorem nodup_run {s : List (α × β)} (h : (keys s).Nodup) (p : List (Instr α β)) :
    (keys (run s p)).Nodup := by
  induction p generalizing s with
  | nil => exact h
  | cons i p ih => exact ih (keys_exec s i ▸ nodup_act h _)

/-- The places after a program. -/
def places (p : List (Instr α β)) (f : α → Option β) : α → Option β :=
  p.foldl (fun f i => Function.update f i.key (i.place (f i.key))) f

/-- The moves of a program that starts with the places `f`. -/
def moves : List (Instr α β) → (α → Option β) → List (Move α)
  | [], _ => []
  | i :: p, f =>
      i.move (f i.key) :: moves p (Function.update f i.key (i.place (f i.key)))

/-- The places after a run depend on the places before it alone. -/
theorem loc_run (s : List (α × β)) (p : List (Instr α β)) :
    loc (run s p) = places p (loc s) := by
  induction p generalizing s with
  | nil => rfl
  | cons i p ih => exact (ih (exec s i)).trans (congrArg (places p) (loc_exec s i))

/-- The moves of a run depend on the places before it alone. -/
theorem keys_run (s : List (α × β)) (p : List (Instr α β)) :
    keys (run s p) = acts (keys s) (moves p (loc s)) := by
  induction p generalizing s with
  | nil => rfl
  | cons i p ih =>
    have hrest := ih (exec s i)
    rw [keys_exec, loc_exec] at hrest
    exact hrest

/-! ### Running a program again -/

/-- A step on places that gives the same place each time, or keeps a place that is there. -/
def Settles (g : Option β → Option β) : Prop :=
  (∃ y, ∀ x, g x = y) ∨ (∃ b, ∀ x, g x = some (x.getD b)) ∨ ∀ x, g x = x

omit [DecidableEq β] in
theorem Settles.comp {g g' : Option β → Option β} (hg : Settles g) (hg' : Settles g') :
    Settles fun x => g (g' x) := by
  rcases hg with ⟨y, hg⟩ | ⟨b, hg⟩ | hg
  · exact Or.inl ⟨y, fun x => hg _⟩
  · rcases hg' with ⟨y, hg'⟩ | ⟨b', hg'⟩ | hg'
    · exact Or.inl ⟨g y, fun x => congrArg g (hg' x)⟩
    · exact Or.inr (Or.inl ⟨b', fun x => (congrArg g (hg' x)).trans (hg _)⟩)
    · exact Or.inr (Or.inl ⟨b, fun x => (congrArg g (hg' x)).trans (hg x)⟩)
  · simpa only [hg] using hg'

omit [DecidableEq β] in
theorem Settles.idem {g : Option β → Option β} (h : Settles g) (x : Option β) :
    g (g x) = g x := by
  rcases h with ⟨y, h⟩ | ⟨b, h⟩ | h
  · rw [h (g x), h x]
  · rw [h x, h]
    rfl
  · exact h _

omit [DecidableEq α] [DecidableEq β] in
theorem settles_place (i : Instr α β) : Settles i.place := by
  cases i with
  | drop a => exact Or.inl ⟨none, fun _ => rfl⟩
  | tile a b front => exact Or.inl ⟨some b, fun _ => rfl⟩
  | lift a b => exact Or.inr (Or.inl ⟨b, fun _ => rfl⟩)
  | cover a b => exact Or.inl ⟨some b, fun _ => rfl⟩

omit [DecidableEq β] in
/-- What a program does to the place of one thing. -/
theorem exists_settles (p : List (Instr α β)) (a : α) :
    ∃ g, Settles g ∧ ∀ f : α → Option β, places p f a = g (f a) := by
  induction p with
  | nil => exact ⟨fun x => x, Or.inr (Or.inr fun _ => rfl), fun _ => rfl⟩
  | cons i p ih =>
    obtain ⟨g, hg, hplaces⟩ := ih
    by_cases hi : i.key = a
    · refine ⟨fun x => g (i.place x), hg.comp (settles_place i), fun f => ?_⟩
      refine (hplaces _).trans (congrArg g ?_)
      exact hi ▸ Function.update_self ..
    · refine ⟨g, hg, fun f => (hplaces _).trans (congrArg g ?_)⟩
      exact Function.update_of_ne (Ne.symm hi) ..

omit [DecidableEq β] in
/-- A second run leaves the places of the first. -/
theorem places_places (p : List (Instr α β)) (f : α → Option β) :
    places p (places p f) = places p f := by
  funext a
  obtain ⟨g, hg, hplaces⟩ := exists_settles p a
  rw [hplaces (places p f), hplaces f, hg.idem]

/-- **A program that ran twice changes nothing the third time.** -/
theorem run_run_run {s : List (α × β)} (h : (keys s).Nodup) (p : List (Instr α β)) :
    run (run (run s p) p) p = run (run s p) p := by
  have hloc : loc (run (run s p) p) = loc (run s p) := by
    rw [loc_run (run s p), loc_run s, places_places]
  -- the second and the third run start with the same places, so they make the same moves
  refine ext (nodup_run (nodup_run (nodup_run h p) p) p) ?_ fun a => ?_
  · rw [keys_run (run (run s p) p), hloc, keys_run (run s p), acts_acts]
  · rw [loc_run (run (run s p) p), hloc, ← loc_run, hloc]

/-! ### Above and below -/

omit [DecidableEq α] in
/-- A move touches the thing of its instruction only. -/
theorem touches_move (i : Instr α β) (x : Option β) : (i.move x).touches ⊆ [i.key] := by
  cases i with
  | tile a b front =>
    rcases x with _ | b'
    · exact List.Subset.refl _
    · dsimp only [Instr.move]
      split_ifs
      · exact List.Subset.refl _
      · exact List.nil_subset _
  | drop a => exact List.Subset.refl _
  | lift a b => exact List.Subset.refl _
  | cover a b => exact List.Subset.refl _

/-- Things that no move touches keep their order. -/
theorem sublist_acts {l k : List α} {q : List (Move α)} (hq : ∀ m ∈ q, ∀ a ∈ l, a ∉ m.touches)
    (h : l.Sublist k) : l.Sublist (acts k q) := by
  have hfilter : l.filter (fun c => decide (c ∉ q.flatMap Move.touches)) = l := by
    refine List.filter_eq_self.2 fun a ha => decide_eq_true fun hmem => ?_
    obtain ⟨m, hm, hmem⟩ := List.mem_flatMap.1 hmem
    exact hq m hm a ha hmem
  rw [acts_eq, ← hfilter]
  exact (h.filter _).trans (List.sublist_append_left _ _)

theorem key_of_mem_moves {p : List (Instr α β)} {f : α → Option β} {m : Move α}
    (hm : m ∈ moves p f) : ∃ i ∈ p, m.touches ⊆ [i.key] := by
  induction p generalizing f with
  | nil => cases hm
  | cons i p ih =>
    rcases List.mem_cons.1 hm with rfl | hm
    · exact ⟨i, List.mem_cons_self, touches_move i _⟩
    · obtain ⟨j, hj, hsub⟩ := ih hm
      exact ⟨j, List.mem_cons_of_mem _ hj, hsub⟩

/-- Things that no instruction is about keep their order. -/
theorem sublist_run {s : List (α × β)} {p : List (Instr α β)} {l : List α}
    (hl : ∀ a ∈ l, ∀ i ∈ p, i.key ≠ a) (h : l.Sublist (keys s)) : l.Sublist (keys (run s p)) := by
  rw [keys_run]
  refine sublist_acts (fun m hm a ha hmem => ?_) h
  obtain ⟨i, hi, hsub⟩ := key_of_mem_moves hm
  exact hl a ha i hi (List.mem_singleton.1 (hsub hmem)).symm

/-- The moves of a program leave some things alone: those it tiles where they are mapped, and those
it is not about. -/
theorem moves_off {p : List (Instr α β)} {l : List α}
    (hp : ∀ i ∈ p, i.key ∈ l → ∃ a b, i = .tile a b false) {f : α → Option β}
    (hf : ∀ a ∈ l, f a ≠ none) : ∀ m ∈ moves p f, ∀ a ∈ l, a ∉ m.touches := by
  induction p generalizing f with
  | nil => exact fun m hm => absurd hm List.not_mem_nil
  | cons i p ih =>
    have htail (j : Instr α β) (hj : j ∈ p) := hp j (List.mem_cons_of_mem _ hj)
    intro m hm a ha
    by_cases hi : i.key ∈ l
    · obtain ⟨c, b, rfl⟩ := hp i List.mem_cons_self hi
      rcases List.mem_cons.1 hm with rfl | hm
      · obtain ⟨b', hb'⟩ := Option.ne_none_iff_exists'.1 (hf c hi)
        simp [Instr.move, Instr.key, hb', Move.touches]
      · refine ih htail (fun e he => ?_) m hm a ha
        by_cases hec : e = c
        · subst hec
          exact fun h => by simp [Instr.place, Instr.key] at h
        · exact fun h => hf e he ((Function.update_of_ne hec _ _).symm.trans h)
    · rcases List.mem_cons.1 hm with rfl | hm
      · intro hmem
        exact hi (List.mem_singleton.1 (touches_move i _ hmem) ▸ ha)
      · refine ih htail (fun e he => ?_) m hm a ha
        have hne : e ≠ i.key := fun h => hi (h ▸ he)
        rw [Function.update_of_ne hne]
        exact hf e he

/-- What was mapped stays mapped when no instruction takes it out. -/
theorem loc_run_ne_none {p : List (Instr α β)} {a : α}
    (hp : ∀ i ∈ p, i.key = a → ∀ x, i.place x ≠ none) {s : List (α × β)} (h : loc s a ≠ none) :
    loc (run s p) a ≠ none := by
  induction p generalizing s with
  | nil => exact h
  | cons i p ih =>
    refine ih (fun j hj => hp j (List.mem_cons_of_mem _ hj)) (s := exec s i) ?_
    rw [loc_exec]
    by_cases hi : i.key = a
    · rw [hi, Function.update_self]
      exact hp i List.mem_cons_self hi _
    · rwa [Function.update_of_ne (Ne.symm hi)]

/-- A thing that is raised stays above one that is mapped and at most tiled afterwards. -/
theorem sublist_run_raise {p q : List (Instr α β)} {i : Instr α β} {a : α} {s : List (α × β)}
    (hi : i.move (loc (run s p) i.key) = .raise i.key) (hne : a ≠ i.key)
    (ha : loc (run s p) a ≠ none) (hlate : ∀ j ∈ q, j.key ≠ i.key)
    (hq : ∀ j ∈ q, j.key = a → ∃ b, j = .tile a b false) :
    [a, i.key].Sublist (keys (run s (p ++ i :: q))) := by
  rw [run_append]
  show [a, i.key].Sublist (keys (run (exec (run s p) i) q))
  have hkeys : keys (exec (run s p) i) =
      ((keys (run s p)).filter fun c => decide (c ≠ i.key)) ++ [i.key] := by
    rw [keys_exec, hi]
    rfl
  have hmem : a ∈ keys (run s p) := by
    by_contra hnot
    exact ha (loc_eq_none_iff.2 hnot)
  have hpair : [a, i.key].Sublist (keys (exec (run s p) i)) := by
    rw [hkeys]
    exact (List.singleton_sublist.2 (List.mem_filter.2 ⟨hmem, decide_eq_true hne⟩)).append
      (List.Sublist.refl _)
  rw [keys_run]
  refine sublist_acts (moves_off (fun j hj hjl => ?_) fun c hc hnone => ?_) hpair
  · rcases List.mem_pair.1 hjl with hja | hji
    · obtain ⟨b, rfl⟩ := hq j hj hja
      exact ⟨a, b, rfl⟩
    · exact absurd hji (hlate j hj)
  · rw [loc_eq_none_iff] at hnone
    exact hnone (hpair.subset hc)

/-- The instructions that bring their thing to the top, whatever its place. -/
def Instr.Raises (i : Instr α β) : Prop := ∀ x, i.move x = .raise i.key

/-- What a program that only raises raises ends on top, in the order of the program. -/
theorem keys_run_raises {p : List (Instr α β)} (hp : ∀ i ∈ p, i.Raises)
    (hnodup : (p.map Instr.key).Nodup) (s : List (α × β)) :
    keys (run s p) =
      ((keys s).filter fun c => decide (c ∉ p.map Instr.key)) ++ p.map Instr.key := by
  have hmoves (f : α → Option β) : moves p f = (p.map Instr.key).map Move.raise := by
    clear hnodup
    induction p generalizing f with
    | nil => rfl
    | cons i p ih =>
      have hrest := ih (fun j hj => hp j (List.mem_cons_of_mem _ hj))
        (Function.update f i.key (i.place (f i.key)))
      rw [moves, hrest, hp i List.mem_cons_self]
      rfl
  rw [keys_run, hmoves, acts_raise _ hnodup]

/-- A thing that no instruction is about keeps its place. -/
theorem loc_run_of_ne {p : List (Instr α β)} {a : α} (hp : ∀ i ∈ p, i.key ≠ a)
    (s : List (α × β)) : loc (run s p) a = loc s a := by
  induction p generalizing s with
  | nil => rfl
  | cons i p ih =>
    have hrest := ih (fun j hj => hp j (List.mem_cons_of_mem _ hj)) (exec s i)
    rw [loc_exec, Function.update_of_ne (Ne.symm (hp i List.mem_cons_self))] at hrest
    exact hrest

/-- The last instruction about a thing decides its place. -/
theorem loc_run_last {p q : List (Instr α β)} {i : Instr α β} (hq : ∀ j ∈ q, j.key ≠ i.key)
    (s : List (α × β)) :
    loc (run s (p ++ i :: q)) i.key = i.place (loc (run s p) i.key) := by
  rw [run_append]
  show loc (run (exec (run s p) i) q) i.key = _
  rw [loc_run_of_ne hq, loc_exec, Function.update_self]

/-- Raising a thing where it is leaves it there. -/
theorem loc_run_lifts {p : List (Instr α β)} {a : α} {b : β}
    (hp : ∀ i ∈ p, i.key = a → i.place (some b) = some b) {s : List (α × β)}
    (h : loc s a = some b) : loc (run s p) a = some b := by
  induction p generalizing s with
  | nil => exact h
  | cons i p ih =>
    refine ih (fun j hj => hp j (List.mem_cons_of_mem _ hj)) (s := exec s i) ?_
    rw [loc_exec]
    by_cases hi : i.key = a
    · rw [hi, Function.update_self, h, hp i List.mem_cons_self hi]
    · rw [Function.update_of_ne (Ne.symm hi), h]

end Stacking
