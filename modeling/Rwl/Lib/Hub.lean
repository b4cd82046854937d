import Mathlib.Tactic.Common
import Mathlib.Data.List.Induction
import Mathlib.Data.List.Nodup
import Rwl.Lib.Run

/-!
# A hub and its peers

A hub writes every publication to the peers it is for and forgets a peer once a write to it fails.

* `Channel`: what a write makes of the bytes it is given; it takes a beginning of them, and all of
  them when it reports success;
* `State`, `step`: the peers, and every write that was made; peers are numbered as they join;
* `received`, `addressed`: what a peer got, and what was meant for it;
* `only`, `retain_only`: a list of the peers of one kind behaves as the peers do;
* `Sound`, `sound_run`: while every opening is taken whole, a peer got a beginning of what was
  meant for it, and a peer that lost something is never written to again.
-/

namespace Hub

open Transition

/-- A write that takes a beginning of its bytes, and all of them when it succeeds. -/
structure Channel (α β : Type*) where
  send : α → List β → List β × Bool
  begins : ∀ a b, (send a b).1 <+: b
  whole : ∀ a b, (send a b).2 = true → (send a b).1 = b

/-- One write to a peer, with the answer of its channel. -/
structure Write (α β : Type*) where
  peer : ℕ
  bytes : List β
  answer : α

/-- A peer joins, with an opening or without; or the hub publishes what `msg` makes for each
audience. -/
inductive Event (φ α β : Type*)
  | join (a : φ) (opening : Option (List β)) (answer : α)
  | publish (msg : φ → Option (List β)) (answers : ℕ → α)

structure State (φ α β : Type*) where
  accepted : ℕ
  peers : List (ℕ × φ)
  writes : List (Write α β)

variable {φ ψ α β : Type*} (ch : Channel α β)

/-- What a write delivers. -/
def Write.taken (w : Write α β) : List β := (ch.send w.answer w.bytes).1

/-- A write succeeds. -/
def Write.ok (w : Write α β) : Bool := (ch.send w.answer w.bytes).2

/-- Write to every peer that `msg` has something for; keep the peers whose write succeeds. -/
def retain (msg : φ → Option (List β)) (answers : ℕ → α) :
    List (ℕ × φ) → List (ℕ × φ) × List (Write α β)
  | [] => ([], [])
  | p :: l =>
      let (kept, ws) := retain msg answers l
      match msg p.2 with
      | none => (p :: kept, ws)
      | some b =>
          (if (ch.send (answers p.1) b).2 then p :: kept else kept, ⟨p.1, b, answers p.1⟩ :: ws)

def init : State φ α β := ⟨0, [], []⟩

def step (s : State φ α β) : Event φ α β → State φ α β
  | .join a opening answer =>
      { accepted := s.accepted + 1
        peers := s.peers ++ [(s.accepted, a)]
        writes := s.writes ++ (opening.map fun b => ⟨s.accepted, b, answer⟩).toList }
  | .publish msg answers =>
      let (kept, ws) := retain ch msg answers s.peers
      { s with peers := kept, writes := s.writes ++ ws }

/-! ### What a peer got and what was meant for it -/

/-- The writes to a peer. -/
def writesTo (i : ℕ) (ws : List (Write α β)) : List (Write α β) :=
  ws.filter fun w => decide (w.peer = i)

/-- What the writes delivered to a peer. -/
def received (i : ℕ) (ws : List (Write α β)) : List β := (writesTo i ws).flatMap (Write.taken ch)

namespace Event

/-- The audience of the peer that joins. -/
def audience : Event φ α β → Option φ
  | .join a _ _ => some a
  | .publish _ _ => none

/-- What the peer that joins is sent first. -/
def opening : Event φ α β → List β
  | .join _ b _ => b.getD []
  | .publish _ _ => []

/-- What an audience is sent. -/
def message (a : φ) : Event φ α β → List β
  | .join _ _ _ => []
  | .publish msg _ => (msg a).getD []

/-- The opening is taken whole. -/
def Opened : Event φ α β → Prop
  | .join _ b answer => ∀ c ∈ b, (ch.send answer c).2 = true
  | .publish _ _ => True

end Event

/-- The audiences, in the order in which their peers joined. -/
def audiences (es : List (Event φ α β)) : List φ := es.filterMap Event.audience

/-- What was meant for peer `i`: its opening, and every publication since. -/
def addressed : ℕ → List (Event φ α β) → List β
  | _, [] => []
  | i, e :: es =>
      match e.audience, i with
      | none, i => addressed i es
      | some a, 0 => e.opening ++ es.flatMap (Event.message a)
      | some _, i + 1 => addressed i es

theorem audiences_append (es fs : List (Event φ α β)) :
    audiences (es ++ fs) = audiences es ++ audiences fs := List.filterMap_append

/-- More events mean more messages for a peer that has joined. -/
theorem addressed_of_joined {i : ℕ} {a : φ} {es : List (Event φ α β)}
    (h : (audiences es)[i]? = some a) (fs : List (Event φ α β)) :
    addressed i (es ++ fs) = addressed i es ++ fs.flatMap (Event.message a) := by
  induction es generalizing i with
  | nil => cases h
  | cons e es ih =>
    cases e with
    | publish msg answers => exact ih h
    | join b opening answer =>
      cases i with
      | zero =>
        obtain rfl : b = a := Option.some.inj h
        change _ ++ (es ++ fs).flatMap _ = (_ ++ es.flatMap _) ++ _
        rw [List.flatMap_append, List.append_assoc]
      | succ i => exact ih h

/-- A peer that has not joined is meant by nothing so far. -/
theorem addressed_of_absent {i : ℕ} {es : List (Event φ α β)} (h : (audiences es).length ≤ i)
    (fs : List (Event φ α β)) :
    addressed i (es ++ fs) = addressed (i - (audiences es).length) fs := by
  induction es generalizing i with
  | nil => rfl
  | cons e es ih =>
    cases e with
    | publish msg answers => exact ih h
    | join b opening answer =>
      have hlen : (audiences (.join b opening answer :: es)).length = (audiences es).length + 1 :=
        rfl
      rw [hlen] at h ⊢
      cases i with
      | zero => omega
      | succ i =>
        rw [Nat.add_sub_add_right]
        exact ih (by omega)

theorem received_append (i : ℕ) (ws vs : List (Write α β)) :
    received ch i (ws ++ vs) = received ch i ws ++ received ch i vs := by
  simp [received, writesTo]

theorem writesTo_of_absent {i : ℕ} {ws : List (Write α β)} (h : ∀ w ∈ ws, w.peer ≠ i) :
    writesTo i ws = [] := by
  refine List.filter_eq_nil_iff.2 fun w hw => ?_
  simpa using h w hw

theorem received_of_absent {i : ℕ} {ws : List (Write α β)} (h : ∀ w ∈ ws, w.peer ≠ i) :
    received ch i ws = [] := by
  unfold received
  rw [writesTo_of_absent h]
  rfl

/-! ### What a publication writes -/

section Retain

variable {ch} {msg : φ → Option (List β)} {answers : ℕ → α} {l : List (ℕ × φ)}

theorem sublist_retain : (retain ch msg answers l).1.Sublist l := by
  induction l with
  | nil => exact List.Sublist.refl _
  | cons p l ih =>
    unfold retain
    dsimp only
    split
    · exact ih.cons_cons p
    · dsimp only
      split_ifs
      · exact ih.cons_cons p
      · exact ih.cons p

/-- Only peers are written to. -/
theorem peer_of_mem_retain {w : Write α β} (hw : w ∈ (retain ch msg answers l).2) :
    w.peer ∈ l.map Prod.fst := by
  induction l with
  | nil => cases hw
  | cons p l ih =>
    unfold retain at hw
    dsimp only at hw
    rw [List.map_cons, List.mem_cons]
    split at hw
    · exact .inr (ih hw)
    · rcases List.mem_cons.1 hw with rfl | htail
      · exact .inl rfl
      · exact .inr (ih htail)

theorem absent_of_not_mem {i : ℕ} (hi : i ∉ l.map Prod.fst) :
    ∀ w ∈ (retain ch msg answers l).2, w.peer ≠ i := by
  rintro w hw rfl
  exact hi (peer_of_mem_retain hw)

/-- No peer is written to twice. -/
theorem pairwise_retain (h : (l.map Prod.fst).Nodup) :
    (retain ch msg answers l).2.Pairwise fun w w' => w.peer ≠ w'.peer := by
  induction l with
  | nil => exact List.Pairwise.nil
  | cons p l ih =>
    obtain ⟨hp, hl⟩ := List.nodup_cons.1 h
    unfold retain
    dsimp only
    split
    · exact ih hl
    · exact List.pairwise_cons.2 ⟨fun w hw => (absent_of_not_mem hp w hw).symm, ih hl⟩

/-- A peer is written what is meant for it, once. -/
theorem writesTo_retain (h : (l.map Prod.fst).Nodup) {p : ℕ × φ} (hp : p ∈ l) :
    writesTo p.1 (retain ch msg answers l).2 =
      ((msg p.2).map fun b => ⟨p.1, b, answers p.1⟩).toList := by
  induction l with
  | nil => cases hp
  | cons q l ih =>
    obtain ⟨hq, hl⟩ := List.nodup_cons.1 h
    unfold retain
    dsimp only
    rcases List.mem_cons.1 hp with rfl | hp
    · have hrest : writesTo p.1 (retain ch msg answers l).2 = [] :=
        writesTo_of_absent (absent_of_not_mem hq)
      split
      · rename_i hnone
        rw [hrest, hnone]
        rfl
      · rename_i b hb
        rw [hb]
        unfold writesTo at hrest ⊢
        rw [List.filter_cons_of_pos (by simp), hrest]
        rfl
    · have hne : q.1 ≠ p.1 := by
        intro heq
        exact hq (List.mem_map.2 ⟨p, hp, heq.symm⟩)
      split
      · exact ih hl hp
      · unfold writesTo at ih ⊢
        rw [List.filter_cons_of_neg (by simpa using hne)]
        exact ih hl hp

/-- A peer is kept when its write succeeds. -/
theorem ok_of_mem_retain (h : (l.map Prod.fst).Nodup) {p : ℕ × φ}
    (hp : p ∈ (retain ch msg answers l).1) {b : List β} (hb : msg p.2 = some b) :
    (ch.send (answers p.1) b).2 = true := by
  induction l with
  | nil => cases hp
  | cons q l ih =>
    obtain ⟨hq, hl⟩ := List.nodup_cons.1 h
    have hself (hmem : q ∈ (retain ch msg answers l).1) : False :=
      hq (List.mem_map.2 ⟨q, sublist_retain.subset hmem, rfl⟩)
    unfold retain at hp
    dsimp only at hp
    split at hp
    · rename_i hnone
      rcases List.mem_cons.1 hp with rfl | htail
      · rw [hnone] at hb
        cases hb
      · exact ih hl htail
    · rename_i c hc
      dsimp only at hp
      split_ifs at hp with hok
      · rcases List.mem_cons.1 hp with rfl | htail
        · rw [hc] at hb
          cases hb
          exact hok
        · exact ih hl htail
      · exact ih hl hp

/-- A publication delivers a beginning of what is meant for a peer. -/
theorem received_retain (h : (l.map Prod.fst).Nodup) {p : ℕ × φ} (hp : p ∈ l) :
    received ch p.1 (retain ch msg answers l).2 <+: (msg p.2).getD [] := by
  unfold received
  rw [writesTo_retain h hp]
  cases msg p.2 with
  | none => exact List.nil_prefix
  | some b =>
    rw [Option.map_some, Option.toList_some, List.flatMap_singleton]
    exact ch.begins _ _

/-- A peer that is kept got all of it. -/
theorem received_of_mem_retain (h : (l.map Prod.fst).Nodup) {p : ℕ × φ}
    (hp : p ∈ (retain ch msg answers l).1) :
    received ch p.1 (retain ch msg answers l).2 = (msg p.2).getD [] := by
  unfold received
  rw [writesTo_retain h (sublist_retain.subset hp)]
  cases hmsg : msg p.2 with
  | none => rfl
  | some b =>
    rw [Option.map_some, Option.toList_some, List.flatMap_singleton]
    exact ch.whole _ _ (ok_of_mem_retain h hp hmsg)

end Retain

/-! ### Peers of one kind -/

section Only

variable {ch} {msg : φ → Option (List β)} {answers : ℕ → α}

/-- The peers whose audience is of the kind that `g` reads. -/
def only (g : φ → Option ψ) (l : List (ℕ × φ)) : List (ℕ × ψ) :=
  l.filterMap fun p => (g p.2).map fun b => (p.1, b)

theorem only_append (g : φ → Option ψ) (l m : List (ℕ × φ)) :
    only g (l ++ m) = only g l ++ only g m := List.filterMap_append

theorem only_cons_some {g : φ → Option ψ} {p : ℕ × φ} {b : ψ} (h : g p.2 = some b)
    (l : List (ℕ × φ)) : only g (p :: l) = (p.1, b) :: only g l := by
  unfold only
  rw [List.filterMap_cons, h]
  rfl

theorem only_cons_none {g : φ → Option ψ} {p : ℕ × φ} (h : g p.2 = none) (l : List (ℕ × φ)) :
    only g (p :: l) = only g l := by
  unfold only
  rw [List.filterMap_cons, h]
  rfl

/-- A publication for one kind of peer is a publication to these peers alone. -/
theorem retain_only {g : φ → Option ψ} {msg' : ψ → Option (List β)}
    (h : ∀ a, msg a = (g a).bind msg') (l : List (ℕ × φ)) :
    only g (retain ch msg answers l).1 = (retain ch msg' answers (only g l)).1 ∧
      (retain ch msg answers l).2 = (retain ch msg' answers (only g l)).2 := by
  induction l with
  | nil => exact ⟨rfl, rfl⟩
  | cons p l ih =>
    obtain ⟨hkept, hwrites⟩ := ih
    cases hg : g p.2 with
    | none =>
      have hmsg : msg p.2 = none := by rw [h, hg, Option.bind_none]
      rw [only_cons_none hg, retain]
      dsimp only
      rw [hmsg]
      exact ⟨(only_cons_none hg _).trans hkept, hwrites⟩
    | some b =>
      have hmsg : msg p.2 = msg' b := by rw [h, hg, Option.bind_some]
      rw [only_cons_some hg, retain, retain]
      dsimp only
      rw [hmsg, ← hkept, ← hwrites]
      cases msg' b with
      | none => exact ⟨only_cons_some hg _, rfl⟩
      | some c =>
        refine ⟨?_, rfl⟩
        dsimp only
        split_ifs
        · exact only_cons_some hg _
        · rfl

/-- A publication for others leaves the peers of a kind as they are. -/
theorem only_retain_of_none {g : φ → Option ψ} (h : ∀ a, msg a = none ∨ g a = none)
    (l : List (ℕ × φ)) : only g (retain ch msg answers l).1 = only g l := by
  induction l with
  | nil => rfl
  | cons p l ih =>
    unfold retain
    dsimp only
    cases hmsg : msg p.2 with
    | none =>
      cases hg : g p.2 with
      | none => rw [only_cons_none hg, only_cons_none hg, ih]
      | some b => rw [only_cons_some hg, only_cons_some hg, ih]
    | some c =>
      have hg : g p.2 = none := by
        rcases h p.2 with hnone | hnone
        · rw [hmsg] at hnone
          cases hnone
        · exact hnone
      rw [only_cons_none hg, ← ih]
      dsimp only
      split_ifs
      · exact only_cons_none hg _
      · rfl

end Only

/-! ### Sound streams -/

/-- A peer got a beginning of what was meant for it, a peer that is still there got all of it, and
after a write that lost something there is no other to the same peer. -/
structure Sound (es : List (Event φ α β)) (s : State φ α β) : Prop where
  accepted : s.accepted = (audiences es).length
  audience : ∀ p ∈ s.peers, (audiences es)[p.1]? = some p.2
  nodup : (s.peers.map Prod.fst).Nodup
  known : ∀ w ∈ s.writes, w.peer < s.accepted
  ok : ∀ p ∈ s.peers, ∀ w ∈ s.writes, w.peer = p.1 → w.ok ch = true
  whole : ∀ p ∈ s.peers, received ch p.1 s.writes = addressed p.1 es
  begins : ∀ i, received ch i s.writes <+: addressed i es
  closed : s.writes.Pairwise fun w w' => w.peer = w'.peer → w.ok ch = true

namespace Sound

variable {ch} {es : List (Event φ α β)} {s : State φ α β}

theorem peer_lt (h : Sound ch es s) {p : ℕ × φ} (hp : p ∈ s.peers) :
    p.1 < (audiences es).length :=
  (List.getElem?_eq_some_iff.1 (h.audience p hp)).1

/-- A peer joins and takes its opening whole. -/
theorem join (h : Sound ch es s) (a : φ) (opening : Option (List β)) (answer : α)
    (hopen : (Event.join a opening answer : Event φ α β).Opened ch) :
    Sound ch (es ++ [.join a opening answer]) (step ch s (.join a opening answer)) := by
  have hfirst : ∀ w ∈ (opening.map fun b => (⟨s.accepted, b, answer⟩ : Write α β)).toList,
      w.peer = s.accepted ∧ w.ok ch = true := by
    intro w hw
    cases opening with
    | none => cases hw
    | some b =>
      obtain rfl := List.mem_singleton.1 hw
      exact ⟨rfl, hopen b rfl⟩
  have hgot : received ch s.accepted
      (opening.map fun b => (⟨s.accepted, b, answer⟩ : Write α β)).toList = opening.getD [] := by
    cases opening with
    | none => rfl
    | some b =>
      have hone : writesTo s.accepted [(⟨s.accepted, b, answer⟩ : Write α β)] =
          [⟨s.accepted, b, answer⟩] := by simp [writesTo]
      rw [Option.map_some, Option.toList_some, received, hone, List.flatMap_singleton]
      exact ch.whole _ _ (hopen b rfl)
  have hnew : received ch s.accepted s.writes = [] :=
    received_of_absent ch fun w hw => Nat.ne_of_lt (h.known w hw)
  have hother {i : ℕ} (hi : i ≠ s.accepted) : received ch i
      (opening.map fun b => (⟨s.accepted, b, answer⟩ : Write α β)).toList = [] :=
    received_of_absent ch fun w hw => by
      rw [(hfirst w hw).1]
      exact hi.symm
  have hlast : addressed s.accepted (es ++ [.join a opening answer]) = opening.getD [] := by
    rw [addressed_of_absent (Nat.le_of_eq h.accepted.symm), h.accepted, Nat.sub_self]
    exact List.append_nil _
  have hold {i : ℕ} {b : φ} (hi : (audiences es)[i]? = some b) :
      addressed i (es ++ [.join a opening answer]) = addressed i es := by
    rw [addressed_of_joined hi]
    exact List.append_nil _
  have hlt : ∀ p ∈ s.peers, p.1 ≠ s.accepted := by
    intro p hp
    rw [h.accepted]
    exact Nat.ne_of_lt (h.peer_lt hp)
  refine ⟨?_, ?_, ?_, ?_, ?_, ?_, ?_, ?_⟩
  · rw [audiences_append, List.length_append]
    exact congrArg (· + 1) h.accepted
  · intro p hp
    rw [audiences_append]
    rcases List.mem_append.1 hp with hp | hp
    · rw [List.getElem?_append_left (h.peer_lt hp)]
      exact h.audience p hp
    · obtain rfl := List.mem_singleton.1 hp
      rw [h.accepted]
      exact List.getElem?_concat_length
  · change ((s.peers ++ [(s.accepted, a)]).map Prod.fst).Nodup
    rw [List.map_append, List.nodup_append]
    refine ⟨h.nodup, List.nodup_singleton _, ?_⟩
    intro i hi j hj
    obtain ⟨p, hp, rfl⟩ := List.mem_map.1 hi
    obtain rfl := List.mem_singleton.1 hj
    exact hlt p hp
  · intro w hw
    rcases List.mem_append.1 hw with hw | hw
    · exact Nat.lt_succ_of_lt (h.known w hw)
    · rw [(hfirst w hw).1]
      exact Nat.lt_succ_self _
  · intro p hp w hw heq
    rcases List.mem_append.1 hw with hw | hw
    · rcases List.mem_append.1 hp with hp | hp
      · exact h.ok p hp w hw heq
      · obtain rfl := List.mem_singleton.1 hp
        exact absurd heq (Nat.ne_of_lt (h.known w hw))
    · exact (hfirst w hw).2
  · intro p hp
    change received ch p.1 (s.writes ++ _) = _
    rw [received_append]
    rcases List.mem_append.1 hp with hp | hp
    · rw [hother (hlt p hp), List.append_nil, hold (h.audience p hp), h.whole p hp]
    · obtain rfl := List.mem_singleton.1 hp
      dsimp only
      rw [hnew, hgot, hlast, List.nil_append]
  · intro i
    change received ch i (s.writes ++ _) <+: _
    rw [received_append]
    by_cases hi : i = s.accepted
    · subst hi
      rewrite [hnew, hgot, hlast, List.nil_append]
      exact List.prefix_rfl
    · rw [hother hi, List.append_nil]
      cases haud : (audiences es)[i]? with
      | some b =>
        rw [hold haud]
        exact h.begins i
      | none =>
        have hlen := List.getElem?_eq_none_iff.1 haud
        rw [received_of_absent ch fun w hw => ?_]
        · exact List.nil_prefix
        · have hlt := h.known w hw
          rw [h.accepted] at hlt
          omega
  · change (s.writes ++ _).Pairwise _
    refine List.pairwise_append.2 ⟨h.closed, ?_, ?_⟩
    · cases opening with
      | none => exact List.Pairwise.nil
      | some b => exact List.pairwise_singleton _ _
    · intro w hw w' hw' heq
      rw [(hfirst w' hw').1] at heq
      exact absurd heq (Nat.ne_of_lt (h.known w hw))

/-- The hub publishes. -/
theorem publish (h : Sound ch es s) (msg : φ → Option (List β)) (answers : ℕ → α) :
    Sound ch (es ++ [.publish msg answers]) (step ch s (.publish msg answers)) := by
  have haud : audiences (es ++ [.publish msg answers]) = audiences es := by
    rw [audiences_append]
    exact List.append_nil _
  have hmore {p : ℕ × φ} (hp : p ∈ s.peers) :
      addressed p.1 (es ++ [.publish msg answers]) = addressed p.1 es ++ (msg p.2).getD [] := by
    rw [addressed_of_joined (h.audience p hp)]
    exact congrArg (_ ++ ·) (List.flatMap_singleton _ _)
  have hsub : (retain ch msg answers s.peers).1.Sublist s.peers := sublist_retain
  refine ⟨?_, ?_, ?_, ?_, ?_, ?_, ?_, ?_⟩
  · rw [haud]
    exact h.accepted
  · intro p hp
    rw [haud]
    exact h.audience p (hsub.subset hp)
  · exact h.nodup.sublist (hsub.map _)
  · intro w hw
    rcases List.mem_append.1 hw with hw | hw
    · exact h.known w hw
    · obtain ⟨p, hp, heq⟩ := List.mem_map.1 (peer_of_mem_retain hw)
      rw [← heq]
      exact Nat.lt_of_lt_of_eq (h.peer_lt hp) h.accepted.symm
  · intro p hp w hw heq
    rcases List.mem_append.1 hw with hw | hw
    · exact h.ok p (hsub.subset hp) w hw heq
    · have hmem : w ∈ writesTo p.1 (retain ch msg answers s.peers).2 :=
        List.mem_filter.2 ⟨hw, by simpa using heq⟩
      rw [writesTo_retain h.nodup (hsub.subset hp)] at hmem
      obtain ⟨b, hb, rfl⟩ := Option.map_eq_some_iff.1 (Option.mem_toList.1 hmem)
      exact ok_of_mem_retain h.nodup hp hb
  · intro p hp
    change received ch p.1 (s.writes ++ _) = _
    rw [received_append, h.whole p (hsub.subset hp), hmore (hsub.subset hp),
      received_of_mem_retain h.nodup hp]
  · intro i
    change received ch i (s.writes ++ _) <+: _
    rw [received_append]
    by_cases hi : i ∈ s.peers.map Prod.fst
    · obtain ⟨p, hp, rfl⟩ := List.mem_map.1 hi
      rw [h.whole p hp, hmore hp]
      exact (List.prefix_append_right_inj _).2 (received_retain h.nodup hp)
    · rw [received_of_absent ch (absent_of_not_mem hi), List.append_nil]
      refine (h.begins i).trans ?_
      cases hjoined : (audiences es)[i]? with
      | some a =>
        rw [addressed_of_joined hjoined]
        exact List.prefix_append _ _
      | none =>
        have hlen := List.getElem?_eq_none_iff.1 hjoined
        have hnone := addressed_of_absent hlen []
        rw [List.append_nil] at hnone
        rw [hnone]
        exact List.nil_prefix
  · refine List.pairwise_append.2 ⟨h.closed, ?_, ?_⟩
    · exact (pairwise_retain h.nodup).imp fun hne heq => absurd heq hne
    · intro w hw w' hw' heq
      obtain ⟨p, hp, hpeer⟩ := List.mem_map.1 (peer_of_mem_retain hw')
      exact h.ok p hp w hw (heq.trans hpeer.symm)

theorem step (h : Sound ch es s) {e : Event φ α β} (he : e.Opened ch) :
    Sound ch (es ++ [e]) (Hub.step ch s e) := by
  cases e with
  | join a opening answer => exact h.join a opening answer he
  | publish msg answers => exact h.publish msg answers

end Sound

theorem sound_init : Sound ch ([] : List (Event φ α β)) init := by
  refine ⟨rfl, ?_, List.nodup_nil, ?_, ?_, ?_, fun i => List.nil_prefix, List.Pairwise.nil⟩ <;>
    intro x hx <;> cases hx

/-- Every run whose openings are taken whole is sound. -/
theorem sound_run {es : List (Event φ α β)} (h : ∀ e ∈ es, e.Opened ch) :
    Sound ch es (run (step ch) init es) := by
  induction es using List.reverseRecOn with
  | nil => exact sound_init ch
  | append_singleton es e ih =>
    rw [run_concat]
    exact (ih fun e' he' => h e' (List.mem_append_left _ he')).step (h e (by simp))

end Hub
