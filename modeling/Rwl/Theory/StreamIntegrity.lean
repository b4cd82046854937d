import Mathlib.Tactic.Common
import Rwl.Core.Streams

/-!
# The streams of the subscribers

The two lists of subscribers are one hub: a status update is a publication for the clients that
subscribed, an event one for those that watch. A client whose first snapshot is taken whole
receives a beginning of what is addressed to it.

* `StreamEvent.toHub`, `Refines`: the hub behind the two lists, and `refines_step`;
* `addressedTo`, `StreamsIntact`: what a client is meant to receive, and what its stream must be;
* `SnapshotFits`: the socket takes the whole snapshot.
-/

namespace Compositor

open Transition

/-- What a client that stays connected asked for. -/
inductive Audience
  | status (filter : Option Text)
  | events (kinds : Option (List Text))
  deriving DecidableEq

namespace Audience

def status? : Audience → Option (Option Text)
  | status filter => some filter
  | events _ => none

def events? : Audience → Option (Option (List Text))
  | status _ => none
  | events kinds => some kinds

end Audience

/-- The hub's view of an event; a command that is answered at once is none. -/
def StreamEvent.toHub : StreamEvent → Option (Hub.Event Audience (List Answer) UInt8)
  | .connect buf text answers =>
      match cmd_handle buf with
      | .subscribe filter =>
          some (.join (.status filter) (some (Text.bytes (filtered filter text))) answers)
      | .watch filter => some (.join (.events filter) none answers)
      | .command _ => none
  | .status text answers =>
      some (.publish (fun a => a.status?.bind (Streams.statusMessage text)) answers)
  | .event kind line answers =>
      some (.publish (fun a => a.events?.bind (Streams.eventMessage kind line)) answers)

/-- The two lists hold the peers of the hub, each those of its kind. -/
structure Refines (s : Streams) (h : Hub.State Audience (List Answer) UInt8) : Prop where
  accepted : s.accepted = h.accepted
  ipc_subscribers : s.ipc_subscribers = Hub.only Audience.status? h.peers
  event_subscribers : s.event_subscribers = Hub.only Audience.events? h.peers
  writes : s.writes = h.writes

theorem refines_init : Refines Streams.init Hub.init := ⟨rfl, rfl, rfl, rfl⟩

theorem refines_connect {s : Streams} {h : Hub.State Audience (List Answer) UInt8}
    (hr : Refines s h) (buf text : Text) (answers : List Answer) :
    Refines (s.connect buf text answers)
      (run (Hub.step stream) h (StreamEvent.connect buf text answers).toHub.toList) := by
  unfold Streams.connect StreamEvent.toHub
  dsimp only
  cases cmd_handle buf with
  | subscribe filter =>
    refine ⟨congrArg (· + 1) hr.accepted, ?_, ?_, ?_⟩
    · change _ = Hub.only Audience.status? (h.peers ++ _)
      rw [Hub.only_append, ← hr.ipc_subscribers, ← hr.accepted]
      rfl
    · change _ = Hub.only Audience.events? (h.peers ++ _)
      rw [Hub.only_append, ← hr.event_subscribers]
      exact (List.append_nil _).symm
    · change _ = h.writes ++ _
      rw [← hr.writes, ← hr.accepted]
      rfl
  | watch filter =>
    refine ⟨congrArg (· + 1) hr.accepted, ?_, ?_, ?_⟩
    · change _ = Hub.only Audience.status? (h.peers ++ _)
      rw [Hub.only_append, ← hr.ipc_subscribers]
      exact (List.append_nil _).symm
    · change _ = Hub.only Audience.events? (h.peers ++ _)
      rw [Hub.only_append, ← hr.event_subscribers, ← hr.accepted]
      rfl
    · change _ = h.writes ++ []
      rw [← hr.writes, List.append_nil]
  | command words => exact hr

theorem refines_broadcast {s : Streams} {h : Hub.State Audience (List Answer) UInt8}
    (hr : Refines s h) (text : Text) (answers : ℕ → List Answer) :
    Refines (s.broadcast_to_subscribers text answers)
      (Hub.step stream h
        (.publish (fun a => a.status?.bind (Streams.statusMessage text)) answers)) := by
  obtain ⟨hkept, hwrites⟩ := @Hub.retain_only _ _ _ _ stream _ answers
    Audience.status? (Streams.statusMessage text) (fun _ => rfl) h.peers
  rw [← hr.ipc_subscribers] at hkept hwrites
  refine ⟨hr.accepted, hkept.symm, hr.event_subscribers.trans ?_, ?_⟩
  · refine (Hub.only_retain_of_none (fun a => ?_) h.peers).symm
    cases a with
    | status filter => exact .inr rfl
    | events kinds => exact .inl rfl
  · exact congrArg₂ (· ++ ·) hr.writes hwrites.symm

theorem refines_fan_out {s : Streams} {h : Hub.State Audience (List Answer) UInt8}
    (hr : Refines s h) (kind line : Text) (answers : ℕ → List Answer) :
    Refines (s.fan_out kind line answers)
      (Hub.step stream h
        (.publish (fun a => a.events?.bind (Streams.eventMessage kind line)) answers)) := by
  obtain ⟨hkept, hwrites⟩ := @Hub.retain_only _ _ _ _ stream _ answers
    Audience.events? (Streams.eventMessage kind line) (fun _ => rfl) h.peers
  rw [← hr.event_subscribers] at hkept hwrites
  refine ⟨hr.accepted, hr.ipc_subscribers.trans ?_, hkept.symm, ?_⟩
  · refine (Hub.only_retain_of_none (fun a => ?_) h.peers).symm
    cases a with
    | status filter => exact .inl rfl
    | events kinds => exact .inr rfl
  · exact congrArg₂ (· ++ ·) hr.writes hwrites.symm

theorem refines_step {s : Streams} {h : Hub.State Audience (List Answer) UInt8}
    (hr : Refines s h) (e : StreamEvent) :
    Refines (s.step e) (run (Hub.step stream) h e.toHub.toList) := by
  cases e with
  | connect buf text answers => exact refines_connect hr buf text answers
  | status text answers => exact refines_broadcast hr text answers
  | event kind line answers => exact refines_fan_out hr kind line answers

/-- **The two lists of subscribers run as one hub.** -/
theorem refines_run (es : List StreamEvent) :
    Refines (run Streams.step Streams.init es)
      (run (Hub.step stream) Hub.init (es.filterMap StreamEvent.toHub)) := by
  induction es using List.reverseRecOn with
  | nil => exact refines_init
  | append_singleton es e ih =>
    rw [run_concat, List.filterMap_append, run_append]
    have hone : [e].filterMap StreamEvent.toHub = e.toHub.toList := by
      cases he : e.toHub <;> simp [he]
    rw [hone]
    exact refines_step ih e

/-! ### What a client receives -/

/-- What is addressed to connection `i`: its first snapshot, and every later push or event that
it asked for. -/
def addressedTo (i : ℕ) (es : List StreamEvent) : List UInt8 :=
  Hub.addressed i (es.filterMap StreamEvent.toHub)

/-- What connection `i` received. -/
def Streams.received (s : Streams) (i : ℕ) : List UInt8 := Hub.received stream i s.writes

/-- Every client received a beginning of what is addressed to it, and a stream that lost a byte is
not written to again. -/
structure StreamsIntact (es : List StreamEvent) (s : Streams) : Prop where
  begins : ∀ i, s.received i <+: addressedTo i es
  closed : s.writes.Pairwise fun w w' => w.peer = w'.peer → w.ok stream = true

/-- The socket of a client that subscribes takes the whole snapshot. -/
def StreamEvent.SnapshotFits : StreamEvent → Prop
  | .connect buf text answers => ∀ filter, cmd_handle buf = .subscribe filter →
      (Text.bytes (filtered filter text)).length ≤ room answers
  | _ => True

theorem StreamEvent.SnapshotFits.opened {e : StreamEvent} (h : e.SnapshotFits) :
    ∀ e' ∈ e.toHub, e'.Opened stream := by
  intro e' he'
  cases e with
  | connect buf text answers =>
    unfold StreamEvent.toHub at he'
    dsimp only at he'
    cases hreq : cmd_handle buf with
    | subscribe filter =>
      rw [hreq] at he'
      obtain rfl := Option.some.inj he'
      intro b hb
      obtain rfl := Option.some.inj hb
      change (write_all answers _).2 = true
      rw [write_all_eq]
      exact decide_eq_true (h filter hreq)
    | watch filter =>
      rw [hreq] at he'
      obtain rfl := Option.some.inj he'
      intro b hb
      cases hb
    | command words =>
      rw [hreq] at he'
      cases he'
  | status text answers =>
    obtain rfl := Option.some.inj he'
    trivial
  | event kind line answers =>
    obtain rfl := Option.some.inj he'
    trivial

/-- While every socket takes its first snapshot, the streams of all clients are intact in every
state reached. -/
theorem subscriber_streams_intact (es : List StreamEvent) (h : ∀ e ∈ es, e.SnapshotFits)
    (fs : List StreamEvent) (hfs : fs <+: es) :
    StreamsIntact fs (run Streams.step Streams.init fs) := by
  have hopen : ∀ e ∈ fs.filterMap StreamEvent.toHub, e.Opened stream := by
    intro e' he'
    obtain ⟨e, he, heq⟩ := List.mem_filterMap.1 he'
    exact (h e (hfs.subset he)).opened e' heq
  have hsound := Hub.sound_run stream hopen
  have hwrites := (refines_run fs).writes
  constructor
  · intro i
    unfold Streams.received
    rw [hwrites]
    exact hsound.begins i
  · rw [hwrites]
    exact hsound.closed

/-- A client that subscribes, a status update, and a client that watches. -/
def twoClients : List StreamEvent :=
  [.connect "subscribe".toList "A tags\n".toList [.took 4, .interrupted, .took 9],
    .connect "watch focus".toList [] [],
    .status "A tags 1\n".toList (fun _ => [.took 2, .failed]),
    .event "focus".toList "{}".toList (fun _ => [.took 3])]

theorem subscriber_streams_intact_two :
    StreamsIntact twoClients (run Streams.step Streams.init twoClients) := by
  refine subscriber_streams_intact twoClients ?_ twoClients List.prefix_rfl
  have hfirst : cmd_handle "subscribe".toList = .subscribe none := by decide
  have hsecond : cmd_handle "watch focus".toList = .watch (some ["focus".toList]) := by decide
  intro e he
  simp only [twoClients, List.mem_cons, List.not_mem_nil, or_false] at he
  rcases he with rfl | rfl | rfl | rfl
  · intro filter hreq
    rw [hfirst] at hreq
    cases hreq
    decide +kernel
  · intro filter hreq
    rw [hsecond] at hreq
    cases hreq
  · trivial
  · trivial

/-- A client whose first snapshot was cut short is registered and gets the next status. -/
theorem not_subscriber_streams_intact :
    ¬∀ es, StreamsIntact es (run Streams.step Streams.init es) := by
  intro h
  have hcut := (h [.connect "subscribe".toList "A tags\n".toList [.took 4, .failed],
    .status "B\n".toList (fun _ => [.took 2])]).begins 0
  exact absurd hcut (by decide +kernel)

end Compositor
