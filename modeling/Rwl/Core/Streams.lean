import Mathlib.Tactic.Common
import Rwl.Core.Ipc
import Rwl.Lib.Hub

/-!
# Subscribers

The connections that stay open after their command, and what is written to them.

* `room`, `stream`: how much a socket takes, and `write_all` as a channel;
* `Streams`: the two lists of subscribers, and every write that was made to them;
* `connect`, `broadcast_to_subscribers`, `fan_out`: the three places that write;
* `Streams.step`: connections, status updates and events, in any order.
-/

namespace Compositor

/-- How many bytes a socket takes before it stops taking more. -/
def room : List Answer → ℕ
  | [] => 0
  | .took 0 :: _ => 0
  | .took (n + 1) :: as => n + 1 + room as
  | .interrupted :: as => room as
  | .failed :: _ => 0

theorem write_all_eq (as : List Answer) (b : List UInt8) :
    write_all as b = (b.take (room as), decide (b.length ≤ room as)) := by
  induction as generalizing b with
  | nil => cases b <;> simp [write_all, room]
  | cons a as ih =>
    cases b with
    | nil => simp [write_all]
    | cons c b =>
      cases a with
      | failed => simp [write_all, room]
      | interrupted => exact ih (c :: b)
      | took n =>
        cases n with
        | zero => simp [write_all, room]
        | succ n =>
          have hlen : ((c :: b).drop (n + 1)).length ≤ room as ↔
              (c :: b).length ≤ n + 1 + room as := by
            rw [List.length_drop]
            omega
          simp only [write_all, room]
          rw [ih, List.take_add (i := n + 1) (j := room as)]
          exact congrArg (Prod.mk _) (decide_eq_decide.2 hlen)

/-- `write_all` on a socket. -/
def stream : Hub.Channel (List Answer) UInt8 where
  send := write_all
  begins as b := by
    rw [write_all_eq]
    exact List.take_prefix _ _
  whole as b h := by
    rw [write_all_eq] at h ⊢
    exact List.take_of_length_le (of_decide_eq_true h)

/-- The subscribers, by the numbers of their connections, and what was written to them. -/
structure Streams where
  accepted : ℕ
  ipc_subscribers : List (ℕ × Option Text)
  event_subscribers : List (ℕ × Option (List Text))
  writes : List (Hub.Write (List Answer) UInt8)

/-- A client connects and sends a command, while the status is `text`; the status is printed; an
event is told. Each comes with the answers of the sockets that are written to. -/
inductive StreamEvent
  | connect (buf text : Text) (answers : List Answer)
  | status (text : Text) (answers : ℕ → List Answer)
  | event (kind line : Text) (answers : ℕ → List Answer)

namespace Streams

def init : Streams := ⟨0, [], [], []⟩

variable (s : Streams)

/-- `cmd_handle`, as far as the connection stays open. -/
def connect (buf text : Text) (answers : List Answer) : Streams :=
  match cmd_handle buf with
  | .subscribe filter =>
      -- the outcome of the first write is not looked at
      { s with
        accepted := s.accepted + 1
        ipc_subscribers := s.ipc_subscribers ++ [(s.accepted, filter)]
        writes := s.writes ++ [⟨s.accepted, Text.bytes (filtered filter text), answers⟩] }
  | .watch filter =>
      { s with
        accepted := s.accepted + 1
        event_subscribers := s.event_subscribers ++ [(s.accepted, filter)] }
  | .command _ => s

/-- What `broadcast_to_subscribers` writes to a subscriber. -/
def statusMessage (text : Text) (filter : Option Text) : Option (List UInt8) :=
  if filtered filter text = [] then none else some (Text.bytes (filtered filter text))

/-- `broadcast_to_subscribers`. -/
def broadcast_to_subscribers (text : Text) (answers : ℕ → List Answer) : Streams :=
  let (kept, ws) := Hub.retain stream (statusMessage text) answers s.ipc_subscribers
  { s with ipc_subscribers := kept, writes := s.writes ++ ws }

/-- What `fan_out` writes to a subscriber. -/
def eventMessage (kind line : Text) (filter : Option (List Text)) : Option (List UInt8) :=
  if filter.all fun kinds => kinds.contains kind then some (Text.bytes (line ++ ['\n'])) else none

/-- `fan_out`. -/
def fan_out (kind line : Text) (answers : ℕ → List Answer) : Streams :=
  let (kept, ws) := Hub.retain stream (eventMessage kind line) answers s.event_subscribers
  { s with event_subscribers := kept, writes := s.writes ++ ws }

def step : StreamEvent → Streams
  | .connect buf text answers => s.connect buf text answers
  | .status text answers => s.broadcast_to_subscribers text answers
  | .event kind line answers => s.fan_out kind line answers

end Streams

end Compositor
