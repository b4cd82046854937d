import Mathlib.Tactic.Common
import Rwl.Core.State

/-!
# The command queue of the hooks

`QUEUE` and `DRAINING` of `hooks`, and the functions that touch them: `enqueue`, `drain` with its
batches, `apply`, and `install`, which a reload calls with its new VM.

The compositor's code is seen here only through what it does to the queue. A callback may enqueue
anything whenever it fires, so that what the code run by a command does is a parameter `ops`: it
may differ from one application to the next.
-/

namespace Compositor

namespace hooks

/-- A queued command with the number of commands enqueued before it. -/
structure Queued where
  number : ℕ
  cmd : HookCmd

/-- `QUEUE` and `DRAINING`. Beside the data of the source: all commands enqueued and all commands
applied, oldest first, the batches of the last drain, and the VMs installed. -/
structure Store where
  queue : List Queued
  draining : Bool
  enqueued : List HookCmd
  applied : List Queued
  batches : ℕ
  installs : ℕ

/-- What code of the compositor does to the queue: a callback it fires enqueues a command, it calls
`drain`, or it reloads the configuration. -/
inductive QueueOp
  | enqueue (cmd : HookCmd)
  | drain
  | install

/-- `enqueue`. -/
def enqueue (s : Store) (cmd : HookCmd) : Store :=
  { s with
    queue := s.queue ++ [⟨s.enqueued.length, cmd⟩]
    enqueued := s.enqueued ++ [cmd] }

/-- `install`: the commands for the replaced VM are dropped. -/
def install (s : Store) : Store := { s with queue := [], installs := s.installs + 1 }

/-- One operation, given what `drain` does. -/
def QueueOp.run (drain : Store → Store) (s : Store) : QueueOp → Store
  | .enqueue cmd => hooks.enqueue s cmd
  | .drain => drain s
  | .install => hooks.install s

/-- `dispatch` of `CallLua`: the function enqueues `cmds`, and the queue is drained. -/
def callLua (cmds : List HookCmd) : List QueueOp := cmds.map .enqueue ++ [.drain]

section

variable (ops : ℕ → Queued → List QueueOp) (drain : Store → Store)

/-- `apply`: the command runs, and its code does `ops` to the queue. -/
def apply (s : Store) (q : Queued) : Store :=
  (ops s.applied.length q).foldl (QueueOp.run drain) { s with applied := s.applied ++ [q] }

/-- Take the queue as a batch. -/
def take (s : Store) : Store := { s with queue := [], batches := s.batches + 1 }

/-- The loop of `drain`. -/
def rounds : ℕ → Store → Store
  | 0, s => s
  | n + 1, s => if s.queue.isEmpty then s else rounds n (s.queue.foldl (apply ops drain) (take s))

/-- The body of `drain`, given what a nested `drain` does. -/
def drainBody (s : Store) : Store :=
  if s.draining then s
  else { rounds ops drain 8 { s with draining := true, batches := 0 } with draining := false }

end

/-- `drain`: a nested call finds `DRAINING` set and returns. -/
def drain (ops : ℕ → Queued → List QueueOp) : Store → Store := drainBody ops id

/-- Before the first callback. -/
def start : Store where
  queue := []
  draining := false
  enqueued := []
  applied := []
  batches := 0
  installs := 0

end hooks

end Compositor
