import Mathlib.Tactic.Common
import Rwl.Core.Bar
import Rwl.Lib.WrappedMask

/-!
# The status blocks

The thread that runs the commands of the status blocks, once a second and on signals.

* `Block`, `getcmd`, `initial_cache`, `update_cache`, `build_status_bounds`: the blocks and what
  they display;
* `register_first`, `register_new`: the signal handlers, at the start and after a reload; whether
  the system takes the handler of a number is its answer;
* `BlocksThread.step`: one round of the loop. A shift is by the amount modulo 32, as in a build
  without overflow checks; `Tick` keeps the amounts.
-/

namespace Compositor

open WrappedMask

/-- A block of the status. -/
structure Block where
  icon : Text
  command : Text
  interval : ℕ
  /-- The number of its signal above `SIGRTMIN`; 0 for none. -/
  signal : UInt8

namespace blocks

def CMDLENGTH : ℕ := 50

def STARTUP_SETTLE_TICKS : ℕ := 5

/-- The text of a block; `printed` is the output of its command, if it succeeds. -/
def getcmd (printed : Option Text) (block : Block) : Text :=
  let max_len := CMDLENGTH - (Text.bytes block.icon).length - 2
  block.icon ++ (printed.map fun raw => (trim_end_newlines raw).take max_len).getD []

/-- `initial_cache`; `printed` is the output of the command of each block. -/
def initial_cache (printed : ℕ → Option Text) (blocks : List Block) : List Text :=
  blocks.mapIdx fun k block => getcmd (printed k) block

/-- A block is refreshed because of the time. -/
def by_time (time : ℕ) (block : Block) : Bool :=
  time == 0 || time == u32 - 1 || (block.interval != 0 && time % block.interval == 0) ||
    (block.interval == 0 && decide (time ≤ STARTUP_SETTLE_TICKS))

/-- A block is refreshed because of a signal. -/
def by_signal (signal_mask : UInt32) (block : Block) : Bool :=
  block.signal != 0 && has signal_mask block.signal

def update_cache (printed : ℕ → Option Text) (time : ℕ) (signal_mask : UInt32)
    (prev_cache : List Text) (blocks : List Block) : List Text :=
  (blocks.zip prev_cache).mapIdx fun k x =>
    if by_time time x.1 || by_signal signal_mask x.1 then getcmd (printed k) x.1 else x.2

/-- The status after `status`, and where each further part ends in it; `first` is whether a part is
the first one. -/
def bounds_from (delim : Text) : Bool → Text → List Text → Text × List ℕ
  | _, status, [] => (status, [])
  | first, status, part :: cache =>
      let status := (if first then status else status ++ delim) ++ part
      let rest := bounds_from delim false status cache
      (rest.1, (Text.bytes status).length % u32 :: rest.2)

/-- The joined status, and where each block ends in it. -/
def build_status_bounds (cache : List Text) (delim : Text) : Text × List ℕ :=
  bounds_from delim true [] cache

/-- The numbers that have a handler after the start. -/
def register_first (accepts : UInt8 → Bool) (blocks : List Block) : List UInt8 :=
  ((blocks.map Block.signal).filter fun n => decide (0 < n)).eraseDups.filter accepts

/-- The numbers that have a handler after a reload: `registered` has the bits of those before it,
`new_sigs` those of the numbers tried so far. -/
def register_new (accepts : UInt8 → Bool) (registered : UInt32) :
    UInt32 → List UInt8 → List Block → List UInt8
  | _, flags, [] => flags
  | new_sigs, flags, block :: blocks =>
      let sig := block.signal
      if 0 < sig ∧ registered &&& bit sig = 0 ∧ new_sigs &&& bit sig = 0 then
        register_new accepts registered (new_sigs ||| bit sig)
          (if accepts sig then flags ++ [sig] else flags) blocks
      else register_new accepts registered new_sigs flags blocks

end blocks

/-- What one round of the loop did with the signals. -/
structure Tick where
  /-- The numbers whose signals came since the last round. -/
  received : List UInt8
  /-- Which blocks were refreshed by a signal. -/
  refreshed : List Bool
  /-- The amounts of all shifts. -/
  shifts : List UInt32

/-- The thread, between two rounds of its loop. -/
structure BlocksThread where
  blocks : List Block
  delim : Text
  /-- The numbers with a handler. -/
  flags : List UInt8
  cache : List Text
  time : ℕ
  prev_hash : ℕ
  latest_status : Text × List ℕ
  /-- The handlers the system takes, as of the last start or reload. -/
  accepts : UInt8 → Bool
  last : Option Tick

/-- Blocks and delimiter of a new configuration. -/
structure BlocksReload where
  blocks : List Block
  delim : Text
  accepts : UInt8 → Bool
  printed : ℕ → Option Text

/-- What happens before one round of the loop. -/
structure BlocksEvent where
  reload : Option BlocksReload
  received : List UInt8
  printed : ℕ → Option Text

namespace BlocksThread

/-- The thread as it enters its loop. -/
def start (bs : List Block) (delim : Text) (accepts : UInt8 → Bool)
    (printed : ℕ → Option Text) : BlocksThread where
  blocks := bs
  delim := delim
  flags := blocks.register_first accepts bs
  cache := blocks.initial_cache printed bs
  time := 0
  prev_hash := 0
  latest_status := ([], [])
  accepts := accepts
  last := none

/-- The reload at the head of a round. -/
def reload (s : BlocksThread) (r : BlocksReload) : BlocksThread :=
  { s with
    blocks := r.blocks
    delim := r.delim
    flags := blocks.register_new r.accepts (bits s.flags) 0 s.flags r.blocks
    cache := blocks.initial_cache r.printed r.blocks
    prev_hash := 0
    accepts := r.accepts }

/-- The shifts of a reload. -/
def reload_shifts (s : BlocksThread) (r : BlocksReload) : List UInt32 :=
  s.flags.map UInt8.toUInt32 ++ r.blocks.map fun block => block.signal.toUInt32

/-- The round after the reload; `shifts` are the amounts shifted by so far. -/
def tick (fast_hash : Text → ℕ) (s : BlocksThread) (e : BlocksEvent) (shifts : List UInt32) :
    BlocksThread :=
  let signal_mask := bits (s.flags.filter fun n => decide (n ∈ e.received))
  let cache := blocks.update_cache e.printed s.time signal_mask s.cache s.blocks
  let status := blocks.build_status_bounds cache s.delim
  let tick : Tick :=
    { received := e.received
      refreshed := s.blocks.map (blocks.by_signal signal_mask)
      shifts := shifts ++ s.flags.map UInt8.toUInt32 ++
        (s.blocks.filter fun block => block.signal != 0).map fun block => block.signal.toUInt32 }
  { s with
    cache := cache
    prev_hash := fast_hash status.1
    latest_status := if fast_hash status.1 = s.prev_hash then s.latest_status else status
    time := (s.time + 1) % u32
    last := some tick }

/-- The thread at the head of a round, after a reload if there is one. -/
def ready (s : BlocksThread) (e : BlocksEvent) : BlocksThread := (e.reload.map s.reload).getD s

/-- One round of the loop. -/
def step (fast_hash : Text → ℕ) (s : BlocksThread) (e : BlocksEvent) : BlocksThread :=
  (s.ready e).tick fast_hash e ((e.reload.map s.reload_shifts).getD [])

end BlocksThread

end Compositor
