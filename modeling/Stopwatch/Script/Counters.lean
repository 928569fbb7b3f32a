import Stopwatch.Part
import Stopwatch.Backend

/-!
# Scripted counters

Counters that read out a script.  A `CounterScript` holds, for the clock and each counter, the
values still to be read; each reading takes the next one of its own queue, and an empty queue is an
error that says how many readings were taken from all queues together.  Scripts are usually written
as pairs, one `(before, after)` for each iteration.
-/

namespace Stopwatch

/-- The values still to be read. -/
structure CounterScript where
  wallclock : List Double := []
  cycles : List UInt64 := []
  aperf : List UInt64 := []
  mperf : List UInt64 := []
  /-- How many values have been read. -/
  reads : Nat := 0
  deriving Repr

namespace CounterScript

/-- The values of pairs, in the order in which they are read. -/
def queue {α : Type} (pairs : List (α × α)) : List α := pairs.flatMap fun (a, b) => [a, b]

/-- The script in which each iteration reads its pairs. -/
def ofPairs (wallclock : List (Double × Double)) (cycles aperf mperf : List (UInt64 × UInt64)) :
    CounterScript :=
  { wallclock := queue wallclock, cycles := queue cycles, aperf := queue aperf,
    mperf := queue mperf }

/-- Clock pairs `(i, i + delta)`. -/
def steady (iterations : Nat) (delta : Double) : List (Double × Double) :=
  (List.range iterations).map fun i => (Double.ofNat i, Double.ofNat i + delta)

/-- Read the next value of a queue. -/
def next {α : Type} (l : Part CounterScript (List α)) : Answer (StateM CounterScript) α := fun s =>
  match l.get s with
  | [] => (.error (.exhausted s.reads), s)
  | v :: rest => (.ok v, { l.set rest s with reads := s.reads + 1 })

/-- The counters that read out a script. -/
def counters : PerfCounters (StateM CounterScript) where
  now := next { get := (·.wallclock), set := fun q s => { s with wallclock := q } }
  cycles := next { get := (·.cycles), set := fun q s => { s with cycles := q } }
  aperf := next { get := (·.aperf), set := fun q s => { s with aperf := q } }
  mperf := next { get := (·.mperf), set := fun q s => { s with mperf := q } }

end CounterScript

end Stopwatch
