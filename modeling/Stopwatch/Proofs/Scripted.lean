import Stopwatch.Run
import Stopwatch.Part
import Stopwatch.Script.Counters
import Stopwatch.Script.Snapshot

/-!
# Scripts of pairs

A script of pairs says what there is to be read on either side of each iteration
(`PairScript.reading`).  Both kinds of scripted backend can be made of it: counters, which take the
values off four queues, and a snapshot backend of one core, which looks the pairs up by their place.

The parties of a run other than the backend have a state of their own (`Session.beside`), and what
they do with it is left open.
-/

namespace Stopwatch

variable {τ ρ : Type}

/-! ### A backend beside the other parties -/

/-- The state of the backend. -/
def Part.left : Part (τ × ρ) τ where
  get w := w.1
  set t w := (t, w.2)

/-- The state of the other parties. -/
def Part.right : Part (τ × ρ) ρ where
  get w := w.2
  set r w := (w.1, r)

/-- A session whose backend shares no state with the other parties. -/
def Session.beside (config : Config) (backend : Backend (StateM τ))
    (benchmark : Int32 → StateM ρ Unit) (notify : Progress → StateM ρ Unit) :
    Session (StateM (τ × ρ)) where
  config := config
  backend := backend.change Part.left.run
  benchmark param := Part.right.run (benchmark param)
  notify p := Part.right.run (notify p)

/-! ### Scripts of pairs -/

/-- For the clock and each counter, one pair of values for each iteration. -/
structure PairScript where
  wallclock : List (Double × Double)
  cycles : List (UInt64 × UInt64)
  aperf : List (UInt64 × UInt64)
  mperf : List (UInt64 × UInt64)

namespace PairScript

variable (p : PairScript)

/-- The script has pairs for `n` iterations. -/
structure Covers (n : Nat) : Prop where
  wallclock : n ≤ p.wallclock.length
  cycles : n ≤ p.cycles.length
  aperf : n ≤ p.aperf.length
  mperf : n ≤ p.mperf.length

/-- What there is to be read in an iteration. -/
def reading (i : Nat) (slot : Slot) : Metric → Reading
  | .wallclock => .seconds (slot.pick (p.wallclock[i]?.getD (.zero, .zero)))
  | .coreCycles => .count (slot.pick (p.cycles[i]?.getD (0, 0)))
  | .aperf => .count (slot.pick (p.aperf[i]?.getD (0, 0)))
  | .mperf => .count (slot.pick (p.mperf[i]?.getD (0, 0)))

/-- The script as queues of values. -/
def toCounters : CounterScript := .ofPairs p.wallclock p.cycles p.aperf p.mperf

/-- The script as a snapshot backend of one core. -/
def toSnapshot : SnapshotReplay where
  script := {
    cores := 1
    wallclock := p.wallclock
    counter := fun
      | .wallclock => []
      | .coreCycles => p.cycles.map ([·])
      | .aperf => p.aperf.map ([·])
      | .mperf => p.mperf.map ([·]) }

end PairScript

end Stopwatch
