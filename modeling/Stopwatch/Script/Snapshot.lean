import Stopwatch.Part
import Stopwatch.Backend

/-!
# Scripted snapshots

A snapshot backend that reads out a script of `(before, after)` pairs: one pair of the clock for
each iteration, and for each counter a table of iterations and cores.  A counter that is not in its
table reads as zero.

Marking the first side of a benchmark call moves on to the next iteration; the script is never gone
back in, not even by a new `init`.  The iteration at hand is one that the clock script has, by its
type.
-/

namespace Stopwatch

/-- What a scripted snapshot backend answers. -/
structure SnapshotScript where
  cores : Nat
  wallclock : List (Double × Double)
  /-- The pair of a counter in an iteration, for each core. -/
  counter : Metric → List (List (UInt64 × UInt64)) := fun _ => []
  refusesInit : Bool := false

/-- A script that is being read out. -/
structure SnapshotReplay where
  script : SnapshotScript
  /-- The iteration at hand. -/
  current : Option (Fin script.wallclock.length) := none
  initialised : Bool := false

namespace SnapshotReplay

/-- The iteration that would be next. -/
def upcoming (s : SnapshotReplay) : Nat := s.current.elim 0 (· + 1)

/-- Begin, unless the script says otherwise. -/
def init : Answer (StateM SnapshotReplay) Unit := fun s =>
  if s.script.refusesInit then (.error (.unavailable "scripted" "init failure requested"), s)
  else (.ok (), { s with initialised := true })

/-- Take one side of a benchmark call; the first side moves on. -/
def mark (slot : Slot) : Answer (StateM SnapshotReplay) Unit := fun s =>
  if !s.initialised then (.error .notInitialised, s)
  else match slot with
    | .after => (.ok (), s)
    | .before =>
      if h : s.upcoming < s.script.wallclock.length then
        (.ok (), { s with current := some ⟨s.upcoming, h⟩ })
      else (.error (.exhausted s.upcoming), s)

/-- The scripted pair of a counter. -/
def pair (s : SnapshotReplay) (iteration core : Nat) (metric : Metric) : UInt64 × UInt64 :=
  (((s.script.counter metric)[iteration]?.bind (·[core]?))).getD (0, 0)

/-- What is read for one side of the iteration at hand. -/
def look (s : SnapshotReplay) (slot : Slot) (core : Nat) (metric : Metric) :
    Except BackendError Reading :=
  match s.current with
  | none => .error .notInitialised
  | some iteration =>
    if metric = .wallclock then .ok (.seconds (slot.pick (s.script.wallclock.get iteration)))
    else if s.script.cores ≤ core then .error (.coreOutOfRange core s.script.cores)
    else .ok (.count (slot.pick (s.pair iteration core metric)))

/-- The snapshot backend that reads out a script. -/
def snapshot : Snapshot (StateM SnapshotReplay) where
  init := init
  cores := fun s => (s.script.cores, s)
  mark := mark
  reading slot core metric := fun s => (s.look slot core metric, s)
  shutdown := fun s => (.ok (), { s with initialised := false })

end SnapshotReplay

end Stopwatch
