import Stopwatch.Library.Measurement
import Stopwatch.Part

/-!
# Measurement libraries of known behaviour

A library whose readings are known beforehand.  It keeps the number of the iteration at hand, which
each measurement of the first side moves on and nothing moves back; before the first one it is `-1`.
`LibraryModel` says what each reading is, by iteration, side, and core.  All calls are logged but
those that hand out readings.
-/

namespace Stopwatch

/-- What a library answers. -/
structure LibraryModel where
  cores : Int32
  /-- The clock in an iteration and on a side. -/
  wallclock : Int → Nat → Double
  /-- A counter in an iteration, on a side, and of a core. -/
  counter : Metric → Int → Nat → Nat → UInt64

namespace LibraryModel

/-- Two cores; every iteration takes half a second, and each counter advances a little more for each
core, iteration and metric. -/
def steady : LibraryModel where
  cores := 2
  wallclock iteration side :=
    if side = 0 then Double.ofInt iteration
    else Double.ofInt iteration + Double.ofDecimal false 5 (-1)
  counter metric iteration side core :=
    let base : Int := 100 * metric.index
    if side = 0 then UInt64.ofInt base
    else UInt64.ofInt (base + 10 * (core + 1) + iteration + (metric.index - 1))

/-- The reading of a pair on a side. -/
def onSide {α : Type} (side : Nat) (pair : α × α) : α := if side = 0 then pair.1 else pair.2

/-- The values of a table of iterations; zero where it has none. -/
def ofTables (cores : Int32) (wallclock : List (Double × Double))
    (counter : Metric → List (List (UInt64 × UInt64))) : LibraryModel where
  cores := cores
  wallclock
    | .ofNat i, side => (wallclock[i]?).elim .zero (onSide side)
    | .negSucc _, _ => .zero
  counter
    | metric, .ofNat i, side, core =>
      ((counter metric)[i]?.bind (·[core]?)).elim 0 (onSide side)
    | _, .negSucc _, _, _ => 0

/-- The model with another pair of clock values in one iteration. -/
def withClock (l : LibraryModel) (iteration : Int) (pair : Double × Double) : LibraryModel :=
  { l with wallclock := fun i side =>
      if i = iteration then onSide side pair else l.wallclock i side }

/-- The model with another pair of values of a counter in one iteration and on one core. -/
def withCounter (l : LibraryModel) (metric : Metric) (iteration : Int) (core : Nat)
    (pair : UInt64 × UInt64) : LibraryModel :=
  { l with
    counter := fun m i side c =>
      if m = metric ∧ i = iteration ∧ c = core then onSide side pair else l.counter m i side c }

/-- Note a call and make it. -/
def call {α : Type} (line : String) (a : StateM Int α) : StateM (Logged Int) α := do
  Logged.note line
  Logged.inner.run a

/-- Look up a counter in the iteration at hand. -/
def look (l : LibraryModel) (metric : Metric) (side core : Int32) : StateM (Logged Int) UInt64 :=
  fun s => (l.counter metric s.state side.toInt.toNat core.toInt.toNat, s)

/-- The library that answers so; its state is the number of the iteration. -/
def exports (l : LibraryModel) : MeasurementExports (StateM (Logged Int)) where
  init := some (Logged.note "krun_init")
  done := some (Logged.note "krun_done")
  measure := some fun side =>
    call s!"krun_measure {side}" fun i => ((), if side = 0 then i + 1 else i)
  coreCount := some (call "krun_get_num_cores" fun i => (l.cores, i))
  wallclock := some fun side s => (l.wallclock s.state side.toInt.toNat, s)
  coreCycles := some (l.look .coreCycles)
  aperf := some (l.look .aperf)
  mperf := some (l.look .mperf)

end LibraryModel

end Stopwatch
