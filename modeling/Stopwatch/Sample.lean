import Stopwatch.Metric
import Stopwatch.Double.Round
import Stopwatch.Double.Text

/-!
# Readings, samples and their deltas

A `Reading` is what a clock or a counter answers.  Counters stay whole numbers of 64 bits, so that
two of them are compared exactly however large they are.

A `Sample` holds the two readings of one metric around one benchmark call.  Its `delta` is
`stop - start`, and it is given out only when it can be trusted: the reading did not go backwards,
a clock difference is finite, and a counter difference is exactly a double.  Everything else is a
`MeasureError`, which carries the readings as they were taken.
-/

namespace Stopwatch

/-- A value read from a clock or a counter. -/
inductive Reading
  /-- A clock value in seconds. -/
  | seconds (value : Double)
  /-- A counter value. -/
  | count (value : UInt64)
  deriving DecidableEq, Repr

namespace Reading

/-- A reading in a message. -/
def text : Reading → String
  | seconds s => s.text .plain
  | count c => toString c.toNat

/-- A reading in a dump, with its kind. -/
def dump : Reading → String
  | seconds s => "Seconds(" ++ s.text .tagged ++ ")"
  | count c => "Count(" ++ toString c.toNat ++ ")"

/-- Equality as numbers; a NaN is not equal to itself. -/
def numEq : Reading → Reading → Bool
  | seconds a, seconds b => a.numEq b
  | count a, count b => a == b
  | _, _ => false

end Reading

/-- Why a sample has no delta. -/
inductive MeasureError
  /-- The reading before the call is greater than the one after it. -/
  | nonMonotonic (metric : Metric) (core : Option Nat) (start stop : Reading)
  /-- A clock reading, or the difference of two, is infinite or not a number. -/
  | nonFinite (metric : Metric) (core : Option Nat) (start stop : Reading)
  /-- A counter difference is not exactly a double. -/
  | precisionLoss (metric : Metric) (core : Option Nat) (delta : UInt64)
  /-- One reading is a clock value and the other a counter value. -/
  | mixedReadings (metric : Metric) (core : Option Nat) (start stop : Reading)
  deriving DecidableEq, Repr

/-- The wording of a measurement error.  Lost precision is shown as the whole number that the
nearest double stands for. -/
def MeasureError.message : MeasureError → String
  | nonMonotonic metric core start stop =>
    s!"{metric.name} error{Metric.coreSuffix core}: start={start.text}, stop={stop.text}"
  | nonFinite metric core start stop =>
    s!"{metric.name} error{Metric.coreSuffix core}: non-finite reading start={start.text}, " ++
      s!"stop={stop.text}"
  | precisionLoss metric core delta =>
    s!"loss of precision detected for {metric.name}{Metric.coreSuffix core}: {delta.toNat} != " ++
      toString (Double.ofNat delta.toNat).wholePart
  | mixedReadings metric core start stop =>
    s!"{metric.name} error{Metric.coreSuffix core}: mismatched readings start={start.text}, " ++
      s!"stop={stop.text}"

/-- The readings of one metric on both sides of one benchmark call. -/
structure Sample where
  metric : Metric
  /-- Absent for a metric that does not exist per core. -/
  core : Option Nat
  start : Reading
  stop : Reading
  deriving DecidableEq, Repr

namespace Sample

/-- The difference of two clock values, if both are finite, in order, and no further apart than a
double can tell. -/
def secondsDelta (s : Sample) (start stop : Double) : Except MeasureError Double :=
  if !start.isFinite || !stop.isFinite then .error (.nonFinite s.metric s.core s.start s.stop)
  else if stop.lt start then .error (.nonMonotonic s.metric s.core s.start s.stop)
  else
    let delta := stop - start
    if delta.isFinite then .ok delta
    else .error (.nonFinite s.metric s.core s.start s.stop)

/-- The difference of two counter values, if they are in order and it is the same whole number again
after it was made a double. -/
def countDelta (s : Sample) (start stop : UInt64) : Except MeasureError Double :=
  if stop < start then .error (.nonMonotonic s.metric s.core s.start s.stop)
  else
    let delta := stop - start
    let value := Double.ofNat delta.toNat
    if value.wholePart = delta.toNat then .ok value
    else .error (.precisionLoss s.metric s.core delta)

/-- How far the reading advanced during the call. -/
def delta (s : Sample) : Except MeasureError Double :=
  match s.start, s.stop with
  | .seconds start, .seconds stop => s.secondsDelta start stop
  | .count start, .count stop => s.countDelta start stop
  | _, _ => .error (.mixedReadings s.metric s.core s.start s.stop)

end Sample

end Stopwatch
