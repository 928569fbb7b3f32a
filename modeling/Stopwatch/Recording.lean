import Stopwatch.Layout
import Stopwatch.Double.Round

/-!
# Recordings

A `Recording` is the result of a run: for every row of a layout and every iteration one delta.  All
cells exist from the start and hold `sentinel`, and each row is written strictly in the order of the
iterations, so that a cell is written at most once and what is missing can be seen.

Rows are addressed in two ways: by their place in the layout (`Recording.put`), as a run does, and
by metric and core (`Recording.enter`).  Both work on a recording as it stands and may be refused.
What they make of a recording, given as a value, is `Recording.write` and `Recording.record`.
-/

namespace Stopwatch

/-- The value of a cell that was not written, `-1`.  No delta is negative. -/
def sentinel : Double := ⟨0xbff0000000000000⟩

/-- Why a delta is not recorded. -/
inductive RecordError
  /-- The layout has no such row. -/
  | unknownRow (metric : Metric) (core : Option Nat)
  /-- The row awaits another iteration. -/
  | outOfOrder (metric : Metric) (core : Option Nat) (iteration expected : Nat)
  /-- There is no such iteration. -/
  | overflow (iteration capacity : Nat)
  deriving DecidableEq, Repr

/-- The wording of a refusal to record. -/
def RecordError.message : RecordError → String
  | unknownRow metric core =>
    s!"no {metric.name} row{Metric.coreSuffix core} in this result matrix"
  | outOfOrder metric core iteration expected =>
    s!"{metric.name}{Metric.coreSuffix core} iteration {iteration} written out of order " ++
      s!"(next expected {expected})"
  | overflow iteration capacity =>
    s!"iteration {iteration} is beyond the {capacity} pre-allocated iterations"

/-- The state that an operation leaves behind, unless it fails. -/
def stateBehind {ε σ : Type} (x : ExceptT ε (StateM σ) Unit) (s : σ) : Except ε σ :=
  (x.run s).1.map fun _ => (x.run s).2

/-- One delta for each of `n` iterations. -/
structure Row (n : Nat) where
  cells : Vector Double n
  /-- The iteration to be written next. -/
  cursor : Nat

namespace Row

/-- A row with nothing written. -/
def blank (n : Nat) : Row n := ⟨Vector.replicate n sentinel, 0⟩

/-- Put the delta of an iteration, which must be the next one, into the row. -/
def put {n : Nat} (key : RowKey) (iteration : Nat) (delta : Double) :
    ExceptT RecordError (StateM (Row n)) Unit := do
  if h : iteration < n then
    let expected := (← get).cursor
    if iteration = expected then
      modify fun r => { r with cells := r.cells.set iteration delta h }
      modify fun r => { r with cursor := r.cursor + 1 }
    else throw (.outOfOrder key.1 key.2 iteration expected)
  else throw (.overflow iteration n)

/-- The row with the delta of an iteration, which must be the next one. -/
def write {n : Nat} (r : Row n) (key : RowKey) (iteration : Nat) (delta : Double) :
    Except RecordError (Row n) :=
  stateBehind (put key iteration delta) r

end Row

/-- The deltas of one metric. -/
inductive Series
  | flat (values : List Double)
  /-- One list per core, in the order of the cores. -/
  | perCore (rows : List (List Double))
  deriving DecidableEq, Repr

/-- The deltas of a run of `iterations` iterations. -/
structure Recording (layout : Layout) (iterations : Nat) where
  rows : Vector (Row iterations) layout.rowCount

namespace Recording

variable {layout : Layout} {iterations : Nat}

/-- The recording in which no cell is written. -/
def blank (layout : Layout) (iterations : Nat) : Recording layout iterations :=
  ⟨Vector.replicate layout.rowCount (Row.blank iterations)⟩

/-- The row at a place. -/
def rowAt (r : Recording layout iterations) (row : Fin layout.rowCount) : Row iterations :=
  r.rows[row]

/-- Put another row at a place. -/
def setRow (r : Recording layout iterations) (row : Fin layout.rowCount)
    (written : Row iterations) : Recording layout iterations :=
  ⟨r.rows.set row written⟩

/-- Put the delta of an iteration into a row given by its place. -/
def put (row : Fin layout.rowCount) (iteration : Nat) (delta : Double) :
    ExceptT RecordError (StateM (Recording layout iterations)) Unit :=
  ExceptT.mk fun r =>
    let (answer, written) := (Row.put (layout.rowKey row) iteration delta).run (r.rowAt row)
    (answer, r.setRow row written)

/-- Put the delta of an iteration into a row given by its metric and core. -/
def enter (metric : Metric) (core : Option Nat) (iteration : Nat) (delta : Double) :
    ExceptT RecordError (StateM (Recording layout iterations)) Unit :=
  match layout.rowOf? (metric, core) with
  | none => throw (.unknownRow metric core)
  | some row => put row iteration delta

/-- The recording with the delta of an iteration in a row given by its place. -/
def write (r : Recording layout iterations) (row : Fin layout.rowCount) (iteration : Nat)
    (delta : Double) : Except RecordError (Recording layout iterations) :=
  stateBehind (put row iteration delta) r

/-- The recording with the delta of an iteration in a row given by its metric and core. -/
def record (r : Recording layout iterations) (metric : Metric) (core : Option Nat)
    (iteration : Nat) (delta : Double) : Except RecordError (Recording layout iterations) :=
  stateBehind (enter metric core iteration delta) r

/-- Whether every cell of every row is written. -/
def isComplete (r : Recording layout iterations) : Bool :=
  r.rows.all fun row => row.cursor == iterations

/-- The cells of a row. -/
def values (r : Recording layout iterations) (row : Fin layout.rowCount) : List Double :=
  (r.rowAt row).cells.toList

/-- The rows of a metric, or nothing if the layout does not have it. -/
def series? (r : Recording layout iterations) (metric : Metric) : Option Series :=
  if layout.flat.contains metric then
    (layout.rowOf? (metric, none)).map fun row => .flat (r.values row)
  else if layout.perCore.contains metric then
    some <| .perCore <| (List.finRange layout.rowCount).filterMap fun row =>
      match layout.rowKey row with
      | (m, some _) => if m = metric then some (r.values row) else none
      | (_, none) => none
  else none

end Recording

end Stopwatch
