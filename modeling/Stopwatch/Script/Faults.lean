import Stopwatch.Part
import Stopwatch.Backend

/-!
# Scripted faults

A snapshot backend that fails where it is told to.  Its calls are numbered, each verb for itself,
and a `FaultScript` says which call fails and what each reading answers.  Nothing is checked:
neither whether it was begun nor which cores there are.  Every call is logged, readings included.
-/

namespace Stopwatch

/-- The verbs whose calls are numbered. -/
inductive Verb
  | init
  | mark
  | shutdown
  deriving DecidableEq, Repr

/-- The name of a verb in a log. -/
def Verb.name : Verb → String
  | init => "init"
  | mark => "mark"
  | shutdown => "shutdown"

/-- What a backend with faults answers. -/
structure FaultScript where
  cores : Nat := 0
  /-- The error of a numbered call. -/
  fault : Verb → Nat → Option BackendError := fun _ _ => none
  /-- The answer to a reading: its iteration, side, core and metric. -/
  reading : Nat → Slot → Nat → Metric → Option (Except BackendError Reading) :=
    fun _ _ _ _ => none

/-- How far a backend with faults has come. -/
structure FaultReplay where
  script : FaultScript := {}
  /-- How often each verb was called. -/
  calls : Verb → Nat := fun _ => 0
  current : Option Nat := none

namespace FaultReplay

/-- What a reading answers that the script does not mention. -/
def idle : Metric → Reading
  | .wallclock => .seconds .zero
  | _ => .count 0

/-- Make a numbered call, after a change to the state. -/
def call (verb : Verb) (change : FaultReplay → FaultReplay) :
    Answer (StateM (Logged FaultReplay)) Unit := fun s =>
  let n := s.state.calls verb
  let count := fun v => if v = verb then n + 1 else s.state.calls v
  (match s.state.script.fault verb n with
    | some e => .error e
    | none => .ok (),
   { state := { change s.state with calls := count },
     lines := s.lines.push s!"{verb.name} {n}" })

/-- Go on to the next iteration. -/
def advance (s : FaultReplay) : FaultReplay :=
  { s with current := some (s.current.elim 0 (· + 1)) }

/-- The answer to a reading. -/
def look (slot : Slot) (core : Nat) (metric : Metric) :
    Answer (StateM (Logged FaultReplay)) Reading := fun s =>
  let iteration := s.state.current.getD 0
  ((s.state.script.reading iteration slot core metric).getD (.ok (idle metric)),
   { s with lines := s.lines.push s!"reading {iteration} {slot.index} {core} {metric.name}" })

/-- The snapshot backend with scripted faults. -/
def snapshot : Snapshot (StateM (Logged FaultReplay)) where
  init := call .init id
  cores := fun s => (s.state.script.cores, s)
  mark
    | .before => call .mark advance
    | .after => call .mark id
  reading := look
  shutdown := call .shutdown id

end FaultReplay

end Stopwatch
