import Stopwatch.Part
import Stopwatch.Reporter

/-!
# Stages

A `Stage` is a place where a run can be watched from the outside.  Around the state that the backend
and the benchmark work on it has a log of what they do, a sink for each place that is written to,
and the warnings.  Diagnostics are taken without limit there, so a stage never sees the program
break down (`Stage.prints`).
-/

namespace Stopwatch

/-- A logged state among sinks. -/
structure Stage (σ : Type) extends Logged σ where
  diagnostics : Sink := {}
  markers : Sink := {}
  output : Sink := {}
  warnings : Array String := #[]

namespace Stage

variable {σ : Type}

/-- What the backend and the benchmark work on. -/
def scene : Part (Stage σ) (Logged σ) where
  get s := s.toLogged
  set t s := { s with toLogged := t }

/-- Where diagnostics go; all of them are taken. -/
def diagnosticsWriter : Writer (StateM (Stage σ)) where
  write bytes s := (.ok bytes.length, { s with diagnostics := s.diagnostics.accept bytes })
  flush := pure (.ok ())

/-- Where marker lines may go. -/
def markersPart : Part (Stage σ) Sink where
  get s := s.markers
  set t s := { s with markers := t }

/-- Where results go. -/
def outputPart : Part (Stage σ) Sink where
  get s := s.output
  set t s := { s with output := t }

/-- The sink in a part of a stage, as a writer. -/
def writer (l : Part (Stage σ) Sink) : Writer (StateM (Stage σ)) where
  write bytes := l.run (Sink.write bytes)
  flush := l.run Sink.flush

/-- Keep a warning. -/
def warn (warning : String) : StateM (Stage σ) Unit := fun s =>
  ((), { s with warnings := s.warnings.push warning })

/-- The stage as reporters see it; all marker lines that have a writer of their own go to one
sink. -/
def channels : Channels (StateM (Stage σ)) where
  diagnostics := diagnosticsWriter
  markers _ := writer markersPart
  warn := warn
  log line := scene.run (Logged.note line)
  -- Never asked for, since all diagnostics are taken.
  panic _ := pure ()

end Stage

end Stopwatch
