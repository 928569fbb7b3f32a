import Stopwatch.Run
import Stopwatch.Writer

/-!
# Reporters

A reporter is told of the progress of a run and writes about it: progress lines for people
(`console`), marker lines for an executor that lines up its own samples with the iterations
(`markers`), notes for a log (`log`), or nothing.  Reporters are put together into trees; a tree
hands everything it is told to its parts, from left to right.

What they write goes to `Channels` and never into the results.  A marker line that cannot be written
is a warning and no more.  A progress line is printed (`Channels.print`), and when it cannot be
written the program breaks down: what comes behind it is not done (`Outlets.channels`).
-/

namespace Stopwatch

/-- Where reporters write to. -/
structure Outlets (m : Type → Type) where
  diagnostics : Writer m
  /-- The writers set up for marker lines. -/
  markers : Nat → Writer m
  warn : String → m Unit
  log : String → m Unit

/-- Where reporters write to, and how the program breaks down there. -/
structure Channels (m : Type → Type) extends Outlets m where
  /-- Break down, with a message. -/
  panic : String → m Unit

/-- Print a line for people: it is taken for granted that it can be written. -/
def Channels.print {m : Type → Type} [Monad m] (ch : Channels m) (line : String) : m Unit := do
  match ← ch.diagnostics.writePieces [line, "\n"] with
  | .ok () => pure ()
  | .error e => ch.panic ("failed printing to stderr: " ++ e)

/-- A breakdown of the program, with its message. -/
structure Panic where
  message : String
  deriving DecidableEq, Repr

/-- Channels on which a breakdown unwinds the program: nothing goes on behind it. -/
def Outlets.channels {m : Type → Type} [Monad m] (o : Outlets m) : Channels (ExceptT Panic m) where
  diagnostics := o.diagnostics.change ExceptT.lift
  markers number := (o.markers number).change ExceptT.lift
  warn text := ExceptT.lift (o.warn text)
  log line := ExceptT.lift (o.log line)
  panic message := throw ⟨message⟩

/-- Which writer marker lines go to. -/
inductive MarkerTarget
  | diagnostics
  /-- One of the writers set up for them. -/
  | markers (number : Nat := 0)
  deriving DecidableEq, Repr

/-- The writer that marker lines go to. -/
def MarkerTarget.writer {m : Type → Type} (ch : Channels m) : MarkerTarget → Writer m
  | diagnostics => ch.diagnostics
  | markers number => ch.markers number

/-- Somebody who is told of the progress of a run. -/
inductive Reporter
  | silent
  /-- A progress line for every iteration, under a tag. -/
  | console (tag : String)
  /-- A marker line for every iteration. -/
  | markers (target : MarkerTarget)
  /-- A note of everything, under a tag. -/
  | log (tag : String)
  | all (parts : List Reporter)

namespace Reporter

/-- The tag of progress lines. -/
def defaultTag : String := "iterations_runner.rs"

/-- The line at the start of an iteration; it counts from one, in a machine word. -/
def progressLine (tag : String) (iteration total : Nat) : String :=
  s!"[{tag}] iteration {(iteration + 1) % UInt64.size}/{total}"

/-- The line at the end of an iteration, in the pieces in which it is written. -/
def markerPieces (iteration : Nat) : List String :=
  ["@@@ END_IN_PROC_ITER: ", toString iteration, "\n"]

/-- The note that a log takes of each stage; rows are counted in a machine word. -/
def logLine (tag : String) : Progress → String
  | .runStart config layout =>
    s!"{tag}:run_start iterations={config.iterations} rows={layout.rowCount % UInt64.size}"
  | .iterationStart iteration total => s!"{tag}:iteration_start {iteration}/{total}"
  | .iterationEnd iteration total => s!"{tag}:iteration_end {iteration}/{total}"
  | .runEnd _ _ recording => s!"{tag}:run_end complete={recording.isComplete}"

/-- What is said of a marker line that could not be written. -/
def markerWarning (e : String) : String := "failed to write instrumentation marker error=" ++ e

section Notify

variable {m : Type → Type} [Monad m]

/-- Write a marker line and flush. -/
def mark (w : Writer m) (iteration : Nat) : m (Except String Unit) := do
  match ← w.writePieces (markerPieces iteration) with
  | .error e => pure (.error e)
  | .ok () => w.flush

/-- Write a marker line, or warn. -/
def markOrWarn (ch : Channels m) (target : MarkerTarget) (iteration : Nat) : m Unit := do
  match ← mark (target.writer ch) iteration with
  | .ok () => pure ()
  | .error e => ch.warn (markerWarning e)

mutual

/-- Tell a reporter of progress. -/
def notify (ch : Channels m) : Reporter → Progress → m Unit
  | silent, _ => pure ()
  | console tag, .iterationStart iteration total => ch.print (progressLine tag iteration total)
  | console _, _ => pure ()
  | markers target, .iterationEnd iteration _ => markOrWarn ch target iteration
  | markers _, _ => pure ()
  | log tag, p => ch.log (logLine tag p)
  | all parts, p => notifyAll ch parts p

/-- Tell reporters of progress, one after the other. -/
def notifyAll (ch : Channels m) : List Reporter → Progress → m Unit
  | [], _ => pure ()
  | r :: rs, p => do
    notify ch r p
    notifyAll ch rs p

end

end Notify

/-- The reporters that a configuration asks for. -/
def partsFor (config : Config) : List Reporter :=
  (if config.debug then [console defaultTag] else []) ++
    (if config.instrumentation.isSome then [markers .diagnostics] else [])

/-- The reporter that a configuration asks for. -/
def ofConfig (config : Config) : Reporter := all (partsFor config)

end Reporter

end Stopwatch
