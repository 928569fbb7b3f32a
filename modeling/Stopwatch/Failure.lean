import Stopwatch.Benchmark
import Stopwatch.Document
import Stopwatch.Run

/-!
# Failures

Everything that can end a run, under one roof.  A `Cause` is an error of one of the parties; some
wrap the error of a system call, whose text is then told once more.  A `Failure` adds at which stage
it came up, and is told as a chain, from the stage down to the innermost text.
-/

namespace Stopwatch

/-- An error of one of the parties of a run. -/
inductive Cause
  | config (e : ConfigError)
  | benchmark (e : BenchmarkError)
  | backend (e : BackendError)
  | measure (e : MeasureError)
  | record (e : RecordError)
  | output (e : OutputError)
  deriving DecidableEq

namespace Cause

def ofRunError : RunError → Cause
  | .backend e => backend e
  | .measure e => measure e
  | .record e => record e

def message : Cause → String
  | config e => e.message
  | benchmark e => e.message
  | backend e => e.message
  | measure e => e.message
  | record e => e.message
  | output e => e.message

/-- The text of the error that is wrapped. -/
def source? : Cause → Option String
  | backend (.io _ source) => some source
  | output (.document source) => some source
  | output (.closing source) => some source
  | _ => none

/-- The texts of an error, from the outermost to the innermost. -/
def chain (c : Cause) : List String := c.message :: c.source?.toList

end Cause

/-- An error, and the stage at which it came up. -/
inductive Failure
  | config (e : ConfigError)
  | benchmark (name : String) (e : BenchmarkError)
  | backend (choice : BackendChoice) (e : BackendError)
  | run (e : RunError)
  | output (e : OutputError)
  deriving DecidableEq

namespace Failure

/-- The error without its stage. -/
def cause : Failure → Cause
  | config e => .config e
  | benchmark _ e => .benchmark e
  | backend _ e => .backend e
  | run e => .ofRunError e
  | output e => .output e

/-- What did not work out. -/
def context : Failure → String
  | config _ => "invalid configuration"
  | benchmark name _ => s!"failed to load benchmark '{name}'"
  | backend choice _ => s!"failed to open {choice.title} backend"
  | run _ => "measurement aborted"
  | output _ => "failed to write results"

/-- The texts of a failure, from the outermost to the innermost. -/
def chain (f : Failure) : List String := f.context :: f.cause.chain

end Failure

/-- A chain of texts in one line. -/
def inOneLine (chain : List String) : String := String.intercalate ": " chain

end Stopwatch
