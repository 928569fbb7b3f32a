import Stopwatch.Document

/-!
# Configuration

What one run is asked to do.  A `Config` starts from the defaults, takes what the environment says
(`Config.ofEnvironment`), and is checked by `Config.validate` before anything is touched.

The blanks that are trimmed from both ends of a setting are the characters with the White_Space
property.
-/

namespace Stopwatch

namespace Text

/-- Whether a character has the White_Space property. -/
def isBlank (c : Char) : Bool :=
  let n := c.toNat
  (0x09 ≤ n && n ≤ 0x0d) || n == 0x20 || n == 0x85 || n == 0xa0 || n == 0x1680 ||
    (0x2000 ≤ n && n ≤ 0x200a) || n == 0x2028 || n == 0x2029 || n == 0x202f || n == 0x205f ||
    n == 0x3000

/-- A text without the blanks at its ends. -/
def trim (s : String) : String :=
  String.ofList ((s.toList.dropWhile isBlank).reverse.dropWhile isBlank).reverse

/-- A text with the ASCII capitals made small. -/
def lowerAscii (s : String) : String := String.ofList (s.toList.map Char.toLower)

end Text

/-- The backends that can be asked for. -/
inductive BackendChoice
  /-- The monotonic clock alone. -/
  | wallclock
  /-- The clock and the time-stamp counter. -/
  | tsc
  /-- The clock and the model-specific registers of the current core. -/
  | msr
  /-- Snapshots of every core through a native measurement library. -/
  | kruntime
  deriving DecidableEq, Repr

namespace BackendChoice

def all : List BackendChoice := [wallclock, tsc, msr, kruntime]

/-- The word by which a backend is asked for. -/
def name : BackendChoice → String
  | wallclock => "wallclock"
  | tsc => "tsc"
  | msr => "msr"
  | kruntime => "kruntime"

/-- The name of a backend in messages. -/
def title : BackendChoice → String
  | wallclock => "Wallclock"
  | tsc => "Tsc"
  | msr => "Msr"
  | kruntime => "Kruntime"

/-- The backend of a word, letter for letter. -/
def ofName? (s : String) : Option BackendChoice := all.find? (·.name == s)

end BackendChoice

namespace Shape

def all : List Shape := [flat, nested, keyed]

/-- The shape of a word, letter for letter. -/
def ofName? (s : String) : Option Shape := all.find? (·.name == s)

end Shape

/-- What an executor keeps books with; it only switches the marker lines on. -/
structure Instrumentation where
  dir : String
  key : String
  /-- Which execution of the key this process is. -/
  index : Nat
  deriving DecidableEq, Repr

/-- Why a configuration is refused. -/
inductive ConfigError
  | missingBenchmark
  | nonPositiveIterations (count : Int)
  | incompleteInstrumentation
  | invalidVariable (name value : String)
  deriving DecidableEq, Repr

/-- The wording of a refused configuration. -/
def ConfigError.message : ConfigError → String
  | missingBenchmark => "no benchmark given"
  | nonPositiveIterations count => s!"iteration count must be positive, got {count}"
  | incompleteInstrumentation =>
    "instrumentation mode needs a directory, a key and a key pexec index"
  | invalidVariable name value => s!"invalid value '{value}' for {name}"

/-- The configuration of one run. -/
structure Config where
  /-- The path of a shared library or the name of a registered benchmark. -/
  benchmark : String := ""
  iterations : Nat := 1
  /-- Handed to every call of the benchmark. -/
  param : Int32 := 0
  /-- Whether progress is reported. -/
  debug : Bool := false
  instrumentation : Option Instrumentation := none
  backend : BackendChoice := .wallclock
  /-- The shape of the document; without one the natural shape is taken. -/
  shape : Option Shape := none
  /-- The path of the measurement library. -/
  kruntimePath : String := "libkruntime.so"
  deriving DecidableEq

namespace Config

/-- The value of a variable among the words that are allowed, blanks at its ends and the case of
ASCII letters aside. -/
def ofVariable {α : Type} (ofName? : String → Option α) (name value : String) :
    Except ConfigError α :=
  match ofName? (Text.lowerAscii (Text.trim value)) with
  | some a => .ok a
  | none => .error (.invalidVariable name value)

/-- The defaults, overridden by the variables that are set. -/
def ofEnvironment (lookup : String → Option String) : Except ConfigError Config := do
  let backend ← match lookup "ITERS_BACKEND" with
    | none => pure .wallclock
    | some v => ofVariable BackendChoice.ofName? "ITERS_BACKEND" v
  let shape ← match lookup "ITERS_SHAPE" with
    | none => pure none
    | some v => some <$> ofVariable Shape.ofName? "ITERS_SHAPE" v
  let kruntimePath := (lookup "ITERS_KRUNTIME_LIB").getD "libkruntime.so"
  pure { backend, shape, kruntimePath }

/-- Refuse what cannot be run. -/
def validate (c : Config) : Except ConfigError Unit :=
  if c.benchmark.isEmpty then .error .missingBenchmark
  else if c.iterations = 0 then .error (.nonPositiveIterations 0)
  else match c.instrumentation with
    | some i =>
      if i.key.isEmpty || i.dir.isEmpty then .error .incompleteInstrumentation else .ok ()
    | none => .ok ()

end Config

end Stopwatch
