import Stopwatch.Config
import Stopwatch.CommandLine.Numeral

/-!
# Arguments

What stands on the command line: up to seven values told apart by their places, three settings and a
switch given by name, and requests for help and the version.  `Arguments.parse` reads the words from
left to right.

A value is not looked at before the next argument begins: it is held back (`Scan.pending`) and
settled then, or at the end.  So of two faults the one that comes up first when the words are read
in this way is reported; a name that does not exist, for one, is found before the value in front of
it is.
-/

namespace Stopwatch

/-- What a value on the command line is for. -/
inductive Parameter
  | benchmark
  | iterations
  | param
  | debug
  | directory
  | key
  | index
  | backend
  | shape
  | kruntime
  deriving DecidableEq, Repr

namespace Parameter

/-- The values that are told apart by their places, in order. -/
def places : List Parameter := [benchmark, iterations, param, debug, directory, key, index]

/-- The setting of a name. -/
def ofName? : String → Option Parameter
  | "backend" => some backend
  | "shape" => some shape
  | "kruntime" => some kruntime
  | _ => none

/-- Whether a negative number may stand in a place. -/
def takesNegative : Parameter → Bool
  | iterations => true
  | param => true
  | debug => true
  | _ => false

end Parameter

/-- Why a command line is not understood. -/
inductive UsageError
  | missingArgument
  | unknownArgument
  /-- A value is missing, empty, or not among the words that are allowed. -/
  | invalidValue
  /-- A value is not a number, or out of range. -/
  | invalidNumber
  /-- A setting or a switch is given twice. -/
  | repeated
  /-- A value is given to a switch. -/
  | unwantedValue
  deriving DecidableEq, Repr

/-- Why reading the command line ends early. -/
inductive Stop
  | help
  | version
  | usage (e : UsageError)
  deriving DecidableEq, Repr

/-- What was given on the command line. -/
structure Arguments where
  benchmark : Option String := none
  iterations : Option Int32 := none
  param : Option Int32 := none
  debug : Option Int32 := none
  directory : Option String := none
  key : Option String := none
  index : Option Nat := none
  backend : Option BackendChoice := none
  shape : Option Shape := none
  kruntime : Option String := none
  list : Bool := false
  deriving DecidableEq

namespace Arguments

/-- A value, or an error if there is none. -/
def accept {α : Type} (e : UsageError) : Option α → Except UsageError α
  | some v => .ok v
  | none => .error e

/-- A text that is not empty. -/
def path (v : String) : Except UsageError String :=
  if v.isEmpty then .error .invalidValue else .ok v

/-- Whether a setting was given before. -/
def has (a : Arguments) : Parameter → Bool
  | .backend => a.backend.isSome
  | .shape => a.shape.isSome
  | .kruntime => a.kruntime.isSome
  | _ => false

/-- Take a value for what it is for. -/
def take (a : Arguments) (p : Parameter) (v : String) : Except UsageError Arguments :=
  if a.has p then .error .repeated
  else match p with
    | .benchmark => .ok { a with benchmark := some v }
    | .iterations => do
      let n ← accept .invalidNumber (Numeral.int32? v)
      pure { a with iterations := some n }
    | .param => do
      let n ← accept .invalidNumber (Numeral.int32? v)
      pure { a with param := some n }
    | .debug => do
      let n ← accept .invalidNumber (Numeral.int32? v)
      pure { a with debug := some n }
    | .directory => do
      let d ← path v
      pure { a with directory := some d }
    | .key => .ok { a with key := some v }
    | .index => do
      let n ← accept .invalidNumber (Numeral.word? v)
      pure { a with index := some n }
    | .backend => do
      let b ← accept .invalidValue (BackendChoice.ofName? v)
      pure { a with backend := some b }
    | .shape => do
      let s ← accept .invalidValue (Shape.ofName? v)
      pure { a with shape := some s }
    | .kruntime => do
      let k ← path v
      pure { a with kruntime := some k }

/-- Whether everything is there that a run needs. -/
def isSufficient (a : Arguments) : Bool :=
  a.list || (a.benchmark.isSome && a.iterations.isSome && a.param.isSome && a.debug.isSome)

end Arguments

/-- How far a command line has been read. -/
structure Scan where
  arguments : Arguments := {}
  /-- The last argument that takes a value, and the value if it has come. -/
  pending : Option (Parameter × Option String) := none
  /-- The places that are still free. -/
  places : List Parameter := Parameter.places
  /-- Whether all that follows are values. -/
  trailing : Bool := false

namespace Scan

/-- Stop with a fault. -/
def fail {α : Type} (e : UsageError) : Except Stop α := .error (.usage e)

/-- Take the value that was held back. -/
def settle (s : Scan) : Except Stop Scan :=
  match s.pending with
  | none => .ok s
  | some (_, none) => fail .invalidValue
  | some (p, some v) =>
    match s.arguments.take p v with
    | .ok a => .ok { s with arguments := a, pending := none }
    | .error e => fail e

/-- Read a value that is known by its place. -/
def place (s : Scan) (word : String) : Except Stop Scan :=
  match s.places with
  | [] => fail .unknownArgument
  | p :: rest => do
    let s ← s.settle
    pure { s with pending := some (p, some word), places := rest }

/-- Read a word that is a value. -/
def value (s : Scan) (word : String) : Except Stop Scan :=
  match s.pending with
  | some (p, none) => .ok { s with pending := some (p, some word) }
  | _ => s.place word

/-- Read a switch. -/
def switch (s : Scan) (name : String) : Except Stop Scan := do
  let s ← s.settle
  match name with
  | "help" => .error .help
  | "version" => .error .version
  | _ =>
    if s.arguments.list then fail .repeated
    else pure { s with arguments := { s.arguments with list := true } }

/-- Read a setting or a switch by its name. -/
def named (s : Scan) (name : String) (v : Option String) : Except Stop Scan :=
  match Parameter.ofName? name, v with
  | some p, some v => do
    let s ← s.settle
    { s with pending := some (p, some v) }.settle
  | some p, none => do
    let s ← s.settle
    pure { s with pending := some (p, none) }
  | none, v =>
    if ["list", "help", "version"].contains name then
      if v.isSome then fail .unwantedValue else s.switch name
    else fail .unknownArgument

/-- Read a word of one hyphen and more: a negative number where one may stand, or letters. -/
def hyphened (s : Scan) (word : String) (letters : List Char) : Except Stop Scan :=
  if (s.places.head?.elim false Parameter.takesNegative) && Numeral.looksNumeric letters then
    s.value word
  else match letters with
    | 'h' :: _ => s.switch "help"
    | 'V' :: _ => s.switch "version"
    | _ => fail .unknownArgument

/-- Read a word. -/
def step (s : Scan) (word : String) : Except Stop Scan :=
  if s.trailing then s.place word
  else match word.toList with
    | ['-', '-'] => .ok { s with trailing := true }
    | '-' :: '-' :: cs =>
      let (name, rest) := cs.span (· ≠ '=')
      s.named (String.ofList name) (match rest with
        | [] => none
        | _ :: v => some (String.ofList v))
    | '-' :: c :: cs => s.hyphened word (c :: cs)
    | _ => s.value word

/-- The end of the command line. -/
def finish (s : Scan) : Except Stop Arguments := do
  let s ← s.settle
  if s.arguments.isSufficient then pure s.arguments else fail .missingArgument

end Scan

/-- Read a command line. -/
def Arguments.parse (words : List String) : Except Stop Arguments := do
  let s ← words.foldlM Scan.step {}
  s.finish

end Stopwatch
