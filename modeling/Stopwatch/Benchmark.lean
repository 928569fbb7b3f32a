import Stopwatch.Benchmark.CustomName
import Stopwatch.Library.Measurement

/-!
# Benchmarks

A benchmark is anything that can be called with a parameter.  It is compiled in and registered under
a name, or it is the entry point of a shared library; `Benchmark.resolve` decides which of the two a
text means.  What exists as a path is always a library.  A name that does not exist is looked for
among the registered benchmarks, and only then, if it looks like the name of a library, left to the
loader.
-/

namespace Stopwatch

/-- Why a text means no benchmark. -/
inductive BenchmarkError
  | notFound (name : String)
  | load (path reason : String)
  /-- The library has no entry point. -/
  | missingEntryPoint (path : String)
  deriving DecidableEq, Repr

/-- The wording of a benchmark error. -/
def BenchmarkError.message : BenchmarkError → String
  | notFound name => s!"can't find benchmark '{name}'"
  | load path reason => s!"failed to load benchmark '{path}': {reason}"
  | missingEntryPoint path => s!"benchmark '{path}' is missing a 'run_iter' function"

/-- A benchmark that can be called. -/
inductive Benchmark (m : Type → Type)
  | registered (entry : Entry m)
  | dynamic (path : String) (runIter : Int32 → m Unit)

namespace Benchmark

variable {m : Type → Type} [Monad m]

def name : Benchmark m → String
  | registered entry => entry.name
  | dynamic path _ => path

/-- Call a benchmark. -/
def run : Benchmark m → Int32 → m Unit
  | registered entry => entry.run
  | dynamic _ runIter => runIter

/-- Whether a text occurs in another. -/
def occursIn (pattern : List Char) : List Char → Bool
  | [] => pattern.isEmpty
  | c :: cs => pattern.isPrefixOf (c :: cs) || occursIn pattern cs

/-- Whether a text looks like the file name of a shared library. -/
def looksLikeLibrary (text : String) : Bool :=
  [".so", ".dylib", ".dll"].any (fun ending => ending.toList.isSuffixOf text.toList) ||
    occursIn ".so.".toList text.toList

/-- Open a benchmark library. -/
def load (loader : Loader m) (path : String) : m (Except BenchmarkError (Benchmark m)) := do
  match ← loader.load path with
  | .error reason => pure (.error (.load path reason))
  | .ok library =>
    match library.runIter with
    | none => pure (.error (.missingEntryPoint path))
    | some runIter => pure (.ok (dynamic path runIter))

/-- The benchmark that a text means. -/
def resolve (entries : List (Entry m)) (loader : Loader m) (text : String) :
    m (Except BenchmarkError (Benchmark m)) := do
  if ← loader.leads text then load loader text
  else match Entry.find? entries text with
    | some entry => pure (.ok (registered entry))
    | none =>
      if looksLikeLibrary text then load loader text else pure (.error (.notFound text))

end Benchmark

end Stopwatch
