import Stopwatch.CommandLine.Layering
import Stopwatch.Execution
import Stopwatch.Hardware

/-!
# The program

From the words of the command line and the environment to an exit code.  Results, lists and
requested texts go to the output; progress, markers, and the one line that tells of a failure go to
the diagnostics.  That line is printed (`Channels.print`), so there is no exit code when it cannot
be written.

What a program finds around it is its `Platform`: hardware, shared libraries, and a place to
remember what is known of a measurement library in use.  On a platform every backend that can be
asked for can be tried (`Platform.backend`).
-/

namespace Stopwatch

/-! ### Platforms -/

/-- The surroundings of a program. -/
structure Platform (m : Type → Type) where
  hardware : Hardware m
  loader : Loader m
  /-- Run an operation on what is known of the measurement library. -/
  binding : {α : Type} → StateT Binding m α → m α

namespace Platform

variable {m : Type → Type} [Monad m]

/-- Open a measurement library. -/
def measurementLibrary (p : Platform m) (path : String) : Answer m (MeasurementLibrary m) :=
  ExceptT.mk do
    match ← p.loader.load path with
    | .error reason => pure (.error (.library path reason))
    | .ok library => pure (library.measurement.resolve path)

/-- Open the backend that is asked for. -/
def backend (p : Platform m) (kruntimePath : String) : BackendChoice → Answer m (Backend m)
  | .wallclock => Prod.fst <$> p.hardware.device .clock
  | .tsc => Prod.fst <$> p.hardware.device .timestamp
  | .msr => Prod.fst <$> p.hardware.device (.counters none)
  | .kruntime => do
    let l ← p.measurementLibrary kruntimePath
    pure (.snapshot (l.snapshot.change p.binding))

end Platform

/-! ### Running a program -/

/-- The parties of the program. -/
structure Program (m : Type → Type) where
  platform : Platform m
  /-- The benchmarks that are compiled in. -/
  entries : List (Entry m)
  environment : String → Option String
  channels : Channels m
  output : Writer m

/-- A failure of the program. -/
inductive ProgramFailure
  | environment (e : ConfigError)
  | arguments (e : ConfigError)
  | execution (e : Failure)
  /-- The list of benchmarks could not be written. -/
  | list (source : String)

/-- The texts of a failure of the program, from the outermost to the innermost. -/
def ProgramFailure.chain : ProgramFailure → List String
  | environment e => ["invalid environment", e.message]
  | arguments e => ["invalid arguments", e.message]
  | execution e => e.chain
  | list source => [source]

/-- The configuration of an environment and a command line, of which one is laid over the other. -/
def Config.ofLayers (environment : String → Option String) (a : Arguments) :
    Except ProgramFailure Config := do
  let base ← (Config.ofEnvironment environment).mapError .environment
  (base.overlaid a).mapError .arguments

namespace Program

/-- What is written when the version is asked for. -/
def versionText : String := "iterations-runner 0.1.0\n"

/-- How the program is called. -/
def usageText : String :=
  "Usage: iterations-runner [OPTIONS] <BENCHMARK> <ITERATIONS> <PARAM> <DEBUG> " ++
    "[INSTRUMENT_DIR] [KEY] [KEY_PEXEC_INDEX]\n"

/-- What is written when help is asked for. -/
def helpText : String :=
  "Run one benchmark for a fixed number of in-process iterations\n\n" ++ usageText ++
  "\nArguments:\n" ++
  "  [BENCHMARK]        Shared library path or registered benchmark name\n" ++
  "  [ITERATIONS]       Number of in-process iterations\n" ++
  "  [PARAM]            Parameter passed to every call of the benchmark\n" ++
  "  [DEBUG]            Debug flag; values above 0 print progress\n" ++
  "  [INSTRUMENT_DIR]   Instrumentation directory\n" ++
  "  [KEY]              Instrumentation key\n" ++
  "  [KEY_PEXEC_INDEX]  Instrumentation key pexec index\n" ++
  "\nOptions:\n" ++
  "      --backend <BACKEND>    wallclock, tsc, msr or kruntime [env: ITERS_BACKEND]\n" ++
  "      --shape <SHAPE>        flat, nested or keyed [env: ITERS_SHAPE]\n" ++
  "      --kruntime <KRUNTIME>  Path to libkruntime [env: ITERS_KRUNTIME_LIB]\n" ++
  "      --list                 List registered benchmarks and exit\n" ++
  "  -h, --help                 Print help\n" ++
  "  -V, --version              Print version\n"

variable {m : Type → Type} [Monad m]

/-- The configuration of the environment and the command line. -/
def config (p : Program m) (a : Arguments) : Except ProgramFailure Config :=
  Config.ofLayers p.environment a

/-- The execution of a configuration on the platform. -/
def execution (p : Program m) : Execution m where
  resolve := Benchmark.resolve p.entries p.platform.loader
  openBackend config := p.platform.backend config.kruntimePath config.backend
  channels := p.channels
  output := p.output

/-- Do what the command line asks for. -/
def act (p : Program m) (a : Arguments) : m (Except ProgramFailure Unit) := do
  if a.list then
    let lines := (Entry.names p.entries).map (· ++ "\n")
    return (← p.output.writePieces lines).mapError .list
  match p.config a with
  | .error e => return .error e
  | .ok config => return (← p.execution.run config).mapError .execution

/-- Run the program; the answer is the exit code. -/
def run (p : Program m) (words : List String) : m UInt8 := do
  match Arguments.parse words with
  | .error .help =>
    let _ ← p.output.writePieces [helpText]
    return 0
  | .error .version =>
    let _ ← p.output.writePieces [versionText]
    return 0
  | .error (.usage _) =>
    let _ ← p.channels.diagnostics.writePieces [usageText]
    return 2
  | .ok a =>
    match ← p.act a with
    | .ok () => return 0
    | .error e =>
      p.channels.print ("error: " ++ inOneLine e.chain)
      return 1

end Program

end Stopwatch
