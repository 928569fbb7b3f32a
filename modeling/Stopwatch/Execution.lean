import Stopwatch.Failure
import Stopwatch.Reporter

/-!
# Executions

An execution takes a configuration through all stages: check it, resolve the benchmark, open the
backend, measure, and write the results.  Each stage is entered only if the ones before it went
well, so that nothing is opened for a benchmark that does not exist, and nothing is written of a run
that was broken off.  What a run warns of is passed on whatever its result.
-/

namespace Stopwatch

/-- The parties of an execution. -/
structure Execution (m : Type → Type) where
  resolve : String → m (Except BenchmarkError (Benchmark m))
  openBackend : Config → Answer m (Backend m)
  channels : Channels m
  output : Writer m

namespace Execution

variable {m : Type → Type} [Monad m]

/-- The run of a benchmark on a backend, with the reporters that the configuration asks for. -/
def session (x : Execution m) (config : Config) (benchmark : Benchmark m) (backend : Backend m) :
    Session m where
  config := config
  backend := backend
  benchmark := benchmark.run
  notify := (Reporter.ofConfig config).notify x.channels

/-- Write the results of a run, in the shape that is asked for or else the natural one. -/
def deliver (x : Execution m) (config : Config) {layout : Layout} {n : Nat}
    (results : Recording layout n) : m (Except Failure Unit) := do
  match ← results.writeTo (config.shape.getD (.natural layout)) x.output with
  | .ok () => pure (.ok ())
  | .error e => pure (.error (.output e))

/-- Measure as configured and write the results. -/
def run (x : Execution m) (config : Config) : m (Except Failure Unit) := do
  match config.validate with
  | .error e => pure (.error (.config e))
  | .ok () =>
    match ← x.resolve config.benchmark with
    | .error e => pure (.error (.benchmark config.benchmark e))
    | .ok benchmark =>
      match ← (x.openBackend config).run with
      | .error e => pure (.error (.backend config.backend e))
      | .ok backend =>
        let outcome ← (x.session config benchmark backend).run
        outcome.warnings.forM x.channels.warn
        match outcome.result with
        | .error e => pure (.error (.run e))
        | .ok ⟨_, results⟩ => x.deliver config results

end Execution

end Stopwatch
