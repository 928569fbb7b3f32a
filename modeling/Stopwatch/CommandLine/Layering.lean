import Stopwatch.CommandLine.Arguments

/-!
# Layers of configuration

The command line is laid over a base, which comes from the environment.  What only the command line
can say is taken from it whatever the base has; the backend, the shape, and the path of the
measurement library stay as they are in the base unless the command line names them.
-/

namespace Stopwatch

/-- The instrumentation that is asked for: all three values together, or none. -/
def Arguments.instrumentation (a : Arguments) : Except ConfigError (Option Instrumentation) :=
  match a.directory, a.key, a.index with
  | none, none, none => .ok none
  | some dir, some key, some index => .ok (some { dir, key, index })
  | _, _, _ => .error .incompleteInstrumentation

/-- Whether progress is asked for. -/
def Arguments.wantsProgress (a : Arguments) : Bool := a.debug.any fun level => 0 < level.toInt

/-- Lay the command line over a base, and check the result. -/
def Config.overlaid (base : Config) (a : Arguments) : Except ConfigError Config := do
  let benchmark ← match a.benchmark with
    | none => .error .missingBenchmark
    | some b => pure b
  let iterations := (a.iterations.map Int32.toInt).getD 0
  if iterations < 0 then .error (.nonPositiveIterations iterations)
  let instrumentation ← a.instrumentation
  let config : Config :=
    { base with
      benchmark
      iterations := iterations.toNat
      param := a.param.getD 0
      debug := a.wantsProgress
      instrumentation
      backend := a.backend.getD base.backend
      shape := a.shape <|> base.shape
      kruntimePath := a.kruntime.getD base.kruntimePath }
  config.validate
  pure config

end Stopwatch
