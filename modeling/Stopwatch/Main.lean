import Stopwatch.Program
import Stopwatch.Benchmark.Demo

/-!
# The command line

The program on the real machine.  The clock is the only hardware that can be read from here, and
shared libraries cannot be opened; the demonstration benchmarks are compiled in.
-/

namespace Stopwatch

/-- The octets of a list as they are written to a stream. -/
def chunk (bytes : List UInt8) : ByteArray := ⟨bytes.toArray⟩

/-- A stream as a writer. -/
def streamWriter (stream : IO.FS.Stream) : Writer IO where
  write bytes := do
    match ← (stream.write (chunk bytes)).toBaseIO with
    | .ok () => return .ok bytes.length
    | .error e => return .error (toString e)
  flush := do
    match ← stream.flush.toBaseIO with
    | .ok () => return .ok ()
    | .error e => return .error (toString e)

/-- The clock of the real machine. -/
def realHardware : Hardware IO where
  clock := do
    let now ← IO.monoNanosNow
    return .ok (now / 1000000000, now % 1000000000)
  timestamp := .error "no cycle counter on this machine"
  currentCore := return .error (.code 38)
  counterInfo := return ⟨0, 0⟩
  openDevice _ := return .error (.code 38)
  read _ := return .error (.code 38)
  write _ _ := return .error (.code 38)

/-- A loader that finds no libraries. -/
def noLoader : Loader IO where
  leads _ := return false
  load _ := return .error "shared libraries are not supported"

/-- A worker that really works. -/
def realWorker : Worker IO where
  sleep ms := IO.sleep ms.toUInt32
  check complaint holds := unless holds () do throw (IO.userError complaint)

/-- The program on the real machine, given where it writes, what it remembers, and its
environment. -/
def realProgram (output diagnostics : Writer IO) (known : IO.Ref Binding)
    (environment : String → Option String) : Program IO where
  platform := {
    hardware := realHardware
    loader := noLoader
    binding := fun a => do
      let (x, b) ← a.run (← known.get)
      known.set b
      return x }
  entries := Demo.entries "demo" realWorker
  environment := environment
  channels := {
    diagnostics := diagnostics
    markers _ := diagnostics
    warn := fun warning => do
      let _ ← diagnostics.writePieces ["WARN ", warning, "\n"]
    log := fun _ => return
    panic message := throw (IO.userError message) }
  output := output

/-- The exit code of a program that broke down. -/
def panicCode : UInt32 := 101

end Stopwatch

def main (words : List String) : IO UInt32 := do
  let output := Stopwatch.streamWriter (← IO.getStdout)
  let diagnostics := Stopwatch.streamWriter (← IO.getStderr)
  let known ← IO.mkRef ({} : Stopwatch.Binding)
  let names := ["ITERS_BACKEND", "ITERS_SHAPE", "ITERS_KRUNTIME_LIB"]
  let values ← names.mapM fun name => return (name, ← IO.getEnv name)
  let environment := fun name => (values.lookup name).join
  let program := Stopwatch.realProgram output diagnostics known environment
  try
    return (← program.run words).toUInt32
  catch e =>
    -- The message is lost as well if nobody takes it.
    let _ ← diagnostics.writePieces ["panicked: ", toString e, "\n"]
    return Stopwatch.panicCode
