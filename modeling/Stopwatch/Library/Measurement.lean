import Stopwatch.Part
import Stopwatch.Backend

/-!
# Measurement libraries

A native library that reads the clock and the counters of every core at once.  It comes as a set of
exported functions, any of which may be missing (`MeasurementExports`); a `MeasurementLibrary` has
them all, and `MeasurementExports.resolve` names the first that is missing.

A library takes sides and cores as C integers (`Slot.number`) and must not be called carelessly: it
wants to be begun before and ended after use, and the core numbers it takes are not checked.  A
`Binding` keeps that order.  It remembers whether the library was begun and how many cores it
announced then, and lets through only what fits (`MeasurementLibrary.snapshot`).

A shared library, opened by a `Loader`, can hold a measurement library, a benchmark, both, or
neither.
-/

namespace Stopwatch

/-- A side as a C integer. -/
def Slot.number (slot : Slot) : Int32 := Int32.ofNat slot.index

/-- The functions of a measurement library.  Sides and cores are C integers. -/
structure MeasurementLibrary (m : Type → Type) where
  init : m Unit
  done : m Unit
  measure : Int32 → m Unit
  coreCount : m Int32
  wallclock : Int32 → m Double
  coreCycles : Int32 → Int32 → m UInt64
  aperf : Int32 → Int32 → m UInt64
  mperf : Int32 → Int32 → m UInt64

/-- The functions that a library exports of those of a measurement library. -/
structure MeasurementExports (m : Type → Type) where
  init : Option (m Unit) := none
  done : Option (m Unit) := none
  measure : Option (Int32 → m Unit) := none
  coreCount : Option (m Int32) := none
  wallclock : Option (Int32 → m Double) := none
  coreCycles : Option (Int32 → Int32 → m UInt64) := none
  aperf : Option (Int32 → Int32 → m UInt64) := none
  mperf : Option (Int32 → Int32 → m UInt64) := none

namespace MeasurementExports

variable {m : Type → Type}

/-- An export, or its name as what is missing. -/
def need {α : Type} (path symbol : String) : Option α → Except BackendError α
  | some f => .ok f
  | none => .error (.missingSymbol path symbol)

/-- The whole library, or the first function that is missing. -/
def resolve (path : String) (e : MeasurementExports m) :
    Except BackendError (MeasurementLibrary m) := do
  let init ← need path "krun_init" e.init
  let done ← need path "krun_done" e.done
  let measure ← need path "krun_measure" e.measure
  let coreCount ← need path "krun_get_num_cores" e.coreCount
  let wallclock ← need path "krun_get_wallclock" e.wallclock
  let coreCycles ← need path "krun_get_core_cycles" e.coreCycles
  let aperf ← need path "krun_get_aperf" e.aperf
  let mperf ← need path "krun_get_mperf" e.mperf
  pure { init, done, measure, coreCount, wallclock, coreCycles, aperf, mperf }

/-- The exports without a function, which is named as `resolve` names it. -/
def without (e : MeasurementExports m) : String → MeasurementExports m
  | "krun_init" => { e with init := none }
  | "krun_done" => { e with done := none }
  | "krun_measure" => { e with measure := none }
  | "krun_get_num_cores" => { e with coreCount := none }
  | "krun_get_wallclock" => { e with wallclock := none }
  | "krun_get_core_cycles" => { e with coreCycles := none }
  | "krun_get_aperf" => { e with aperf := none }
  | "krun_get_mperf" => { e with mperf := none }
  | _ => e

end MeasurementExports

/-- What is known of a library that is in use. -/
structure Binding where
  /-- The number of cores that was announced last. -/
  cores : Nat := 0
  /-- Whether the library was begun and not yet ended. -/
  initialised : Bool := false
  deriving DecidableEq, Repr

namespace MeasurementLibrary

variable {m : Type → Type} [Monad m]

/-- Call the library. -/
def call {α : Type} (f : m α) : Answer (StateT Binding m) α := ExceptT.lift (StateT.lift f)

/-- What is known of the library. -/
def known : Answer (StateT Binding m) Binding := ExceptT.lift get

/-- Give up. -/
def refuse {α : Type} (e : BackendError) : Answer (StateT Binding m) α :=
  ExceptT.mk (pure (.error e))

/-- Begin, and learn the number of cores. -/
def start (l : MeasurementLibrary m) : Answer (StateT Binding m) Unit := do
  call l.init
  let count ← call l.coreCount
  if count.toInt < 0 then refuse (.invalidCoreCount count.toInt)
  else ExceptT.lift (set { cores := count.toInt.toNat, initialised := true : Binding })

/-- Read everything for one side of a benchmark call. -/
def mark (l : MeasurementLibrary m) (slot : Slot) : Answer (StateT Binding m) Unit := do
  if (← known).initialised then call (l.measure slot.number) else refuse .notInitialised

/-- Hand out the counter of a core that there is; only then is its number made a C integer. -/
def counter (slot : Slot) (core : Nat) (f : Int32 → Int32 → m UInt64) :
    Answer (StateT Binding m) Reading := do
  let b ← known
  if b.cores ≤ core then refuse (.coreOutOfRange core b.cores)
  else
    let n ← call (f slot.number (Int32.ofNat core))
    pure (.count n)

/-- Hand out one reading. -/
def reading (l : MeasurementLibrary m) (slot : Slot) (core : Nat) (metric : Metric) :
    Answer (StateT Binding m) Reading := do
  if (← known).initialised then
    match metric with
    | .wallclock => do
      let w ← call (l.wallclock slot.number)
      pure (.seconds w)
    | .coreCycles => counter slot core l.coreCycles
    | .aperf => counter slot core l.aperf
    | .mperf => counter slot core l.mperf
  else refuse .notInitialised

/-- End, if it was begun. -/
def shutdown (l : MeasurementLibrary m) : Answer (StateT Binding m) Unit := do
  let b ← known
  if b.initialised then
    call l.done
    ExceptT.lift (set { b with initialised := false })
  else pure ()

/-- A measurement library as a snapshot backend. -/
def snapshot (l : MeasurementLibrary m) : Snapshot (StateT Binding m) where
  init := l.start
  cores := do pure (← get).cores
  mark := l.mark
  reading := l.reading
  shutdown := l.shutdown

end MeasurementLibrary

/-! ### Shared libraries -/

/-- The exports of a shared library that matter here. -/
structure SharedLibrary (m : Type → Type) where
  /-- The entry point of a benchmark. -/
  runIter : Option (Int32 → m Unit) := none
  measurement : MeasurementExports m := {}

/-- Somebody who opens files. -/
structure Loader (m : Type → Type) where
  /-- Whether there is anything at a path. -/
  leads : String → m Bool
  /-- Open a shared library by path, or by a name that is looked up among the system's. -/
  load : String → m (Except String (SharedLibrary m))

section Change

variable {m n : Type → Type}

def MeasurementExports.change (f : {α : Type} → m α → n α) (e : MeasurementExports m) :
    MeasurementExports n where
  init := e.init.map f
  done := e.done.map f
  measure := e.measure.map fun g side => f (g side)
  coreCount := e.coreCount.map f
  wallclock := e.wallclock.map fun g side => f (g side)
  coreCycles := e.coreCycles.map fun g side core => f (g side core)
  aperf := e.aperf.map fun g side core => f (g side core)
  mperf := e.mperf.map fun g side core => f (g side core)

end Change

end Stopwatch
