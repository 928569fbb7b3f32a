import Stopwatch.Layout
import Stopwatch.Sample

/-!
# Backends

A `Backend` is where readings come from.  There are four kinds, from a clock alone to a library that
takes a snapshot of every core at once, and each is a set of operations in some monad, any of which
may fail.  A run drives them through five verbs: `init` announces the layout, `mark` reads one side
of a benchmark call, `sample` pairs the two sides of one row, `shutdown` ends it, and `variant`
names the kind.

The clock is read innermost: last before the call and first after it.  A snapshot backend keeps the
readings itself and hands them out when it is asked, row by row; the others give theirs to the
caller at once, who files them in a `Frame`.  One frame serves a whole run: a mark writes the
readings it takes over the old ones and leaves everything else as it is.
-/

namespace Stopwatch

/-- Why a backend did not answer. -/
inductive BackendError
  | unavailable (name reason : String)
  /-- The measurement library could not be opened. -/
  | library (path reason : String)
  | missingSymbol (path symbol : String)
  | coreOutOfRange (core cores : Nat)
  | invalidCoreCount (count : Int)
  /-- A call into the system failed. -/
  | io (call source : String)
  | notInitialised
  /-- A scripted backend has nothing left. -/
  | exhausted (readings : Nat)
  deriving DecidableEq, Repr

namespace BackendError

/-- The wording of a backend error. -/
def message : BackendError → String
  | unavailable name reason => s!"backend '{name}' is not available on this platform: {reason}"
  | library path reason => s!"failed to load measurement library '{path}': {reason}"
  | missingSymbol path symbol => s!"measurement library '{path}' is missing symbol '{symbol}'"
  | coreOutOfRange core cores => s!"core {core} out of range (backend reports {cores} cores)"
  | invalidCoreCount count => s!"backend reported an invalid core count: {count}"
  | io call source => s!"{call} failed: {source}"
  | notInitialised => "backend used before init() or after shutdown()"
  | exhausted readings => s!"scripted backend exhausted after {readings} readings"

end BackendError

/-! ### The kinds of backend -/

/-- An operation of a backend. -/
abbrev Answer (m : Type → Type) (α : Type) := ExceptT BackendError m α

/-- A monotonic clock. -/
structure Clock (m : Type → Type) where
  /-- The time in seconds. -/
  now : Answer m Double

/-- A clock and a cycle counter. -/
structure CycleCounter (m : Type → Type) extends Clock m where
  cycles : Answer m UInt64

/-- A clock, a cycle counter, and the pair of performance counters. -/
structure PerfCounters (m : Type → Type) extends CycleCounter m where
  aperf : Answer m UInt64
  mperf : Answer m UInt64

/-- Counters of every core, read all at once and handed out afterwards. -/
structure Snapshot (m : Type → Type) where
  init : Answer m Unit
  /-- The number of cores, known after `init`. -/
  cores : m Nat
  /-- Read everything for one side of a benchmark call. -/
  mark : Slot → Answer m Unit
  /-- Hand out one reading; the clock does not depend on the core. -/
  reading : Slot → Nat → Metric → Answer m Reading
  shutdown : Answer m Unit

/-- A source of readings. -/
inductive Backend (m : Type → Type)
  | clock (clock : Clock m)
  | cycles (counter : CycleCounter m)
  | perf (counters : PerfCounters m)
  | snapshot (snapshot : Snapshot m)

/-- What was read last on one side of a benchmark call, for each metric. -/
structure Readings where
  wallclock : Reading := .count 0
  coreCycles : Reading := .count 0
  aperf : Reading := .count 0
  mperf : Reading := .count 0
  deriving DecidableEq, Repr

namespace Readings

/-- The reading of a metric. -/
def get (r : Readings) : Metric → Reading
  | .wallclock => r.wallclock
  | .coreCycles => r.coreCycles
  | .aperf => r.aperf
  | .mperf => r.mperf

/-- The same readings but for one metric. -/
def set (r : Readings) (metric : Metric) (reading : Reading) : Readings :=
  match metric with
  | .wallclock => { r with wallclock := reading }
  | .coreCycles => { r with coreCycles := reading }
  | .aperf => { r with aperf := reading }
  | .mperf => { r with mperf := reading }

theorem get_set (r : Readings) (metric other : Metric) (reading : Reading) :
    (r.set metric reading).get other = if other = metric then reading else r.get other := by
  cases metric <;> cases other <;> rfl

end Readings

/-- The readings of both sides of a benchmark call. -/
structure Frame where
  before : Readings := {}
  after : Readings := {}
  deriving DecidableEq, Repr

namespace Frame

/-- The reading of a metric on a side. -/
def get (f : Frame) : Slot → Metric → Reading
  | .before, metric => f.before.get metric
  | .after, metric => f.after.get metric

/-- File a reading over the one that was there. -/
def set (f : Frame) (slot : Slot) (metric : Metric) (reading : Reading) : Frame :=
  match slot with
  | .before => { f with before := f.before.set metric reading }
  | .after => { f with after := f.after.set metric reading }

theorem get_set (f : Frame) (slot side : Slot) (metric other : Metric) (reading : Reading) :
    (f.set slot metric reading).get side other
      = if side = slot ∧ other = metric then reading else f.get side other := by
  cases slot <;> cases side <;> simp [set, get, Readings.get_set]

end Frame

namespace Backend

variable {m : Type → Type} [Monad m]

/-- The name of the kind. -/
def variant : Backend m → String
  | clock _ => "wallclock-only"
  | cycles _ => "wallclock-and-cycles"
  | perf _ => "wallclock-cycles-aperf-mperf"
  | snapshot _ => "multi-core-snapshot"

/-- A backend in a dump. -/
def dump (b : Backend m) : String := "Backend(\"" ++ b.variant ++ "\")"

/-- Begin, and say which rows the results have. -/
def init : Backend m → Answer m Layout
  | clock _ => pure (.singleCore [.wallclock])
  | cycles _ => pure (.singleCore [.wallclock, .coreCycles])
  | perf _ => pure (.singleCore Metric.all)
  | snapshot s => do
    s.init
    let n ← s.cores
    pure (.multiCore n)

/-- End what `init` has begun. -/
def shutdown : Backend m → Answer m Unit
  | snapshot s => s.shutdown
  | _ => pure ()

/-- Take every reading for one side of a benchmark call and file it in a frame. -/
def mark : Backend m → Slot → Frame → Answer m Frame
  | clock c, slot, f => do
    let w ← c.now
    pure (f.set slot .wallclock (.seconds w))
  | cycles c, .before, f => do
    let n ← c.cycles
    let f := f.set .before .coreCycles (.count n)
    let w ← c.now
    pure (f.set .before .wallclock (.seconds w))
  | cycles c, .after, f => do
    let w ← c.now
    let f := f.set .after .wallclock (.seconds w)
    let n ← c.cycles
    pure (f.set .after .coreCycles (.count n))
  | perf c, .before, f => do
    let a ← c.aperf
    let f := f.set .before .aperf (.count a)
    let p ← c.mperf
    let f := f.set .before .mperf (.count p)
    let n ← c.cycles
    let f := f.set .before .coreCycles (.count n)
    let w ← c.now
    pure (f.set .before .wallclock (.seconds w))
  | perf c, .after, f => do
    let w ← c.now
    let f := f.set .after .wallclock (.seconds w)
    let n ← c.cycles
    let f := f.set .after .coreCycles (.count n)
    let a ← c.aperf
    let f := f.set .after .aperf (.count a)
    let p ← c.mperf
    pure (f.set .after .mperf (.count p))
  | snapshot s, slot, f => do
    s.mark slot
    pure f

/-- Pair the two sides of one row. -/
def sample (b : Backend m) (f : Frame) (key : RowKey) : Answer m Sample :=
  match b with
  | snapshot s => do
    let start ← s.reading .before (key.2.getD 0) key.1
    let stop ← s.reading .after (key.2.getD 0) key.1
    pure ⟨key.1, key.2, start, stop⟩
  | _ => pure ⟨key.1, key.2, f.get .before key.1, f.get .after key.1⟩

end Backend

/-! ### Changing the monad, and logging -/

section Change

variable {m n : Type → Type}

def Clock.change (f : {α : Type} → m α → n α) (c : Clock m) : Clock n := ⟨f c.now⟩

def CycleCounter.change (f : {α : Type} → m α → n α) (c : CycleCounter m) : CycleCounter n :=
  ⟨c.toClock.change f, f c.cycles⟩

def PerfCounters.change (f : {α : Type} → m α → n α) (c : PerfCounters m) : PerfCounters n :=
  ⟨c.toCycleCounter.change f, f c.aperf, f c.mperf⟩

def Snapshot.change (f : {α : Type} → m α → n α) (s : Snapshot m) : Snapshot n where
  init := f s.init
  cores := f s.cores
  mark slot := f (s.mark slot)
  reading slot core metric := f (s.reading slot core metric)
  shutdown := f s.shutdown

/-- The same backend in another monad. -/
def Backend.change (f : {α : Type} → m α → n α) : Backend m → Backend n
  | clock c => clock (c.change f)
  | cycles c => cycles (c.change f)
  | perf c => perf (c.change f)
  | snapshot s => snapshot (s.change f)

end Change

section Logging

variable {m : Type → Type} [Monad m]

/-- Note a call, then make it. -/
def Answer.logged {α : Type} (log : String → m Unit) (call : String) (a : Answer m α) :
    Answer m α :=
  ExceptT.mk (log call >>= fun _ => a.run)

/-- The same clock, with every call noted. -/
def Clock.logged (log : String → m Unit) (c : Clock m) : Clock m := ⟨c.now.logged log "now"⟩

/-- The same counter, with every call noted. -/
def CycleCounter.logged (log : String → m Unit) (c : CycleCounter m) : CycleCounter m :=
  ⟨c.toClock.logged log, c.cycles.logged log "cycles"⟩

/-- The same counters, with every call noted. -/
def PerfCounters.logged (log : String → m Unit) (c : PerfCounters m) : PerfCounters m :=
  ⟨c.toCycleCounter.logged log, c.aperf.logged log "aperf", c.mperf.logged log "mperf"⟩

/-- The same snapshot backend, with every call noted but those that hand out readings. -/
def Snapshot.logged (log : String → m Unit) (s : Snapshot m) : Snapshot m :=
  { s with
    init := s.init.logged log "init"
    mark := fun slot => (s.mark slot).logged log (match slot with
      | .before => "mark_before"
      | .after => "mark_after")
    shutdown := s.shutdown.logged log "shutdown" }

end Logging

end Stopwatch
