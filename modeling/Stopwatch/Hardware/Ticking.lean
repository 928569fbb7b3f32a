import Stopwatch.Backend
import Stopwatch.Hardware.SystemError

/-!
# Hardware and what ticks in it

The clock and the counters of a processor, as far as they are measured with.  The clock and the
time-stamp counter tick by themselves and can be read right away, as two backends: the clock alone
(`Hardware.monotonicClock`), and both of them (`Hardware.timestampCounter`).

`Hardware.ticking` is hardware that has nothing else, and that can be read for as long as one likes:
each reading of the clock is a second later than the reading before, and each reading of the
time-stamp counter greater by one.
-/

namespace Stopwatch

/-- What a processor says of its performance counters. -/
structure CounterInfo where
  eax : UInt32
  edx : UInt32
  deriving DecidableEq, Repr

/-- The parts of a machine that are measured with. -/
structure Hardware (m : Type → Type) where
  /-- The monotonic clock: whole seconds, and nanoseconds of the running one. -/
  clock : m (Except SystemError (Int × Int))
  /-- The time-stamp counter, or why there is none. -/
  timestamp : Except String (m UInt64)
  /-- The core that the caller runs on. -/
  currentCore : m (Except SystemError Nat)
  counterInfo : m CounterInfo
  /-- Open the device of a core, for reading and writing. -/
  openDevice : String → m (Except SystemError Unit)
  /-- Read a register of the device. -/
  read : UInt64 → m (Except SystemError UInt64)
  /-- Write a register of the device. -/
  write : UInt64 → UInt64 → m (Except SystemError Unit)

/-- The same hardware in another monad. -/
def Hardware.change {m n : Type → Type} (f : {α : Type} → m α → n α) (h : Hardware m) :
    Hardware n where
  clock := f h.clock
  timestamp := h.timestamp.map fun a => f a
  currentCore := f h.currentCore
  counterInfo := f h.counterInfo
  openDevice path := f (h.openDevice path)
  read address := f (h.read address)
  write address value := f (h.write address value)

namespace Hardware

variable {m : Type → Type} [Monad m]

/-- Ask the system; the call is named in the error. -/
def ask {α : Type} (call : String) (a : m (Except SystemError α)) : Answer m α :=
  ExceptT.mk do
    match ← a with
    | .ok v => pure (.ok v)
    | .error e => pure (.error (.io call e.text))

/-- A nanosecond in seconds. -/
def nanosecond : Double := Double.ofDecimal false 1 (-9)

/-- A clock value in seconds. -/
def seconds (whole nanoseconds : Int) : Double :=
  Double.ofInt whole + Double.ofInt nanoseconds * nanosecond

/-- The monotonic clock. -/
def monotonicClock (h : Hardware m) : Clock m where
  now := do
    let (whole, nanoseconds) ← ask "clock_gettime" h.clock
    pure (seconds whole nanoseconds)

/-- The monotonic clock and the time-stamp counter. -/
def timestampCounter (h : Hardware m) : Except BackendError (CycleCounter m) :=
  match h.timestamp with
  | .error reason => .error (.unavailable "tsc" reason)
  | .ok read => .ok ⟨h.monotonicClock, ExceptT.lift read⟩

/-- Hardware that advances with every reading; its state is the number of readings. -/
def ticking : Hardware (StateM Nat) where
  clock n := (.ok (n, 0), n + 1)
  timestamp := .ok fun n => (UInt64.ofNat n, n + 1)
  currentCore := pure (.ok 0)
  counterInfo := pure ⟨0, 0⟩
  openDevice _ := pure (.error (.code 2))
  read _ := pure (.error (.code 5))
  write _ _ := pure (.error (.code 5))

end Hardware

end Stopwatch
