import Stopwatch.Hardware.Ticking

/-!
# The counters of a core

Beside the clock alone (`Hardware.monotonicClock`) and the clock with the time-stamp counter
(`Hardware.timestampCounter`) there is a third backend: the clock with three model-specific
registers of one core (`CoreCounters`).

Opening the counters of a core checks that the processor has them, opens the device of the core, and
enables and resets them.  The cycle counter is narrower than its register, so what is read of it is
cut to its width (`counterMask`): readings across a wrap go backwards and are refused later, and
never pass for a small advance.
-/

namespace Stopwatch

namespace Hardware

variable {m : Type → Type} [Monad m]

/-- The register that enables fixed-function counters. -/
def controlRegister : UInt64 := 0x38d

/-- Fixed-function counter 1, the cycles of the core. -/
def cyclesRegister : UInt64 := 0x30a

def mperfRegister : UInt64 := 0xe7

def aperfRegister : UInt64 := 0xe8

/-- Counter 1 counts in every ring and for every thread of the core. -/
def enableCounter1 : UInt64 := 0x70

/-- As many low bits as a counter is wide. -/
def counterMask (width : Nat) : UInt64 :=
  if 64 ≤ width then 0xffffffffffffffff else UInt64.ofNat ((1 <<< width) - 1)

/-- The width of the fixed-function counters, if the processor has the ones that are needed.  The
version stands in the lowest octet of `eax`; the number of counters and their width stand in the
lowest five bits of `edx` and the eight above them. -/
def counterWidth (info : CounterInfo) : Except BackendError Nat :=
  let version := info.eax.toNat % 256
  let count := info.edx.toNat % 32
  let width := info.edx.toNat / 32 % 256
  if version < 2 then
    .error (.unavailable "msr" s!"architectural PMU version >= 2 required, got {version}")
  else if count < 2 then
    .error (.unavailable "msr" s!"too few fixed-function counters: {count}")
  else if width < 1 ∨ 64 < width then
    .error (.unavailable "msr" s!"implausible fixed-function counter width: {width}")
  else .ok width

/-- Read a register. -/
def readRegister (h : Hardware m) (address : UInt64) : Answer m UInt64 :=
  ask "msr read" (h.read address)

/-- Write a register. -/
def writeRegister (h : Hardware m) (address value : UInt64) : Answer m Unit :=
  ask "msr write" (h.write address value)

/-- Open the device of a core: the one without a check of privileges if there is one, else the
plain one, whose error counts. -/
def openCore (h : Hardware m) (core : Nat) : Answer m Unit :=
  ExceptT.mk do
    match ← h.openDevice s!"/dev/cpu/{core}/rmsr" with
    | .ok () => pure (.ok ())
    | .error _ => (ask "open msr device" (h.openDevice s!"/dev/cpu/{core}/msr")).run

end Hardware

/-- The counters of one core, enabled and reset. -/
structure CoreCounters where
  core : Nat
  /-- The bits that the cycle counter has. -/
  mask : UInt64
  deriving DecidableEq, Repr

namespace CoreCounters

open Hardware

variable {m : Type → Type} [Monad m]

/-- Open, enable and reset the counters of a core. -/
def ofCore (h : Hardware m) (core : Nat) : Answer m CoreCounters := do
  let info ← ExceptT.lift h.counterInfo
  let width ← ExceptT.mk (pure (counterWidth info))
  h.openCore core
  let control ← h.readRegister controlRegister
  h.writeRegister controlRegister (control ||| enableCounter1)
  h.writeRegister cyclesRegister 0
  h.writeRegister mperfRegister 0
  h.writeRegister aperfRegister 0
  pure { core, mask := counterMask width }

/-- The counters of the core that the caller runs on. -/
def ofCurrentCore (h : Hardware m) : Answer m CoreCounters := do
  let core ← ask "sched_getcpu" h.currentCore
  ofCore h core

/-- What the counters of a core answer. -/
def counters (c : CoreCounters) (h : Hardware m) : PerfCounters m where
  toClock := h.monotonicClock
  cycles := do
    let raw ← h.readRegister cyclesRegister
    pure (raw &&& c.mask)
  aperf := h.readRegister aperfRegister
  mperf := h.readRegister mperfRegister

end CoreCounters

/-- What can be opened on the hardware. -/
inductive Device
  | clock
  | timestamp
  /-- The counters of a core, or of the core that the caller runs on. -/
  | counters (core : Option Nat)
  deriving DecidableEq, Repr

/-- Open a device; with the counters of a core comes the number of the core. -/
def Hardware.device {m : Type → Type} [Monad m] (h : Hardware m) :
    Device → Answer m (Backend m × Option Nat)
  | .clock => pure (.clock h.monotonicClock, none)
  | .timestamp => ExceptT.mk (pure (h.timestampCounter.map fun c => (.cycles c, none)))
  | .counters (some core) => do
    let c ← CoreCounters.ofCore h core
    pure (.perf (c.counters h), some c.core)
  | .counters none => do
    let c ← CoreCounters.ofCurrentCore h
    pure (.perf (c.counters h), some c.core)

end Stopwatch
