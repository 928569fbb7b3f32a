import Mathlib.Logic.Basic
import Stopwatch.Library.Measurement
import Stopwatch.Proofs.Scripted
import Stopwatch.Run

/-!
# A measurement library in a session

A library in use and the rest of the world have their states side by side (`Binding.beside`): what
is known of the library is changed by nobody but the backend, while the library itself, the
benchmark and the listeners share a world that is left open.

That holds of every snapshot backend with a state of its own, and of runs one after another on it
(`Snapshot.session`, `Snapshot.runs`).  Without a run, such a backend may be used in any order
(`Snapshot.serve`).

Each verb of the backend (`MeasurementLibrary.inUse`) is spelled out as what it answers and leaves,
by what is known of the library when it is called.
-/

namespace Stopwatch

variable {ρ α : Type}

/-- A session on a snapshot backend that has a state of its own beside that of the other parties. -/
abbrev Snapshot.session {τ : Type} (s : Snapshot (StateM (τ × ρ))) (config : Config)
    (benchmark : Int32 → StateM ρ Unit) (notify : Progress → StateM ρ Unit) :
    Session (StateM (τ × ρ)) where
  config := config
  backend := .snapshot s
  benchmark param := Part.right.run (benchmark param)
  notify p := Part.right.run (notify p)

/-- Runs one after another on a snapshot backend that has a state of its own beside that of the
other parties, each with a benchmark of its own. -/
abbrev Snapshot.runs {τ : Type} (s : Snapshot (StateM (τ × ρ))) (config : Config)
    (notify : Progress → StateM ρ Unit) (works : List (Int32 → StateM ρ Unit)) :
    StateM (τ × ρ) (List (Outcome config.iterations)) :=
  (s.session config (fun _ => pure ()) notify).runs
    (works.map fun work param => Part.right.run (work param))

/-- A use of a snapshot backend. -/
inductive Use
  | init
  | cores
  | mark (slot : Slot)
  | reading (slot : Slot) (core : Nat) (metric : Metric)
  | shutdown
  deriving DecidableEq

/-- What a use is answered with. -/
inductive Reply
  | verb (answer : Except BackendError Unit)
  | cores (count : Nat)
  | reading (answer : Except BackendError Reading)

section Serve

variable {m : Type → Type} [Monad m] (s : Snapshot m)

/-- Use a snapshot backend once. -/
def Snapshot.serve : Use → m Reply
  | .init => Reply.verb <$> s.init.run
  | .cores => Reply.cores <$> s.cores
  | .mark slot => Reply.verb <$> (s.mark slot).run
  | .reading slot core metric => Reply.reading <$> (s.reading slot core metric).run
  | .shutdown => Reply.verb <$> s.shutdown.run

/-- Use a snapshot backend again and again. -/
def Snapshot.serveAll : List Use → m (List Reply)
  | [] => pure []
  | u :: us => do
    let reply ← s.serve u
    let replies ← serveAll us
    pure (reply :: replies)

end Serve

/-- An operation on what is known of a library, with this and the rest of the world in one state. -/
def Binding.beside (x : StateT Binding (StateM ρ) α) : StateM (Binding × ρ) α := fun w =>
  (((x w.1) w.2).1.1, ((x w.1) w.2).1.2, ((x w.1) w.2).2)

namespace MeasurementLibrary

variable (l : MeasurementLibrary (StateM ρ)) (b : Binding) (r : ρ)

/-- The backend that a library makes. -/
def inUse : Snapshot (StateM (Binding × ρ)) := l.snapshot.change Binding.beside

/-- The library is begun and asked for its cores. -/
def announce : StateM ρ Int32 := do
  l.init
  l.coreCount

/-- What the library answers for one reading. -/
def answer (slot : Slot) (core : Nat) : Metric → StateM ρ Reading
  | .wallclock => Reading.seconds <$> l.wallclock slot.number
  | .coreCycles => Reading.count <$> l.coreCycles slot.number (Int32.ofNat core)
  | .aperf => Reading.count <$> l.aperf slot.number (Int32.ofNat core)
  | .mperf => Reading.count <$> l.mperf slot.number (Int32.ofNat core)

/-- **`init` begins the library**, and unless it announces a negative number of cores, that number
and the beginning are remembered. -/
theorem inUse_init : l.inUse.init (b, r) =
    if (l.announce r).1.toInt < 0 then
      (.error (.invalidCoreCount (l.announce r).1.toInt), b, (l.announce r).2)
    else
      (.ok (), ⟨(l.announce r).1.toInt.toNat, true⟩, (l.announce r).2) := by
  have hstart : l.inUse.init (b, r) = Binding.beside (ExceptT.run
      (if (l.announce r).1.toInt < 0 then refuse (.invalidCoreCount (l.announce r).1.toInt)
        else ExceptT.lift (set (⟨(l.announce r).1.toInt.toNat, true⟩ : Binding))))
      (b, (l.announce r).2) := rfl
  rw [hstart]
  -- One case for a negative count and one for any other, as in the statement.
  split <;> rfl

/-- **`mark` measures the side** if the library was begun, and else does nothing. -/
theorem inUse_mark (slot : Slot) : l.inUse.mark slot (b, r) =
    if b.initialised then (.ok (), b, (l.measure slot.number r).2)
    else (.error .notInitialised, b, r) := by
  have hmark : l.inUse.mark slot (b, r) = Binding.beside (ExceptT.run
      (if b.initialised then call (l.measure slot.number)
        else refuse .notInitialised)) (b, r) := rfl
  rw [hmark]
  split <;> rfl

/-- A counter is read if the core is one of the `b.cores` that were announced. -/
theorem counter_apply (slot : Slot) (core : Nat) (f : Int32 → Int32 → StateM ρ UInt64) :
    Binding.beside (counter slot core f) (b, r) =
    if b.cores ≤ core then (.error (.coreOutOfRange core b.cores), b, r)
    else (.ok (.count (f slot.number (Int32.ofNat core) r).1), b,
      (f slot.number (Int32.ofNat core) r).2) := by
  have hcounter : Binding.beside (counter slot core f) (b, r) = Binding.beside (ExceptT.run
      (if b.cores ≤ core then refuse (.coreOutOfRange core b.cores)
        else (do let n ← call (f slot.number (Int32.ofNat core)); pure (.count n)))) (b, r) := rfl
  rw [hcounter]
  split <;> rfl

/-- **`reading` asks the library** if it was begun and has the core; of the clock no core is
asked. -/
theorem inUse_reading (slot : Slot) (core : Nat) (metric : Metric) :
    l.inUse.reading slot core metric (b, r) =
    if b.initialised then
      if metric ≠ .wallclock ∧ b.cores ≤ core then (.error (.coreOutOfRange core b.cores), b, r)
      else (.ok (l.answer slot core metric r).1, b, (l.answer slot core metric r).2)
    else (.error .notInitialised, b, r) := by
  have hreading : l.inUse.reading slot core metric (b, r) = Binding.beside (ExceptT.run
      (if b.initialised then match metric with
        | .wallclock => do let w ← call (l.wallclock slot.number); pure (.seconds w)
        | .coreCycles => counter slot core l.coreCycles
        | .aperf => counter slot core l.aperf
        | .mperf => counter slot core l.mperf
      else refuse .notInitialised)) (b, r) := rfl
  rw [hreading]
  split
  next =>
    cases metric with
    | wallclock => rfl
    -- The three counters differ only in the function of the library that is called.
    | _ => exact (counter_apply b r slot core _).trans (if_congr (by simp) rfl rfl)
  next => rfl

/-- **`shutdown` ends the library** if it was begun; the number of its cores stays known. -/
theorem inUse_shutdown : l.inUse.shutdown (b, r) =
    if b.initialised then (.ok (), ⟨b.cores, false⟩, (l.done r).2) else (.ok (), b, r) := by
  have hshutdown : l.inUse.shutdown (b, r) = Binding.beside (ExceptT.run
      (if b.initialised then (do
        call l.done
        ExceptT.lift (set { b with initialised := false : Binding }))
      else pure ())) (b, r) := rfl
  rw [hshutdown]
  split <;> rfl

end MeasurementLibrary

end Stopwatch
