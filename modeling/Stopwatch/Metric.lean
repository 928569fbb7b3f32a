/-!
# Metrics and the two sides of a measurement

Four quantities can be measured around one call of a benchmark: the wallclock and three counters of
the processor.  They have one canonical order, `Metric.all`, in which results are stored and
written.  Each quantity is read twice, once on either side of the call; `Slot` names the side.
-/

namespace Stopwatch

/-- A measured quantity. -/
inductive Metric
  | wallclock
  | coreCycles
  | aperf
  | mperf
  deriving DecidableEq, Repr

namespace Metric

/-- The canonical order. -/
def all : List Metric := [wallclock, coreCycles, aperf, mperf]

/-- The quantities that exist once per core. -/
def counters : List Metric := [coreCycles, aperf, mperf]

/-- The key of a metric in a keyed document. -/
def key : Metric → String
  | wallclock => "wallclock_times"
  | coreCycles => "core_cycle_counts"
  | aperf => "aperf_counts"
  | mperf => "mperf_counts"

/-- The short name used in messages. -/
def name : Metric → String
  | wallclock => "wallclock"
  | coreCycles => "core_cycles"
  | aperf => "aperf"
  | mperf => "mperf"

/-- The place of a metric in the canonical order. -/
def index : Metric → Nat
  | wallclock => 0
  | coreCycles => 1
  | aperf => 2
  | mperf => 3

instance : LT Metric := ⟨fun a b => a.index < b.index⟩

instance (a b : Metric) : Decidable (a < b) := inferInstanceAs (Decidable (a.index < b.index))

theorem mem_all (m : Metric) : m ∈ all := by cases m <;> decide

theorem nodup_all : all.Nodup := by decide

/-- What a message adds to the name of a metric to say which core it belongs to. -/
def coreSuffix : Option Nat → String
  | none => ""
  | some core => s!" (core {core})"

end Metric

/-- The side of a benchmark call on which a reading is taken. -/
inductive Slot
  | before
  | after
  deriving DecidableEq, Repr

namespace Slot

/-- The number under which measurement libraries file a side. -/
def index : Slot → Nat
  | before => 0
  | after => 1

/-- The component of a pair that belongs to a side. -/
def pick {α : Type} : Slot → α × α → α
  | before, p => p.1
  | after, p => p.2

end Slot

end Stopwatch
