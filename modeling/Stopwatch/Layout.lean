import Stopwatch.Metric

/-!
# Layouts

A `Layout` says which rows a recording has: one for each *flat* metric, and one for each *per-core*
metric and core.  Both lists of metrics stand in canonical order and share no member, so a row is
known by its metric and core (`nodup_rowKeys`), and the rows have one order: the flat ones, then the
per-core ones grouped by metric (`rowKeys`).
-/

namespace Stopwatch

/-- A row of a recording: its metric and, for a per-core metric, its core. -/
abbrev RowKey := Metric × Option Nat

/-- The rows of a recording. -/
structure Layout where
  /-- The metrics with a single row. -/
  flat : List Metric
  /-- The metrics with one row per core. -/
  perCore : List Metric
  cores : Nat
  flat_sublist : flat.Sublist Metric.all
  perCore_sublist : perCore.Sublist Metric.all
  disjoint : ∀ m ∈ flat, m ∉ perCore
  deriving DecidableEq

namespace Layout

/-- One row for each of the given metrics; their order and repetitions do not matter. -/
def singleCore (metrics : List Metric) : Layout where
  flat := Metric.all.filter (metrics.contains ·)
  perCore := []
  cores := 0
  flat_sublist := List.filter_sublist
  perCore_sublist := List.nil_sublist _
  disjoint _ _ := List.not_mem_nil

/-- The wallclock once, and every counter once per core. -/
def multiCore (cores : Nat) : Layout where
  flat := [.wallclock]
  perCore := Metric.counters
  cores := cores
  flat_sublist := by decide
  perCore_sublist := by decide
  disjoint := by decide

/-- Every metric of the layout, in canonical order. -/
def metrics (l : Layout) : List Metric :=
  Metric.all.filter fun m => l.flat.contains m || l.perCore.contains m

/-- The rows in storage order. -/
def rowKeys (l : Layout) : List RowKey :=
  l.flat.map (fun m => (m, none)) ++
    l.perCore.flatMap fun m => (List.range l.cores).map fun core => (m, some core)

/-- The number of rows. -/
def rowCount (l : Layout) : Nat := l.flat.length + l.perCore.length * l.cores

theorem length_rowKeys (l : Layout) : l.rowKeys.length = l.rowCount := by
  have h : ∀ ms : List Metric,
      (ms.flatMap fun m => (List.range l.cores).map fun core => (m, some core)).length
        = ms.length * l.cores := by
    intro ms
    induction ms with
    | nil => simp
    | cons m ms ih => simp [List.flatMap_cons, ih, Nat.succ_mul, Nat.add_comm]
  simp [rowCount, rowKeys, h]

/-- The key of a row. -/
def rowKey (l : Layout) (row : Fin l.rowCount) : RowKey :=
  l.rowKeys.get (row.cast l.length_rowKeys.symm)

/-- The row of a key. -/
def rowOf? (l : Layout) (key : RowKey) : Option (Fin l.rowCount) :=
  (l.rowKeys.findFinIdx? (· == key)).map (Fin.cast l.length_rowKeys)

/-- No two rows have the same key. -/
theorem nodup_rowKeys (l : Layout) : l.rowKeys.Nodup := by
  have hflat : l.flat.Nodup := l.flat_sublist.nodup Metric.nodup_all
  have hper : l.perCore.Nodup := l.perCore_sublist.nodup Metric.nodup_all
  unfold rowKeys
  rw [List.nodup_append]
  refine ⟨?_, ?_, ?_⟩
  · exact List.pairwise_map.2 (hflat.imp fun h e => h (congrArg Prod.fst e))
  · refine List.pairwise_flatMap.2 ⟨fun m _ => ?_, hper.imp fun h a ha b hb e => ?_⟩
    · exact List.pairwise_map.2
        (List.nodup_range.imp fun h e => h (Option.some.inj (congrArg Prod.snd e)))
    · obtain ⟨_, _, rfl⟩ := List.mem_map.1 ha
      obtain ⟨_, _, rfl⟩ := List.mem_map.1 hb
      exact h (congrArg Prod.fst e)
  · intro a ha b hb e
    obtain ⟨_, _, rfl⟩ := List.mem_map.1 ha
    obtain ⟨m, _, hb⟩ := List.mem_flatMap.1 hb
    obtain ⟨_, _, rfl⟩ := List.mem_map.1 hb
    exact absurd (congrArg Prod.snd e) (by simp)

end Layout

end Stopwatch
