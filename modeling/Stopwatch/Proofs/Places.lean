import Mathlib.Data.List.Destutter
import Mathlib.Data.List.Sort
import Stopwatch.Run
import Stopwatch.Proofs.Rows
import Stopwatch.Proofs.Writing

/-!
# Rows by place and by key

A run writes into rows that it knows by their places, one after the other.  Whoever asks for results
knows them by metric and core.  Both mean the same rows, and this rests on the order of the layout:

* whatever list of metrics a layout is made of, they stand in it in canonical order and once each,
  as if the list had been sorted and what stands twice in a row been removed (`Metric.filter_all`);
* the flat rows come first, and a row of a core stands as many places behind them as its metric and
  core say (`Layout.ordered`);
* no key stands twice, so that looking up the key of a place leads back to the place.

From this, writing by place is recording by key (`Recording.record_rowKey`), for one row and so for
the rows of an iteration one after the other (`Session.writeRows_eq_recordRows`), and a series lists
the rows with its metric (`Layout.map_rowsOf`).
-/

namespace Stopwatch

/-! ### The canonical order -/

namespace Metric

theorem index_injective {m m' : Metric} (h : m.index = m'.index) : m = m' := by
  cases m <;> cases m' <;> first | rfl | exact absurd h (by decide)

instance : Std.Irrefl fun m m' : Metric => m < m' := ⟨fun m => Nat.lt_irrefl m.index⟩

instance : Std.Antisymm fun m m' : Metric => m < m' :=
  ⟨fun _ _ h h' => absurd h (Nat.lt_asymm h')⟩

theorem pairwise_all : all.Pairwise (· < ·) := by decide

/-- The metrics of a list in canonical order, each of them once: sorted, and then without those that
stand behind another one of the same. -/
def inOrder (metrics : List Metric) : List Metric :=
  (metrics.mergeSort fun m m' => decide (m.index ≤ m'.index)).destutter (· ≠ ·)

theorem pairwise_mergeSort (metrics : List Metric) :
    (metrics.mergeSort fun m m' => decide (m.index ≤ m'.index)).Pairwise
      fun m m' => m.index ≤ m'.index := by
  have hsorted : (metrics.mergeSort fun m m' => decide (m.index ≤ m'.index)).Pairwise
      fun m m' => decide (m.index ≤ m'.index) = true :=
    List.pairwise_mergeSort (by simpa using fun _ _ _ => Nat.le_trans)
      (by simpa using fun _ _ => Nat.le_total _ _) metrics
  simpa using hsorted

/-- `inOrder` removes all repetitions: in a sorted list they stand side by side. -/
theorem inOrder_eq_dedup (metrics : List Metric) :
    inOrder metrics = (metrics.mergeSort fun m m' => decide (m.index ≤ m'.index)).dedup := by
  have : Std.Antisymm fun m m' : Metric => m.index ≤ m'.index :=
    ⟨fun _ _ h h' => index_injective (Nat.le_antisymm h h')⟩
  exact (pairwise_mergeSort metrics).destutter_eq_dedup

theorem mem_inOrder {metrics : List Metric} {m : Metric} : m ∈ inOrder metrics ↔ m ∈ metrics := by
  rw [inOrder_eq_dedup, List.mem_dedup]
  exact (List.mergeSort_perm _ _).mem_iff

theorem pairwise_inOrder (metrics : List Metric) : (inOrder metrics).Pairwise (· < ·) := by
  rw [inOrder_eq_dedup]
  have hsorted := (pairwise_mergeSort metrics).sublist (List.dedup_sublist _)
  -- Sorted, and without repetitions strictly so.
  refine (hsorted.and (List.nodup_dedup _)).imp fun h => ?_
  exact Nat.lt_of_le_of_ne h.1 fun heq => h.2 (index_injective heq)

/-- **`all.filter metrics.contains` is `inOrder metrics`**: to take the metrics of a list from all
of them is to sort the list and remove repetitions. -/
theorem filter_all (metrics : List Metric) :
    all.filter (metrics.contains ·) = inOrder metrics := by
  -- Both lists are strictly sorted, so they are the same if they have the same members.
  refine (pairwise_all.filter _).eq_of_mem_iff (pairwise_inOrder metrics) fun m => ?_
  rw [List.mem_filter, List.contains_iff_mem, mem_inOrder]
  exact and_iff_right m.mem_all

end Metric

/-! ### Places and keys -/

namespace Layout

variable (l : Layout) {m : Metric}

theorem flat_singleCore (metrics : List Metric) :
    (singleCore metrics).flat = Metric.inOrder metrics :=
  Metric.filter_all metrics

theorem singleCore_congr {metrics metrics' : List Metric} (h : ∀ m, m ∈ metrics ↔ m ∈ metrics') :
    singleCore metrics = singleCore metrics' := by
  have hcontains : ∀ m, metrics.contains m = metrics'.contains m := fun m => by
    rw [Bool.eq_iff_iff, List.contains_iff_mem, List.contains_iff_mem, h m]
  simp only [singleCore, hcontains]

/-- In a `flatMap` whose groups all have length `k`, the place `i` of group `j` is `j * k + i`. -/
theorem getElem?_flatMap {α β : Type} {f : α → List β} {k i : Nat} (hlength : ∀ a, (f a).length = k)
    (hi : i < k) (groups : List α) : ∀ j,
      (groups.flatMap f)[j * k + i]? = groups[j]?.bind fun a => (f a)[i]? := by
  induction groups with
  | nil => exact fun j => rfl
  | cons a groups ih =>
    intro j
    rw [List.flatMap_cons]
    cases j with
    | zero =>
      rw [Nat.zero_mul, Nat.zero_add, List.getElem?_append_left (by rwa [hlength])]
      rfl
    -- The first group takes `k` places, and what is left of the place is one in the others.
    | succ j =>
      have hplace : (j + 1) * k + i - (f a).length = j * k + i := by
        rw [hlength, Nat.succ_mul]
        omega
      have hbehind : (f a).length ≤ (j + 1) * k + i := by
        rw [hlength, Nat.succ_mul]
        omega
      rw [List.getElem?_append_right hbehind, hplace, ih j]
      rfl

/-- The rows of a layout stand in order. -/
structure Ordered : Prop where
  nodup : l.rowKeys.Nodup
  length : l.rowKeys.length = l.rowCount
  /-- Their number is the same in a machine word, if the word can hold it. -/
  length_word : l.rowKeys.length < UInt64.size → l.rowCount % UInt64.size = l.rowKeys.length
  flat_sorted : l.flat.Pairwise (· < ·)
  perCore_sorted : l.perCore.Pairwise (· < ·)
  /-- The flat rows come first. -/
  flat : ∀ i (hi : i < l.flat.length), l.rowKeys[i]? = some (l.flat[i], none)
  /-- Behind them are the rows of the cores, core by core for one metric after the other. -/
  perCore : ∀ j (hj : j < l.perCore.length), ∀ core < l.cores,
    l.rowKeys[l.flat.length + (j * l.cores + core)]? = some (l.perCore[j], some core)

/-- **Every layout is ordered.** -/
theorem ordered : l.Ordered where
  nodup := l.nodup_rowKeys
  length := l.length_rowKeys
  length_word h := l.length_rowKeys ▸ Nat.mod_eq_of_lt h
  flat_sorted := Metric.pairwise_all.sublist l.flat_sublist
  perCore_sorted := Metric.pairwise_all.sublist l.perCore_sublist
  flat i hi := by
    rw [rowKeys, List.getElem?_append_left (by rwa [List.length_map]), List.getElem?_map,
      List.getElem?_eq_getElem hi]
    rfl
  perCore j hj core hcore := by
    have hlength : (l.flat.map fun m => ((m, none) : RowKey)).length = l.flat.length :=
      List.length_map _
    rw [rowKeys, ← hlength, List.getElem?_append_right (Nat.le_add_right _ _),
      Nat.add_sub_cancel_left,
      getElem?_flatMap (fun m => by rw [List.length_map, List.length_range]) hcore,
      List.getElem?_eq_getElem hj, Option.bind_some, List.getElem?_map, List.getElem?_range hcore]
    rfl

/-- The rows with a metric, in the order of the layout. -/
def rowsOf (m : Metric) : List (Fin l.rowCount) :=
  (List.finRange l.rowCount).filter fun row => (l.rowKey row).1 = m

theorem map_rowsOf (m : Metric) : (l.rowsOf m).map l.rowKey = l.rowKeys.filter (·.1 = m) := by
  rw [← l.map_rowKey, List.filter_map]
  rfl

/-- If all keys of a group `f m` have the metric `m`, those of all groups with the metric `m` are
`f m`. -/
theorem filter_flatMap_of_nodup {groups : List Metric} {f : Metric → List RowKey}
    (hf : ∀ m, ∀ key ∈ f m, key.1 = m) (hgroups : groups.Nodup) (m : Metric) :
    (groups.flatMap f).filter (·.1 = m) = if m ∈ groups then f m else [] := by
  have hown : ∀ m', (f m').filter (·.1 = m) = if m' = m then f m' else [] := by
    intro m'
    by_cases hm : m' = m
    · rw [if_pos hm, List.filter_eq_self]
      exact fun key hkey => decide_eq_true ((hf m' key hkey).trans hm)
    · rw [if_neg hm, List.filter_eq_nil_iff]
      exact fun key hkey heq => hm ((hf m' key hkey).symm.trans (of_decide_eq_true heq))
  simp only [List.filter_flatMap, hown]
  split
  next hm =>
    rw [Recording.flatMap_eq_of_nodup hgroups hm fun m' hne => if_neg hne, if_pos rfl]
  next hm =>
    rw [List.flatMap_eq_nil_iff]
    exact fun m' hm' => if_neg fun heq : m' = m => hm (heq ▸ hm')

/-- **The keys with a metric** are its one flat row, or its rows core by core. -/
theorem filter_rowKeys (m : Metric) : l.rowKeys.filter (·.1 = m) =
    (if m ∈ l.flat then [(m, none)] else []) ++
      if m ∈ l.perCore then (List.range l.cores).map fun core => (m, some core) else [] := by
  have hflat : l.flat.Nodup := l.flat_sublist.nodup Metric.nodup_all
  have hper : l.perCore.Nodup := l.perCore_sublist.nodup Metric.nodup_all
  -- The flat rows are groups as well, of one key each.
  rw [rowKeys, List.filter_append, List.map_eq_flatMap,
    filter_flatMap_of_nodup (fun m key hkey => by rw [List.mem_singleton.1 hkey]) hflat,
    filter_flatMap_of_nodup _ hper]
  intro m key hkey
  obtain ⟨core, -, rfl⟩ := List.mem_map.1 hkey
  rfl

variable {l}

/-- A flat metric has one row. -/
theorem exists_rowsOf_flat (h : m ∈ l.flat) :
    ∃ row, l.rowsOf m = [row] ∧ l.rowKey row = (m, none) := by
  have hkeys : (l.rowsOf m).map l.rowKey = [(m, none)] := by
    rw [l.map_rowsOf, l.filter_rowKeys, if_pos h, if_neg (l.disjoint m h), List.append_nil]
  exact List.map_eq_singleton_iff.1 hkeys

/-- A per-core metric has a row for each core. -/
theorem map_rowsOf_perCore (h : m ∈ l.perCore) :
    (l.rowsOf m).map l.rowKey = (List.range l.cores).map fun core => (m, some core) := by
  rw [l.map_rowsOf, l.filter_rowKeys, if_neg fun hflat => l.disjoint m hflat h, if_pos h,
    List.nil_append]

end Layout

/-! ### Recordings and series -/

namespace Recording

variable {layout : Layout} {n : Nat} (r : Recording layout n)

/-- **Recording under the key of a row is writing into the row.** -/
theorem record_rowKey (row : Fin layout.rowCount) (iteration : Nat) (delta : Double) :
    r.record (layout.rowKey row).1 (layout.rowKey row).2 iteration delta =
      r.write row iteration delta :=
  record_of_rowOf? (layout.rowOf?_rowKey row) r iteration delta

theorem isSome_series? (m : Metric) : (r.series? m).isSome ↔ m ∈ layout.metrics := by
  rw [Layout.mem_metrics]
  constructor
  · intro h
    by_contra hm
    obtain ⟨hflat, hper⟩ := not_or.1 hm
    -- A metric that is neither flat nor per core falls through both tests of `series?`.
    rw [series?, if_neg (mt List.contains_iff_mem.1 hflat),
      if_neg (mt List.contains_iff_mem.1 hper)] at h
    cases h
  · rintro (h | h)
    · rw [r.series?_eq_flat h, Option.isSome_some]
    · rw [r.series?_eq_perCore h, Option.isSome_some]

/-- The series of a flat metric is the one row with it. -/
theorem series?_eq_rowsOf_flat {m : Metric} (h : m ∈ layout.flat) :
    ∃ row, layout.rowsOf m = [row] ∧ layout.rowKey row = (m, none) ∧
      r.series? m = some (.flat (r.values row)) := by
  obtain ⟨row, hrows, hkey⟩ := Layout.exists_rowsOf_flat h
  refine ⟨row, hrows, hkey, ?_⟩
  rw [r.series?_eq_flat h, ← hkey, r.numbers_rowKey]

/-- The series of a per-core metric lists the rows with it. -/
theorem series?_eq_rowsOf_perCore {m : Metric} (h : m ∈ layout.perCore) :
    r.series? m = some (.perCore ((layout.rowsOf m).map r.values)) := by
  have hvalues : (layout.rowsOf m).map r.values =
      ((layout.rowsOf m).map layout.rowKey).map r.numbers := by
    rw [List.map_map]
    exact List.map_congr_left fun row _ => (r.numbers_rowKey row).symm
  rw [r.series?_eq_perCore h, hvalues, Layout.map_rowsOf_perCore h, List.map_map]
  rfl

end Recording

/-! ### The rows of an iteration -/

namespace Session

variable {μ : Type → Type} [Monad μ]

/-- Sample the rows with the given keys and record them, in their order. -/
def recordRows (s : Session μ) {layout : Layout} (frame : Frame) (iteration : Nat) :
    List RowKey → Recording layout s.total → Step μ (Recording layout s.total)
  | [], r => pure r
  | key :: keys, r => do
    let sample ← ask (s.backend.sample frame key)
    let delta ← ExceptT.mk (pure (sample.delta.mapError RunError.measure))
    let r ← ExceptT.mk (pure ((r.record key.1 key.2 iteration delta).mapError RunError.record))
    s.recordRows frame iteration keys r

/-- **The rows that a run writes by their places** could as well be recorded by their keys. -/
theorem writeRows_eq_recordRows (s : Session μ) {layout : Layout} (frame : Frame)
    (iteration : Nat) (rows : List (Fin layout.rowCount)) : ∀ r : Recording layout s.total,
      s.writeRows frame iteration rows r =
        s.recordRows frame iteration (rows.map layout.rowKey) r := by
  induction rows with
  | nil => exact fun r => rfl
  | cons row rows ih =>
    intro r
    simp only [writeRows, recordRows, List.map_cons, Recording.record_rowKey, ih]

end Session

namespace Recording

/-- **Rows are the same by place and by key.**

* A layout of single metrics has one row for each, in canonical order, however often and in whatever
  order they were given; layouts of the same metrics are the same.  A layout for many cores has the
  wallclock in front, and behind it each counter for every core.
* The keys of any layout are pairwise different, as many as there are rows, and they stand in order.
* In any recording, and so in every one that a run comes to, it is the same to record a delta under
  the key of a row and to write it into the row: the same refusal, or the same recording.
* There is a series of a metric if and only if the layout has the metric, and it lists the rows with
  this metric and no others, in the order of the cores.
* So the rows of an iteration, which a run goes through by their places, could as well be gone
  through by their keys. -/
theorem rows_by_place_and_key :
    (∀ metrics, (Layout.singleCore metrics).rowKeys =
      (Metric.inOrder metrics).map fun m => (m, none)) ∧
    (∀ metrics metrics' : List Metric, (∀ m, m ∈ metrics ↔ m ∈ metrics') →
      Layout.singleCore metrics = Layout.singleCore metrics') ∧
    (∀ cores, (Layout.multiCore cores).rowKeys = (.wallclock, none) ::
      ((List.range cores).map fun core => (.coreCycles, some core)) ++
      ((List.range cores).map fun core => (.aperf, some core)) ++
      (List.range cores).map fun core => (.mperf, some core)) ∧
    (∀ layout : Layout, layout.Ordered) ∧
    (∀ (layout : Layout) (n : Nat) (r : Recording layout n),
      (∀ row iteration delta,
        r.record (layout.rowKey row).1 (layout.rowKey row).2 iteration delta =
          r.write row iteration delta) ∧
      (∀ m, (r.series? m).isSome ↔ m ∈ layout.metrics) ∧
      (∀ m ∈ layout.flat, ∃ row, layout.rowsOf m = [row] ∧ layout.rowKey row = (m, none) ∧
        r.series? m = some (.flat (r.values row))) ∧
      ∀ m ∈ layout.perCore,
        (layout.rowsOf m).map layout.rowKey =
          (List.range layout.cores).map (fun core => (m, some core)) ∧
        r.series? m = some (.perCore ((layout.rowsOf m).map r.values))) ∧
    ∀ (μ : Type → Type) [Monad μ] (s : Session μ) (layout : Layout) (frame : Frame)
      (iteration : Nat) (r : Recording layout s.total),
      s.writeRows frame iteration (List.finRange layout.rowCount) r =
        s.recordRows frame iteration layout.rowKeys r := by
  refine ⟨fun metrics => ?_, fun metrics metrics' => Layout.singleCore_congr, fun cores => ?_,
    Layout.ordered, fun layout n r => ⟨r.record_rowKey, r.isSome_series?,
      fun m => r.series?_eq_rowsOf_flat,
      fun m hm => ⟨Layout.map_rowsOf_perCore hm, r.series?_eq_rowsOf_perCore hm⟩⟩, ?_⟩
  · rw [Layout.rowKeys, Layout.flat_singleCore]
    exact List.append_nil _
  · simp [Layout.rowKeys, Layout.multiCore, Metric.counters]
  · intro μ _ s layout frame iteration r
    rw [s.writeRows_eq_recordRows, layout.map_rowKey]

end Recording

end Stopwatch
