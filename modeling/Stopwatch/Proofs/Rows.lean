import Mathlib.Data.List.Basic
import Stopwatch.Recording

/-!
# The rows of a layout

The rows of a layout and their keys say the same: `Layout.rowKey` goes through the keys in their
order (`Layout.map_rowKey`), no two rows have one key (`Layout.rowKey_injective`), and looking a key
up finds its row (`Layout.rowOf?_rowKey`).
-/

namespace Stopwatch

namespace Layout

variable (l : Layout)

/-- The rows of a layout are those of its keys, in their order. -/
theorem map_rowKey : (List.finRange l.rowCount).map l.rowKey = l.rowKeys := by
  refine List.ext_getElem ?_ fun i h h' => ?_
  · rw [List.length_map, List.length_finRange, l.length_rowKeys]
  · rw [List.getElem_map, List.getElem_finRange]
    rfl

/-- **No two rows have one key.** -/
theorem rowKey_injective {row row' : Fin l.rowCount} (h : l.rowKey row = l.rowKey row') :
    row = row' := by
  have hval : row.val = row'.val := List.getElem_inj l.nodup_rowKeys |>.1 h
  exact Fin.ext hval

theorem rowKey_mem (row : Fin l.rowCount) : l.rowKey row ∈ l.rowKeys := List.get_mem _ _

theorem exists_rowKey {key : RowKey} (h : key ∈ l.rowKeys) : ∃ row, l.rowKey row = key := by
  obtain ⟨i, hi, hkey⟩ := List.getElem_of_mem h
  exact ⟨⟨i, l.length_rowKeys ▸ hi⟩, hkey⟩

/-- Looking up the key of a row finds the row. -/
theorem rowOf?_rowKey (row : Fin l.rowCount) : l.rowOf? (l.rowKey row) = some row := by
  have hfind : l.rowKeys.findFinIdx? (· == l.rowKey row) =
      some (row.cast l.length_rowKeys.symm) := by
    rw [List.findFinIdx?_eq_some_iff]
    -- No row before this one has its key, since keys are not repeated.
    refine ⟨beq_self_eq_true _, fun j hj heq => ?_⟩
    have hkey : l.rowKey (j.cast l.length_rowKeys) = l.rowKey row := eq_of_beq heq
    exact absurd (congrArg Fin.val (l.rowKey_injective hkey)) (Nat.ne_of_lt hj)
  rw [rowOf?, hfind]
  rfl

theorem rowOf?_eq_some_iff {key : RowKey} {row : Fin l.rowCount} :
    l.rowOf? key = some row ↔ l.rowKey row = key := by
  constructor
  · intro h
    have hkey : key ∈ l.rowKeys := by
      by_contra hkey
      have hnone : l.rowKeys.findFinIdx? (· == key) = none :=
        List.findFinIdx?_eq_none_iff.2 fun k hk heq => hkey (eq_of_beq heq ▸ hk)
      rw [rowOf?, hnone] at h
      cases h
    obtain ⟨row', rfl⟩ := l.exists_rowKey hkey
    rw [l.rowOf?_rowKey] at h
    rw [Option.some.inj h]
  · rintro rfl
    exact l.rowOf?_rowKey row

theorem rowOf?_eq_none_iff {key : RowKey} : l.rowOf? key = none ↔ key ∉ l.rowKeys := by
  constructor
  · intro h hkey
    obtain ⟨row, rfl⟩ := l.exists_rowKey hkey
    rw [l.rowOf?_rowKey] at h
    cases h
  · intro hkey
    cases h : l.rowOf? key with
    | none => rfl
    | some row => exact absurd (l.rowOf?_eq_some_iff.1 h ▸ l.rowKey_mem row) hkey

theorem metrics_sublist : l.metrics.Sublist Metric.all := List.filter_sublist

variable {l} in
theorem mem_metrics {m : Metric} : m ∈ l.metrics ↔ m ∈ l.flat ∨ m ∈ l.perCore := by
  rw [metrics, List.mem_filter, Bool.or_eq_true, List.contains_iff_mem, List.contains_iff_mem]
  exact and_iff_right m.mem_all

theorem mem_rowKeys_flat {m : Metric} (h : m ∈ l.flat) : (m, none) ∈ l.rowKeys :=
  List.mem_append_left _ (List.mem_map_of_mem h)

theorem mem_rowKeys_perCore {m : Metric} {core : Nat} (h : m ∈ l.perCore) (hcore : core < l.cores) :
    (m, some core) ∈ l.rowKeys :=
  List.mem_append_right _ (List.mem_flatMap.2
    ⟨m, h, List.mem_map.2 ⟨core, List.mem_range.2 hcore, rfl⟩⟩)

/-- A single-core layout has the given metrics only, and none of them per core. -/
theorem mem_rowKeys_singleCore {metrics : List Metric} {key : RowKey}
    (h : key ∈ (singleCore metrics).rowKeys) : key.1 ∈ metrics ∧ key.2 = none := by
  rw [rowKeys, singleCore, List.flatMap_nil, List.append_nil, List.mem_map] at h
  obtain ⟨m, hm, rfl⟩ := h
  exact ⟨List.contains_iff_mem.1 (List.mem_filter.1 hm).2, rfl⟩

end Layout

/-! ### The series of a recording -/

namespace Recording

variable {layout : Layout} {n : Nat} (r : Recording layout n)

/-- The cells of the row with the given key. -/
def valuesOf? (key : RowKey) : Option (List Double) := (layout.rowOf? key).map r.values

theorem valuesOf?_rowKey (row : Fin layout.rowCount) :
    r.valuesOf? (layout.rowKey row) = some (r.values row) := by
  rw [valuesOf?, layout.rowOf?_rowKey]
  rfl

/-- The cells of the row with the given key, or none if there is no such row. -/
def numbers (key : RowKey) : List Double := (r.valuesOf? key).getD []

theorem numbers_rowKey (row : Fin layout.rowCount) :
    r.numbers (layout.rowKey row) = r.values row := by
  rw [numbers, r.valuesOf?_rowKey, Option.getD_some]

theorem valuesOf?_eq_some {key : RowKey} (h : key ∈ layout.rowKeys) :
    r.valuesOf? key = some (r.numbers key) := by
  obtain ⟨row, rfl⟩ := layout.exists_rowKey h
  rw [r.valuesOf?_rowKey, r.numbers_rowKey]

theorem series?_eq_flat {m : Metric} (h : m ∈ layout.flat) :
    r.series? m = some (.flat (r.numbers (m, none))) := by
  have hvalues : (layout.rowOf? (m, none)).map r.values = some (r.numbers (m, none)) :=
    r.valuesOf?_eq_some (layout.mem_rowKeys_flat h)
  obtain ⟨row, hrow, hnumbers⟩ := Option.map_eq_some_iff.1 hvalues
  rw [series?, if_pos (List.contains_iff_mem.2 h), hrow, Option.map_some, hnumbers]

/-- The series of a flat metric is its one row. -/
theorem series?_flat {m : Metric} (h : m ∈ layout.flat) :
    ∃ row, layout.rowKey row = (m, none) ∧ r.series? m = some (.flat (r.values row)) := by
  obtain ⟨row, hrow⟩ := layout.exists_rowKey (layout.mem_rowKeys_flat h)
  refine ⟨row, hrow, ?_⟩
  rw [r.series?_eq_flat h, ← hrow, r.numbers_rowKey]

/-- If `f` is empty on all members of a list but `a`, and `a` is not repeated, then `flatMap f` is
`f a`. -/
theorem flatMap_eq_of_nodup {α β : Type} {l : List α} {a : α} {f : α → List β} (hl : l.Nodup)
    (ha : a ∈ l) (hf : ∀ b, b ≠ a → f b = []) : l.flatMap f = f a := by
  induction l with
  | nil => exact absurd ha List.not_mem_nil
  | cons b l ih =>
    obtain ⟨hb, hl⟩ := List.nodup_cons.1 hl
    rw [List.flatMap_cons]
    rcases List.mem_cons.1 ha with rfl | hmem
    · have hrest : l.flatMap f = [] :=
        List.flatMap_eq_nil_iff.2 fun c hc => hf c fun hca => hb (hca ▸ hc)
      rw [hrest, List.append_nil]
    · rw [hf b fun hba => hb (hba ▸ hmem), List.nil_append, ih hl hmem]

/-- The cells of a row that holds a metric of one core, and nothing for the other rows. -/
def coreRow? (m : Metric) (key : RowKey) : Option (List Double) :=
  if key.1 = m ∧ key.2.isSome then r.valuesOf? key else none

/-- `coreRow?` passes over all flat rows. -/
theorem filterMap_coreRow?_flat (m : Metric) :
    (layout.flat.map fun m' => (m', (none : Option Nat))).filterMap (r.coreRow? m) = [] := by
  rw [List.filterMap_eq_nil_iff]
  intro key hkey
  obtain ⟨m', -, rfl⟩ := List.mem_map.1 hkey
  exact if_neg fun h => nomatch h.2

/-- Of the rows that a metric `m'` has for the cores, `coreRow? m` finds all if `m'` is `m`, and
else none. -/
theorem filterMap_coreRow?_perCore (m m' : Metric) :
    ((List.range layout.cores).map fun core => (m', some core)).filterMap (r.coreRow? m) =
      if m' = m then (List.range layout.cores).filterMap fun core => r.valuesOf? (m, some core)
      else [] := by
  rw [List.filterMap_map]
  by_cases hm : m' = m
  · rw [if_pos hm, hm]
    exact List.filterMap_congr fun core _ => if_pos ⟨rfl, rfl⟩
  · rw [if_neg hm, List.filterMap_eq_nil_iff]
    exact fun core _ => if_neg fun h => hm h.1

/-- What `coreRow?` finds of a per-core metric among all rows is one list for each core. -/
theorem filterMap_coreRow?_rowKeys {m : Metric} (h : m ∈ layout.perCore) :
    layout.rowKeys.filterMap (r.coreRow? m) =
      (List.range layout.cores).map fun core => r.numbers (m, some core) := by
  have hper : layout.perCore.Nodup := layout.perCore_sublist.nodup Metric.nodup_all
  -- The flat rows in front give nothing, and of the blocks of the per-core metrics only that of `m`
  -- gives something.
  rw [Layout.rowKeys, List.filterMap_append, filterMap_coreRow?_flat, List.nil_append,
    List.filterMap_flatMap, flatMap_eq_of_nodup hper h
      fun m' hm => (r.filterMap_coreRow?_perCore m m').trans (if_neg hm),
    filterMap_coreRow?_perCore, if_pos rfl, ← List.filterMap_eq_map]
  exact List.filterMap_congr fun core hcore =>
    r.valuesOf?_eq_some (layout.mem_rowKeys_perCore h (List.mem_range.1 hcore))

/-- The series of a per-core metric, found by the keys of its rows. -/
theorem series?_eq_perCore {m : Metric} (h : m ∈ layout.perCore) :
    r.series? m = some (.perCore
      ((List.range layout.cores).map fun core => r.numbers (m, some core))) := by
  have hflat : layout.flat.contains m = false := by
    rw [← Bool.not_eq_true, List.contains_iff_mem]
    exact fun hm => layout.disjoint m hm h
  rw [series?, hflat, if_neg Bool.false_ne_true, if_pos (List.contains_iff_mem.2 h),
    ← r.filterMap_coreRow?_rowKeys h, ← layout.map_rowKey, List.filterMap_map]
  -- `series?` looks through the rows by their place, and `coreRow?` by their key.
  refine congrArg (some ∘ Series.perCore) (List.filterMap_congr fun row _ => ?_)
  rw [Function.comp_apply, coreRow?, r.valuesOf?_rowKey]
  rcases layout.rowKey row with ⟨m', _ | core⟩
  · exact (if_neg fun h => nomatch h.2).symm
  · simp only [Option.isSome_some, and_true]

/-- **The series of a per-core metric** has one list for each core, which is the row of that
core. -/
theorem series?_perCore {m : Metric} (h : m ∈ layout.perCore) :
    ∃ rows, r.series? m = some (.perCore rows) ∧ rows.length = layout.cores ∧
      ∀ core < layout.cores, ∃ row, layout.rowKey row = (m, some core) ∧
        rows[core]? = some (r.values row) := by
  refine ⟨_, r.series?_eq_perCore h, ?_, fun core hcore => ?_⟩
  · rw [List.length_map, List.length_range]
  · obtain ⟨row, hrow⟩ := layout.exists_rowKey (layout.mem_rowKeys_perCore h hcore)
    refine ⟨row, hrow, ?_⟩
    rw [List.getElem?_map, List.getElem?_range hcore, Option.map_some, ← hrow, r.numbers_rowKey]

end Recording

end Stopwatch
