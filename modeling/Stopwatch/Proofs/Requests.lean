import Stopwatch.Proofs.Rows
import Stopwatch.Proofs.Writing

/-!
# Requests to a recording

A recording that is handed requests to record, one after the other and in whatever order, accepts
some and refuses the others.  `Recording.request` is what one request is answered and what it leaves
behind, which is the recording itself if it is refused (`Recording.request_of_error`),
`Recording.after` the recording after a sequence of them, and `Recording.taken` are the deltas that
it has accepted for a row.

The rows do not know of each other: a request concerns the row of its key and no other one
(`Recording.rowAt_request`), so what becomes of a row depends only on the requests for it
(`Recording.rowAt_after`).  A row is at any time `Row.Filled` with what it has accepted: those
deltas stand in front, the sentinel behind them, and the row waits for the iteration whose number is
the number of deltas.  From this every answer is known (`Recording.answer_request`), and
`Recording.record_in_order` says all of it together.
-/

namespace Stopwatch

/-- A request to record a delta. -/
structure Request where
  metric : Metric
  core : Option Nat
  iteration : Nat
  delta : Double
  deriving DecidableEq, Repr

/-- The key of the row that is meant. -/
def Request.key (q : Request) : RowKey := (q.metric, q.core)

/-! ### One row -/

namespace Row

variable {n : Nat} {r r' : Row n} {ds : List Double}

/-- The row holds the given deltas, and waits for the one behind them. -/
structure Filled (ds : List Double) (r : Row n) : Prop where
  cursor : r.cursor = ds.length
  length_le : ds.length ≤ n
  cells : r.cells.toList = ds ++ List.replicate (n - ds.length) sentinel

theorem filled_blank : (Row.blank n).Filled [] where
  cursor := rfl
  length_le := Nat.zero_le n
  cells := Vector.toList_replicate

/-- The cells of a filled row, one by one. -/
theorem Filled.getElem_cells (h : r.Filled ds) (j : Nat) (hj : j < n) :
    r.cells[j] = ds[j]?.getD sentinel := by
  have hcell : r.cells.toList[j]? = some r.cells[j] := by
    rw [Vector.getElem?_toList, Vector.getElem?_eq_getElem hj]
  rw [h.cells, List.getElem?_append] at hcell
  split at hcell
  next => rw [hcell, Option.getD_some]
  next hlt =>
    rw [List.getElem?_replicate, if_pos (by omega)] at hcell
    rw [List.getElem?_eq_none (Nat.le_of_not_lt hlt), Option.getD_none, Option.some.inj hcell]

/-- **A row that is advanced holds one delta more.** -/
theorem Filled.advanced {d : Double} (h : r.Filled ds) (hlt : ds.length < n)
    (hadvanced : r.Advanced ds.length d r') : r'.Filled (ds ++ [d]) := by
  have hlength : (ds ++ [d]).length = ds.length + 1 := List.length_append
  refine ⟨hadvanced.cursor.trans hlength.symm, hlength ▸ hlt, ?_⟩
  refine List.ext_getElem ?_ fun j hj hj' => ?_
  · rw [Vector.length_toList, List.length_append, List.length_replicate, hlength]
    omega
  · rw [Vector.length_toList] at hj
    rw [Vector.getElem_toList, hadvanced.cells j hj, h.getElem_cells j hj]
    -- The new delta stands between those that were there and the sentinels that are left.
    rcases Nat.lt_trichotomy j ds.length with hlt | rfl | hgt
    · rw [if_neg (by omega), List.getElem_append_left (by omega), List.getElem_append_left hlt,
        List.getElem?_eq_getElem hlt, Option.getD_some]
    · rw [if_pos rfl, List.getElem_append_left (by omega), List.getElem_concat_length rfl]
    · rw [if_neg (by omega), List.getElem_append_right (by omega), List.getElem_replicate,
        List.getElem?_eq_none (by omega), Option.getD_none]

/-- What becomes of a row by a request for it. -/
def request (r : Row n) (q : Request) : Row n :=
  ((put q.key q.iteration q.delta).run r).2

/-- What a filled row answers to a write. -/
theorem Filled.write_eq (h : r.Filled ds) (key : RowKey) (i : Nat) (d : Double) :
    (r.write key i d).map (fun _ => ()) =
      if n ≤ i then .error (.overflow i n)
      else if i ≠ ds.length then .error (.outOfOrder key.1 key.2 i ds.length)
      else .ok () := by
  rw [Row.write_eq, h.cursor]
  by_cases hi : i < n
  · rw [dif_pos hi, if_neg (Nat.not_le_of_lt hi)]
    by_cases hc : i = ds.length
    · rw [if_pos hc, if_neg (not_not_intro hc)]
      rfl
    · rw [if_neg hc, if_pos hc]
      rfl
  · rw [dif_neg hi, if_pos (Nat.le_of_not_lt hi)]
    rfl

end Row

/-! ### One request -/

namespace Recording

variable {layout : Layout} {n : Nat} (r : Recording layout n) (q : Request)

/-- What a request is answered, and the recording that it leaves behind. -/
def request : Except RecordError Unit × Recording layout n :=
  (enter q.metric q.core q.iteration q.delta).run r

variable {r q}

/-- A refused request leaves the recording as it was. -/
theorem request_of_error {e : RecordError} (h : (r.request q).1 = .error e) :
    (r.request q).2 = r :=
  enter_of_error h

/-- An accepted request leaves the recording that `Recording.record` makes. -/
theorem record_of_request (h : (r.request q).1 = .ok ()) :
    r.record q.metric q.core q.iteration q.delta = .ok (r.request q).2 := by
  show (r.request q).1.map (fun _ => (r.request q).2) = _
  rw [h]
  rfl

/-- A request for a row is put into it. -/
theorem request_of_rowKey {row : Fin layout.rowCount} (hrow : layout.rowKey row = q.key) :
    r.request q = (put row q.iteration q.delta).run r := by
  have hlookup : layout.rowOf? (q.metric, q.core) = some row := layout.rowOf?_eq_some_iff.2 hrow
  rw [request, enter, hlookup]

/-- **What an accepted request does**: its key is that of a row, which waits for its iteration; this
row is advanced, and the others are left alone. -/
theorem request_of_ok (h : (r.request q).1 = .ok ()) :
    ∃ row, layout.rowKey row = q.key ∧ q.iteration < n ∧ (r.rowAt row).cursor = q.iteration ∧
      (r.rowAt row).Advanced q.iteration q.delta ((r.request q).2.rowAt row) ∧
      ∀ other, other ≠ row → (r.request q).2.rowAt other = r.rowAt other := by
  have hrecord := record_of_request h
  cases hrow : layout.rowOf? (q.metric, q.core) with
  | none =>
    rw [record, enter, hrow] at hrecord
    cases hrecord
  | some row =>
    rw [record_of_rowOf? hrow] at hrecord
    exact ⟨row, layout.rowOf?_eq_some_iff.1 hrow, write_eq_ok hrecord⟩

/-- The answer to a request for a row is that of the row. -/
theorem answer_request_of_rowKey {row : Fin layout.rowCount} (hrow : layout.rowKey row = q.key) :
    (r.request q).1 =
      ((r.rowAt row).write q.key q.iteration q.delta).map (fun _ => ()) := by
  rw [request_of_rowKey hrow, ← hrow, Row.write, stateBehind]
  show ((Row.put (layout.rowKey row) q.iteration q.delta).run (r.rowAt row)).1 = _
  cases ((Row.put (layout.rowKey row) q.iteration q.delta).run (r.rowAt row)).1 <;> rfl

/-- A request for no row of the layout. -/
theorem answer_request_of_not_mem (h : q.key ∉ layout.rowKeys) :
    (r.request q).1 = .error (.unknownRow q.metric q.core) := by
  have hlookup : layout.rowOf? (q.metric, q.core) = none := layout.rowOf?_eq_none_iff.2 h
  rw [request, enter, hlookup]
  rfl

/-! ### Sequences of requests -/

variable (r)

/-- The recording after a sequence of requests. -/
def after : List Request → Recording layout n :=
  List.foldl (fun r q => (r.request q).2) r

/-- The requests of a sequence that are accepted, in their order. -/
def accepted (r : Recording layout n) : List Request → List Request
  | [] => []
  | q :: qs =>
    match (r.request q).1 with
    | .ok () => q :: (r.request q).2.accepted qs
    | .error _ => (r.request q).2.accepted qs

/-- The deltas of a sequence that are accepted for a row, in their order. -/
def taken (key : RowKey) (qs : List Request) : List Double :=
  ((r.accepted qs).filter (·.key = key)).map (·.delta)

/-- The deltas that one request brings for a row: its own, or none. -/
theorem taken_cons (key : RowKey) (q : Request) (qs : List Request) :
    r.taken key (q :: qs) =
      (if (r.request q).1 = .ok () ∧ q.key = key then [q.delta] else []) ++
        (r.request q).2.taken key qs := by
  cases hanswer : (r.request q).1 with
  | error e => simp [taken, accepted, hanswer]
  | ok _ => by_cases hkey : q.key = key <;> simp [taken, accepted, hanswer, hkey]

/-- What is accepted is part of what was asked. -/
theorem accepted_sublist (qs : List Request) :
    ∀ r : Recording layout n, (r.accepted qs).Sublist qs := by
  induction qs with
  | nil => exact fun r => .slnil
  | cons q qs ih =>
    intro r
    unfold accepted
    split
    · exact (ih _).cons_cons q
    · exact (ih _).cons q

variable {r}

/-- Every row is filled with the given deltas. -/
def Filled (ds : RowKey → List Double) (r : Recording layout n) : Prop :=
  ∀ row : Fin layout.rowCount, (r.rowAt row).Filled (ds (layout.rowKey row))

theorem filled_blank : (blank layout n).Filled fun _ => [] := by
  intro row
  rw [rowAt_blank]
  exact Row.filled_blank

/-- **One request** fills its row with its delta if it is accepted, and changes nothing
otherwise. -/
theorem Filled.request {ds : RowKey → List Double} (h : r.Filled ds) (q : Request) :
    (r.request q).2.Filled fun key =>
      ds key ++ if (r.request q).1 = .ok () ∧ q.key = key then [q.delta] else [] := by
  intro row
  cases hanswer : (r.request q).1 with
  | error e =>
    rw [request_of_error hanswer]
    simpa using h row
  | ok _ =>
    obtain ⟨row', hkey, hlt, hcursor, hadvanced, hothers⟩ := request_of_ok hanswer
    by_cases hrow : row = row'
    · subst hrow
      have hfilled := h row
      simp only [← hkey, and_self, ↓reduceIte]
      -- The row waits for the iteration whose number is the number of its deltas.
      have hlength : q.iteration = (ds (layout.rowKey row)).length :=
        hcursor.symm.trans hfilled.cursor
      rw [hlength] at hlt hadvanced
      exact hfilled.advanced hlt hadvanced
    · have hne : q.key ≠ layout.rowKey row := fun heq =>
        hrow (layout.rowKey_injective (heq.symm.trans hkey.symm))
      rw [hothers row hrow]
      simpa [hne] using h row

/-- **A sequence of requests** fills every row with what is accepted for it. -/
theorem Filled.after (qs : List Request) :
    ∀ {r : Recording layout n} {ds : RowKey → List Double}, r.Filled ds →
      (r.after qs).Filled fun key => ds key ++ r.taken key qs := by
  induction qs with
  | nil =>
    intro r ds h row
    show (r.rowAt row).Filled (ds (layout.rowKey row) ++ [])
    rw [List.append_nil]
    exact h row
  | cons q qs ih =>
    intro r ds h row
    have hrest := ih (h.request q) row
    simp only [List.append_assoc, ← taken_cons] at hrest
    exact hrest

/-- From a blank recording, the rows are filled with what is accepted and nothing else. -/
theorem filled_after (qs : List Request) :
    ((blank layout n).after qs).Filled fun key => (blank layout n).taken key qs :=
  filled_blank.after qs

/-- **Every answer is known** from what was accepted before. -/
theorem Filled.answer_request {ds : RowKey → List Double} (h : r.Filled ds) (q : Request) :
    (r.request q).1 =
      if q.key ∉ layout.rowKeys then .error (.unknownRow q.metric q.core)
      else if n ≤ q.iteration then .error (.overflow q.iteration n)
      else if q.iteration ≠ (ds q.key).length then
        .error (.outOfOrder q.metric q.core q.iteration (ds q.key).length)
      else .ok () := by
  by_cases hkey : q.key ∈ layout.rowKeys
  · obtain ⟨row, hrow⟩ := layout.exists_rowKey hkey
    have hfilled := h row
    rw [hrow] at hfilled
    rw [if_neg (not_not_intro hkey), answer_request_of_rowKey hrow, hfilled.write_eq]
    rfl
  · rw [if_pos hkey, answer_request_of_not_mem hkey]

/-- A recording is complete if and only if every row is filled to its end. -/
theorem Filled.isComplete_iff {ds : RowKey → List Double} (h : r.Filled ds) :
    r.isComplete = true ↔ ∀ key ∈ layout.rowKeys, (ds key).length = n := by
  rw [isComplete, Vector.all_eq_true]
  constructor
  · intro hall key hkey
    obtain ⟨row, rfl⟩ := layout.exists_rowKey hkey
    rw [← (h row).cursor]
    exact eq_of_beq (hall row row.isLt)
  · intro hall i hi
    have hcursor : r.rows[i].cursor = (ds (layout.rowKey ⟨i, hi⟩)).length := (h ⟨i, hi⟩).cursor
    rw [hcursor, hall _ (layout.rowKey_mem ⟨i, hi⟩)]
    exact beq_self_eq_true n

/-! ### The order of requests for different rows -/

/-- A request for another row leaves a row alone. -/
theorem rowAt_request_of_ne {row : Fin layout.rowCount} (h : q.key ≠ layout.rowKey row) :
    (r.request q).2.rowAt row = r.rowAt row := by
  cases hanswer : (r.request q).1 with
  | error e => rw [request_of_error hanswer]
  | ok _ =>
    obtain ⟨row', hkey, -, -, -, hothers⟩ := request_of_ok hanswer
    exact hothers row fun hrow => h (by rw [← hkey, hrow])

/-- What a request makes of its row is seen from the row alone. -/
theorem rowAt_request {row : Fin layout.rowCount} (h : q.key = layout.rowKey row) :
    (r.request q).2.rowAt row = (r.rowAt row).request q := by
  rw [request_of_rowKey h.symm, Row.request, h]
  exact rowAt_setRow_self _

/-- **What becomes of a row depends only on the requests for it.** -/
theorem rowAt_after (row : Fin layout.rowCount) (qs : List Request) :
    ∀ r : Recording layout n, (r.after qs).rowAt row =
      (qs.filter (·.key = layout.rowKey row)).foldl Row.request (r.rowAt row) := by
  induction qs with
  | nil => exact fun r => rfl
  | cons q qs ih =>
    intro r
    have hafter : r.after (q :: qs) = (r.request q).2.after qs := rfl
    rw [hafter, ih]
    by_cases hkey : q.key = layout.rowKey row
    · rw [rowAt_request hkey]
      simp [hkey]
    · rw [rowAt_request_of_ne hkey]
      simp [hkey]

/-- Sequences with the same requests for each row make the same recording. -/
theorem after_congr {qs qs' : List Request}
    (h : ∀ key ∈ layout.rowKeys, qs.filter (·.key = key) = qs'.filter (·.key = key)) :
    r.after qs = r.after qs' := by
  refine ext_rowAt fun row => ?_
  rw [rowAt_after, rowAt_after, h _ (layout.rowKey_mem row)]

/-! ### All together -/

/-- **A recording is written once and in order.**  Of any sequence of requests to a blank recording,
let `taken key` be the deltas that were accepted for a row, in their order.  Then

* the next request is accepted if and only if its key is that of a row, there is such an iteration,
  and its number is the number of deltas that the row has taken; it is refused for the first of
  these reasons that does not hold;
* a refusal changes nothing, and what is accepted is written into one cell that was the sentinel,
  the one of the row and the iteration, and into no other;
* every row holds what it has taken, and behind that the sentinel;
* the recording is complete if and only if every row has taken a delta for each iteration;
* a sequence with the same requests for each row, in whatever way they are interleaved, makes the
  same recording. -/
theorem record_in_order (layout : Layout) (n : Nat) (qs : List Request) :
    let r := (blank layout n).after qs
    let taken := fun key => (blank layout n).taken key qs
    (∀ q, (r.request q).1 =
      if q.key ∉ layout.rowKeys then .error (.unknownRow q.metric q.core)
      else if n ≤ q.iteration then .error (.overflow q.iteration n)
      else if q.iteration ≠ (taken q.key).length then
        .error (.outOfOrder q.metric q.core q.iteration (taken q.key).length)
      else .ok ()) ∧
    (∀ q e, (r.request q).1 = .error e → (r.request q).2 = r) ∧
    (∀ q, (r.request q).1 = .ok () → ∃ row, layout.rowKey row = q.key ∧
      ∃ hi : q.iteration < n, (r.rowAt row).cells[q.iteration] = sentinel ∧
        ((r.request q).2.rowAt row).cells[q.iteration] = q.delta ∧
        ∀ (other : Fin layout.rowCount) (j : Nat) (hj : j < n), (other, j) ≠ (row, q.iteration) →
          ((r.request q).2.rowAt other).cells[j] = (r.rowAt other).cells[j]) ∧
    (∀ row, r.values row = taken (layout.rowKey row) ++
      List.replicate (n - (taken (layout.rowKey row)).length) sentinel) ∧
    (r.isComplete = true ↔ ∀ key ∈ layout.rowKeys, (taken key).length = n) ∧
    ∀ qs', (∀ key ∈ layout.rowKeys, qs.filter (·.key = key) = qs'.filter (·.key = key)) →
      (blank layout n).after qs' = r := by
  intro r taken
  have hfilled : r.Filled taken := filled_after qs
  refine ⟨hfilled.answer_request, fun q e => request_of_error, fun q hq => ?_,
    fun row => (hfilled row).cells, hfilled.isComplete_iff, fun qs' hqs' => (after_congr hqs').symm⟩
  obtain ⟨row, hkey, hi, hcursor, hadvanced, hothers⟩ := request_of_ok hq
  refine ⟨row, hkey, hi, ?_, ?_, fun other j hj hne => ?_⟩
  -- The cell behind the deltas that the row has taken is still the sentinel.
  · rw [(hfilled row).getElem_cells, ← hcursor, (hfilled row).cursor,
      List.getElem?_eq_none (Nat.le_refl _), Option.getD_none]
  · rw [hadvanced.cells q.iteration hi, if_pos rfl]
  · by_cases hrow : other = row
    · subst hrow
      rw [hadvanced.cells j hj, if_neg fun hji => hne (by rw [hji])]
    · rw [hothers other hrow]

end Recording

end Stopwatch
