import Stopwatch.Proofs.Delta
import Stopwatch.Proofs.Reference

/-!
# What is in a recording while it is written

The cells of a recording are written one by one, and at any time what was written can be told from
what was not.  `Recording.Stored i k` is the state of a recording in which, for iteration `i`,
exactly the first `k` rows are written: their cursors are one further than those of the other rows,
the cells below a cursor are deltas, and all others are the sentinel.

`Session.upTo` is a run up to there, and `Session.onFrom` the rest of it; together they are the
whole run, wherever it is split (`Session.measure_eq`).  `Session.run_stored` says that every
recording on the way is as `Recording.Stored` says.  It is carried by the writes alone
(`Recording.Stored.write`): no sample gives out the sentinel.
-/

namespace Stopwatch

/-! ### The state of a recording -/

/-- The cells below the cursor are deltas, those from it on are the sentinel. -/
def Row.Kept {n : Nat} (r : Row n) : Prop :=
  ∀ (j : Nat) (hj : j < n),
    (j < r.cursor → r.cells[j].IsDelta) ∧ (r.cursor ≤ j → r.cells[j] = sentinel)

/-- In a row that is kept, the sentinel stands where nothing was written. -/
theorem Row.Kept.eq_sentinel_iff {n : Nat} {r : Row n} (h : r.Kept) (j : Nat) (hj : j < n) :
    r.cells[j] = sentinel ↔ r.cursor ≤ j := by
  refine ⟨fun hcell => ?_, (h j hj).2⟩
  by_contra hlt
  exact ((h j hj).1 (Nat.lt_of_not_le hlt)).ne_sentinel hcell

theorem Row.Kept.advanced {n : Nat} {r r' : Row n} {i : Nat} {d : Double} (h : r.Kept)
    (hcursor : r.cursor = i) (hd : d.IsDelta) (hadvanced : r.Advanced i d r') : r'.Kept := by
  intro j hj
  rw [hadvanced.cells j hj, hadvanced.cursor]
  by_cases hji : j = i
  -- The cell that was written is the only one that passes below the cursor.
  · rw [if_pos hji]
    exact ⟨fun _ => hd, fun hle => by omega⟩
  · rw [if_neg hji]
    exact ⟨fun hlt => (h j hj).1 (by omega), fun hle => (h j hj).2 (by omega)⟩

namespace Recording

variable {layout : Layout} {n : Nat} {r r' : Recording layout n} {i k : Nat}

/-- For iteration `i` exactly the first `k` rows are written. -/
def Stored (i k : Nat) (r : Recording layout n) : Prop :=
  ∀ row : Fin layout.rowCount,
    (r.rowAt row).cursor = (if row.val < k then i + 1 else i) ∧ (r.rowAt row).Kept

theorem stored_blank : (blank layout n).Stored 0 0 := by
  intro row
  rw [rowAt_blank]
  refine ⟨rfl, fun j hj => ⟨fun hlt => ?_, fun _ => ?_⟩⟩
  · exact absurd hlt (Nat.not_lt_zero j)
  · rw [Row.blank, Vector.getElem_replicate]

/-- **A write stores one more row.** -/
theorem Stored.write {row : Fin layout.rowCount} {d : Double} (h : r.Stored i row.val)
    (hd : d.IsDelta) (hw : r.write row i d = .ok r') : r'.Stored i (row.val + 1) := by
  obtain ⟨-, hcursor, hadvanced, hothers⟩ := write_eq_ok hw
  intro other
  by_cases hrow : other = row
  · rw [hrow, hadvanced.cursor, if_pos (Nat.lt_succ_self _)]
    exact ⟨rfl, (h row).2.advanced hcursor hd hadvanced⟩
  · have hval : other.val ≠ row.val := fun hval => hrow (Fin.ext hval)
    rw [hothers other hrow, (h other).1]
    refine ⟨?_, (h other).2⟩
    by_cases hlt : other.val < row.val
    · rw [if_pos hlt, if_pos (Nat.lt_succ_of_lt hlt)]
    · rw [if_neg hlt, if_neg (by omega)]

/-- When all rows are written for an iteration, none is for the next one. -/
theorem Stored.next (h : r.Stored i layout.rowCount) : r.Stored (i + 1) 0 := by
  intro row
  rw [(h row).1, if_pos row.isLt]
  exact ⟨rfl, (h row).2⟩

end Recording

/-! ### Splitting a run -/

namespace Session

section Split

variable {m : Type → Type} [Monad m] (s : Session m) (layout : Layout)

/-- A run from its blank recording up to where, for iteration `i`, the first `k` rows are
written. -/
def upTo (i k : Nat) : Step m (Frame × Recording layout s.total) := do
  let (frame, r) ← s.measure i 0 {} (Recording.blank layout s.total)
  let frame ← s.bracket i frame
  let r ← s.writeRows frame i ((List.finRange layout.rowCount).take k) r
  pure (frame, r)

/-- The rest of the run from there. -/
def onFrom (i k : Nat) (x : Frame × Recording layout s.total) :
    Step m (Frame × Recording layout s.total) := do
  let r ← s.writeRows x.1 i ((List.finRange layout.rowCount).drop k) x.2
  ExceptT.lift (s.notify (.iterationEnd i s.total))
  s.measure (s.total - (i + 1)) (i + 1) x.1 r

variable [LawfulMonad m]

theorem writeRows_append (f : Frame) (i : Nat) (rows rows' : List (Fin layout.rowCount)) :
    ∀ r : Recording layout s.total, s.writeRows f i (rows ++ rows') r =
      s.writeRows f i rows r >>= s.writeRows f i rows' := by
  induction rows with
  | nil => exact fun r => (pure_bind r _).symm
  | cons row rows ih =>
    intro r
    simp only [List.cons_append, writeRows, bind_assoc, ih]

theorem measure_add (count count' : Nat) : ∀ (i : Nat) (f : Frame) (r : Recording layout s.total),
    s.measure (count + count') i f r =
      s.measure count i f r >>= fun x => s.measure count' (i + count) x.1 x.2 := by
  induction count with
  | zero =>
    intro i f r
    rw [Nat.zero_add, measure, pure_bind]
    rfl
  | succ count ih =>
    intro i f r
    rw [Nat.succ_add, measure, measure, bind_assoc]
    refine bind_congr fun ⟨f', r'⟩ => ?_
    show s.measure (count + count') (i + 1) f' r' = _
    rw [ih, Nat.add_assoc, Nat.add_comm 1 count]

/-- **A run can be split anywhere.** -/
theorem measure_eq {i : Nat} (hi : i < s.total) (k : Nat) :
    s.measure s.total 0 {} (Recording.blank layout s.total) =
      s.upTo layout i k >>= s.onFrom layout i k := by
  -- The iterations before `i`, this one, and those behind it.
  have htotal : s.total = i + (s.total - (i + 1) + 1) := by omega
  have hmeasure : s.measure s.total 0 {} (Recording.blank layout s.total) =
      s.measure i 0 {} (Recording.blank layout s.total) >>= fun x =>
        s.measure (s.total - (i + 1) + 1) i x.1 x.2 := by
    refine (congrArg (s.measure · 0 {} (Recording.blank layout s.total)) htotal).trans ?_
    rw [measure_add, Nat.zero_add]
  rw [hmeasure, upTo, bind_assoc]
  refine bind_congr fun ⟨f, r⟩ => ?_
  show s.measure (s.total - (i + 1) + 1) i f r = _
  rw [measure, iterate, ← List.take_append_drop k (List.finRange layout.rowCount)]
  simp only [writeRows_append, bind_assoc, pure_bind]
  rw [List.take_append_drop]
  rfl

end Split

/-! ### Every recording on the way -/

section Yields

variable {σ α β : Type}

/-- If the step answers, it answers as `P` says. -/
def Yields (x : Step (StateM σ) α) (P : α → Prop) : Prop := ∀ w a, (x.run w).1 = .ok a → P a

namespace Yields

theorem any (x : Step (StateM σ) α) : Yields x fun _ => True := fun _ _ _ => trivial

theorem of_pure {P : α → Prop} {a : α} (h : P a) : Yields (pure a : Step (StateM σ) α) P := by
  intro w a' ha
  cases ha
  exact h

theorem of_answer (x : Except RunError α) :
    Yields (ExceptT.mk (pure x) : Step (StateM σ) α) fun a => x = .ok a := fun _ _ ha => ha

theorem bind {P : β → Prop} {Q : α → Prop} {x : Step (StateM σ) β} {f : β → Step (StateM σ) α}
    (hx : Yields x P) (hf : ∀ b, P b → Yields (f b) Q) : Yields (x >>= f) Q := by
  intro w a ha
  obtain ⟨b, v, hb, hrest⟩ := exists_of_bind_eq_ok (Prod.ext ha rfl)
  exact hf b (hx w b (congrArg Prod.fst hb)) v a (congrArg Prod.fst hrest)

end Yields

variable {s : Session (StateM σ)} {layout : Layout} {i k : Nat}

/-- Rows that are written one after the other are stored one after the other: the list begins with
row `k` and goes on from there. -/
theorem yields_writeRows (f : Frame) {rows : List (Fin layout.rowCount)} :
    ∀ {k : Nat}, (∀ (j : Nat) (hj : j < rows.length), rows[j].val = k + j) →
    ∀ {r : Recording layout s.total}, r.Stored i k →
    Yields (s.writeRows f i rows r) (·.Stored i (k + rows.length)) := by
  induction rows with
  | nil => exact fun _ _ hr => .of_pure hr
  | cons row rows ih =>
    intro k hrows r hr
    refine (Yields.any _).bind fun sample _ => ?_
    refine (Yields.of_answer _).bind fun d hd => ?_
    refine (Yields.of_answer _).bind fun r' hr' => ?_
    have hrow : row.val = k := hrows 0 (Nat.zero_lt_succ _)
    -- Only what the sample gives out is written, and that is never the sentinel.
    have hd' : d.IsDelta := Sample.isDelta (eq_ok_of_mapError hd)
    have hstored : r'.Stored i (k + 1) := by
      rw [← hrow] at hr ⊢
      exact hr.write hd' (eq_ok_of_mapError hr')
    have hrows' : ∀ (j : Nat) (hj : j < rows.length), rows[j].val = k + 1 + j := by
      intro j hj
      have hval := hrows (j + 1) (Nat.succ_lt_succ hj)
      rw [List.getElem_cons_succ] at hval
      omega
    rw [List.length_cons, Nat.add_comm rows.length, ← Nat.add_assoc]
    exact ih hrows' hstored

/-- After the first `k` rows exactly these are stored. -/
theorem yields_firstRows (f : Frame) (hk : k ≤ layout.rowCount) {r : Recording layout s.total}
    (hr : r.Stored i 0) :
    Yields (s.writeRows f i ((List.finRange layout.rowCount).take k) r) (·.Stored i k) := by
  have hrows : ∀ (j : Nat) (hj : j < ((List.finRange layout.rowCount).take k).length),
      ((List.finRange layout.rowCount).take k)[j].val = 0 + j := by
    intro j hj
    rw [List.getElem_take, List.getElem_finRange, Nat.zero_add]
    rfl
  have hlength : 0 + ((List.finRange layout.rowCount).take k).length = k := by
    rw [List.length_take, List.length_finRange, Nat.min_eq_left hk, Nat.zero_add]
  have hwritten := yields_writeRows f hrows hr
  rwa [hlength] at hwritten

theorem yields_iterate (f : Frame) {r : Recording layout s.total} (hr : r.Stored i 0) :
    Yields (s.iterate i f r) (·.2.Stored (i + 1) 0) := by
  have hall : (List.finRange layout.rowCount).take layout.rowCount =
      List.finRange layout.rowCount :=
    List.take_of_length_le (Nat.le_of_eq List.length_finRange)
  refine (Yields.any _).bind fun f' _ => ?_
  have hrows := yields_firstRows f' (Nat.le_refl layout.rowCount) hr
  rw [hall] at hrows
  refine hrows.bind fun r' hr' => ?_
  exact (Yields.any _).bind fun _ _ => .of_pure hr'.next

theorem yields_measure (count : Nat) : ∀ {i : Nat} (f : Frame) {r : Recording layout s.total},
    r.Stored i 0 → Yields (s.measure count i f r) (·.2.Stored (i + count) 0) := by
  induction count with
  | zero => exact fun f r hr => .of_pure hr
  | succ count ih =>
    intro i f r hr
    refine (yields_iterate f hr).bind fun x hx => ?_
    rw [Nat.add_comm count, ← Nat.add_assoc]
    exact ih x.1 hx

/-- **The recording on the way** is stored as far as the run has come. -/
theorem yields_upTo (hk : k ≤ layout.rowCount) :
    Yields (s.upTo layout i k) (·.2.Stored i k) := by
  refine (yields_measure i {} Recording.stored_blank).bind fun x hx => ?_
  refine (Yields.any _).bind fun f _ => ?_
  rw [Nat.zero_add] at hx
  exact (yields_firstRows f hk hx).bind fun r hr => .of_pure hr

end Yields

end Session

/-- **What was written can be told from what was not, at any time.**  A run passes through a
recording for every iteration and every number of rows that are written for it.  There the written
rows have their cursor behind the iteration and the others at it, the cells below a cursor are
finite and at least zero, and a cell is the sentinel if and only if it was not written; and in the
recording that a run gives no cell is the sentinel, negative, or not finite. -/
theorem Session.run_stored {σ : Type} (s : Session (StateM σ)) :
    (∀ layout, ∀ i < s.total, ∀ k, s.measure s.total 0 {} (Recording.blank layout s.total) =
      s.upTo layout i k >>= s.onFrom layout i k) ∧
    (∀ layout, (Recording.blank layout s.total).Stored 0 0) ∧
    (∀ layout i, ∀ k ≤ layout.rowCount, ∀ w frame r,
      ((s.upTo layout i k).run w).1 = .ok (frame, r) → r.Stored i k ∧
        ∀ (row : Fin layout.rowCount) (j : Nat) (hj : j < s.total),
          (r.rowAt row).cells[j] = sentinel ↔ (r.rowAt row).cursor ≤ j) ∧
    ∀ w layout r, (s.run w).1.result = .ok ⟨layout, r⟩ →
      ∀ (row : Fin layout.rowCount) (j : Nat) (hj : j < s.total),
        (r.rowAt row).cells[j].IsDelta ∧ (r.rowAt row).cells[j] ≠ sentinel := by
  refine ⟨fun layout i hi k => s.measure_eq layout hi k, fun _ => Recording.stored_blank, ?_, ?_⟩
  · intro layout i k hk w frame r hr
    have hstored : r.Stored i k := yields_upTo hk w (frame, r) hr
    exact ⟨hstored, fun row => (hstored row).2.eq_sentinel_iff⟩
  · intro w layout r hr row j hj
    -- In the end a cell holds the delta of a sample, and those are never the sentinel.
    obtain ⟨h, -, -, -, -, houtcome⟩ := s.follows_arbitrary.exists_answers (w := w) trivial
    rw [houtcome] at hr
    obtain ⟨-, hturns, -, rfl⟩ := Answers.result_eq_ok.1 hr
    obtain ⟨d, hvalue, start, stop, -, -, hd⟩ := (Answers.fills_values hturns row).value j hj
    rw [Recording.values, Vector.getElem?_toList, Vector.getElem?_eq_getElem hj] at hvalue
    have hdelta := Sample.isDelta hd
    rw [Option.some.inj hvalue]
    exact ⟨hdelta, hdelta.ne_sentinel⟩

end Stopwatch
