import Mathlib.Tactic.SplitIfs
import Stopwatch.Recording
import Stopwatch.Proofs.Relation

/-!
# Writing into a recording

The rows of a recording are looked at and replaced by their place (`Recording.rowAt`,
`Recording.setRow`), and a recording is what its rows are (`Recording.ext_rowAt`).

A delta is put into a row behind two checks and in two steps, the cell and the cursor
(`Row.put_apply`).  A put that is refused leaves the recording as it was (`Recording.put_of_error`,
`Recording.enter_of_error`).  What an accepted write does: the row gets the delta in the cell of the
iteration and waits for the next one, and nothing else changes (`Recording.write_eq_ok`).  A row
that waits for an iteration that there is accepts it (`Recording.exists_write_eq_ok`).
-/

namespace Stopwatch

/-- The second row is the first one with the delta `d` written in iteration `i`. -/
structure Row.Advanced {n : Nat} (i : Nat) (d : Double) (r r' : Row n) : Prop where
  cursor : r'.cursor = i + 1
  cells : ∀ (j : Nat) (hj : j < n), r'.cells[j] = if j = i then d else r.cells[j]

namespace Row

variable {n : Nat} {r r' : Row n} {key : RowKey} {i : Nat} {d : Double}

/-- What `Row.put` answers, and the row that it leaves: the bound is checked before the order. -/
theorem put_apply (r : Row n) (key : RowKey) (i : Nat) (d : Double) :
    (put key i d).run r =
      if h : i < n then
        if i = r.cursor then (.ok (), ⟨r.cells.set i d h, r.cursor + 1⟩)
        else (.error (.outOfOrder key.1 key.2 i r.cursor), r)
      else (.error (.overflow i n), r) := by
  unfold put
  split
  next hi =>
    -- The cursor is looked at only when the cell is there.
    refine (bind_of_ok (x := get) rfl).trans ?_
    dsimp only
    split <;> rfl
  next => rfl

/-- A refused `Row.put` leaves the row as it was: both checks come before both changes. -/
theorem put_of_error {e : RecordError} (h : ((put key i d).run r).1 = .error e) :
    ((put key i d).run r).2 = r := by
  rw [put_apply] at h ⊢
  split_ifs at h ⊢ <;> rfl

theorem write_eq (r : Row n) (key : RowKey) (i : Nat) (d : Double) :
    r.write key i d =
      if h : i < n then
        if i = r.cursor then .ok ⟨r.cells.set i d h, r.cursor + 1⟩
        else .error (.outOfOrder key.1 key.2 i r.cursor)
      else .error (.overflow i n) := by
  rw [write, stateBehind, put_apply]
  split_ifs <;> rfl

theorem write_eq_ok (h : r.write key i d = .ok r') :
    i < n ∧ r.cursor = i ∧ r.Advanced i d r' := by
  rw [write_eq] at h
  split at h
  next hi =>
    split at h
    next hc =>
      obtain rfl := Except.ok.inj h
      refine ⟨hi, hc.symm, congrArg (· + 1) hc.symm, fun j hj => ?_⟩
      rw [Vector.getElem_set]
      -- The cell of iteration `i` holds the delta, and every other one what it held before.
      by_cases hji : j = i
      · rw [if_pos hji, if_pos hji.symm]
      · rw [if_neg hji, if_neg fun hij => hji hij.symm]
    next => cases h
  next => cases h

theorem exists_write_eq_ok (hi : i < n) (hc : r.cursor = i) (key : RowKey) (d : Double) :
    ∃ r', r.write key i d = .ok r' := by
  rw [write_eq, dif_pos hi, if_pos hc.symm]
  exact ⟨_, rfl⟩

end Row

namespace Recording

variable {layout : Layout} {n : Nat} {r r' : Recording layout n} {row : Fin layout.rowCount}
  {i : Nat} {d : Double}

/-! ### Rows by their place -/

/-- A recording is what its rows are. -/
theorem ext_rowAt (h : ∀ row, r.rowAt row = r'.rowAt row) : r = r' := by
  have hrows : r.rows = r'.rows := Vector.ext fun i hi => h ⟨i, hi⟩
  exact congrArg mk hrows

@[simp] theorem rowAt_blank (row : Fin layout.rowCount) :
    (blank layout n).rowAt row = Row.blank n :=
  Vector.getElem_replicate _

@[simp] theorem rowAt_ofFn (f : Fin layout.rowCount → Row n) (row : Fin layout.rowCount) :
    (mk (Vector.ofFn f)).rowAt row = f row :=
  Vector.getElem_ofFn _

@[simp] theorem rowAt_setRow_self (written : Row n) : (r.setRow row written).rowAt row = written :=
  Vector.getElem_set_self _

theorem rowAt_setRow_of_ne {other : Fin layout.rowCount} (h : other ≠ row) (written : Row n) :
    (r.setRow row written).rowAt other = r.rowAt other := by
  have hval : row.val ≠ other.val := fun hval => h (Fin.ext hval.symm)
  exact Vector.getElem_set_ne row.isLt other.isLt hval

@[simp] theorem setRow_rowAt (row : Fin layout.rowCount) : r.setRow row (r.rowAt row) = r := by
  refine ext_rowAt fun other => ?_
  by_cases h : other = row
  · rw [h, rowAt_setRow_self]
  · rw [rowAt_setRow_of_ne h]

/-! ### Writing a row -/

/-- A refused `Recording.put` leaves the recording as it was, all of its rows included. -/
theorem put_of_error {e : RecordError} (h : ((put row i d).run r).1 = .error e) :
    ((put row i d).run r).2 = r := by
  show r.setRow row ((Row.put (layout.rowKey row) i d).run (r.rowAt row)).2 = r
  rw [Row.put_of_error h, setRow_rowAt]

/-- A refused `Recording.enter` leaves the recording as it was, whether there is no such row or its
row refuses. -/
theorem enter_of_error {metric : Metric} {core : Option Nat} {e : RecordError}
    (h : ((enter metric core i d).run r).1 = .error e) :
    ((enter metric core i d).run r).2 = r := by
  unfold enter at h ⊢
  split at h
  next => rfl
  next => exact put_of_error h

theorem write_eq (r : Recording layout n) (row : Fin layout.rowCount) (i : Nat) (d : Double) :
    r.write row i d = ((r.rowAt row).write (layout.rowKey row) i d).map (r.setRow row) := by
  rw [write, Row.write, stateBehind, stateBehind]
  show Except.map (fun _ => r.setRow row ((Row.put (layout.rowKey row) i d).run (r.rowAt row)).2)
    ((Row.put (layout.rowKey row) i d).run (r.rowAt row)).1 = _
  cases ((Row.put (layout.rowKey row) i d).run (r.rowAt row)).1 <;> rfl

theorem record_of_rowOf? {metric : Metric} {core : Option Nat}
    (h : layout.rowOf? (metric, core) = some row) (r : Recording layout n) (i : Nat) (d : Double) :
    r.record metric core i d = r.write row i d := by
  rw [record, enter, h, write]

/-- **What an accepted write does**: it is for the iteration that the row waits for, it advances the
row, and it leaves the others alone. -/
theorem write_eq_ok (h : r.write row i d = .ok r') :
    i < n ∧ (r.rowAt row).cursor = i ∧ (r.rowAt row).Advanced i d (r'.rowAt row) ∧
      ∀ other, other ≠ row → r'.rowAt other = r.rowAt other := by
  rw [write_eq] at h
  cases hw : (r.rowAt row).write (layout.rowKey row) i d with
  | error e =>
    rw [hw] at h
    cases h
  | ok written =>
    rw [hw] at h
    obtain rfl := Except.ok.inj h
    obtain ⟨hi, hc, hadv⟩ := Row.write_eq_ok hw
    refine ⟨hi, hc, ?_, fun other hne => rowAt_setRow_of_ne hne written⟩
    rwa [rowAt_setRow_self]

/-- A row accepts the iteration that it waits for. -/
theorem exists_write_eq_ok (hi : i < n) (hc : (r.rowAt row).cursor = i) (d : Double) :
    ∃ r', r.write row i d = .ok r' := by
  obtain ⟨written, hw⟩ := Row.exists_write_eq_ok hi hc (layout.rowKey row) d
  rw [write_eq, hw]
  exact ⟨_, rfl⟩

end Recording

end Stopwatch
