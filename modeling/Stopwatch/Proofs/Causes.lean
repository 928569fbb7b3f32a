import Stopwatch.Proofs.Reference

/-!
# What a run can fail of

A run that gives an error has met one of four things (`Answers.Cause`): the backend did not begin, a
call around the benchmark failed, a row had no delta, or the backend did not end.  Writing into the
recording is not among them, although it checks the row, the iteration and the order each time
(`Session.run_ne_record`).

Readings that come from a clock and from counters in a frame are of the kinds that belong to their
metrics (`Reading.Suits`), since all of them are filed before the first one is sampled; so their
kinds are never mixed (`Session.run_ne_mixed`).
-/

namespace Stopwatch

variable {σ : Type}

/-! ### Kinds of readings -/

/-- The clock is read in seconds, and everything else is counted. -/
def Reading.Suits : Reading → Metric → Prop
  | .seconds _, m => m = .wallclock
  | .count _, m => m ≠ .wallclock

theorem exists_of_map_eq_ok {ε α β : Type} {x : Except ε α} {f : α → β} {b : β}
    (h : x.map f = .ok b) : ∃ a, x = .ok a ∧ b = f a := by
  cases x with
  | error e => cases h
  | ok a => exact ⟨a, rfl, (Except.ok.inj h).symm⟩

theorem Side.suits_of_read {t : Side} {m : Metric} {r : Reading} (h : t.read m = .ok r) :
    r.Suits m := by
  cases m with
  | wallclock =>
    obtain ⟨x, -, rfl⟩ := exists_of_map_eq_ok h
    rfl
  | _ =>
    obtain ⟨n, -, rfl⟩ := exists_of_map_eq_ok h
    exact nofun

/-- **Two readings that suit one metric** are not mixed up. -/
theorem Sample.delta_ne_mixed {s : Sample} (hstart : s.start.Suits s.metric)
    (hstop : s.stop.Suits s.metric) {metric : Metric} {core : Option Nat} {start stop : Reading} :
    s.delta ≠ .error (.mixedReadings metric core start stop) := by
  obtain ⟨m, key, first, last⟩ := s
  cases first with
  | seconds a =>
    cases last with
    | seconds b =>
      simp only [delta, secondsDelta]
      split_ifs <;> exact nofun
    | count b => exact absurd hstart hstop
  | count a =>
    cases last with
    | seconds b => exact absurd hstop hstart
    | count b =>
      simp only [delta, countDelta]
      split_ifs <;> exact nofun

/-! ### Causes -/

theorem failureOf_eq_some {α : Type} {a : Except BackendError α} {cause : RunError}
    (h : failureOf a = some cause) : ∃ e, a = .error e ∧ cause = .backend e := by
  cases a with
  | error e => exact ⟨e, rfl, (Option.some.inj h).symm⟩
  | ok _ => cases h

/-- The failure of an event is an error of the backend. -/
theorem Event.exists_backend_of_failure {e : Event} {cause : RunError}
    (h : e.failure = some cause) : ∃ e', cause = .backend e' := by
  cases e with
  | benchmark => cases h
  | progress => cases h
  | _ =>
    obtain ⟨e', -, he'⟩ := failureOf_eq_some h
    exact ⟨e', he'⟩

namespace Turn

variable {t : Turn} {k : Kind} {key : RowKey} {e : RunError}

/-- Why a row has no delta: one of its readings was not taken, or the two do not go together. -/
inductive RowCause (t : Turn) (k : Kind) (key : RowKey) : RunError → Prop
  | reading (slot : Slot) {e : BackendError} (he : t.taken k slot key = .error e) :
    RowCause t k key (.backend e)
  | delta {start stop : Reading} {e : MeasureError} (hstart : t.taken k .before key = .ok start)
    (hstop : t.taken k .after key = .ok stop)
    (he : (Sample.mk key.1 key.2 start stop).delta = .error e) : RowCause t k key (.measure e)

theorem rowCause_of_delta (h : t.delta k key = .error e) : t.RowCause k key e := by
  -- The readings are looked at in their order, and the first that was not taken is the cause.
  cases hstart : t.taken k .before key with
  | error e' =>
    rw [delta, hstart] at h
    cases h
    exact .reading .before hstart
  | ok start =>
    cases hstop : t.taken k .after key with
    | error e' =>
      rw [delta, hstart, hstop] at h
      cases h
      exact .reading .after hstop
    | ok stop =>
      rw [delta_of_taken hstart hstop] at h
      cases hdelta : (Sample.mk key.1 key.2 start stop).delta with
      | error e' =>
        rw [hdelta] at h
        cases h
        exact .delta hstart hstop hdelta
      | ok d => rw [hdelta] at h; cases h

theorem rowCause_of_rowItem {x : Item} (hx : x ∈ t.rowItems k key) (he : x.failure = some e) :
    t.RowCause k key e := by
  rw [rowItems, List.mem_append, List.mem_map, List.mem_singleton] at hx
  rcases hx with ⟨event, hevent, rfl⟩ | rfl
  -- Only a snapshot backend is called here, for the two readings of the row.
  · cases k with
    | snapshot =>
      simp only [readings, List.mem_cons, List.not_mem_nil, or_false] at hevent
      rcases hevent with rfl | rfl <;> obtain ⟨e', he', rfl⟩ := failureOf_eq_some he
      · exact .reading .before he'
      · exact .reading .after he'
    | _ => exact absurd hevent List.not_mem_nil
  · cases hdelta : t.delta k key with
    | error e' =>
      rw [hdelta] at he
      obtain rfl := Option.some.inj he
      exact rowCause_of_delta hdelta
    | ok d => rw [hdelta] at he; cases he

/-- If an item `x` of an iteration fails with `e`, it is a call of a side, or it belongs to a row
for which `e` is a `RowCause`. -/
theorem cause_of_item {c : Config} {layout : Layout} {i : Nat} {x : Item}
    (hx : x ∈ t.items k c layout i) (he : x.failure = some e) :
    (∃ slot, ∃ event ∈ (t.side slot).calls k slot, event.failure = some e) ∨
      ∃ key ∈ layout.rowKeys, t.RowCause k key e := by
  simp only [items, bracketItems, List.mem_append, List.mem_cons, List.mem_map, List.mem_flatMap,
    List.not_mem_nil, or_false] at hx
  obtain ((rfl | ⟨event, hevent, rfl⟩ | rfl | ⟨event, hevent, rfl⟩) | ⟨key, hkey, hx⟩) | rfl := hx
  · cases he
  · exact .inl ⟨.before, event, hevent, he⟩
  · cases he
  · exact .inl ⟨.after, event, hevent, he⟩
  · exact .inr ⟨key, hkey, rowCause_of_rowItem hx he⟩
  · cases he

end Turn

/-- What a run can fail of. -/
inductive Answers.Cause (h : Answers) (k : Kind) (c : Config) : RunError → Prop
  | opening {e : BackendError} (he : h.begun k = .error e) : Cause h k c (.backend e)
  /-- A call around the benchmark failed. -/
  | call {i : Nat} {slot : Slot} {event : Event} {e : BackendError} (hi : i < c.iterations)
    (hevent : event ∈ ((h.turn i).side slot).calls k slot)
    (he : event.failure = some (.backend e)) : Cause h k c (.backend e)
  | row {layout : Layout} {i : Nat} {key : RowKey} {e : RunError}
    (hlayout : h.begun k = .ok layout) (hi : i < c.iterations) (hkey : key ∈ layout.rowKeys)
    (he : (h.turn i).RowCause k key e) : Cause h k c e
  | closing {e : BackendError} (he : h.ended k = .error e) : Cause h k c (.backend e)

namespace Answers

variable {h : Answers} {k : Kind} {c : Config} {e : RunError}

/-- **The first failure of a run** has a `Cause`. -/
theorem cause_of_firstFailure (he : firstFailure (h.schedule k c) = some e) : h.Cause k c e := by
  rw [firstFailure_schedule, Option.or_eq_some_iff, Option.or_eq_some_iff] at he
  -- The schedule is the beginning, the items of the iterations, and the end.
  obtain (hopening | ⟨-, hitems⟩) | ⟨-, hclosing⟩ := he
  · obtain ⟨e', he', rfl⟩ := failureOf_eq_some hopening
    exact .opening he'
  · cases hbegun : h.begun k with
    | error e' => rw [hbegun] at hitems; cases hitems
    | ok layout =>
      simp only [hbegun] at hitems
      obtain ⟨x, hx, hfailure⟩ := List.exists_of_findSome?_eq_some hitems
      obtain ⟨i, hi, hx⟩ := List.mem_flatMap.1 hx
      obtain ⟨slot, event, hevent, hcall⟩ | ⟨key, hkey, hrow⟩ := Turn.cause_of_item hx hfailure
      · obtain ⟨e', rfl⟩ := Event.exists_backend_of_failure hcall
        exact .call (List.mem_range.1 hi) hevent hcall
      · exact .row hbegun (List.mem_range.1 hi) hkey hrow
  · obtain ⟨e', he', rfl⟩ := failureOf_eq_some hclosing
    exact .closing he'

end Answers

/-! ### What no run fails of -/

/-- **Whatever the parties do, the recording accepts every delta.** -/
theorem Session.run_ne_record (s : Session (StateM σ)) (w : σ) (e : RecordError) :
    (s.run w).1.result ≠ .error (.record e) := by
  obtain ⟨h, -, -, -, -, houtcome⟩ := s.follows_arbitrary.exists_answers (w := w) trivial
  rw [houtcome]
  intro he
  cases Answers.cause_of_firstFailure (Answers.result_eq_error.1 he) with
  | row _ _ _ hrow => cases hrow

/-- **What is filed in a frame is not mixed up**, whatever the clock and the counters answer. -/
theorem Session.run_ne_mixed (s : Session (StateM σ)) (hkind : s.backend.kind ≠ .snapshot) (w : σ)
    (metric : Metric) (core : Option Nat) (start stop : Reading) :
    (s.run w).1.result ≠ .error (.measure (.mixedReadings metric core start stop)) := by
  obtain ⟨h, -, -, -, -, houtcome⟩ := s.follows_arbitrary.exists_answers (w := w) trivial
  rw [houtcome]
  intro he
  -- What is filed was read for its metric, and answers of a clock and of counters are typed.
  have htaken : ∀ {t : Turn} {slot : Slot} {key : RowKey} {r : Reading},
      t.taken s.backend.kind slot key = .ok r → r.Suits key.1 := by
    intro t slot key r hr
    cases hk : s.backend.kind with
    | snapshot => exact absurd hk hkind
    | _ =>
      rw [hk] at hr
      exact Side.suits_of_read hr
  cases Answers.cause_of_firstFailure (Answers.result_eq_error.1 he) with
  | row _ _ _ hrow =>
    cases hrow with
    | delta hstart hstop hdelta =>
      exact Sample.delta_ne_mixed (htaken hstart) (htaken hstop) hdelta

end Stopwatch
