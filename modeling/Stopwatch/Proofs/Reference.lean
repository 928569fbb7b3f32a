import Stopwatch.Proofs.Conduct

/-!
# What a run results in

`Session.run_result` is the reference semantics of a run.  A run has a table of answers, those that
it got, and its result is read off from there: it is a recording if and only if every call that
there is to make goes well and every delta is accepted, and then each cell holds the delta of the
two readings that were taken for its row in its iteration; otherwise it is the first failure in the
order in which things are done.

The first failure of a list of things to do is computed part by part: the beginning and the end fail
as the backend says (`Kind.firstFailure_opening`, `Kind.firstFailure_closing`), and an iteration
fails unless all of its calls and all of its rows succeed (`Turn.firstFailure_eq_none`).
-/

namespace Stopwatch

variable {σ : Type}

/-! ### Values of a row -/

/-- A list has a value for each of `n` places, and it is one that is given there. -/
structure Filled (gives : Nat → Double → Prop) (n : Nat) (values : List Double) : Prop where
  length : values.length = n
  value : ∀ i < n, ∃ d, values[i]? = some d ∧ gives i d

namespace Filled

variable {gives gives' : Nat → Double → Prop} {n : Nat} {values values' : List Double}

theorem imp (h : Filled gives n values) (himp : ∀ i < n, ∀ d, gives i d → gives' i d) :
    Filled gives' n values where
  length := h.length
  value i hi := by
    obtain ⟨d, hvalue, hgives⟩ := h.value i hi
    exact ⟨d, hvalue, himp i hi d hgives⟩

/-- Where the same is given, the values are the same. -/
theorem eq (h : Filled gives n values) (h' : Filled gives' n values')
    (hsame : ∀ i < n, ∀ d d', gives i d → gives' i d' → d = d') : values = values' := by
  refine List.ext_getElem? fun i => ?_
  by_cases hi : i < n
  · obtain ⟨d, hvalue, hgives⟩ := h.value i hi
    obtain ⟨d', hvalue', hgives'⟩ := h'.value i hi
    rw [hvalue, hvalue', hsame i hi d d' hgives hgives']
  · rw [List.getElem?_eq_none (by rw [h.length]; omega),
      List.getElem?_eq_none (by rw [h'.length]; omega)]

end Filled

/-! ### Success -/

/-- Both readings of a row were taken, and their delta is `d`. -/
def Turn.Gives (t : Turn) (k : Kind) (key : RowKey) (d : Double) : Prop :=
  ∃ start stop, t.taken k .before key = .ok start ∧ t.taken k .after key = .ok stop ∧
    (Sample.mk key.1 key.2 start stop).delta = .ok d

/-- Nothing fails in an iteration: neither a call around the benchmark nor a row. -/
structure Turn.Succeeds (t : Turn) (k : Kind) (layout : Layout) : Prop where
  calls : ∀ slot, ∀ e ∈ (t.side slot).calls k slot, e.failure = none
  rows : ∀ key ∈ layout.rowKeys, ∃ d, t.Gives k key d

/-- Nothing fails in a run of `n` iterations. -/
def Answers.Succeeds (h : Answers) (k : Kind) (n : Nat) : Prop :=
  ∃ layout, h.begun k = .ok layout ∧ (∀ i < n, (h.turn i).Succeeds k layout) ∧ h.ended k = .ok ()

theorem Turn.delta_eq_ok {t : Turn} {k : Kind} {key : RowKey} {d : Double} :
    t.delta k key = .ok d ↔ t.Gives k key d := by
  constructor
  · intro h
    cases hstart : t.taken k .before key with
    | error e => rw [delta, hstart] at h; cases h
    | ok start =>
      cases hstop : t.taken k .after key with
      | error e => rw [delta, hstart, hstop] at h; cases h
      | ok stop =>
        rw [delta_of_taken hstart hstop] at h
        exact ⟨start, stop, hstart, hstop, eq_ok_of_mapError h⟩
  · rintro ⟨start, stop, hstart, hstop, hd⟩
    rw [delta_of_taken hstart hstop, hd]
    rfl

/-! ### The first failure -/

/-- The beginning fails as the backend says. -/
theorem Kind.firstFailure_opening (k : Kind) (init : Except BackendError Unit) (cores : Nat) :
    firstFailure ((k.opening init).map .call) = failureOf (k.begun init cores) := by
  cases k <;> cases init <;> rfl

/-- The end fails as the backend says. -/
theorem Kind.firstFailure_closing (k : Kind) (answer : Except BackendError Unit) :
    firstFailure ((k.closing answer).map .call) = failureOf (k.ended answer) := by
  cases k <;> cases answer <;> rfl

/-- Readings that were taken are no failure. -/
theorem Turn.firstFailure_readings {t : Turn} {k : Kind} {key : RowKey} {start stop : Reading}
    (hstart : t.taken k .before key = .ok start) (hstop : t.taken k .after key = .ok stop) :
    firstFailure ((t.readings k key).map .call) = none := by
  rw [firstFailure_calls]
  intro e he
  cases k with
  | snapshot =>
    simp only [readings, List.mem_cons, List.not_mem_nil, or_false] at he
    rcases he with rfl | rfl
    · exact congrArg failureOf hstart
    · exact congrArg failureOf hstop
  | _ => exact absurd he List.not_mem_nil

/-- A row fails unless both readings are taken and their delta is accepted. -/
theorem Turn.firstFailure_rowItems {t : Turn} {k : Kind} {key : RowKey} :
    firstFailure (t.rowItems k key) = none ↔ ∃ d, t.Gives k key d := by
  rw [rowItems, firstFailure_append, Option.or_eq_none_iff]
  constructor
  · rintro ⟨-, hdelta⟩
    cases hd : t.delta k key with
    | error e => rw [hd] at hdelta; cases hdelta
    | ok d => exact ⟨d, Turn.delta_eq_ok.1 hd⟩
  · rintro ⟨d, hd⟩
    obtain ⟨start, stop, hstart, hstop, -⟩ := id hd
    rw [Turn.delta_eq_ok.2 hd]
    exact ⟨firstFailure_readings hstart hstop, rfl⟩

/-- The calls around the benchmark go well if and only if each of them does. -/
theorem Turn.firstFailure_bracketItems {t : Turn} {k : Kind} {c : Config} {i : Nat} :
    firstFailure (t.bracketItems k c i) = none ↔
      ∀ slot, ∀ e ∈ (t.side slot).calls k slot, e.failure = none := by
  rw [bracketItems, firstFailure_cons rfl, firstFailure_append, firstFailure_cons rfl,
    Option.or_eq_none_iff, firstFailure_calls, firstFailure_calls]
  refine ⟨fun h slot => ?_, fun h => ⟨h .before, h .after⟩⟩
  cases slot with
  | before => exact h.1
  | after => exact h.2

/-- An iteration goes well if and only if its calls and its rows do. -/
theorem Turn.firstFailure_eq_none {t : Turn} {k : Kind} {layout : Layout} (c : Config) (i : Nat) :
    firstFailure (t.items k c layout i) = none ↔ t.Succeeds k layout := by
  have hrows : firstFailure (layout.rowKeys.flatMap (t.rowItems k)) = none ↔
      ∀ key ∈ layout.rowKeys, ∃ d, t.Gives k key d := by
    simp only [firstFailure_flatMap, List.findSome?_eq_none_iff, firstFailure_rowItems]
  have hend : firstFailure [.call (.progress (.iterationEnd i c.iterations))] = none := rfl
  rw [items, firstFailure_append, firstFailure_append, hend, Option.or_none, Option.or_eq_none_iff,
    firstFailure_bracketItems, hrows]
  exact ⟨fun h => ⟨h.1, h.2⟩, fun h => ⟨h.calls, h.rows⟩⟩

namespace Answers

variable {h : Answers} {k : Kind} {c : Config}

/-- The iterations go well if and only if each of them does. -/
theorem firstFailure_items {layout : Layout} :
    firstFailure (h.items k c layout) = none ↔
      ∀ i < c.iterations, (h.turn i).Succeeds k layout := by
  simp only [items, firstFailure_flatMap, List.findSome?_eq_none_iff, List.mem_range,
    Turn.firstFailure_eq_none]

/-- The first failure of a run is that of its beginning, or else of its iterations, or else of its
end. -/
theorem firstFailure_schedule :
    firstFailure (h.schedule k c) = ((failureOf (h.begun k)).or
      (firstFailure (match h.begun k with
        | .error _ => []
        | .ok layout => h.items k c layout))).or (failureOf (h.ended k)) := by
  have hopening : firstFailure ((h.opening k).map .call) = failureOf (h.begun k) :=
    k.firstFailure_opening h.init h.cores
  have hclosing : firstFailure ((h.closing k).map .call) = failureOf (h.ended k) :=
    k.firstFailure_closing h.shutdown
  rw [schedule, firstFailure_append, firstFailure_append]
  exact congrArg₂ Option.or (congrArg₂ Option.or hopening rfl) hclosing

/-- **A run fails with the first failure** of what there was to do. -/
theorem result_eq_error {e : RunError} :
    (h.outcome k c).result = .error e ↔ firstFailure (h.schedule k c) = some e := by
  have hinj : ∀ {α : Type} {e' : RunError}, (.error e' : Except RunError α) = .error e ↔
      some e' = some e := fun {α e'} =>
    ⟨fun h => congrArg some (Except.error.inj h), fun h => congrArg _ (Option.some.inj h)⟩
  rw [firstFailure_schedule, outcome]
  cases h.begun k with
  | error e' => exact hinj
  | ok layout =>
    simp only [measured]
    cases firstFailure (h.items k c layout) with
    | some e' => cases h.ended k <;> exact hinj
    | none =>
      cases h.ended k with
      | error e' => exact hinj
      | ok _ => constructor <;> intro h <;> cases h

/-- **A run succeeds** if and only if nothing fails, and it then gives the recording of the
table. -/
theorem result_eq_ok {layout : Layout} {r : Recording layout c.iterations} :
    (h.outcome k c).result = .ok ⟨layout, r⟩ ↔
      h.begun k = .ok layout ∧ (∀ i < c.iterations, (h.turn i).Succeeds k layout) ∧
        h.ended k = .ok () ∧ r = h.recording k layout c.iterations := by
  constructor
  -- Of all the ways to end only one gives a recording.
  · intro hr
    rw [outcome] at hr
    cases hbegun : h.begun k with
    | error e' => rw [hbegun] at hr; cases hr
    | ok layout' =>
      simp only [hbegun, measured] at hr
      cases hitems : firstFailure (h.items k c layout') with
      | some e' => rw [hitems] at hr; cases hended : h.ended k <;> rw [hended] at hr <;> cases hr
      | none =>
        rw [hitems] at hr
        cases hended : h.ended k with
        | error e' => rw [hended] at hr; cases hr
        | ok _ =>
          rw [hended] at hr
          cases hr
          exact ⟨rfl, firstFailure_items.1 hitems, rfl, rfl⟩
  · rintro ⟨hbegun, hturns, hended, rfl⟩
    rw [outcome, hbegun, hended]
    simp only [measured, firstFailure_items.2 hturns]
    rfl

/-- The values are the deltas of a row, one for each of `n` iterations. -/
abbrev Fills (h : Answers) (k : Kind) (n : Nat) (key : RowKey) (values : List Double) : Prop :=
  Filled (fun i => (h.turn i).Gives k key) n values

/-- When all iterations go well, the rows of the table's recording hold the deltas. -/
theorem fills_values {layout : Layout} {n : Nat} (hturns : ∀ i < n, (h.turn i).Succeeds k layout)
    (row : Fin layout.rowCount) :
    h.Fills k n (layout.rowKey row) ((h.recording k layout n).values row) := by
  have hcells : ((h.recording k layout n).rowAt row).cells = Vector.ofFn fun i : Fin n =>
      ((h.turn i).delta k (layout.rowKey row)).toOption.getD sentinel := by
    rw [recording, Recording.rowAt_ofFn]
  refine ⟨?_, fun i hi => ?_⟩
  · rw [Recording.values, Vector.length_toList]
  -- The row gives a delta in this iteration, so the cell does not fall back on the sentinel.
  · obtain ⟨d, hd⟩ := (hturns i hi).rows _ (layout.rowKey_mem row)
    refine ⟨d, ?_, hd⟩
    rw [Recording.values, Vector.getElem?_toList, hcells, Vector.getElem?_eq_getElem hi,
      Vector.getElem_ofFn, Turn.delta_eq_ok.2 hd]
    rfl

theorem isComplete_recording (layout : Layout) (n : Nat) :
    (h.recording k layout n).isComplete = true := by
  rw [Recording.isComplete, Vector.all_eq_true]
  intro i hi
  rw [recording, Vector.getElem_ofFn]
  exact beq_self_eq_true n

end Answers

/-- **What a run results in.**  Every run has a table of answers, whose events are those of the run
and whose beginning is that of the backend, such that

* the run gives a recording if and only if no call and no delta of the table fails;
* the recording has the layout that was announced and is complete, the series of a flat metric is
  one list and that of a per-core metric one list for each core, and the values in them are, for
  each iteration, the delta of the two readings that were taken in this iteration for this metric
  and core;
* the run gives an error if and only if it is the first failure in the order of the run. -/
theorem Session.run_result (s : Session (StateM σ)) (w : σ) :
    ∃ h : Answers, s.eventsFrom w = h.trace s.backend.kind s.config ∧
      h.begun s.backend.kind = (s.backend.init w).1 ∧
      ((∃ v, (s.run w).1.result = .ok v) ↔ h.Succeeds s.backend.kind s.total) ∧
      (∀ layout r, (s.run w).1.result = .ok ⟨layout, r⟩ →
        (s.backend.init w).1 = .ok layout ∧ r.isComplete = true ∧
        (∀ m ∈ layout.flat, ∃ values, r.series? m = some (.flat values) ∧
          h.Fills s.backend.kind s.total (m, none) values) ∧
        ∀ m ∈ layout.perCore, ∃ rows, r.series? m = some (.perCore rows) ∧
          rows.length = layout.cores ∧ ∀ core < layout.cores, ∃ values, rows[core]? = some values ∧
            h.Fills s.backend.kind s.total (m, some core) values) ∧
      ∀ e, (s.run w).1.result = .error e ↔
        firstFailure (h.schedule s.backend.kind s.config) = some e := by
  obtain ⟨h, hbegun, -, -, htrace, houtcome⟩ := s.follows_arbitrary.exists_answers (w := w) trivial
  rw [houtcome]
  refine ⟨h, htrace, hbegun, ⟨?_, ?_⟩, ?_, fun e => Answers.result_eq_error⟩
  · rintro ⟨⟨layout, r⟩, hr⟩
    obtain ⟨hlayout, hturns, hended, -⟩ := Answers.result_eq_ok.1 hr
    exact ⟨layout, hlayout, hturns, hended⟩
  · rintro ⟨layout, hlayout, hturns, hended⟩
    exact ⟨_, Answers.result_eq_ok.2 ⟨hlayout, hturns, hended, rfl⟩⟩
  · intro layout r hr
    obtain ⟨hlayout, hturns, -, rfl⟩ := Answers.result_eq_ok.1 hr
    refine ⟨hbegun.symm.trans hlayout, Answers.isComplete_recording _ _, fun m hm => ?_,
      fun m hm => ?_⟩
    · obtain ⟨row, hkey, hseries⟩ := Recording.series?_flat _ hm
      exact ⟨_, hseries, hkey ▸ Answers.fills_values hturns row⟩
    · obtain ⟨rows, hseries, hlength, hrows⟩ := Recording.series?_perCore _ hm
      refine ⟨rows, hseries, hlength, fun core hcore => ?_⟩
      obtain ⟨row, hkey, hvalues⟩ := hrows core hcore
      exact ⟨_, hvalues, hkey ▸ Answers.fills_values hturns row⟩

end Stopwatch
