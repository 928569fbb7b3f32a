import Stopwatch.Proofs.Agreement

/-!
# Scripted counters until they are exhausted

A run on scripted counters follows `PairScript.conductOf`, so each of its iterations is one of
three kinds.  If a metric has no pair, its reading is the first failure
(`PairScript.firstFailure_of_lacking`); if all have one and a delta is rejected, this is the first
failure (`PairScript.firstFailure_of_whole`); and else the iteration goes well
(`PairScript.firstFailure_of_supplies`).  `PairScript.reads_until_exhausted` puts the iterations of
a run together.
-/

namespace Stopwatch

variable {ρ : Type}

namespace PairScript

variable (p : PairScript) (k : SingleCore)

/-- The script has a pair with a delta in an iteration for every metric that is read. -/
def Supplies (i : Nat) : Prop := ∀ m ∈ k.metrics, i < p.size m ∧ ∃ d, p.delta i m = .ok d

variable {p k} {i : Nat} {m : Metric}

theorem rejected_eq_none {ms : List Metric} :
    p.rejected ms i = none ↔ ∀ m ∈ ms, ∃ d, p.delta i m = .ok d := by
  rw [rejected, List.findSome?_eq_none_iff]
  refine forall₂_congr fun m _ => ?_
  cases p.delta i m with
  | ok d => simp
  | error e => simp

theorem supplies_iff :
    p.Supplies k i ↔ p.lacking k i = none ∧ p.rejected k.metrics i = none := by
  rw [lacking_eq_none, rejected_eq_none]
  exact forall₂_and

/-! ### How a run ends -/

/-- The error with which a script is rejected names no core. -/
theorem onCore_of_rejected {ms : List Metric} {e : MeasureError} (h : p.rejected ms i = some e) :
    e.onCore none = e := by
  obtain ⟨m, -, hm⟩ := List.exists_of_findSome?_eq_some h
  have hdelta : p.delta i m = .error e := by
    cases hd : p.delta i m with
    | ok d =>
      rw [hd] at hm
      cases hm
    | error e' =>
      rw [hd] at hm
      exact congrArg Except.error (Option.some.inj hm)
  have hsame := Sample.delta_onCore m none none (p.reading i .before m) (p.reading i .after m)
  rw [← delta, hdelta] at hsame
  exact (Except.error.inj hsame).symm

section Turns

variable {t : Turn} {c : Config}

/-- If no metric lacks a pair, the first failure is that of the first metric whose pair has no
delta. -/
theorem firstFailure_of_whole (ht : (p.conductOf k : Conduct (CounterScript × ρ)).Allows i t)
    (hwhole : p.lacking k i = none) :
    firstFailure (t.items k.kind c (.singleCore k.metrics) i) =
      (p.rejected k.metrics i).map .measure := by
  have hlayout : (Layout.singleCore k.metrics).rowKeys = k.metrics.map fun m => (m, none) := by
    cases k <;> rfl
  rw [(reads_of_whole ht hwhole).firstFailure_items hlayout]
  cases hrejected : p.rejected k.metrics i with
  | none => rfl
  | some e => exact congrArg (fun e => some (RunError.measure e)) (onCore_of_rejected hrejected)

/-- If the metric at place `j` of the order lacks a pair, the first failure is its reading. -/
theorem firstFailure_of_lacking (ht : (p.conductOf k : Conduct (CounterScript × ρ)).Allows i t)
    {j : Nat} (hj : p.lacking k i = some j) :
    firstFailure (t.items k.kind c (.singleCore k.metrics) i) =
      some (.backend (.exhausted (2 * k.metrics.length * i + j))) := by
  have hfirst : firstFailure ((t.before.calls k.kind .before).map .call) = _ :=
    (ht.side .before).short rfl j hj
  rw [Turn.items, Turn.bracketItems, firstFailure_append, firstFailure_append,
    firstFailure_cons rfl, firstFailure_append, hfirst]
  rfl

theorem firstFailure_of_supplies (ht : (p.conductOf k : Conduct (CounterScript × ρ)).Allows i t)
    (h : p.Supplies k i) : firstFailure (t.items k.kind c (.singleCore k.metrics) i) = none := by
  obtain ⟨hwhole, hrejected⟩ := supplies_iff.1 h
  rw [firstFailure_of_whole ht hwhole, hrejected]
  rfl

end Turns

section Tables

variable {h : Answers} {c : Config}

/-- If the script supplies every iteration, the recording of the table holds its deltas. -/
theorem series?_recording
    (hturns : ∀ i < c.iterations, (p.conductOf k : Conduct (CounterScript × ρ)).Allows i (h.turn i))
    (hall : ∀ i < c.iterations, p.Supplies k i) (hm : m ∈ k.metrics) :
    ∃ values, (h.recording k.kind (.singleCore k.metrics) c.iterations).series? m =
        some (.flat values) ∧ values.length = c.iterations ∧
      ∀ i < c.iterations, ∃ d, values[i]? = some d ∧ p.delta i m = .ok d := by
  have hflat : m ∈ (Layout.singleCore k.metrics).flat := by cases k <;> exact hm
  have hsucceeds : ∀ i < c.iterations, (h.turn i).Succeeds k.kind (.singleCore k.metrics) :=
    fun i hi =>
      (Turn.firstFailure_eq_none c i).1 (firstFailure_of_supplies (hturns i hi) (hall i hi))
  obtain ⟨row, hkey, hseries⟩ :=
    (h.recording k.kind (.singleCore k.metrics) c.iterations).series?_flat hflat
  obtain ⟨hlength, hvalue⟩ := Answers.fills_values hsucceeds row
  refine ⟨_, hseries, hlength, fun i hi => ?_⟩
  obtain ⟨d, hd, hgives⟩ := hvalue i hi
  have hreads := reads_of_whole (hturns i hi) (supplies_iff.1 (hall i hi)).1
  refine ⟨d, hd, ?_⟩
  rw [hreads.gives (Layout.rowKey_mem _ row), hkey] at hgives
  exact hgives

/-- If iteration `i` is the first one that the script does not supply, the run is broken off in
it. -/
theorem broken_off
    (hturns : ∀ i < c.iterations, (p.conductOf k : Conduct (CounterScript × ρ)).Allows i (h.turn i))
    (hbegun : h.begun k.kind = .ok (.singleCore k.metrics)) (hi : i < c.iterations)
    (hbefore : ∀ j < i, p.Supplies k j) (hfails : ¬ p.Supplies k i) :
    (∃ j, p.lacking k i = some j ∧ (h.trace k.kind c).countP Event.isBenchmark = i ∧
      (h.outcome k.kind c).result =
        .error (.backend (.exhausted (2 * k.metrics.length * i + j)))) ∨
    p.lacking k i = none ∧ ∃ e, p.rejected k.metrics i = some e ∧
      (h.trace k.kind c).countP Event.isBenchmark = i + 1 ∧
      (h.outcome k.kind c).result = .error (.measure e) := by
  have hwhole : ∀ j < i,
      firstFailure ((h.turn j).items k.kind c (.singleCore k.metrics) j) = none :=
    fun j hj => firstFailure_of_supplies (hturns j (Nat.lt_trans hj hi)) (hbefore j hj)
  have hside := (hturns i hi).side .before
  cases hlacking : p.lacking k i with
  | some j =>
    obtain ⟨hresult, -, hcalled⟩ := Answers.broken_off hbegun hi
      (firstFailure_of_lacking (hturns i hi) hlacking) hwhole
    -- A reading before the benchmark call fails, so there is no such call.
    have hany : ((h.turn i).before.calls k.kind .before).any (·.failure.isSome) = true := by
      by_contra hnone
      have hfirst := firstFailure_calls_of_any (Bool.eq_false_iff.2 hnone)
      cases hfirst.symm.trans (hside.short rfl j hlacking)
    rw [hany, if_pos rfl] at hcalled
    exact .inl ⟨j, rfl, hcalled, hresult⟩
  | none =>
    obtain ⟨e, he⟩ : ∃ e, p.rejected k.metrics i = some e :=
      Option.ne_none_iff_exists'.1 fun hnone => hfails (supplies_iff.2 ⟨hlacking, hnone⟩)
    have hfirst : firstFailure ((h.turn i).items k.kind c (.singleCore k.metrics) i) =
        some (.measure e) := by
      rw [firstFailure_of_whole (hturns i hi) hlacking, he]
      rfl
    obtain ⟨hresult, -, hcalled⟩ := Answers.broken_off hbegun hi hfirst hwhole
    have hnone : ((h.turn i).before.calls k.kind .before).any (·.failure.isSome) = false := by
      rw [List.any_eq_false]
      intro e he
      rw [(hside.whole hlacking).1 e he]
      exact Bool.false_ne_true
    rw [hnone, if_neg Bool.false_ne_true] at hcalled
    exact .inr ⟨rfl, e, he, hcalled, hresult⟩

end Tables

/-- **Scripted counters are read pair by pair**, whatever the lengths of their scripts and in every
kind of single-core backend.

* If every iteration has a pair with a delta for every metric that is read, the run gives a
  recording, and cell `i` of each row is the delta of pair `i`.
* Otherwise there is a first iteration that has not.  If a metric has no pair there, the run fails
  with the number of readings taken until then: those of all iterations before, and of the metrics
  that are read before the first one without a pair.  The benchmark was called in the iterations
  before.
* If all have one, the run fails as the first of them does whose pair has no delta, in the order of
  the rows, and the benchmark was called in this iteration too. -/
theorem reads_until_exhausted (p : PairScript) (k : SingleCore) (c : Config)
    (benchmark : Int32 → StateM ρ Unit) (notify : Progress → StateM ρ Unit) (w : ρ) :
    let s := Session.beside c (k.backend CounterScript.counters) benchmark notify
    let result := (s.run (p.toCounters, w)).1.result
    let called := (s.eventsFrom (p.toCounters, w)).countP Event.isBenchmark
    ((∀ i < c.iterations, p.Supplies k i) ∧ ∃ r, result = .ok ⟨.singleCore k.metrics, r⟩ ∧
      ∀ m ∈ k.metrics, ∃ values, r.series? m = some (.flat values) ∧
        values.length = c.iterations ∧
        ∀ i < c.iterations, ∃ d, values[i]? = some d ∧ p.delta i m = .ok d) ∨
    ∃ i < c.iterations, (∀ j < i, p.Supplies k j) ∧
      ((∃ j, p.lacking k i = some j ∧ called = i ∧
          result = .error (.backend (.exhausted (2 * k.metrics.length * i + j)))) ∨
        p.lacking k i = none ∧ ∃ e, p.rejected k.metrics i = some e ∧ called = i + 1 ∧
          result = .error (.measure e)) := by
  intro s result called
  have hkind : s.backend.kind = k.kind := by cases k <;> rfl
  obtain ⟨h, hbegun, hturns, hended, htrace, houtcome⟩ :=
    (p.follows_conductOf k c benchmark notify).exists_answers (w := (p.toCounters, w)) rfl
  rw [hkind] at hbegun hended htrace houtcome
  replace hbegun : h.begun k.kind = .ok (.singleCore k.metrics) := by
    rw [hbegun]
    cases k <;> rfl
  have hresult : result = (h.outcome k.kind c).result := congrArg Outcome.result houtcome
  have hcalled : called = (h.trace k.kind c).countP Event.isBenchmark :=
    congrArg (List.countP Event.isBenchmark) htrace
  rw [hresult, hcalled]
  by_cases hall : ∀ i < c.iterations, p.Supplies k i
  · refine .inl ⟨hall, _, Answers.result_eq_ok.2 ⟨hbegun, fun i hi => ?_, hended, rfl⟩,
      fun m hm => series?_recording hturns hall hm⟩
    exact (Turn.firstFailure_eq_none c i).1 (firstFailure_of_supplies (hturns i hi) (hall i hi))
  -- Otherwise there is a first iteration that lacks something, and the run ends in it.
  · obtain ⟨i, hi, hbefore, hfails⟩ := exists_first_not hall
    exact .inr ⟨i, hi, hbefore, broken_off hturns hbegun hi hbefore hfails⟩

end PairScript

end Stopwatch
