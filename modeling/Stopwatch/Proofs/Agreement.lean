import Mathlib.Data.Nat.Find
import Stopwatch.Proofs.Counters
import Stopwatch.Proofs.Protocol
import Stopwatch.Proofs.Snapshots

/-!
# The two ways of reading agree

Readings reach a sample in two ways: through the frame, which single-core counters fill, and out of
a snapshot, which is asked row by row.  `PairScript.agrees` says that the way makes no difference.
From one script both give the same recording, or fail in the same iteration with the same error, up
to the core that a counter is said to belong to.

Both runs follow their script (`PairScript.follows_conductOf`, `SnapshotReplay.follows_conduct`), so
in either table the readings of a row are those of its metric (`Turn.Reads`).  The first failure of
such an iteration depends on the script alone (`PairScript.rejected`).
-/

namespace Stopwatch

/-! ### Errors and cores -/

namespace MeasureError

/-- The same error for another core. -/
def onCore (core : Option Nat) : MeasureError → MeasureError
  | nonMonotonic metric _ start stop => nonMonotonic metric core start stop
  | nonFinite metric _ start stop => nonFinite metric core start stop
  | precisionLoss metric _ delta => precisionLoss metric core delta
  | mixedReadings metric _ start stop => mixedReadings metric core start stop

/-- The metric that could not be measured. -/
def metric : MeasureError → Metric
  | nonMonotonic metric .. => metric
  | nonFinite metric .. => metric
  | precisionLoss metric .. => metric
  | mixedReadings metric .. => metric

end MeasureError

/-- The core of a sample is only named in its error. -/
theorem Sample.delta_onCore (m : Metric) (core core' : Option Nat) (start stop : Reading) :
    (Sample.mk m core' start stop).delta =
      (Sample.mk m core start stop).delta.mapError (.onCore core') := by
  cases start <;> cases stop <;> simp only [delta, secondsDelta, countDelta,
    apply_ite (Except.mapError (MeasureError.onCore core'))] <;> rfl

/-- An error names the metric of the sample. -/
theorem Sample.metric_of_delta_eq_error {s : Sample} {e : MeasureError} (h : s.delta = .error e) :
    e.metric = s.metric := by
  obtain ⟨m, core, start, stop⟩ := s
  cases start <;> cases stop <;> simp only [delta, secondsDelta, countDelta] at h
  all_goals
    repeat' split at h
    all_goals cases h <;> rfl

/-! ### Iterations that read a script -/

/-- The delta of a metric in an iteration of a script. -/
def PairScript.delta (p : PairScript) (i : Nat) (m : Metric) : Except MeasureError Double :=
  (Sample.mk m none (p.reading i .before m) (p.reading i .after m)).delta

/-- The first of some metrics that a script has no delta for in an iteration, and why. -/
def PairScript.rejected (p : PairScript) (ms : List Metric) (i : Nat) : Option MeasureError :=
  ms.findSome? fun m =>
    match p.delta i m with
    | .ok _ => none
    | .error e => some e

/-- No call fails, and the readings of a row are those of a script for its metric. -/
structure Turn.Reads (t : Turn) (k : Kind) (layout : Layout) (p : PairScript) (i : Nat) : Prop where
  calls : ∀ slot, ∀ e ∈ (t.side slot).calls k slot, e.failure = none
  taken : ∀ key ∈ layout.rowKeys, ∀ slot, t.taken k slot key = .ok (p.reading i slot key.1)

theorem findSome?_congr {α β : Type} {f g : α → Option β} {xs : List α}
    (h : ∀ x ∈ xs, f x = g x) : xs.findSome? f = xs.findSome? g := by
  induction xs with
  | nil => rfl
  | cons x xs ih =>
    rw [List.findSome?_cons, List.findSome?_cons, h x List.mem_cons_self,
      ih fun y hy => h y (List.mem_cons_of_mem x hy)]

/-- The rows of the layout are the metrics, each for the core that is given for it. -/
def Layout.OneEach (layout : Layout) (coreOf : Metric → Option Nat) : Prop :=
  layout.rowKeys = Metric.all.map fun m => (m, coreOf m)

namespace Turn.Reads

variable {t : Turn} {k : Kind} {layout : Layout} {p : PairScript} {i : Nat}
  {coreOf : Metric → Option Nat}

/-- The delta of a row is that of the script. -/
theorem delta (h : t.Reads k layout p i) {key : RowKey} (hkey : key ∈ layout.rowKeys) :
    t.delta k key = ((p.delta i key.1).mapError (.onCore key.2)).mapError .measure := by
  rw [Turn.delta_of_taken (h.taken key hkey .before) (h.taken key hkey .after), PairScript.delta,
    ← Sample.delta_onCore]

theorem gives (h : t.Reads k layout p i) {key : RowKey} (hkey : key ∈ layout.rowKeys) {d : Double} :
    t.Gives k key d ↔ p.delta i key.1 = .ok d := by
  rw [← Turn.delta_eq_ok, h.delta hkey]
  cases p.delta i key.1 with
  | error e => exact ⟨fun h => (nomatch h), fun h => nomatch h⟩
  | ok d' => exact ⟨fun h => congrArg _ (Except.ok.inj h), fun h => congrArg _ (Except.ok.inj h)⟩

/-- **What fails in an iteration** is the first metric that the script has no delta for. -/
theorem firstFailure_items (h : t.Reads k layout p i) {ms : List Metric}
    (hlayout : layout.rowKeys = ms.map fun m => (m, coreOf m)) (c : Config) :
    firstFailure (t.items k c layout i) =
      (p.rejected ms i).map fun e : MeasureError => .measure (e.onCore (coreOf e.metric)) := by
  have hbracket : firstFailure (t.bracketItems k c i) = none :=
    Turn.firstFailure_bracketItems.2 h.calls
  have hend : firstFailure [.call (.progress (.iterationEnd i c.iterations))] = none := rfl
  -- The readings of a row are all there, so it fails just if the script has no delta for it.
  have hrow : ∀ m ∈ ms, firstFailure (t.rowItems k (m, coreOf m)) =
      (match p.delta i m with
        | .ok _ => none
        | .error e => some e).map
          fun e : MeasureError => .measure (e.onCore (coreOf e.metric)) := by
    intro m hm
    have hkey : (m, coreOf m) ∈ layout.rowKeys := hlayout ▸ List.mem_map_of_mem hm
    rw [Turn.rowItems, firstFailure_append, h.delta hkey,
      Turn.firstFailure_readings (h.taken _ hkey .before) (h.taken _ hkey .after), Option.none_or]
    cases hd : p.delta i m with
    | ok d => rfl
    | error e =>
      have hm' : e.metric = m := Sample.metric_of_delta_eq_error hd
      rw [Option.map_some, hm']
      rfl
  rw [Turn.items, firstFailure_append, firstFailure_append, hbracket, hend, Option.or_none,
    Option.none_or, firstFailure_flatMap, hlayout, List.findSome?_map, PairScript.rejected,
    List.map_findSome?]
  exact findSome?_congr hrow

end Turn.Reads

/-! ### Runs that read a script -/

/-- A table in which the beginning and the end go well and the iterations read a script. -/
structure Answers.Replays (h : Answers) (k : Kind) (layout : Layout) (p : PairScript) (n : Nat) :
    Prop where
  begun : h.begun k = .ok layout
  turns : ∀ i < n, (h.turn i).Reads k layout p i
  ended : h.ended k = .ok ()

namespace Answers

variable {h : Answers} {k : Kind} {layout : Layout} {p : PairScript} {n : Nat}
  {coreOf : Metric → Option Nat}

/-- With a delta for every metric all iterations go well. -/
theorem Replays.succeeds (hr : h.Replays k layout p n) (hlayout : layout.OneEach coreOf)
    (hall : ∀ i < n, p.rejected Metric.all i = none) : ∀ i < n, (h.turn i).Succeeds k layout := by
  intro i hi
  rw [← Turn.firstFailure_eq_none {} i, (hr.turns i hi).firstFailure_items hlayout,
    hall i hi]
  rfl

/-- **The run is broken off** in the first iteration in which a metric has no delta. -/
theorem Replays.broken_off {c : Config} (hr : h.Replays k layout p c.iterations)
    (hlayout : layout.OneEach coreOf) {i : Nat} {e : MeasureError} (hi : i < c.iterations)
    (hrejected : p.rejected Metric.all i = some e)
    (hbefore : ∀ j < i, p.rejected Metric.all j = none) :
    (h.outcome k c).result = .error (.measure (e.onCore (coreOf e.metric))) ∧
      (h.trace k c).countP Event.isIterationStart = i + 1 := by
  have hturn : ∀ j < c.iterations, firstFailure ((h.turn j).items k c layout j) =
      (p.rejected Metric.all j).map fun e : MeasureError =>
        .measure (e.onCore (coreOf e.metric)) := fun j hj =>
    (hr.turns j hj).firstFailure_items hlayout c
  have hfails := hturn i hi
  rw [hrejected] at hfails
  obtain ⟨hresult, hstart, -⟩ := Answers.broken_off hr.begun hi hfails fun j hj => by
    rw [hturn j (Nat.lt_trans hj hi), hbefore j hj]
    rfl
  exact ⟨hresult, hstart⟩

end Answers

namespace PairScript

variable {ρ : Type} (p : PairScript) (c : Config)

theorem oneEach_singleCore : (Layout.singleCore Metric.all).OneEach fun _ => none := rfl

theorem oneEach_multiCore : (Layout.multiCore 1).OneEach fun m =>
    if m = .wallclock then none else some 0 := rfl

/-- If no metric lacks a pair in iteration `i`, an allowed turn reads the script. -/
theorem reads_of_whole {p : PairScript} {k : SingleCore} {i : Nat} {t : Turn}
    (ht : (p.conductOf k : Conduct (CounterScript × ρ)).Allows i t)
    (hwhole : p.lacking k i = none) : t.Reads k.kind (.singleCore k.metrics) p i where
  calls slot := ((ht.side slot).whole hwhole).1
  taken key hkey slot := by
    have hread := ((ht.side slot).whole hwhole).2 key.1 (Layout.mem_rowKeys_singleCore hkey).1
    cases k <;> exact hread

/-- The snapshot backend holds what the script has to be read. -/
theorem value?_toSnapshot {p : PairScript} {i : Nat} (hi : i < p.wallclock.length) (slot : Slot)
    (m : Metric) : p.toSnapshot.script.value? i slot 0 m = some (p.reading i slot m) := by
  have hcounter (pairs : List (UInt64 × UInt64)) :
      ((pairs.map ([·]))[i]?.bind (·[0]?)).elim 0 slot.pick =
        slot.pick (pairs[i]?.getD (0, 0)) := by
    rw [List.getElem?_map]
    cases pairs[i]? with
    | none => cases slot <;> rfl
    | some pair => rfl
  cases m with
  | wallclock => simp [SnapshotScript.value?, toSnapshot, reading, hi]
  | coreCycles => exact congrArg (some ∘ Reading.count) (hcounter p.cycles)
  | aperf => exact congrArg (some ∘ Reading.count) (hcounter p.aperf)
  | mperf => exact congrArg (some ∘ Reading.count) (hcounter p.mperf)

/-- An allowed turn of the snapshot backend reads the script as long as the clock has a pair. -/
theorem reads_of_allows {p : PairScript} {i : Nat} {t : Turn}
    (ht : (SnapshotReplay.conduct p.toSnapshot.script 0 : Conduct (SnapshotReplay × ρ)).Allows i t)
    (hi : i < p.wallclock.length) : t.Reads .snapshot (.multiCore 1) p i where
  calls := SnapshotReplay.calls_of_allows ht ((Nat.zero_add i).symm ▸ hi)
  taken key hkey slot := by
    have hrange : InRange 1 (key.2.getD 0) key.1 := Layout.inRange_of_mem hkey
    have hcore : ∀ key ∈ (Layout.multiCore 1).rowKeys, key.2.getD 0 = 0 := by decide
    obtain ⟨r, hanswer, hr⟩ := ht.reading slot key ((Nat.zero_add i).symm ▸ hi) hrange
    rw [hcore key hkey, Nat.zero_add, value?_toSnapshot hi] at hr
    obtain rfl := Option.some.inj hr
    exact hanswer

/-- A run on counters with a script reads the script. -/
theorem exists_replays_counters (hp : p.Covers c.iterations) (benchmark : Int32 → StateM ρ Unit)
    (notify : Progress → StateM ρ Unit) (w : ρ) :
    ∃ h : Answers, h.Replays .perf (.singleCore Metric.all) p c.iterations ∧
      (Session.beside c (.perf CounterScript.counters) benchmark notify).eventsFrom
        (p.toCounters, w) = h.trace .perf c ∧
      ((Session.beside c (.perf CounterScript.counters) benchmark notify).run
        (p.toCounters, w)).1 = h.outcome .perf c := by
  obtain ⟨h, hbegun, hturns, hended, htrace, houtcome⟩ :=
    (p.follows_conductOf .perf c benchmark notify).exists_answers (w := (p.toCounters, w)) rfl
  have hreads : ∀ i < c.iterations, (h.turn i).Reads .perf (.singleCore Metric.all) p i :=
    fun i hi => reads_of_whole (hturns i hi) (hp.lacking_eq_none hi .perf)
  exact ⟨h, ⟨hbegun, hreads, hended⟩, htrace, houtcome⟩

/-- A run on a snapshot backend with a script reads the script. -/
theorem exists_replays_snapshot (hp : c.iterations ≤ p.wallclock.length)
    (benchmark : Int32 → StateM ρ Unit) (notify : Progress → StateM ρ Unit) (w : ρ) :
    ∃ h : Answers, h.Replays .snapshot (.multiCore 1) p c.iterations ∧
      (Session.beside c (.snapshot SnapshotReplay.snapshot) benchmark notify).eventsFrom
        (p.toSnapshot, w) = h.trace .snapshot c ∧
      ((Session.beside c (.snapshot SnapshotReplay.snapshot) benchmark notify).run
        (p.toSnapshot, w)).1 = h.outcome .snapshot c := by
  obtain ⟨h, hbegun, hturns, hended, htrace, houtcome⟩ :=
    (SnapshotReplay.follows_conduct p.toSnapshot.script 0 c benchmark notify).exists_answers
      (w := (p.toSnapshot, w)) ⟨rfl, rfl⟩
  have hreads : ∀ i < c.iterations, (h.turn i).Reads .snapshot (.multiCore 1) p i := fun i hi =>
    reads_of_allows (hturns i hi) (Nat.lt_of_lt_of_le hi hp)
  exact ⟨h, ⟨hbegun, hreads, hended⟩, htrace, houtcome⟩

end PairScript

/-! ### Agreement -/

/-- The recordings hold the same values: the clock's in one row each, and a counter's in one row
here and in the row of the only core there. -/
def Recording.Matches {layout layout' : Layout} {n n' : Nat} (r : Recording layout n)
    (r' : Recording layout' n') : Prop :=
  (∃ values, r.series? .wallclock = some (.flat values) ∧
    r'.series? .wallclock = some (.flat values)) ∧
  ∀ m ∈ Metric.counters, ∃ values, r.series? m = some (.flat values) ∧
    r'.series? m = some (.perCore [values])

/-- From one script the two ways of reading get one recording. -/
theorem Answers.Replays.recordings_match {h h' : Answers} {p : PairScript} {n : Nat}
    (hr : h.Replays .perf (.singleCore Metric.all) p n)
    (hr' : h'.Replays .snapshot (.multiCore 1) p n)
    (hall : ∀ i < n, p.rejected Metric.all i = none) :
    (h.recording .perf (.singleCore Metric.all) n).Matches
      (h'.recording .snapshot (.multiCore 1) n) := by
  have hfills := Answers.fills_values (hr.succeeds PairScript.oneEach_singleCore hall)
  have hfills' := Answers.fills_values (hr'.succeeds PairScript.oneEach_multiCore hall)
  -- Both tables give the delta of the script, so what they fill a row with is the same.
  have heq : ∀ {key key' : RowKey} {values values' : List Double},
      key ∈ (Layout.singleCore Metric.all).rowKeys → key' ∈ (Layout.multiCore 1).rowKeys →
      key.1 = key'.1 → h.Fills .perf n key values → h'.Fills .snapshot n key' values' →
      values = values' := by
    intro key key' values values' hkey hkey' hm hv hv'
    refine hv.eq hv' fun i hi d d' hd hd' => ?_
    have hdelta := ((hr.turns i hi).gives hkey).1 hd
    have hdelta' := ((hr'.turns i hi).gives hkey').1 hd'
    rw [hm, hdelta'] at hdelta
    exact (Except.ok.inj hdelta).symm
  constructor
  · obtain ⟨row, hkey, hseries⟩ :=
      (h.recording .perf (.singleCore Metric.all) n).series?_flat (m := .wallclock) (by decide)
    obtain ⟨row', hkey', hseries'⟩ :=
      (h'.recording .snapshot (.multiCore 1) n).series?_flat (m := .wallclock) (by decide)
    refine ⟨_, hseries, ?_⟩
    rw [hseries', heq (Layout.rowKey_mem _ row) (Layout.rowKey_mem _ row') (by rw [hkey, hkey'])
      (hfills row) (hfills' row')]
  · intro m hm
    obtain ⟨row, hkey, hseries⟩ :=
      (h.recording .perf (.singleCore Metric.all) n).series?_flat
        (show m ∈ Metric.all from m.mem_all)
    obtain ⟨rows, hseries', hlength, hrows⟩ :=
      (h'.recording .snapshot (.multiCore 1) n).series?_perCore hm
    obtain ⟨row', hkey', hvalues⟩ := hrows 0 Nat.zero_lt_one
    refine ⟨_, hseries, ?_⟩
    rw [hseries', heq (Layout.rowKey_mem _ row) (Layout.rowKey_mem _ row') (by rw [hkey, hkey'])
      (hfills row) (hfills' row')]
    -- There is one core, so there is one row.
    obtain ⟨values, rfl⟩ := List.length_eq_one_iff.1 hlength
    rw [Option.some.inj hvalues]

/-- Two runs of `n` iterations agree, with their events: they give the same recording, or they are
broken off in the same iteration, by errors that differ only in the core that is named. -/
def Outcome.Agrees {n : Nat} (o : Outcome n) (es : List Event) (o' : Outcome n)
    (es' : List Event) : Prop :=
  (∃ r r', o.result = .ok r ∧ o'.result = .ok r' ∧ r.2.Matches r'.2) ∨
    ∃ e : MeasureError, ∃ i < n, o.result = .error (.measure (e.onCore none)) ∧
      o'.result = .error (.measure (e.onCore (if e.metric = .wallclock then none else some 0))) ∧
      es.countP Event.isIterationStart = i + 1 ∧ es'.countP Event.isIterationStart = i + 1

/-- Of the numbers that fail, there is a first one. -/
theorem exists_first_not {P : Nat → Prop} {n : Nat} (h : ¬ ∀ i < n, P i) :
    ∃ i < n, (∀ j < i, P j) ∧ ¬ P i := by
  classical
  have hex : ∃ i, i < n ∧ ¬ P i := by simpa only [not_forall, exists_prop] using h
  obtain ⟨hi, hnot⟩ := Nat.find_spec hex
  refine ⟨Nat.find hex, hi, fun j hj => ?_, hnot⟩
  by_contra hne
  exact Nat.find_min hex hj ⟨Nat.lt_trans hj hi, hne⟩

/-- **The two ways of reading agree.**  Counters that read a script of pairs into the frame and a
snapshot backend of one core that hands out the same pairs give the same recording, or are broken
off in the same iteration with the same error, whatever the other parties of the two runs do. -/
theorem PairScript.agrees {ρ ρ' : Type} (p : PairScript) (c : Config) (hp : p.Covers c.iterations)
    (benchmark : Int32 → StateM ρ Unit) (notify : Progress → StateM ρ Unit) (w : ρ)
    (benchmark' : Int32 → StateM ρ' Unit) (notify' : Progress → StateM ρ' Unit) (w' : ρ') :
    Outcome.Agrees
      ((Session.beside c (.perf CounterScript.counters) benchmark notify).run (p.toCounters, w)).1
      ((Session.beside c (.perf CounterScript.counters) benchmark notify).eventsFrom
        (p.toCounters, w))
      ((Session.beside c (.snapshot SnapshotReplay.snapshot) benchmark' notify').run
        (p.toSnapshot, w')).1
      ((Session.beside c (.snapshot SnapshotReplay.snapshot) benchmark' notify').eventsFrom
        (p.toSnapshot, w')) := by
  obtain ⟨h, hr, htrace, houtcome⟩ := p.exists_replays_counters c hp benchmark notify w
  obtain ⟨h', hr', htrace', houtcome'⟩ :=
    p.exists_replays_snapshot c hp.wallclock benchmark' notify' w'
  rw [htrace, htrace', houtcome, houtcome']
  by_cases hall : ∀ i < c.iterations, p.rejected Metric.all i = none
  · refine .inl ⟨_, _, Answers.result_eq_ok.2 ⟨hr.begun, ?_, hr.ended, rfl⟩,
      Answers.result_eq_ok.2 ⟨hr'.begun, ?_, hr'.ended, rfl⟩, hr.recordings_match hr' hall⟩
    · exact hr.succeeds oneEach_singleCore hall
    · exact hr'.succeeds oneEach_multiCore hall
  -- Otherwise there is a first iteration in which a metric has no delta, and both runs end in it.
  · obtain ⟨i, hi, hbefore, hsome⟩ := exists_first_not hall
    obtain ⟨e, he⟩ := Option.ne_none_iff_exists'.1 hsome
    obtain ⟨hresult, hcount⟩ := hr.broken_off oneEach_singleCore hi he hbefore
    obtain ⟨hresult', hcount'⟩ := hr'.broken_off oneEach_multiCore hi he hbefore
    exact .inr ⟨e, i, hi, hresult, hresult', hcount, hcount'⟩

/-- A script of two iterations, in the second of which the cycles go backwards. -/
def PairScript.backwards : PairScript where
  wallclock := [(.ofNat 0, .ofNat 1), (.ofNat 1, .ofNat 3)]
  cycles := [(10, 20), (30, 25)]
  aperf := [(1, 2), (2, 4)]
  mperf := [(1, 2), (2, 4)]

theorem PairScript.agrees_backwards : PairScript.backwards.Covers 2 ∧
    Outcome.Agrees
      ((Session.beside { iterations := 2 } (.perf CounterScript.counters) (fun _ => pure ())
        fun _ => pure ()).run (PairScript.backwards.toCounters, ())).1
      ((Session.beside { iterations := 2 } (.perf CounterScript.counters) (fun _ => pure ())
        fun _ => pure ()).eventsFrom (PairScript.backwards.toCounters, ()))
      ((Session.beside { iterations := 2 } (.snapshot SnapshotReplay.snapshot) (fun _ => pure ())
        fun _ => pure ()).run (PairScript.backwards.toSnapshot, ())).1
      ((Session.beside { iterations := 2 } (.snapshot SnapshotReplay.snapshot) (fun _ => pure ())
        fun _ => pure ()).eventsFrom (PairScript.backwards.toSnapshot, ())) := by
  have hcovers : PairScript.backwards.Covers 2 := by constructor <;> decide
  exact ⟨hcovers, PairScript.backwards.agrees { iterations := 2 } hcovers _ _ () _ _ ()⟩

end Stopwatch
