import Stopwatch.Proofs.Bindings
import Stopwatch.Proofs.Causes
import Stopwatch.Proofs.Protocol

/-!
# Snapshot backends are not misused

A snapshot backend refuses some calls because they come at the wrong time or name a core that it
does not have, and two readings may turn out to be of different kinds.  None of this happens in a
run: it begins the backend before anything else, marks a side before it asks for a reading, and asks
for those rows alone that the layout has, which was made for as many cores as there were then.

What a backend has to keep for this is a `Discipline`: what is known of its state before a run, when
it was begun with a number of cores, and when a side was marked (`Snapshot.Keeps`).  A session whose
backend keeps one follows a `Conduct` (`Snapshot.Keeps.follows`), so that no run of it fails of
misuse (`Snapshot.Keeps.not_isMisuse`), and every reading that it asks for is one of a row
(`Snapshot.Keeps.exists_key_of_mem_events`).  A measurement library keeps one whatever it answers
(`MeasurementLibrary.keeps`), and so does a script whatever it holds (`SnapshotReplay.keeps`).
-/

namespace Stopwatch

variable {τ ρ α : Type}

/-! ### Misuse -/

/-- A backend was used out of its order, or asked for a core that it does not have. -/
def BackendError.IsMisuse : BackendError → Prop
  | .coreOutOfRange .. => True
  | .notInitialised => True
  | _ => False

/-- The parties of a run were not used as they want to be. -/
def RunError.IsMisuse : RunError → Prop
  | .backend e => e.IsMisuse
  | .measure (.mixedReadings ..) => True
  | .measure _ => False
  | .record _ => True

/-- If the readings of `s` suit its metric, an error of its delta is no misuse. -/
theorem Sample.not_isMisuse_of_delta {s : Sample} {e : MeasureError}
    (hstart : s.start.Suits s.metric) (hstop : s.stop.Suits s.metric) (h : s.delta = .error e) :
    ¬ (RunError.measure e).IsMisuse := by
  cases e with
  | mixedReadings => exact absurd h (s.delta_ne_mixed hstart hstop)
  | _ => exact id

/-- The answer is a value with `P`, or an error that is no misuse. -/
def Proper (P : α → Prop) : Except BackendError α → Prop
  | .ok v => P v
  | .error e => ¬ e.IsMisuse

@[simp] theorem proper_ok {P : α → Prop} {v : α} : Proper P (.ok v) ↔ P v := Iff.rfl

/-- There is a row for a reading if `n` cores are known. -/
def InRange (n core : Nat) (m : Metric) : Prop := m = .wallclock ∨ core < n

theorem Layout.inRange_of_mem {n : Nat} {key : RowKey} (h : key ∈ (multiCore n).rowKeys) :
    InRange n (key.2.getD 0) key.1 := by
  rw [rowKeys, List.mem_append, List.mem_map, List.mem_flatMap] at h
  obtain ⟨m, hm, rfl⟩ | ⟨m, -, h⟩ := h
  · exact .inl (List.mem_singleton.1 hm)
  · obtain ⟨core, hcore, rfl⟩ := List.mem_map.1 h
    exact .inr (List.mem_range.1 hcore)

/-- **A reading that a run asks for** is asked for a row `key` of the layout in an iteration `i` of
the run. -/
theorem Answers.exists_key_of_mem_trace {h : Answers} {k : Kind} {c : Config} {slot : Slot}
    {core : Nat} {m : Metric} {a : Except BackendError Reading}
    (hmem : .reading slot core m a ∈ h.trace k c) :
    ∃ layout, h.begun k = .ok layout ∧ ∃ i < c.iterations, ∃ key ∈ layout.rowKeys,
      core = key.2.getD 0 ∧ m = key.1 ∧ a = (h.turn i).reading slot key := by
  -- Neither the calls of a side nor what stands before and behind the iterations is a reading.
  have hcalls : ∀ (t : Side) side, .reading slot core m a ∉ t.calls k side := by
    intro t side
    cases k <;> cases side <;> simp [Side.calls]
  have hopening : .reading slot core m a ∉ h.opening k := by
    cases k <;> simp [opening, Kind.opening]
  have hclosing : .reading slot core m a ∉ h.closing k := by
    cases k <;> simp [closing, Kind.closing]
  rw [trace, List.mem_append, or_iff_right hopening] at hmem
  cases hbegun : h.begun k with
  | error e => rw [hbegun] at hmem; exact absurd hmem List.not_mem_nil
  | ok layout =>
    have hepilogue : .reading slot core m a ∉ epilogue (h.measured k c layout) (h.ended k) := by
      cases h.measured k c layout <;> cases h.ended k <;> simp [epilogue]
    simp only [hbegun, List.mem_cons, List.mem_append, hclosing, hepilogue, or_false,
      reduceCtorEq, false_or] at hmem
    obtain ⟨i, hi, hevents⟩ := exists_turn_of_mem_told hmem
    simp only [Turn.events, List.mem_append, List.mem_singleton, hcalls, or_false,
      reduceCtorEq, false_or, List.mem_flatMap] at hevents
    obtain ⟨key, hkey, hreading⟩ := hevents
    refine ⟨layout, rfl, i, hi, key, hkey, ?_⟩
    -- Only a snapshot backend is asked for readings.
    cases k with
    | snapshot =>
      simp only [Turn.readings, List.mem_cons, List.not_mem_nil, or_false] at hreading
      rcases hreading with h | h <;> cases h <;> exact ⟨rfl, rfl, rfl⟩
    | _ => exact absurd hreading List.not_mem_nil

/-! ### Disciplines -/

/-- What is known of a snapshot backend between its calls. -/
structure Discipline (τ : Type) where
  /-- Before `init`. -/
  fresh : τ → Prop
  /-- The backend was begun with a number of cores. -/
  begun : Nat → τ → Prop
  /-- It was begun with a number of cores, and a side was marked. -/
  marked : Nat → τ → Prop
  /-- What can be read on a side, of a core and for a metric. -/
  reads : Slot → Nat → Metric → Reading → Prop
  begun_of_marked : ∀ {n t}, marked n t → begun n t
  suits : ∀ {slot core m r}, reads slot core m r → r.Suits m

/-- The snapshot backend `s` keeps the discipline `d`, whatever the state `ρ` of the others is. -/
structure Snapshot.Keeps (s : Snapshot (StateM (τ × ρ))) (d : Discipline τ) : Prop where
  init : ∀ w, d.fresh w.1 → Proper
    (fun _ => d.begun (s.cores (s.init w).2).1 (s.cores (s.init w).2).2.1) (s.init w).1
  before : ∀ n w, d.begun n w.1 →
    Proper (fun _ => d.marked n (s.mark .before w).2.1) (s.mark .before w).1
  after : ∀ n w, d.marked n w.1 →
    Proper (fun _ => d.marked n (s.mark .after w).2.1) (s.mark .after w).1
  reading : ∀ n slot core m w, d.marked n w.1 → d.marked n (s.reading slot core m w).2.1 ∧
    (InRange n core m → Proper (d.reads slot core m) (s.reading slot core m w).1)
  shutdown : ∀ w, Proper (fun _ => True) (s.shutdown w).1

/-- What a session does whose backend keeps a discipline, when it was begun with `n` cores from the
given state. -/
def Discipline.conduct (d : Discipline τ) (n : Nat) (start : τ × ρ) : Conduct (τ × ρ) where
  fresh w := w = start
  ready _ w := d.begun n w.1
  half _ w := d.marked n w.1
  full _ w := d.marked n w.1
  begun := Proper fun _ => True
  side _ _ t := Proper (fun _ => True) t.mark
  reading _ slot key a :=
    InRange n (key.2.getD 0) key.1 → Proper (d.reads slot (key.2.getD 0) key.1) a
  ended := Proper fun _ => True

namespace Snapshot.Keeps

variable {s : Snapshot (StateM (τ × ρ))} {d : Discipline τ}

/-- As a backend, `s` answers `init` with the layout of as many cores as it announces. -/
theorem init_apply (s : Snapshot (StateM (τ × ρ))) (w : τ × ρ) :
    (Backend.snapshot s).init w = match s.init w with
      | (.error e, w') => (.error e, w')
      | (.ok _, w') => (.ok (.multiCore (s.cores w').1), (s.cores w').2) := by
  simp only [Backend.init, Bind.bind, ExceptT.bind, ExceptT.mk, StateT.bind]
  rcases s.init w with ⟨e | u, w'⟩ <;> rfl

theorem init_eq_error {w : τ × ρ} {e : BackendError}
    (h : ((Backend.snapshot s).init w).1 = .error e) : (s.init w).1 = .error e := by
  rw [init_apply] at h
  rcases hinit : s.init w with ⟨e' | u, w'⟩
  · rw [hinit] at h
    exact congrArg Except.error (Except.error.inj h)
  · rw [hinit] at h
    cases h

theorem init_eq_ok {w : τ × ρ} {layout : Layout}
    (h : ((Backend.snapshot s).init w).1 = .ok layout) :
    (∃ u, (s.init w).1 = .ok u) ∧ layout = .multiCore (s.cores (s.init w).2).1 ∧
      ((Backend.snapshot s).init w).2 = (s.cores (s.init w).2).2 := by
  rw [init_apply] at h ⊢
  rcases hinit : s.init w with ⟨e' | u, w'⟩
  · rw [hinit] at h
    cases h
  · rw [hinit] at h
    exact ⟨⟨u, rfl⟩, (Except.ok.inj h).symm, rfl⟩

/-- Marking a side answers properly and leads from `P` to `K`, if it does so for `s` itself. -/
theorem tells_mark {P K : τ × ρ → Prop} {slot : Slot}
    (h : ∀ w, P w → Proper (fun _ => K (s.mark slot w).2) (s.mark slot w).1) (f : Frame) :
    Tells P (Session.ask ((Backend.snapshot s).watched.mark slot f)).run
      (Marks .snapshot slot f (fun t => Proper (fun _ => True) t.mark) K) := by
  refine tells_mark_snapshot_of (A := Proper fun _ => True) (fun w hw => ?_) f
  have hproper := h w hw
  cases hmark : (s.mark slot w).1 with
  | ok v =>
    rw [hmark] at hproper
    exact ⟨trivial, fun _ => hproper⟩
  | error e =>
    rw [hmark] at hproper
    refine ⟨hproper, fun hok => ?_⟩
    cases hok

/-- **A session whose backend keeps a discipline** follows its conduct, for the number of cores that
`init` leads to from `start`. -/
theorem follows (hs : s.Keeps d) (config : Config) (benchmark : Int32 → StateM ρ Unit)
    (notify : Progress → StateM ρ Unit) {start : τ × ρ} (hstart : d.fresh start.1) :
    (s.session config benchmark notify).Follows
      (d.conduct (s.cores (s.init start).2).1 start) where
  -- An error of the backend is one of `init` itself, since the number of cores is only looked up.
  begun w hw := by
    obtain rfl : w = start := hw
    have hinit := hs.init w hstart
    cases hbegun : ((Backend.snapshot s).init w).1 with
    | error e =>
      rw [init_eq_error hbegun] at hinit
      exact hinit
    | ok layout => exact trivial
  runStart w layout hw hbegun := by
    obtain rfl : w = start := hw
    obtain ⟨⟨u, hu⟩, -, hleft⟩ := init_eq_ok hbegun
    have hinit := hs.init w hstart
    rw [hu] at hinit
    show d.begun _ ((Backend.snapshot s).init w).2.1
    rw [hleft]
    exact hinit
  iterationStart _ _ _ hw := hw
  before i hi f := tells_mark (fun w hw => hs.before _ w hw) f
  benchmark _ _ _ hw := hw
  after i hi f := tells_mark (fun w hw => hs.after _ w hw) f
  handsOut i hi slot key w hw := by
    obtain ⟨hmarked, hproper⟩ := hs.reading _ slot (key.2.getD 0) key.1 w hw
    exact ⟨hproper, hmarked⟩
  iterationEnd _ _ _ hw := d.begun_of_marked hw
  ended w := hs.shutdown w
  -- A script that has run out is an answer that the conduct allows to everything.
  allows i hi := by
    refine ⟨{ Turn.idle with reading := fun _ _ => .error (.exhausted 0) }, fun slot => ?_,
      fun slot key _ => ?_⟩
    · cases slot <;> exact trivial
    · exact id

/-- **A run gets proper answers**: each reading of a row is one that the backend hands out, and
nothing is refused because of misuse. -/
theorem exists_answers (hs : s.Keeps d) (config : Config) (benchmark : Int32 → StateM ρ Unit)
    (notify : Progress → StateM ρ Unit) {w : τ × ρ} (hw : d.fresh w.1) :
    ∃ h : Answers, h.begun .snapshot = ((Backend.snapshot s).init w).1 ∧
      Proper (fun _ => True) (h.begun .snapshot) ∧
      (∀ i < config.iterations, ∀ slot, Proper (fun _ => True) ((h.turn i).side slot).mark) ∧
      (∀ layout, h.begun .snapshot = .ok layout → ∀ i < config.iterations, ∀ slot,
        ∀ key ∈ layout.rowKeys,
          Proper (d.reads slot (key.2.getD 0) key.1) ((h.turn i).taken .snapshot slot key)) ∧
      Proper (fun _ => True) (h.ended .snapshot) ∧
      (s.session config benchmark notify).eventsFrom w = h.trace .snapshot config ∧
      ((s.session config benchmark notify).run w).1 = h.outcome .snapshot config := by
  have hfollows := hs.follows config benchmark notify hw
  obtain ⟨h, hbegun, hallows, hended, htrace, houtcome⟩ := hfollows.exists_answers (w := w) rfl
  refine ⟨h, hbegun, hbegun.symm ▸ hfollows.begun w rfl, fun i hi slot => (hallows i hi).side slot,
    fun layout hlayout i hi slot key hkey => (hallows i hi).reading slot key ?_, hended, htrace,
    houtcome⟩
  obtain ⟨-, rfl, -⟩ := init_eq_ok (hbegun.symm.trans hlayout)
  exact Layout.inRange_of_mem hkey

variable {config : Config} {benchmark : Int32 → StateM ρ Unit} {notify : Progress → StateM ρ Unit}
  {w : τ × ρ}

/-- **No run of a session whose backend keeps a discipline fails of misuse.** -/
theorem not_isMisuse (hs : s.Keeps d) (hw : d.fresh w.1) {e : RunError}
    (h : ((s.session config benchmark notify).run w).1.result = .error e) : ¬ e.IsMisuse := by
  obtain ⟨answers, -, hbegun, hside, hreading, hended, -, houtcome⟩ :=
    hs.exists_answers config benchmark notify hw
  rw [houtcome] at h
  -- Each cause of a failure is an answer, and the answers are proper.
  cases Answers.cause_of_firstFailure (Answers.result_eq_error.1 h) with
  | opening he =>
    rw [he] at hbegun
    exact hbegun
  | @call i slot event e hi hevent he =>
    have hmark : event = .mark slot ((answers.turn i).side slot).mark := by
      cases slot <;> exact List.mem_singleton.1 hevent
    subst hmark
    obtain ⟨e', he', hcause⟩ := failureOf_eq_some he
    obtain rfl := RunError.backend.inj hcause
    have hproper := hside i hi slot
    rw [he'] at hproper
    exact hproper
  | @row layout i key e hlayout hi hkey hrow =>
    have hproper := fun slot => hreading layout hlayout i hi slot key hkey
    cases hrow with
    | reading slot he =>
      have hrefused := hproper slot
      rw [he] at hrefused
      exact hrefused
    | delta hfirst hlast he =>
      have hstart := hproper .before
      have hstop := hproper .after
      rw [hfirst, proper_ok] at hstart
      rw [hlast, proper_ok] at hstop
      exact Sample.not_isMisuse_of_delta (d.suits hstart) (d.suits hstop) he
  | closing he =>
    rw [he] at hended
    exact hended

/-- **Every reading that a run asks for** is one of a row that the backend has announced, and the
answer is as the discipline says. -/
theorem exists_key_of_mem_events (hs : s.Keeps d) (hw : d.fresh w.1) {slot : Slot} {core : Nat}
    {m : Metric} {a : Except BackendError Reading}
    (h : .reading slot core m a ∈ (s.session config benchmark notify).eventsFrom w) :
    ∃ layout, ((Backend.snapshot s).init w).1 = .ok layout ∧
      (∃ key ∈ layout.rowKeys, core = key.2.getD 0 ∧ m = key.1) ∧
        Proper (d.reads slot core m) a := by
  obtain ⟨answers, hbegun, -, -, hreading, -, htrace, -⟩ :=
    hs.exists_answers config benchmark notify hw
  rw [htrace] at h
  obtain ⟨layout, hlayout, i, hi, key, hkey, rfl, rfl, rfl⟩ := Answers.exists_key_of_mem_trace h
  exact ⟨layout, hbegun.symm.trans hlayout, ⟨key, hkey, rfl, rfl⟩,
    hreading layout hlayout i hi slot key hkey⟩

end Snapshot.Keeps

/-! ### Two that keep a discipline -/

/-- Of a measurement library it is known that it was begun and how many cores it announced. -/
def Discipline.library : Discipline Binding where
  fresh _ := True
  begun n b := b = ⟨n, true⟩
  marked n b := b = ⟨n, true⟩
  reads _ _ m r := r.Suits m
  begun_of_marked := id
  suits := id

theorem MeasurementLibrary.suits_answer (l : MeasurementLibrary (StateM ρ)) (slot : Slot)
    (core : Nat) (m : Metric) (r : ρ) : (l.answer slot core m r).1.Suits m := by
  cases m with
  | wallclock => rfl
  | _ => exact nofun

/-- **A measurement library keeps its discipline**, whatever it answers. -/
theorem MeasurementLibrary.keeps (l : MeasurementLibrary (StateM ρ)) : l.inUse.Keeps .library where
  init := by
    rintro ⟨b, r⟩ -
    rw [inUse_init]
    split
    · exact id
    · exact rfl
  before := by
    rintro n ⟨_, r⟩ rfl
    rw [inUse_mark, if_pos rfl]
    exact rfl
  after := by
    rintro n ⟨_, r⟩ rfl
    rw [inUse_mark, if_pos rfl]
    exact rfl
  reading := by
    rintro n slot core m ⟨_, r⟩ rfl
    rw [inUse_reading, if_pos rfl]
    split
    next houtside =>
      refine ⟨rfl, fun hrange => ?_⟩
      obtain hclock | hcore := hrange
      · exact absurd hclock houtside.1
      · exact absurd hcore (Nat.not_lt.2 houtside.2)
    next => exact ⟨rfl, fun _ => l.suits_answer slot core m r⟩
  shutdown := by
    rintro ⟨b, r⟩
    rw [inUse_shutdown]
    split <;> exact trivial

/-- Of a script it is known that it was begun and, once a side was marked, that it is in an
iteration. -/
def Discipline.replay (script : SnapshotScript) : Discipline SnapshotReplay where
  fresh t := t.script = script
  begun n t := t.script = script ∧ t.initialised = true ∧ n = script.cores
  marked n t := t.script = script ∧ t.initialised = true ∧ n = script.cores ∧ t.current.isSome
  reads slot _ m r := r.Suits m ∧ (m = .wallclock → ∃ (i : Nat) (pair : Double × Double),
    script.wallclock[i]? = some pair ∧ r = .seconds (slot.pick pair))
  begun_of_marked h := ⟨h.1, h.2.1, h.2.2.1⟩
  suits h := h.1

namespace SnapshotReplay

/-- Once begun, a script takes the second side at once, and the first one if it has another
iteration. -/
theorem mark_of_initialised {t : SnapshotReplay} (h : t.initialised = true) (slot : Slot) :
    mark slot t = match slot with
      | .after => (.ok (), t)
      | .before =>
        if h : t.upcoming < t.script.wallclock.length then
          (.ok (), { t with current := some ⟨t.upcoming, h⟩ })
        else (.error (.exhausted t.upcoming), t) := by
  unfold mark
  rw [h]
  rfl

/-- A script that is read out beside the state of the other parties. -/
def inUse : Snapshot (StateM (SnapshotReplay × ρ)) := snapshot.change Part.left.run

/-- Marking a side leaves the state `r` of the others as it is. -/
theorem inUse_mark (slot : Slot) (t : SnapshotReplay) (r : ρ) :
    inUse.mark slot (t, r) = ((mark slot t).1, (mark slot t).2, r) := rfl

/-- **A script keeps its discipline**, whatever it holds. -/
theorem keeps (script : SnapshotScript) :
    (inUse : Snapshot (StateM (SnapshotReplay × ρ))).Keeps (.replay script) where
  init := by
    rintro ⟨t, r⟩ rfl
    have hinit : inUse.init (t, r) = ((init t).1, (init t).2, r) := rfl
    rw [hinit, init]
    split
    · exact id
    · exact ⟨rfl, rfl, rfl⟩
  before := by
    rintro n ⟨t, r⟩ ⟨rfl, hbegun, rfl⟩
    rw [inUse_mark, mark_of_initialised hbegun]
    dsimp only
    split
    · exact ⟨rfl, hbegun, rfl, rfl⟩
    · exact id
  after := by
    rintro n ⟨t, r⟩ ⟨rfl, hbegun, rfl, hcurrent⟩
    rw [inUse_mark, mark_of_initialised hbegun]
    exact ⟨rfl, hbegun, rfl, hcurrent⟩
  reading := by
    rintro n slot core m ⟨t, r⟩ ⟨rfl, hbegun, rfl, hcurrent⟩
    refine ⟨⟨rfl, hbegun, rfl, hcurrent⟩, fun hrange => ?_⟩
    have hreading : inUse.reading slot core m (t, r) = (t.look slot core m, t, r) := rfl
    obtain ⟨i, hi⟩ : ∃ i, t.current = some i := Option.isSome_iff_exists.1 hcurrent
    rw [hreading, look, hi]
    dsimp only
    split
    next hclock =>
      refine ⟨hclock, fun _ => ⟨i, t.script.wallclock.get i, ?_, rfl⟩⟩
      exact List.getElem?_eq_getElem i.isLt
    next hcounter =>
      rw [if_neg (Nat.not_le.2 (hrange.resolve_left hcounter))]
      exact ⟨hcounter, fun hclock => absurd hclock hcounter⟩
  shutdown _ := trivial

end SnapshotReplay

/-! ### What no run fails of -/

/-- The readings of a frame as they are stored: a row for each side, with one reading for each
metric in it. -/
def Frame.table (f : Frame) : List (List Reading) :=
  [Metric.all.map f.before.get, Metric.all.map f.after.get]

theorem Frame.getElem?_table (f : Frame) (slot : Slot) (m : Metric) :
    f.table[slot.index]?.bind (·[m.index]?) = some (f.get slot m) := by
  cases slot <;> cases m <;> rfl

/-- At each `place` below `rowCount` there are a key and a row, and in the row there is a cell for
each iteration. -/
theorem Recording.exists_cell {layout : Layout} {n place i : Nat} (r : Recording layout n)
    (hplace : place < layout.rowCount) (hi : i < n) :
    ∃ key row cell, layout.rowKeys[place]? = some key ∧ r.rows[place]? = some row ∧
      row.cells[i]? = some cell := by
  have hkeys : place < layout.rowKeys.length := layout.length_rowKeys ▸ hplace
  exact ⟨_, _, _, List.getElem?_eq_getElem hkeys, Vector.getElem?_eq_getElem hplace,
    Vector.getElem?_eq_getElem hi⟩

/-- **Runs one after another on a backend that keeps a discipline**, wherever it is when they begin:
none of them fails of misuse. -/
theorem Snapshot.Keeps.runs_not_isMisuse {s : Snapshot (StateM (τ × ρ))}
    (hs : ∀ t, ∃ d : Discipline τ, d.fresh t ∧ s.Keeps d) (config : Config)
    (notify : Progress → StateM ρ Unit) (works : List (Int32 → StateM ρ Unit)) (w : τ × ρ) :
    ∀ o ∈ (s.runs config notify works w).1, ∀ e, o.result = .error e → ¬ e.IsMisuse := by
  refine (s.session config (fun _ => pure ()) notify).forall_mem_runs ?_ w
  intro work hwork w' e he
  obtain ⟨work, -, rfl⟩ := List.mem_map.1 hwork
  -- The discipline may depend on the state in which the earlier runs left the backend.
  obtain ⟨d, hfresh, hkeeps⟩ := hs w'.1
  exact hkeeps.not_isMisuse hfresh he

/-- **What no run fails of**, however many runs went before.  Whatever the backend answers, the
recording accepts every delta, and what is filed in a frame is not mixed up.  A measurement library
and a script are not misused at all.  Rows, cells and the readings of a frame are there wherever
they are looked for, and what a script answers for the clock stands in the script. -/
theorem Session.unreachable_failures {σ ρ : Type} :
    (∀ (s : Session (StateM σ)) (works : List (Int32 → StateM σ Unit)) (w : σ),
      ∀ o ∈ (s.runs works w).1, (∀ e, o.result ≠ .error (.record e)) ∧
        (s.backend.kind ≠ .snapshot → ∀ metric core start stop,
          o.result ≠ .error (.measure (.mixedReadings metric core start stop)))) ∧
    (∀ (l : MeasurementLibrary (StateM ρ)) config notify works w,
      ∀ o ∈ (l.inUse.runs config notify works w).1, ∀ e, o.result = .error e → ¬ e.IsMisuse) ∧
    (∀ config notify works (w : SnapshotReplay × ρ),
      ∀ o ∈ (SnapshotReplay.inUse.runs config notify works w).1,
        ∀ e, o.result = .error e → ¬ e.IsMisuse) ∧
    (∀ (layout : Layout) (n : Nat) (r : Recording layout n), ∀ place < layout.rowCount, ∀ i < n,
      ∃ key row cell, layout.rowKeys[place]? = some key ∧ r.rows[place]? = some row ∧
        row.cells[i]? = some cell) ∧
    (∀ (f : Frame) (slot : Slot) (m : Metric),
      f.table[slot.index]?.bind (·[m.index]?) = some (f.get slot m)) ∧
    (∀ config benchmark notify (w : SnapshotReplay × ρ) slot core m a,
      .reading slot core m a ∈
        (SnapshotReplay.inUse.session config benchmark notify).eventsFrom w →
      InRange w.1.script.cores core m ∧ (m = .wallclock → ∀ r, a = .ok r →
        ∃ (i : Nat) (pair : Double × Double),
          w.1.script.wallclock[i]? = some pair ∧ r = .seconds (slot.pick pair))) := by
  refine ⟨?_, ?_, ?_, ?_, Frame.getElem?_table, ?_⟩
  · intro s works w
    refine s.forall_mem_runs (fun work _ w' => ?_) w
    exact ⟨(s.calling work).run_ne_record w', fun hkind => (s.calling work).run_ne_mixed hkind w'⟩
  · intro l
    exact Snapshot.Keeps.runs_not_isMisuse fun b => ⟨.library, trivial, l.keeps⟩
  · exact Snapshot.Keeps.runs_not_isMisuse fun t =>
      ⟨.replay t.script, rfl, SnapshotReplay.keeps t.script⟩
  · intro layout n r place hplace i hi
    exact r.exists_cell hplace hi
  · intro config benchmark notify w slot core m a h
    have hkeeps : (SnapshotReplay.inUse (ρ := ρ)).Keeps _ := SnapshotReplay.keeps w.1.script
    obtain ⟨layout, hinit, ⟨key, hkey, rfl, rfl⟩, hproper⟩ := hkeeps.exists_key_of_mem_events rfl h
    obtain ⟨⟨u, hu⟩, rfl, -⟩ := Snapshot.Keeps.init_eq_ok hinit
    have hbegun := hkeeps.init w rfl
    rw [hu] at hbegun
    refine ⟨hbegun.2.2 ▸ Layout.inRange_of_mem hkey, ?_⟩
    rintro hclock r rfl
    exact hproper.2 hclock

end Stopwatch
