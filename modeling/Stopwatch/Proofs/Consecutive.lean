import Mathlib.Algebra.GroupWithZero.Nat
import Stopwatch.Proofs.Along
import Stopwatch.Proofs.Snapshots

/-!
# Runs that share a script

A script is never gone back in, so runs on one scripted snapshot backend share it: the second begins
where the first one ended.  That is seen from two sides.

What a run does to the script is one more stretch of its history (`SnapshotReplay.Stands.run`),
since every call of it is a use.  A run of `n` iterations that gives a recording marks `n` first
sides (`Answers.countP_isFirstMark`), so jobs that all give one move the script on by their
iterations (`SnapshotReplay.Stands.jobs`).

What the run gives is settled by the entry at which it begins (`SnapshotReplay.conduct`): cell `i`
is the delta of entry `i` from there on, and there is a recording just if all these deltas are valid
(`SnapshotReplay.Stands.result_of_run`).  `SnapshotReplay.script_in_order` says both of jobs that
come after any uses of the script.
-/

namespace Stopwatch

variable {ρ : Type}

/-! ### Events and history -/

namespace Event

/-- The use that a call of a snapshot backend is, with its reply. -/
def exchange? : Event → Option (Use × Reply)
  | init a => some (.init, .verb a)
  | mark slot a => some (.mark slot, .verb a)
  | reading slot core m a => some (.reading slot core m, .reading a)
  | shutdown a => some (.shutdown, .verb a)
  | _ => none

/-- Whether a first side was marked. -/
def isFirstMark : Event → Bool
  | mark .before (.ok ()) => true
  | _ => false

end Event

/-- `firstMarks` of the uses among the events `es` counts the marks of a first side in `es`. -/
theorem History.firstMarks_exchanges (es : List Event) :
    firstMarks (es.filterMap Event.exchange?) = es.countP Event.isFirstMark := by
  have hone : ∀ e : Event, (e.exchange?.map isFirstMark).getD false = e.isFirstMark := by
    intro e
    cases e with
    | mark slot a => cases slot <;> rcases a with e | u <;> rfl
    | _ => rfl
  rw [firstMarks, List.countP_filterMap]
  exact congrArg (List.countP · es) (funext hone)

/-- An iteration that goes well marks one first side. -/
theorem Turn.countP_isFirstMark {t : Turn} {c : Config} {layout : Layout}
    (h : t.Succeeds .snapshot layout) (i : Nat) :
    (t.events .snapshot c layout i).countP Event.isFirstMark = 1 := by
  have hmark : t.before.mark = .ok () := by
    have hnone := h.calls .before _ (List.mem_singleton_self _)
    cases hm : (t.side .before).mark with
    | ok u => exact hm
    | error e =>
      rw [hm] at hnone
      cases hnone
  -- Behind the mark of the first side come the second one and readings, which do not count.
  have hreadings :
      (layout.rowKeys.flatMap (t.readings .snapshot)).countP Event.isFirstMark = 0 := by
    rw [List.countP_eq_zero]
    intro e he
    obtain ⟨key, -, he⟩ := List.mem_flatMap.1 he
    simp only [readings, List.mem_cons, List.not_mem_nil, or_false] at he
    rcases he with rfl | rfl <;> exact Bool.false_ne_true
  simp only [events, Side.calls, hmark, List.countP_append, hreadings]
  rfl

/-- A run without a failure marks `c.iterations` first sides. -/
theorem Answers.countP_isFirstMark {h : Answers} {c : Config} {layout : Layout}
    (hbegun : h.begun .snapshot = .ok layout)
    (hturns : ∀ i < c.iterations, (h.turn i).Succeeds .snapshot layout)
    (hended : h.ended .snapshot = .ok ()) :
    (h.trace .snapshot c).countP Event.isFirstMark = c.iterations := by
  have hiterations := countP_flatMap_range (p := Event.isFirstMark)
    (f := fun i => (h.turn i).events .snapshot c layout i) c.iterations
    fun i hi => Turn.countP_isFirstMark (hturns i hi) i
  rw [trace_of_succeeds hbegun hturns, hended]
  simp only [List.countP_append, List.countP_cons, hiterations]
  show 0 + (c.iterations + 0 + 0) = c.iterations
  omega

/-! ### Jobs -/

/-- What is to be measured, and who is told of it. -/
structure Job (ρ : Type) where
  config : Config
  benchmark : Int32 → StateM ρ Unit
  notify : Progress → StateM ρ Unit

namespace SnapshotReplay

variable {script : SnapshotScript} {h : History}

/-- Do a job, reading out a script. -/
def run (job : Job ρ) : StateM (SnapshotReplay × ρ) (Outcome job.config.iterations) :=
  (inUse.session job.config job.benchmark job.notify).run

/-- `Succeed jobs w w'` says that `jobs`, done one after the other from `w`, all give a recording
and leave `w'`. -/
inductive Succeed : List (Job ρ) → SnapshotReplay × ρ → SnapshotReplay × ρ → Prop
  | nil (w) : Succeed [] w w
  | cons {job jobs w w'} (first : ∃ v, (run job w).1.result = .ok v)
    (others : Succeed jobs (run job w).2 w') : Succeed (job :: jobs) w w'

/-! ### What a run does to the script -/

/-- Wherever a script stands, by some events its history grows by the uses among them. -/
def growth (script : SnapshotScript) (ρ : Type) :
    Growth (SnapshotReplay × ρ) (SnapshotReplay × ρ) where
  inner o := o
  grew o es o' := ∀ h, Stands script h o.1 → Stands script (h ++ es.filterMap Event.exchange?) o'.1
  refl o h hs := (List.append_nil h).symm ▸ hs
  trans hgrew hgrew' h hs := by
    rw [List.filterMap_append, ← List.append_assoc]
    exact hgrew' _ (hgrew h hs)

/-- A session on a script goes along with itself when watched: every call of it is a use. -/
theorem related_growth (script : SnapshotScript) (job : Job ρ) :
    Session.Related (growth script ρ).along (inUse.session job.config job.benchmark job.notify)
      (Session.watched (inUse.session job.config job.benchmark job.notify)) where
  config := rfl
  backend := by
    refine .snapshot (Growth.along_watch fun o => ⟨rfl, rfl, fun h hs => hs.serve .init⟩)
      (Growth.along_unwatched fun o => ⟨rfl, rfl, fun h hs => ?_⟩)
      (fun slot => Growth.along_watch fun o => ⟨rfl, rfl, fun h hs => hs.serve (.mark slot)⟩)
      (fun slot core m =>
        Growth.along_watch fun o => ⟨rfl, rfl, fun h hs => hs.serve (.reading slot core m)⟩)
      (Growth.along_watch fun o => ⟨rfl, rfl, fun h hs => hs.serve .shutdown⟩)
    exact (List.append_nil h).symm ▸ hs
  benchmark param :=
    Growth.along_watch fun o => ⟨rfl, rfl, fun h hs => (List.append_nil h).symm ▸ hs⟩
  notify p := Growth.along_watch fun o => ⟨rfl, rfl, fun h hs => (List.append_nil h).symm ▸ hs⟩

/-- **A run is one more stretch of history**: it adds the uses among its events to `h`. -/
theorem Stands.run {w : SnapshotReplay × ρ} (hs : Stands script h w.1) (job : Job ρ) :
    Stands script (h ++ ((inUse.session job.config job.benchmark job.notify).eventsFrom w).filterMap
      Event.exchange?) (run job w).2.1 :=
  (Growth.run_eq (related_growth script job) w).2.2 h hs

/-- `SnapshotReplay.run job` from a state that `Stands` behind `h` leaves one that stands behind
`h ++ more`.  If the result is a recording, `more` marks `job.config.iterations` first sides. -/
theorem Stands.exists_run {w : SnapshotReplay × ρ} (hs : Stands script h w.1) {job : Job ρ}
    (hok : ∃ v, (SnapshotReplay.run job w).1.result = .ok v) :
    ∃ more, Stands script (h ++ more) (SnapshotReplay.run job w).2.1 ∧
      History.firstMarks more = job.config.iterations := by
  obtain ⟨answers, -, -, -, htrace, houtcome⟩ := (inUse.session job.config job.benchmark
    job.notify).follows_arbitrary.exists_answers (w := w) trivial
  obtain ⟨⟨layout, r⟩, hr⟩ := hok
  obtain ⟨hbegun, hturns, hended, -⟩ :=
    Answers.result_eq_ok.1 ((congrArg Outcome.result houtcome).symm.trans hr)
  refine ⟨_, hs.run job, ?_⟩
  rw [History.firstMarks_exchanges, htrace]
  exact Answers.countP_isFirstMark hbegun hturns hended

/-- **Jobs move a script on by their iterations**: if all `jobs` give a recording, what they add to
`h` marks as many first sides as they have iterations together. -/
theorem Stands.jobs {jobs : List (Job ρ)} {w w' : SnapshotReplay × ρ}
    (hjobs : Succeed jobs w w') (hs : Stands script h w.1) :
    ∃ more, Stands script (h ++ more) w'.1 ∧
      History.firstMarks more = (jobs.map (·.config.iterations)).sum := by
  -- The history is generalised: the other jobs begin behind that of the first one.
  induction hjobs generalizing h with
  | nil w => exact ⟨[], (List.append_nil h).symm ▸ hs, rfl⟩
  | cons first others ih =>
    obtain ⟨stretch, hstands, hstretch⟩ := hs.exists_run first
    obtain ⟨more, hstands', hmore⟩ := ih hstands
    refine ⟨stretch ++ more, ?_, ?_⟩
    · rw [← List.append_assoc]
      exact hstands'
    · rw [History.firstMarks_append, hstretch, hmore, List.map_cons, List.sum_cons]

end SnapshotReplay

/-! ### What a run reads -/

/-- An entry of a script has both readings of a row, and their delta is `d`. -/
def SnapshotScript.Yields (script : SnapshotScript) (i : Nat) (key : RowKey) (d : Double) : Prop :=
  ∃ start stop, script.value? i .before (key.2.getD 0) key.1 = some start ∧
    script.value? i .after (key.2.getD 0) key.1 = some stop ∧
    (Sample.mk key.1 key.2 start stop).delta = .ok d

/-- The values are the deltas of a row, one for each of `n` entries from the given one on. -/
abbrev SnapshotScript.Fills (script : SnapshotScript) (entry n : Nat) (key : RowKey)
    (values : List Double) : Prop :=
  Filled (fun i => script.Yields (entry + i) key) n values

namespace SnapshotReplay

variable {script : SnapshotScript} {h : History} {entry : Nat}

/-- A script announces a layout if and only if it does not refuse to begin, and it is that of its
cores. -/
theorem announces {w : SnapshotReplay × ρ} {layout : Layout} :
    ((Backend.snapshot inUse).init w).1 = .ok layout ↔
      w.1.script.refusesInit = false ∧ layout = .multiCore w.1.script.cores := by
  obtain ⟨t, r⟩ := w
  have hinit : inUse.init (t, r) = ((init t).1, (init t).2, r) := rfl
  rw [Snapshot.Keeps.init_apply, hinit]
  unfold init
  cases t.script.refusesInit with
  | true =>
    constructor
    · intro h
      cases h
    · rintro ⟨h, -⟩
      cases h
  | false => exact ⟨fun h => ⟨rfl, (Except.ok.inj h).symm⟩, fun h => congrArg Except.ok h.2.symm⟩

section Turns

variable {i : Nat} {t : Turn}

/-- An allowed turn gives `d` for a row if and only if entry `entry + i` yields it. -/
theorem gives_iff (ht : (conduct script entry : Conduct (SnapshotReplay × ρ)).Allows i t)
    (hlt : entry + i < script.wallclock.length) {key : RowKey}
    (hkey : key ∈ (Layout.multiCore script.cores).rowKeys) {d : Double} :
    t.Gives .snapshot key d ↔ script.Yields (entry + i) key d := by
  have hread : ∀ slot r, t.taken .snapshot slot key = .ok r ↔
      script.value? (entry + i) slot (key.2.getD 0) key.1 = some r := by
    intro slot r
    obtain ⟨r', hr', hvalue⟩ := ht.reading slot key hlt (Layout.inRange_of_mem hkey)
    have htaken : t.taken .snapshot slot key = t.reading slot key := rfl
    rw [htaken, hr', hvalue]
    exact ⟨fun h => congrArg some (Except.ok.inj h), fun h => congrArg _ (Option.some.inj h)⟩
  simp only [Turn.Gives, SnapshotScript.Yields, hread]

/-- If an allowed turn `i` succeeds, the clock has entry `entry + i`. -/
theorem lt_of_succeeds (ht : (conduct script entry : Conduct (SnapshotReplay × ρ)).Allows i t)
    {layout : Layout} (hsucceeds : t.Succeeds .snapshot layout) :
    entry + i < script.wallclock.length := by
  have hnone := hsucceeds.calls .before _ (List.mem_singleton_self _)
  have hmark : (t.side .before).mark = script.marked (entry + i) .before := ht.side .before
  by_contra hge
  rw [hmark, SnapshotScript.marked, if_neg hge] at hnone
  cases hnone

/-- **An iteration goes well** if and only if its entry yields a delta for every row. -/
theorem succeeds_iff (ht : (conduct script entry : Conduct (SnapshotReplay × ρ)).Allows i t) :
    t.Succeeds .snapshot (.multiCore script.cores) ↔
      ∀ key ∈ (Layout.multiCore script.cores).rowKeys, ∃ d, script.Yields (entry + i) key d := by
  constructor
  · intro hsucceeds key hkey
    obtain ⟨d, hd⟩ := hsucceeds.rows key hkey
    exact ⟨d, (gives_iff ht (lt_of_succeeds ht hsucceeds) hkey).1 hd⟩
  · intro hyields
    -- There is a row of the clock, so the clock has the entry.
    have hlt : entry + i < script.wallclock.length := by
      obtain ⟨d, start, stop, hstart, -⟩ := hyields (.wallclock, none) (List.mem_cons_self ..)
      obtain ⟨pair, hpair, -⟩ := Option.map_eq_some_iff.1 hstart
      exact (List.getElem?_eq_some_iff.1 hpair).1
    refine ⟨calls_of_allows ht hlt, fun key hkey => ?_⟩
    obtain ⟨d, hd⟩ := hyields key hkey
    exact ⟨d, (gives_iff ht hlt hkey).2 hd⟩

end Turns

/-- **A run gives a recording** if and only if it can begin and every entry that it comes to yields
a delta for every row, and then the recording holds these. -/
theorem Stands.result_of_run {w : SnapshotReplay × ρ} (hs : Stands script h w.1) (job : Job ρ) :
    ((∃ v, (SnapshotReplay.run job w).1.result = .ok v) ↔ script.refusesInit = false ∧
      ∀ i < job.config.iterations, ∀ key ∈ (Layout.multiCore script.cores).rowKeys,
        ∃ d, script.Yields (h.firstMarks + i) key d) ∧
    ∀ layout r, (SnapshotReplay.run job w).1.result = .ok ⟨layout, r⟩ →
      layout = .multiCore script.cores ∧ ∀ row : Fin layout.rowCount,
        script.Fills h.firstMarks job.config.iterations (layout.rowKey row) (r.values row) := by
  obtain ⟨answers, hbegun, hturns, hended, -, houtcome⟩ :=
    (follows_conduct script h.firstMarks job.config job.benchmark job.notify).exists_answers
      (w := w) ⟨hs.script, hs.upcoming⟩
  -- The run is that of some table of answers, so it is decided iteration by iteration.
  have hlayout : ∀ layout, answers.begun .snapshot = .ok layout ↔
      script.refusesInit = false ∧ layout = .multiCore script.cores := by
    intro layout
    rw [← hs.script, ← announces (w := w)]
    exact Eq.congr_left hbegun
  have hresult : (SnapshotReplay.run job w).1.result =
      (answers.outcome .snapshot job.config).result :=
    congrArg Outcome.result houtcome
  rw [hresult]
  refine ⟨⟨?_, ?_⟩, ?_⟩
  · rintro ⟨⟨layout, r⟩, hr⟩
    obtain ⟨hbegun', hsucceeds, -, -⟩ := Answers.result_eq_ok.1 hr
    obtain ⟨hrefuses, rfl⟩ := (hlayout layout).1 hbegun'
    exact ⟨hrefuses, fun i hi => (succeeds_iff (hturns i hi)).1 (hsucceeds i hi)⟩
  · rintro ⟨hrefuses, hyields⟩
    exact ⟨_, Answers.result_eq_ok.2 ⟨(hlayout _).2 ⟨hrefuses, rfl⟩,
      fun i hi => (succeeds_iff (hturns i hi)).2 (hyields i hi), hended, rfl⟩⟩
  · intro layout r hr
    obtain ⟨hbegun', hsucceeds, -, rfl⟩ := Answers.result_eq_ok.1 hr
    obtain ⟨-, rfl⟩ := (hlayout layout).1 hbegun'
    refine ⟨rfl, fun row => (Answers.fills_values hsucceeds row).imp fun i hi d => ?_⟩
    exact (gives_iff (hturns i hi) (lt_of_succeeds (hturns i hi) (hsucceeds i hi))
      (Layout.rowKey_mem _ row)).1

/-! ### The order of the entries -/

/-- Iteration `i` is at hand if and only if `i + 1` is the next one. -/
theorem current_eq_some_iff {t : SnapshotReplay} {i : Fin t.script.wallclock.length} :
    t.current = some i ↔ i.val + 1 = t.upcoming := by
  unfold upcoming
  cases t.current with
  | none => simp
  | some j => simp [Fin.ext_iff, eq_comm]

/-- A mark that is refused leaves the script as it is. -/
theorem mark_eq_of_error {t : SnapshotReplay} {slot : Slot} {e : BackendError}
    (herror : (mark slot t).1 = .error e) : (mark slot t).2 = t := by
  cases hinit : t.initialised with
  | false => rw [mark_of_not_initialised hinit]
  | true =>
    rw [mark_of_initialised hinit] at herror ⊢
    cases slot with
    | after => rfl
    | before =>
      dsimp only at herror ⊢
      split at herror
      next => cases herror
      next hge => rw [dif_neg hge]

/-- **A script is read out in its order.**  After any uses of a fresh one,

* the iteration at hand is one less than the number of first sides that were marked, whatever was
  begun and shut down in between, and this number never exceeds the entries of the clock;
* when it has reached them, marking another first side is refused, and a mark that is refused
  changes nothing;
* every reading that is handed out is what the script holds for the iteration at hand.

If jobs are done from there, one after the other, that all give a recording, then the next job
begins at the entry behind theirs.  It gives a recording just if the script does not refuse to begin
and holds valid deltas for all of its iterations, and then cell `i` of every row is the delta of the
entry `i` behind that one. -/
theorem script_in_order (script : SnapshotScript) (us : List Use) :
    let h := snapshot.history us { script }
    let t := (snapshot.serveAll us { script }).2
    (∀ i, t.current = some i ↔ i.val + 1 = h.firstMarks) ∧
    h.firstMarks ≤ script.wallclock.length ∧
    (t.initialised = true → h.firstMarks = script.wallclock.length →
      snapshot.mark .before t = (.error (.exhausted script.wallclock.length), t)) ∧
    (∀ slot e, (snapshot.mark slot t).1 = .error e → (snapshot.mark slot t).2 = t) ∧
    (∀ slot core m r, (snapshot.reading slot core m t).1 = .ok r →
      0 < h.firstMarks ∧ script.value? (h.firstMarks - 1) slot core m = some r) ∧
    ∀ {ρ : Type} (jobs : List (Job ρ)) (job : Job ρ) (v : ρ) (w : SnapshotReplay × ρ),
      Succeed jobs (t, v) w →
      let entry := h.firstMarks + (jobs.map (·.config.iterations)).sum
      ((∃ x, (run job w).1.result = .ok x) ↔ script.refusesInit = false ∧
        ∀ i < job.config.iterations, ∀ key ∈ (Layout.multiCore script.cores).rowKeys,
          ∃ d, script.Yields (entry + i) key d) ∧
      ∀ layout r, (run job w).1.result = .ok ⟨layout, r⟩ →
        layout = .multiCore script.cores ∧ ∀ row : Fin layout.rowCount,
          script.Fills entry job.config.iterations (layout.rowKey row) (r.values row) := by
  intro h t
  have hs : Stands script h t := (stands_fresh script).serveAll us
  refine ⟨fun i => ?_, ?_, fun hinit hall => ?_, fun slot e => mark_eq_of_error,
    fun slot core m r hr => ?_, fun jobs job v w hjobs => ?_⟩
  · rw [current_eq_some_iff, hs.upcoming]
  · rw [← hs.upcoming, ← hs.script]
    exact t.upcoming_le
  · obtain ⟨hanswer, -⟩ := mark_before hinit
    rw [hs.upcoming, hs.script, hall, SnapshotScript.marked, if_neg (Nat.lt_irrefl _)] at hanswer
    exact Prod.ext hanswer (mark_eq_of_error hanswer)
  · have hlook : t.look slot core m = .ok r := hr
    cases hcurrent : t.current with
    | none =>
      rw [look, hcurrent] at hlook
      cases hlook
    | some i =>
      have hi : i.val + 1 = h.firstMarks := hs.upcoming ▸ current_eq_some_iff.1 hcurrent
      have hvalue := value?_of_look hcurrent hlook
      rw [← hi, Nat.add_sub_cancel]
      exact ⟨Nat.succ_pos _, hs.script ▸ hvalue⟩
  · obtain ⟨more, hstands, hmore⟩ := hs.jobs hjobs
    have hresult := hstands.result_of_run job
    rw [History.firstMarks_append, hmore] at hresult
    exact hresult

/-- A script of two entries, in which only the clock goes on. -/
def stepping : SnapshotScript where
  cores := 1
  wallclock := [(.ofNat 0, .ofNat 1), (.ofNat 1, .ofNat 3)]

theorem yields_stepping {i : Nat} (hi : i < 2) {key : RowKey}
    (hkey : key ∈ (Layout.multiCore 1).rowKeys) : ∃ d, stepping.Yields i key d := by
  have hkeys : (Layout.multiCore 1).rowKeys = [(.wallclock, none), (.coreCycles, some 0),
    (.aperf, some 0), (.mperf, some 0)] := rfl
  have hcounter : ∀ m core, m ≠ .wallclock → ∃ d, stepping.Yields i (m, core) d := by
    intro m core hm
    refine ⟨.zero, .count 0, .count 0, ?_⟩
    cases m with
    | wallclock => exact absurd rfl hm
    | _ => exact ⟨rfl, rfl, rfl⟩
  rw [hkeys] at hkey
  simp only [List.mem_cons, List.not_mem_nil, or_false] at hkey
  rcases hkey with rfl | rfl | rfl | rfl
  · rcases Nat.le_one_iff_eq_zero_or_eq_one.1 (Nat.le_of_lt_succ hi) with rfl | rfl
    · exact ⟨.ofNat 1, _, _, rfl, rfl, by decide +kernel⟩
    · exact ⟨.ofNat 2, _, _, rfl, rfl, by decide +kernel⟩
  all_goals exact hcounter _ _ (by decide)

/-- The same job is done twice with `stepping`, and the second time it reads the second entry. -/
theorem script_in_order_twice :
    let job : Job Unit := ⟨{ iterations := 1 }, fun _ => pure (), fun _ => pure ()⟩
    ∃ w, Succeed [job] ({ script := stepping }, ()) w ∧
      ∃ layout r, (run job w).1.result = .ok ⟨layout, r⟩ ∧ ∀ row : Fin layout.rowCount,
        stepping.Fills 1 1 (layout.rowKey row) (r.values row) := by
  intro job
  let start : SnapshotReplay × Unit := ({ script := stepping }, ())
  obtain ⟨-, -, -, -, -, hjobs⟩ := script_in_order stepping []
  have hfirst : Succeed [job] start (run job start).2 := by
    refine .cons ?_ (.nil _)
    refine (hjobs [] job () start (.nil start)).1.2 ⟨rfl, fun i hi key hkey => ?_⟩
    exact yields_stepping (Nat.lt_of_lt_of_le (Nat.add_lt_add_left hi 0) (by decide)) hkey
  obtain ⟨hgives, hholds⟩ := hjobs [job] job () _ hfirst
  obtain ⟨⟨layout, r⟩, hr⟩ := hgives.2 ⟨rfl, fun i hi key hkey => yields_stepping
    (Nat.add_lt_add_left hi 1) hkey⟩
  exact ⟨_, hfirst, layout, r, hr, (hholds layout r hr).2⟩

end SnapshotReplay

end Stopwatch
