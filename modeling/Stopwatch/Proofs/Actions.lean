import Stopwatch.Execution
import Stopwatch.Proofs.Protocol
import Stopwatch.Proofs.Reporting
import Stopwatch.Proofs.Sending

/-!
# The actions of an execution

An `Action` is one thing that an execution asks of its parties, with the answer: to resolve the
benchmark, to open the backend, a call of these two during the run, an exchange with the output.
`Execution.noted` is an execution whose actions are noted beside the state, down to the calls of the
parties that it opens.  What goes to the channels of the reporters is left out (`related_quiet`).

A noted run is the run of the execution, and its notes are the calls among the events of that run
(`Execution.run_session_noted`).  How the benchmark was called in it is known when it has a result
(`Session.complete_of_result`).
-/

namespace Stopwatch

/-! ### Noting what an execution does -/

/-- What an execution asks of its parties, with the answer. -/
inductive Action
  | resolve (name : String) (answer : Except BenchmarkError Unit)
  | openBackend (config : Config) (answer : Except BackendError Unit)
  /-- A call of the backend or of the benchmark. -/
  | call (e : Event)
  | output (x : Exchange)

variable {σ α : Type}

/-- Note the events of a watched computation as calls. -/
def notingCalls (y : StateM (Watched σ) α) : StateM (Noted σ Action) α := fun o =>
  ((y ⟨o.state, []⟩).1,
    ⟨(y ⟨o.state, []⟩).2.state, o.notes ++ (y ⟨o.state, []⟩).2.events.map .call⟩)

/-- A backend whose calls are noted. -/
def Backend.noted (b : Backend (StateM σ)) : Backend (StateM (Noted σ Action)) :=
  b.watched.change notingCalls

/-- A benchmark whose calls are noted. -/
def Benchmark.noted : Benchmark (StateM σ) → Benchmark (StateM (Noted σ Action))
  | registered e => registered
    ⟨e.name, e.modulePath, fun param => noting (fun _ => .call (.benchmark param)) (e.run param)⟩
  | dynamic path runIter =>
    dynamic path fun param => noting (fun _ => .call (.benchmark param)) (runIter param)

/-- Channels on which nothing is noted. -/
def Channels.quiet (ch : Channels (StateM σ)) : Channels (StateM (Noted σ Action)) where
  diagnostics := ch.diagnostics.change unnoted
  markers number := (ch.markers number).change unnoted
  warn text := unnoted (ch.warn text)
  log line := unnoted (ch.log line)
  panic message := unnoted (ch.panic message)

/-- An execution whose actions are noted, down to the calls of the parties that it opens. -/
def Execution.noted (x : Execution (StateM σ)) : Execution (StateM (Noted σ Action)) where
  resolve name := Except.map Benchmark.noted <$>
    noting (fun a => .resolve name (a.map fun _ => ())) (x.resolve name)
  openBackend config := ExceptT.mk (Except.map Backend.noted <$>
    noting (fun a => .openBackend config (a.map fun _ => ())) (x.openBackend config).run)
  channels := x.channels.quiet
  output := x.output.noted .output

/-! ### What is not noted -/

section Quiet

variable {m n : Type → Type} [Monad m] [Monad n] {R : MonadRelation m n} {ch : Channels m}
  {ch' : Channels n}

/-- Outlets, related operation by operation. -/
structure Outlets.Related (R : MonadRelation m n) (out : Outlets m) (out' : Outlets n) : Prop where
  diagnostics : Writer.Related R out.diagnostics out'.diagnostics
  markers : ∀ number, Writer.Related R (out.markers number) (out'.markers number)
  warn : ∀ text, R.rel (out.warn text) (out'.warn text)
  log : ∀ line, R.rel (out.log line) (out'.log line)

/-- Channels, related operation by operation. -/
structure Channels.Related (R : MonadRelation m n) (ch : Channels m) (ch' : Channels n) : Prop
    extends Outlets.Related R ch.toOutlets ch'.toOutlets where
  panic : ∀ message, R.rel (ch.panic message) (ch'.panic message)

theorem Writer.Related.mark {w : Writer m} {v : Writer n} (h : Writer.Related R w v)
    (iteration : Nat) : R.rel (Reporter.mark w iteration) (Reporter.mark v iteration) := by
  refine R.rel_bind (h.writePieces _) fun a => ?_
  cases a with
  | error e => exact R.rel_pure _
  | ok => exact h.flush

theorem Outlets.Related.writer (h : Outlets.Related R ch.toOutlets ch'.toOutlets) :
    ∀ target : MarkerTarget, Writer.Related R (target.writer ch) (target.writer ch')
  | .diagnostics => h.diagnostics
  | .markers number => h.markers number

/-- Marker lines are warned of and never printed, so nothing is asked here of how a panic is
related. -/
theorem Outlets.Related.notify_markers (h : Outlets.Related R ch.toOutlets ch'.toOutlets)
    (target : MarkerTarget) (p : Progress) :
    R.rel ((Reporter.markers target).notify ch p) ((Reporter.markers target).notify ch' p) := by
  cases p with
  | iterationEnd iteration =>
    refine R.rel_bind ((h.writer target).mark iteration) fun a => ?_
    cases a with
    | ok => exact R.rel_pure _
    | error e => exact h.warn _
  | runStart | iterationStart | runEnd => exact R.rel_pure _

theorem Channels.Related.print (h : Channels.Related R ch ch') (line : String) :
    R.rel (ch.print line) (ch'.print line) := by
  refine R.rel_bind (h.diagnostics.writePieces _) fun a => ?_
  cases a with
  | ok => exact R.rel_pure _
  | error e => exact h.panic _

mutual

/-- What a reporter does on related channels is related. -/
theorem Channels.Related.notify (h : Channels.Related R ch ch') : ∀ (r : Reporter) (p : Progress),
    R.rel (r.notify ch p) (r.notify ch' p)
  | .silent, _ => R.rel_pure _
  | .console _, p => by
    cases p with
    | iterationStart => exact h.print _
    | runStart | iterationEnd | runEnd => exact R.rel_pure _
  | .markers target, p => h.notify_markers target p
  | .log tag, p => by
    rw [Reporter.notify, Reporter.notify]
    exact h.log _
  | .all parts, p => by
    rw [Reporter.notify, Reporter.notify]
    exact h.notifyAll parts p

theorem Channels.Related.notifyAll (h : Channels.Related R ch ch') :
    ∀ (rs : List Reporter) (p : Progress),
    R.rel (Reporter.notifyAll ch rs p) (Reporter.notifyAll ch' rs p)
  | [], _ => R.rel_pure _
  | r :: rs, p => R.rel_bind (h.notify r p) fun _ => h.notifyAll rs p

end

end Quiet

/-- To do something without a note is to do it. -/
def quietly (σ : Type) : MonadRelation (StateM (Noted σ Action)) (StateM σ) where
  rel x y := x = unnoted y
  rel_pure _ := rfl
  rel_bind {α β x y f g} h hf := by
    funext o
    rw [h]
    exact congrFun (hf _) _

theorem related_quiet (ch : Channels (StateM σ)) : Channels.Related (quietly σ) ch.quiet ch :=
  ⟨⟨⟨fun _ => rfl, rfl⟩, fun _ => ⟨fun _ => rfl, rfl⟩, fun _ => rfl, fun _ => rfl⟩, fun _ => rfl⟩

/-- Warning of `texts` without a note leaves the notes as they are. -/
theorem forM_unnoted (f : String → StateM σ Unit) (texts : List String) (o : Noted σ Action) :
    (texts.forM fun text => unnoted (f text)) o =
      ((), ⟨(texts.forM f o.state).2, o.notes⟩) := by
  induction texts generalizing o with
  | nil => rfl
  | cons text texts ih => exact ih ⟨(f text o.state).2, o.notes⟩

/-! ### The calls of a run -/

/-- The notes grow by the calls among the events, and by nothing that listeners are told. -/
def notedAlong (σ : Type) : Growth (Noted σ Action) σ where
  inner o := o.state
  grew o es o' := o'.notes = o.notes ++ (callsOf es).map .call
  refl o := (List.append_nil _).symm
  trans := by
    intro o o' o'' es more hnotes hnotes'
    rw [hnotes', hnotes, callsOf_append, List.map_append, List.append_assoc]

/-- A call that is noted goes along with the same call when it is watched. -/
theorem notedAlong_call (event : α → Event) (hevent : ∀ a, (event a).progress? = none)
    (x : StateM σ α) : (notedAlong σ).along.rel (notingCalls (watch event x)) (watch event x) := by
  refine Growth.along_watch fun o => ⟨rfl, rfl, ?_⟩
  have hcalls : callsOf [event (x o.state).1] = [event (x o.state).1] := by simp [callsOf, hevent]
  show o.notes ++ _ = o.notes ++ (callsOf [event (x o.state).1]).map .call
  rw [hcalls]
  rfl

/-- What is looked up goes along with the same when it is not watched. -/
theorem notedAlong_look (x : StateM σ α) :
    (notedAlong σ).along.rel (notingCalls (unwatched x)) (unwatched x) :=
  Growth.along_unwatched fun _ => ⟨rfl, rfl, rfl⟩

theorem notedAlong_backend (b : Backend (StateM σ)) :
    Backend.Related (notedAlong σ).along b.noted b.watched := by
  have hwithin : b.noted =
      b.within (fun event x => notingCalls (watch event x))
        (fun x => notingCalls (unwatched x)) := by
    cases b <;> rfl
  rw [hwithin, b.watched_eq_within]
  exact Backend.related_within notedAlong_call notedAlong_look b

theorem notedAlong_benchmark (b : Benchmark (StateM σ)) (param : Int32) :
    (notedAlong σ).along.rel (b.noted.run param)
      (watch (fun _ => .benchmark param) (b.run param)) := by
  cases b <;> exact Growth.along_watch fun _ => ⟨rfl, rfl, rfl⟩

theorem notedAlong_progress (p : Progress) (x : StateM σ Unit) :
    (notedAlong σ).along.rel (unnoted x) (watch (fun _ => .progress p) x) :=
  Growth.along_watch fun o => ⟨rfl, rfl, (List.append_nil o.notes).symm⟩

namespace Execution

variable (x : Execution (StateM σ)) (config : Config)

/-- **The run of an execution is noted**: it has the same outcome and leaves the same state, and its
notes are the calls among its events. -/
theorem run_session_noted (benchmark : Benchmark (StateM σ)) (backend : Backend (StateM σ))
    (o : Noted σ Action) :
    let s := x.session config benchmark backend
    let s' := x.noted.session config benchmark.noted backend.noted
    (s'.run o).1 = (s.run o.state).1 ∧ (s'.run o).2.state = (s.run o.state).2 ∧
      (s'.run o).2.notes = o.notes ++ (callsOf (s.eventsFrom o.state)).map .call := by
  intro s s'
  have hnotify : ∀ p, (notedAlong σ).along.rel (s'.notify p) (s.watched.notify p) := by
    intro p
    -- The reporters of the noted execution write to channels on which nothing is noted.
    have hquiet : s'.notify p = unnoted (s.notify p) :=
      (related_quiet x.channels).notify (.ofConfig config) p
    rw [hquiet]
    exact notedAlong_progress p (s.notify p)
  have hrelated : Session.Related (notedAlong σ).along s' s.watched :=
    ⟨rfl, notedAlong_backend backend, notedAlong_benchmark benchmark, hnotify⟩
  exact Growth.run_eq hrelated o

end Execution

/-! ### A completed run -/

/-- All calls of the benchmark among `es` are in `callsOf es`. -/
theorem filter_isBenchmark_callsOf (es : List Event) :
    (callsOf es).filter Event.isBenchmark = es.filter Event.isBenchmark := by
  rw [callsOf, List.filter_filter]
  refine List.filter_congr fun e _ => ?_
  cases e <;> rfl

/-- If all of `es` are calls of the backend, none is a call of the benchmark. -/
theorem filter_isBenchmark_calls {es : List Event} (h : ∀ e ∈ es, e.isCall) :
    es.filter Event.isBenchmark = [] := by
  rw [List.filter_eq_nil_iff]
  intro e he
  rw [Event.isBenchmark_of_isCall (h e he)]
  exact Bool.false_ne_true

/-- In a whole iteration the benchmark is called once, with the parameter `c.param`. -/
theorem Turn.filter_isBenchmark_events (t : Turn) (k : Kind) (c : Config) (layout : Layout)
    (i : Nat) : (t.events k c layout i).filter Event.isBenchmark = [.benchmark c.param] := by
  have hinner : (eventsOf (t.inner k c layout)).filter Event.isBenchmark =
      [.benchmark c.param] := by
    rw [inner, eventsOf_append, eventsOf_cons, eventsOf_calls, List.filter_append,
      filter_isBenchmark_calls (t.before.isCall_calls k .before), List.filter_cons_of_pos rfl,
      filter_isBenchmark_calls (t.isCall_behind k layout), List.nil_append]
  rw [← eventsOf_items, items_eq, eventsOf_cons, eventsOf_append,
    List.filter_cons_of_neg Bool.false_ne_true,
    List.filter_append, hinner]
  rfl

/-- **A run with a result is complete**, and has called the benchmark with its parameter once in
each iteration. -/
theorem Session.complete_of_result (s : Session (StateM σ)) {w : σ} {layout : Layout}
    {r : Recording layout s.total} (h : (s.run w).1.result = .ok ⟨layout, r⟩) :
    r.isComplete = true ∧
    (s.eventsFrom w).filter Event.isBenchmark =
      List.replicate s.total (.benchmark s.config.param) := by
  obtain ⟨answers, -, -, -, htrace, houtcome⟩ :=
    s.follows_arbitrary.exists_answers (w := w) trivial
  rw [houtcome] at h
  obtain ⟨hbegun, hturns, hended, rfl⟩ := Answers.result_eq_ok.1 h
  refine ⟨Answers.isComplete_recording _ _, ?_⟩
  -- The calls of all iterations are counted by an induction on their number.
  have hrange : ∀ n, ((List.range n).flatMap fun i =>
      ((answers.turn i).events s.backend.kind s.config layout i).filter Event.isBenchmark) =
        List.replicate n (.benchmark s.config.param) := by
    intro n
    simp only [Turn.filter_isBenchmark_events]
    induction n with
    | zero => rfl
    | succ n ih =>
      rw [List.range_succ, List.flatMap_append, List.flatMap_singleton, ih, List.replicate_succ']
  rw [htrace, Answers.trace_of_succeeds hbegun hturns, hended, Answers.opening, Answers.closing,
    List.filter_append, filter_isBenchmark_calls (s.backend.kind.isCall_opening _),
    List.filter_cons_of_neg Bool.false_ne_true, List.filter_append, List.filter_flatMap, hrange,
    List.filter_append, filter_isBenchmark_calls (s.backend.kind.isCall_closing _)]
  exact List.append_nil _

end Stopwatch
