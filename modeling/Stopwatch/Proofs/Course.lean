import Stopwatch.Proofs.Actions
import Stopwatch.Proofs.RoundTrip

/-!
# The course of an execution

`Execution.Course` says which actions of an execution lead to which result.  Each stage adds its
actions to those of the stages before it, which went well, and a stage that fails is the last one.
Every execution takes one of these courses, and to note its actions has no influence
(`Execution.course_noted`).  This is put together from the run, which was compared with the watched
run before, and from what is done with its result (`Execution.settle_noted`).

What the courses have in common is `Execution.run_in_stages`: the order of the stages, that none is
entered after a failure, and that an output that is touched at all is given a complete recording.
-/

namespace Stopwatch

variable {σ α : Type}

/-! ### Behind the run -/

/-- The shape that results are given out in: the one asked for, or else the natural one. -/
def Config.shapeFor (config : Config) (layout : Layout) : Shape :=
  config.shape.getD (.natural layout)

/-- The result of a run of `n` iterations. -/
abbrev RunResult (n : Nat) := Except RunError ((layout : Layout) × Recording layout n)

/-- How an execution goes on with the result of a run: by exchanges with the output, and to a result
of its own. -/
inductive RunResult.Settles (config : Config) {n : Nat} (result : RunResult n) :
    List Exchange → Except Failure Unit → Prop
  /-- The run was broken off. -/
  | aborted {e : RunError} (h : result = .error e) : Settles config result [] (.error (.run e))
  /-- The recording has no place in the shape. -/
  | unfit {layout : Layout} {r : Recording layout n} {reason : String}
    (h : result = .ok ⟨layout, r⟩)
    (hfits : ¬ (config.shapeFor layout).Fits layout) :
    Settles config result []
      (.error (.output (.unrepresentable (config.shapeFor layout).name reason)))
  /-- The recording is given out, as far as the output takes it. -/
  | delivered {layout : Layout} {r : Recording layout n} {text : String} {xs : List Exchange}
    {a : Except OutputError Unit} (h : result = .ok ⟨layout, r⟩)
    (hrender : r.render (config.shapeFor layout) = .ok text)
    (hdelivers : Recording.Delivers text xs a) : Settles config result xs (a.mapError .output)

/-- If no shape is asked for, a result that is a recording settles into a failure `f` only by a
refusal of the output, which is the last exchange. -/
theorem RunResult.Settles.refused {config : Config} {n : Nat} {layout : Layout}
    {r : Recording layout n} {xs : List Exchange} {f : Failure}
    (h : RunResult.Settles config (.ok ⟨layout, r⟩) xs (.error f)) (hshape : config.shape = none) :
    ∃ e done last, (f = .output (.document e) ∨ f = .output (.closing e)) ∧
      xs = done ++ [last] ∧ last.refusal? = some e := by
  generalize ha : (Except.error f : Except Failure Unit) = a at h
  cases h with
  | aborted hresult => cases hresult
  -- Every layout fits in its natural shape.
  | @unfit layout' r' reason hresult hfits =>
    have hnatural : config.shapeFor layout' = .natural layout' := by
      rw [Config.shapeFor, hshape, Option.getD_none]
    exact absurd (hnatural ▸ Shape.fits_natural layout') hfits
  | delivered _ _ hdelivers =>
    cases hdelivers with
    | all => cases ha
    | refused hsends herror =>
      cases ha
      obtain ⟨done, last, hxs, hlast⟩ := hsends.exists_last
      exact ⟨_, done, last, herror.imp (congrArg _) (congrArg _), hxs, hlast⟩

namespace Execution

section

variable {m : Type → Type} [Monad m]

/-- What an execution does with the result of a run. -/
def settle (x : Execution m) (config : Config) {n : Nat} : RunResult n → m (Except Failure Unit)
  | .error e => pure (.error (.run e))
  | .ok ⟨_, r⟩ => x.deliver config r

/-- What an execution does once its parties are open. -/
def measure (x : Execution m) (config : Config) (benchmark : Benchmark m) (backend : Backend m) :
    m (Except Failure Unit) := do
  let outcome ← (x.session config benchmark backend).run
  outcome.warnings.forM x.channels.warn
  x.settle config outcome.result

end

variable (x : Execution (StateM σ)) (config : Config)

theorem deliver_apply {layout : Layout} {n : Nat} (r : Recording layout n) (w : σ) :
    x.deliver config r w =
      ((r.writeTo (config.shapeFor layout) x.output .compact w).1.mapError .output,
        (r.writeTo (config.shapeFor layout) x.output .compact w).2) := by
  have hshape : config.shapeFor layout = config.shape.getD (.natural layout) := rfl
  rw [hshape]
  refine (bind_of_answer rfl).trans ?_
  cases (r.writeTo (config.shape.getD (.natural layout)) x.output .compact w).1 <;> rfl

/-- **The result of a run is settled** by exchanges with the output, which are noted. -/
theorem settle_noted {n : Nat} (result : RunResult n) (o : Noted σ Action) :
    (x.noted.settle config result o).1 = (x.settle config result o.state).1 ∧
    (x.noted.settle config result o).2.state = (x.settle config result o.state).2 ∧
    ∃ xs : List Exchange, (x.noted.settle config result o).2.notes = o.notes ++ xs.map .output ∧
      result.Settles config xs (x.noted.settle config result o).1 := by
  cases result with
  | error e => exact ⟨rfl, rfl, [], (List.append_nil _).symm, .aborted rfl⟩
  | ok results =>
    obtain ⟨layout, r⟩ := results
    have houtput : x.noted.output = x.output.noted .output := rfl
    obtain ⟨hanswer, hstate⟩ :=
      (related_noted .output x.output).writeTo r (config.shapeFor layout) .compact o
    show (x.noted.deliver config r o).1 = (x.deliver config r o.state).1 ∧
      (x.noted.deliver config r o).2.state = (x.deliver config r o.state).2 ∧
      ∃ xs : List Exchange, (x.noted.deliver config r o).2.notes = o.notes ++ xs.map .output ∧
        RunResult.Settles config (.ok ⟨layout, r⟩) xs (x.noted.deliver config r o).1
    rw [deliver_apply, deliver_apply, houtput]
    refine ⟨congrArg (Except.mapError Failure.output) hanswer, hstate, ?_⟩
    by_cases hfits : (config.shapeFor layout).Fits layout
    · obtain ⟨text, hrender⟩ := r.exists_render_of_fits hfits .compact
      obtain ⟨xs, hxs, hdelivers⟩ := r.notes_writeTo x.output (config.shapeFor layout) hrender o
      exact ⟨xs, hxs, .delivered rfl hrender hdelivers⟩
    · obtain ⟨reason, hrender⟩ := r.render_of_not_fits hfits .compact
      rw [r.writeTo_of_error _ _ hrender]
      exact ⟨[], (List.append_nil _).symm, .unfit rfl hfits⟩

/-- **Once the parties are open**, an execution makes the calls of its run and then settles the
result. -/
theorem measure_noted (benchmark : Benchmark (StateM σ)) (backend : Backend (StateM σ))
    (o : Noted σ Action) :
    (x.noted.measure config benchmark.noted backend.noted o).1 =
      (x.measure config benchmark backend o.state).1 ∧
    (x.noted.measure config benchmark.noted backend.noted o).2.state =
      (x.measure config benchmark backend o.state).2 ∧
    ∃ xs : List Exchange, (x.noted.measure config benchmark.noted backend.noted o).2.notes =
      o.notes ++ ((callsOf ((x.session config benchmark backend).eventsFrom o.state)).map .call ++
        xs.map .output) ∧
      RunResult.Settles config ((x.session config benchmark backend).run o.state).1.result xs
        (x.noted.measure config benchmark.noted backend.noted o).1 := by
  obtain ⟨houtcome, hstate, hnotes⟩ := x.run_session_noted config benchmark backend o
  -- The notes and the state in which the result is settled, the warnings being passed on.
  let o' : Noted σ Action :=
    ⟨(((x.session config benchmark backend).run o.state).1.warnings.forM x.channels.warn
        ((x.session config benchmark backend).run o.state).2).2,
      o.notes ++ (callsOf ((x.session config benchmark backend).eventsFrom o.state)).map .call⟩
  have hmeasure : x.noted.measure config benchmark.noted backend.noted o =
      x.noted.settle config ((x.session config benchmark backend).run o.state).1.result o' := by
    show x.noted.settle config
      ((x.noted.session config benchmark.noted backend.noted).run o).1.result
      (((x.noted.session config benchmark.noted backend.noted).run o).1.warnings.forM
        (fun text => unnoted (x.channels.warn text))
        ((x.noted.session config benchmark.noted backend.noted).run o).2).2 = _
    rw [forM_unnoted, houtcome, hstate, hnotes]
    rfl
  obtain ⟨hanswer, hleft, xs, hxs, hsettles⟩ :=
    x.settle_noted config ((x.session config benchmark backend).run o.state).1.result o'
  rw [hmeasure]
  exact ⟨hanswer, hleft, xs, by rw [hxs, List.append_assoc], hsettles⟩

/-! ### All stages -/

/-- The configuration is valid, and both parties open; this is the state in which the run begins. -/
structure Opens (w : σ) (benchmark : Benchmark (StateM σ)) (backend : Backend (StateM σ))
    (w₂ : σ) : Prop where
  valid : config.validate = .ok ()
  opened : ∃ w₁, x.resolve config.benchmark w = (.ok benchmark, w₁) ∧
    (x.openBackend config).run w₁ = (.ok backend, w₂)

/-- The run is reached and gives this recording. -/
def Completes (w : σ) (layout : Layout) (r : Recording layout config.iterations) : Prop :=
  ∃ benchmark backend w₂, x.Opens config w benchmark backend w₂ ∧
    ((x.session config benchmark backend).run w₂).1.result = .ok ⟨layout, r⟩

/-- The courses that an execution can take from a state: what it does, and its result.  It is
stopped by the first stage that fails, and has done no more than this stage and those before it. -/
inductive Course (w : σ) : List Action → Except Failure Unit → Prop
  | invalid {e : ConfigError} (h : config.validate = .error e) :
    Course w [] (.error (.config e))
  | unresolved {e : BenchmarkError} {w₁ : σ} (hvalid : config.validate = .ok ())
    (hresolve : x.resolve config.benchmark w = (.error e, w₁)) :
    Course w [.resolve config.benchmark (.error e)] (.error (.benchmark config.benchmark e))
  | unopened {benchmark : Benchmark (StateM σ)} {e : BackendError} {w₁ w₂ : σ}
    (hvalid : config.validate = .ok ())
    (hresolve : x.resolve config.benchmark w = (.ok benchmark, w₁))
    (hopen : (x.openBackend config).run w₁ = (.error e, w₂)) :
    Course w [.resolve config.benchmark (.ok ()), .openBackend config (.error e)]
      (.error (.backend config.backend e))
  | measured {benchmark : Benchmark (StateM σ)} {backend : Backend (StateM σ)} {w₂ : σ}
    {xs : List Exchange} {a : Except Failure Unit} (h : x.Opens config w benchmark backend w₂)
    (hsettles :
      RunResult.Settles config ((x.session config benchmark backend).run w₂).1.result xs a) :
    Course w ([.resolve config.benchmark (.ok ()), .openBackend config (.ok ())] ++
      ((callsOf ((x.session config benchmark backend).eventsFrom w₂)).map .call ++
        xs.map .output)) a

section Stop

variable {x config} {w w₁ w₂ : σ} (hvalid : config.validate = .ok ())
include hvalid

theorem run_of_unresolved {e : BenchmarkError}
    (hresolve : x.resolve config.benchmark w = (.error e, w₁)) :
    x.run config w = (.error (.benchmark config.benchmark e), w₁) := by
  simp only [run, hvalid]
  exact bind_of_eq hresolve

theorem run_of_unopened {benchmark : Benchmark (StateM σ)} {e : BackendError}
    (hresolve : x.resolve config.benchmark w = (.ok benchmark, w₁))
    (hopen : (x.openBackend config).run w₁ = (.error e, w₂)) :
    x.run config w = (.error (.backend config.backend e), w₂) := by
  simp only [run, hvalid]
  exact (bind_of_eq hresolve).trans (bind_of_eq hopen)

/-- If both parties open, `run` is `measure` on the state that the opening leaves. -/
theorem run_of_opened {benchmark : Benchmark (StateM σ)} {backend : Backend (StateM σ)}
    (hresolve : x.resolve config.benchmark w = (.ok benchmark, w₁))
    (hopen : (x.openBackend config).run w₁ = (.ok backend, w₂)) :
    x.run config w = x.measure config benchmark backend w₂ := by
  simp only [run, hvalid]
  refine (bind_of_eq hresolve).trans ((bind_of_eq hopen).trans ?_)
  refine congrFun (bind_congr fun outcome => bind_congr fun _ => ?_) w₂
  cases outcome.result <;> rfl

end Stop

theorem resolve_noted {name : String} {o : Noted σ Action} {w₁ : σ}
    {a : Except BenchmarkError (Benchmark (StateM σ))} (h : x.resolve name o.state = (a, w₁)) :
    x.noted.resolve name o =
      (a.map Benchmark.noted, ⟨w₁, o.notes ++ [.resolve name (a.map fun _ => ())]⟩) := by
  show ((x.resolve name o.state).1.map Benchmark.noted, (⟨(x.resolve name o.state).2,
    o.notes ++ [.resolve name ((x.resolve name o.state).1.map fun _ => ())]⟩ : Noted σ Action)) = _
  rw [h]

theorem openBackend_noted {o : Noted σ Action} {w₁ : σ}
    {a : Except BackendError (Backend (StateM σ))}
    (h : (x.openBackend config).run o.state = (a, w₁)) :
    (x.noted.openBackend config).run o =
      (a.map Backend.noted, ⟨w₁, o.notes ++ [.openBackend config (a.map fun _ => ())]⟩) := by
  show (((x.openBackend config).run o.state).1.map Backend.noted,
    (⟨((x.openBackend config).run o.state).2, o.notes ++
      [.openBackend config (((x.openBackend config).run o.state).1.map fun _ => ())]⟩ :
        Noted σ Action)) = _
  rw [h]

/-- **An execution takes one of its courses**, and to note what it does has no influence. -/
theorem course_noted (w : σ) :
    (x.noted.run config ⟨w, []⟩).1 = (x.run config w).1 ∧
    (x.noted.run config ⟨w, []⟩).2.state = (x.run config w).2 ∧
    x.Course config w (x.noted.run config ⟨w, []⟩).2.notes (x.noted.run config ⟨w, []⟩).1 := by
  cases hvalid : config.validate with
  | error e =>
    simp only [run, hvalid]
    exact ⟨rfl, rfl, .invalid hvalid⟩
  | ok =>
    rcases hresolve : x.resolve config.benchmark w with ⟨e | benchmark, w₁⟩
    · have hresolve' := x.resolve_noted (o := ⟨w, []⟩) hresolve
      rw [run_of_unresolved hvalid hresolve, run_of_unresolved hvalid hresolve']
      exact ⟨rfl, rfl, .unresolved hvalid hresolve⟩
    have hresolve' := x.resolve_noted (o := ⟨w, []⟩) hresolve
    rcases hopen : (x.openBackend config).run w₁ with ⟨e | backend, w₂⟩
    · have hopen' := x.openBackend_noted config
        (o := ⟨w₁, [.resolve config.benchmark (.ok ())]⟩) hopen
      rw [run_of_unopened hvalid hresolve hopen, run_of_unopened hvalid hresolve' hopen']
      exact ⟨rfl, rfl, .unopened hvalid hresolve hopen⟩
    · -- The run begins with the notes of the two openings.
      have hopen' := x.openBackend_noted config
        (o := ⟨w₁, [.resolve config.benchmark (.ok ())]⟩) hopen
      rw [run_of_opened hvalid hresolve hopen, run_of_opened hvalid hresolve' hopen']
      obtain ⟨hanswer, hstate, xs, hxs, hsettles⟩ := x.measure_noted config benchmark backend
        ⟨w₂, [.resolve config.benchmark (.ok ()), .openBackend config (.ok ())]⟩
      refine ⟨hanswer, hstate, ?_⟩
      have hcourse := Course.measured ⟨hvalid, w₁, hresolve, hopen⟩ hsettles
      rw [← hxs] at hcourse
      exact hcourse

end Execution

/-! ### What a course shows -/

namespace Action

/-- The stage to which an action belongs.  The validation comes before the first stage and takes no
action. -/
def stage : Action → Nat
  | resolve .. => 1
  | openBackend .. => 2
  | call _ => 3
  | output _ => 4

/-- The exchange of an action with the output, if it is one. -/
def output? : Action → Option Exchange
  | output x => some x
  | _ => none

def isBenchmark : Action → Bool
  | call e => e.isBenchmark
  | _ => false

theorem map_stage_calls (es : List Event) :
    (es.map call).map stage = List.replicate es.length 3 := by
  rw [List.map_map]
  exact List.map_const

theorem map_stage_outputs (xs : List Exchange) :
    (xs.map output).map stage = List.replicate xs.length 4 := by
  rw [List.map_map]
  exact List.map_const

theorem filterMap_output?_calls (es : List Event) : (es.map call).filterMap output? = [] := by
  rw [List.filterMap_map]
  exact List.filterMap_eq_nil_iff.2 fun _ _ => rfl

theorem filterMap_output?_outputs (xs : List Exchange) :
    (xs.map output).filterMap output? = xs := by
  rw [List.filterMap_map]
  exact List.filterMap_some

theorem filter_isBenchmark_calls (es : List Event) :
    (es.map call).filter isBenchmark = (es.filter Event.isBenchmark).map call :=
  List.filter_map

theorem filter_isBenchmark_outputs (xs : List Exchange) :
    (xs.map output).filter isBenchmark = [] := by
  rw [List.filter_map]
  exact congrArg (List.map output) (List.filter_eq_nil_iff.2 fun _ _ => Bool.false_ne_true)

end Action

namespace Execution

variable {x : Execution (StateM σ)} {config : Config} {w : σ} {actions : List Action}
  {a : Except Failure Unit} {f : Failure}

/-- `Opens` determines the parties and the state that they are opened in. -/
theorem Opens.unique {benchmark benchmark' : Benchmark (StateM σ)}
    {backend backend' : Backend (StateM σ)} {w₂ w₂' : σ}
    (h : x.Opens config w benchmark backend w₂) (h' : x.Opens config w benchmark' backend' w₂') :
    benchmark' = benchmark ∧ backend' = backend ∧ w₂' = w₂ := by
  obtain ⟨-, w₁, hresolve, hopen⟩ := h
  obtain ⟨-, w₁', hresolve', hopen'⟩ := h'
  rw [hresolve] at hresolve'
  cases hresolve'
  rw [hopen] at hopen'
  cases hopen'
  exact ⟨rfl, rfl, rfl⟩

theorem Completes.isComplete {layout : Layout} {r : Recording layout config.iterations}
    (h : x.Completes config w layout r) : r.isComplete = true := by
  obtain ⟨benchmark, backend, w₂, -, hresult⟩ := h
  exact ((x.session config benchmark backend).complete_of_result hresult).1

namespace Course

/-- A failure of the configuration is the error of its validation. -/
theorem validate_of_config {e : ConfigError} (h : x.Course config w actions (.error (.config e))) :
    config.validate = .error e := by
  generalize ha : (Except.error (.config e) : Except Failure Unit) = a at h
  cases h with
  | invalid hinvalid =>
    cases ha
    exact hinvalid
  | unresolved | unopened => cases ha
  | measured _ hsettles =>
    cases hsettles with
    | aborted | unfit => cases ha
    | delivered _ _ hdelivers => cases hdelivers <;> cases ha

/-- **The stages come in their order**, and each party is opened once at most. -/
theorem stages_in_order (h : x.Course config w actions a) :
    ∃ k l, actions.map Action.stage <+: [1, 2] ++ (List.replicate k 3 ++ List.replicate l 4) := by
  cases h with
  | invalid => exact ⟨0, 0, List.nil_prefix⟩
  | unresolved => exact ⟨0, 0, [2], rfl⟩
  | unopened => exact ⟨0, 0, [], rfl⟩
  | measured h hsettles =>
    rw [List.map_append, List.map_append, Action.map_stage_calls, Action.map_stage_outputs]
    exact ⟨_, _, List.prefix_rfl⟩

/-- **A stage is entered only if those before it went well**, which is seen in the actions of an
execution and, for the last stage, in the result of its run. -/
theorem entered (h : x.Course config w actions a) {s : Action} (hs : s ∈ actions) :
    config.validate = .ok () ∧
    (1 < s.stage → .resolve config.benchmark (.ok ()) ∈ actions) ∧
    (2 < s.stage → .openBackend config (.ok ()) ∈ actions) ∧
    (3 < s.stage → ∃ layout r, x.Completes config w layout r ∧ r.isComplete = true ∧
      (config.shapeFor layout).Fits layout) := by
  cases h with
  | invalid => exact absurd hs List.not_mem_nil
  | unresolved hvalid =>
    obtain rfl := List.mem_singleton.1 hs
    exact ⟨hvalid, by simp [Action.stage]⟩
  | unopened hvalid =>
    refine ⟨hvalid, fun _ => List.mem_cons_self, ?_⟩
    rcases List.mem_pair.1 hs with rfl | rfl <;> simp [Action.stage]
  | @measured benchmark backend w₂ xs a h hsettles =>
    refine ⟨h.valid, fun _ => List.mem_cons_self,
      fun _ => List.mem_cons_of_mem _ List.mem_cons_self,
      fun hstage => ?_⟩
    -- An action of the last stage is an exchange with the output, of which there is none without
    -- results.
    have hexchange : ∃ e, e ∈ xs := by
      rcases List.mem_append.1 hs with hs | hs
      · rcases List.mem_pair.1 hs with rfl | rfl <;> simp [Action.stage] at hstage
      rcases List.mem_append.1 hs with hs | hs
      · obtain ⟨e, -, rfl⟩ := List.mem_map.1 hs
        simp [Action.stage] at hstage
      · obtain ⟨e, he, -⟩ := List.mem_map.1 hs
        exact ⟨e, he⟩
    obtain ⟨e, he⟩ := hexchange
    cases hsettles with
    | aborted | unfit => exact absurd he List.not_mem_nil
    | delivered hresult hrender =>
      have hcompletes : x.Completes config w _ _ := ⟨benchmark, backend, w₂, h, hresult⟩
      exact ⟨_, _, hcompletes, hcompletes.isComplete, Recording.fits_of_render hrender⟩

/-- **An execution that goes well** has given out the text of a complete recording, to the last
octet, and has called the benchmark with its parameter once in each iteration. -/
theorem of_ok (h : x.Course config w actions (.ok ())) :
    ∃ layout r text, x.Completes config w layout r ∧ r.isComplete = true ∧
      r.render (config.shapeFor layout) = .ok text ∧
      Exchange.received (actions.filterMap Action.output?) = octets text ∧
      actions.filter Action.isBenchmark =
        List.replicate config.iterations (.call (.benchmark config.param)) := by
  generalize ha : (Except.ok () : Except Failure Unit) = a at h
  cases h with
  | invalid | unresolved | unopened => cases ha
  | @measured benchmark backend w₂ xs a h hsettles =>
    cases hsettles with
    | aborted | unfit => cases ha
    | @delivered layout r text xs a' hresult hrender hdelivers =>
      cases hdelivers with
      | refused => cases ha
      | @all xs hsends =>
        obtain ⟨hcomplete, hbenchmark⟩ :=
          (x.session config benchmark backend).complete_of_result hresult
        refine ⟨layout, r, text, ⟨benchmark, backend, w₂, h, hresult⟩, hcomplete, hrender, ?_, ?_⟩
        · rw [List.filterMap_append, List.filterMap_append, Action.filterMap_output?_calls,
            Action.filterMap_output?_outputs]
          exact (Exchange.received_append xs _).trans ((List.append_nil _).trans hsends.received_eq)
        · rw [List.filter_append, List.filter_append, Action.filter_isBenchmark_calls,
            Action.filter_isBenchmark_outputs, filter_isBenchmark_callsOf, hbenchmark,
            List.map_replicate]
          exact List.append_nil _

/-- If the parties open, the actions end with exchanges that settle the result of the run. -/
theorem settles_of_opens (h : x.Course config w actions a) {benchmark : Benchmark (StateM σ)}
    {backend : Backend (StateM σ)} {w₂ : σ} (hopens : x.Opens config w benchmark backend w₂) :
    ∃ before xs, actions = before ++ xs.map .output ∧
      RunResult.Settles config ((x.session config benchmark backend).run w₂).1.result xs a := by
  obtain ⟨hvalid, w₁, hresolve, hopen⟩ := hopens
  cases h with
  | invalid hinvalid =>
    rw [hvalid] at hinvalid
    cases hinvalid
  | unresolved _ hresolve' =>
    rw [hresolve] at hresolve'
    cases hresolve'
  | unopened _ hresolve' hopen' =>
    rw [hresolve] at hresolve'
    cases hresolve'
    rw [hopen] at hopen'
    cases hopen'
  | measured hopens' hsettles =>
    obtain ⟨rfl, rfl, rfl⟩ := hopens'.unique ⟨hvalid, w₁, hresolve, hopen⟩
    exact ⟨_, _, (List.append_assoc _ _ _).symm, hsettles⟩

/-- **Where a natural shape is taken, only the output can fail behind a completed run.** -/
theorem of_completes (h : x.Course config w actions (.error f)) (hshape : config.shape = none)
    {layout : Layout} {r : Recording layout config.iterations}
    (hcompletes : x.Completes config w layout r) :
    ∃ e last, (f = .output (.document e) ∨ f = .output (.closing e)) ∧
      actions.getLast? = some (.output last) ∧ last.refusal? = some e := by
  obtain ⟨benchmark, backend, w₂, hopens, hresult⟩ := hcompletes
  obtain ⟨before, xs, rfl, hsettles⟩ := h.settles_of_opens hopens
  rw [hresult] at hsettles
  obtain ⟨e, done, last, hf, rfl, hlast⟩ := hsettles.refused hshape
  refine ⟨e, last, hf, ?_, hlast⟩
  rw [List.map_append, ← List.append_assoc]
  exact List.getLast?_concat ..

end Course

/-- **An execution goes through its stages in order and gives out all or nothing.**  The actions of
an execution, noted without any influence on it, are those of one of its courses (`Course`),
whatever its parties do.  So

* they follow the order of the stages, and benchmark and backend are opened once at most;
* a stage is entered only if the configuration is valid and every stage before it went well; the
  output is touched only if the run has given a complete recording that fits in the shape;
* the result is the failure of the first stage that fails, as the course says;
* if the execution goes well, the output has received the text of a complete recording, to the last
  octet, and the benchmark was called with its parameter once in each iteration;
* if no shape is asked for, then behind a completed run the only failure is a refusal by the output,
  and this is the last thing that happens. -/
theorem run_in_stages (x : Execution (StateM σ)) (config : Config) (w : σ) :
    let noted := x.noted.run config ⟨w, []⟩
    let actions := noted.2.notes
    noted.1 = (x.run config w).1 ∧ noted.2.state = (x.run config w).2 ∧
    (∃ k l, actions.map Action.stage <+: [1, 2] ++ (List.replicate k 3 ++ List.replicate l 4)) ∧
    (∀ s ∈ actions, config.validate = .ok () ∧
      (1 < s.stage → .resolve config.benchmark (.ok ()) ∈ actions) ∧
      (2 < s.stage → .openBackend config (.ok ()) ∈ actions) ∧
      (3 < s.stage → ∃ layout r, x.Completes config w layout r ∧ r.isComplete = true ∧
        (config.shapeFor layout).Fits layout)) ∧
    x.Course config w actions (x.run config w).1 ∧
    ((x.run config w).1 = .ok () →
      ∃ layout r text, x.Completes config w layout r ∧ r.isComplete = true ∧
        r.render (config.shapeFor layout) = .ok text ∧
        Exchange.received (actions.filterMap Action.output?) = octets text ∧
        actions.filter Action.isBenchmark =
          List.replicate config.iterations (.call (.benchmark config.param))) ∧
    (config.shape = none → ∀ layout r, x.Completes config w layout r →
      ∀ f, (x.run config w).1 = .error f →
        ∃ e last, (f = .output (.document e) ∨ f = .output (.closing e)) ∧
          actions.getLast? = some (.output last) ∧ last.refusal? = some e) := by
  intro noted actions
  obtain ⟨hanswer, hstate, hcourse⟩ := x.course_noted config w
  rw [hanswer] at hcourse
  refine ⟨hanswer, hstate, hcourse.stages_in_order, fun s hs => hcourse.entered hs, hcourse,
    fun hok => ?_, fun hshape layout r hcompletes f hf => ?_⟩
  · rw [hok] at hcourse
    exact hcourse.of_ok
  · rw [hf] at hcourse
    exact hcourse.of_completes hshape hcompletes

end Execution

end Stopwatch
