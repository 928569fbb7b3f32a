import Stopwatch.Run

/-!
# Runs in two monads

`Session.run` knows its parties only as operations of a monad.  So whatever relates the operations
of two monads, and is respected by returning and by going on, relates whole runs: if the backends,
the benchmarks and the listeners of two sessions are related, call by call, then so are their runs
(`Session.related_run`).

A `MonadRelation` is such a relation, given once for all types of answers.

What comes behind a computation in a state is an equation of its own, for a known answer
(`bind_of_eq`), and where a computation may fail, for what went well (`bind_of_ok`) and for a
failure (`bind_of_error`).
-/

namespace Stopwatch

/-! ### One computation behind another -/

section Bind

variable {ε σ α β : Type} {w w' : σ} {a : α}

/-- What comes behind a computation goes on from its answer and its state. -/
theorem bind_of_eq {x : StateM σ α} {f : α → StateM σ β} (h : x w = (a, w')) :
    (x >>= f) w = f a w' := by
  show f (x w).1 (x w).2 = f a w'
  rw [h]

theorem bind_of_answer {x : StateM σ α} {f : α → StateM σ β} (h : (x w).1 = a) :
    (x >>= f) w = f a (x w).2 :=
  bind_of_eq (Prod.ext h rfl)

variable {x : ExceptT ε (StateM σ) α} {f : α → ExceptT ε (StateM σ) β}

theorem bind_of_ok (h : x.run w = (.ok a, w')) : (x >>= f).run w = (f a).run w' :=
  bind_of_eq (f := ExceptT.bindCont f) h

/-- Nothing comes behind a failure. -/
theorem bind_of_error {e : ε} (h : x.run w = (.error e, w')) : (x >>= f).run w = (.error e, w') :=
  bind_of_eq (f := ExceptT.bindCont f) h

/-- What does not fail has not failed before either. -/
theorem exists_of_bind_eq_ok {b : β} (h : (x >>= f).run w = (.ok b, w')) :
    ∃ a v, x.run w = (.ok a, v) ∧ (f a).run v = (.ok b, w') := by
  rcases hx : x.run w with ⟨e | a, v⟩
  · rw [bind_of_error hx] at h
    cases h
  · rw [bind_of_ok hx] at h
    exact ⟨a, v, rfl, h⟩

end Bind

/-! ### Relations -/

/-- A relation between the computations of two monads that returning and going on respect. -/
structure MonadRelation (m n : Type → Type) [Monad m] [Monad n] where
  /-- The relation, at every type of answers. -/
  rel : {α : Type} → m α → n α → Prop
  /-- Equal answers, returned at once, are related. -/
  rel_pure : ∀ {α : Type} (a : α), rel (pure a) (pure a)
  /-- Related computations stay related when both go on in related ways. -/
  rel_bind : ∀ {α β : Type} {x : m α} {y : n α} {f : α → m β} {g : α → n β},
    rel x y → (∀ a, rel (f a) (g a)) → rel (x >>= f) (y >>= g)

variable {m n : Type → Type} [Monad m] [Monad n]

namespace MonadRelation

variable (R : MonadRelation m n) {ε α β : Type}

/-- The relation between computations that may fail. -/
def relExcept (x : ExceptT ε m α) (y : ExceptT ε n α) : Prop := R.rel x.run y.run

variable {R}

theorem relExcept_pure (a : α) :
    R.relExcept (pure a : ExceptT ε m α) (pure a : ExceptT ε n α) :=
  R.rel_pure _

/-- A failure ends both computations, so only answers have to be followed. -/
theorem relExcept_bind {x : ExceptT ε m α} {y : ExceptT ε n α} {f : α → ExceptT ε m β}
    {g : α → ExceptT ε n β} (h : R.relExcept x y) (hf : ∀ a, R.relExcept (f a) (g a)) :
    R.relExcept (x >>= f) (y >>= g) := by
  refine R.rel_bind h fun a => ?_
  -- Both answers are the same one, so either both go on or both end here.
  cases a with
  | ok a => exact hf a
  | error e => exact R.rel_pure _

theorem relExcept_mk_pure (a : Except ε α) :
    R.relExcept (ExceptT.mk (pure a) : ExceptT ε m α) (ExceptT.mk (pure a) : ExceptT ε n α) :=
  R.rel_pure a

section Lawful

variable [LawfulMonad m] [LawfulMonad n]

theorem rel_map {x : m α} {y : n α} (f : α → β) (h : R.rel x y) : R.rel (f <$> x) (f <$> y) := by
  rw [map_eq_pure_bind, map_eq_pure_bind]
  exact R.rel_bind h fun a => R.rel_pure (f a)

theorem relExcept_lift {x : m α} {y : n α} (h : R.rel x y) :
    R.relExcept (ExceptT.lift x : ExceptT ε m α) (ExceptT.lift y : ExceptT ε n α) :=
  rel_map Except.ok h

theorem relExcept_ask {x : Answer m α} {y : Answer n α} (h : R.relExcept x y) :
    R.relExcept (Session.ask x) (Session.ask y) :=
  rel_map (Except.mapError RunError.backend) h

end Lawful

end MonadRelation

/-! ### Related backends -/

/-- Two backends of the same kind, related call by call. -/
inductive Backend.Related (R : MonadRelation m n) : Backend m → Backend n → Prop
  | clock {c : Clock m} {d : Clock n} (now : R.relExcept c.now d.now) :
    Related R (.clock c) (.clock d)
  | cycles {c : CycleCounter m} {d : CycleCounter n} (now : R.relExcept c.now d.now)
    (cycles : R.relExcept c.cycles d.cycles) : Related R (.cycles c) (.cycles d)
  | perf {c : PerfCounters m} {d : PerfCounters n} (now : R.relExcept c.now d.now)
    (cycles : R.relExcept c.cycles d.cycles) (aperf : R.relExcept c.aperf d.aperf)
    (mperf : R.relExcept c.mperf d.mperf) : Related R (.perf c) (.perf d)
  | snapshot {c : Snapshot m} {d : Snapshot n} (init : R.relExcept c.init d.init)
    (cores : R.rel c.cores d.cores) (mark : ∀ slot, R.relExcept (c.mark slot) (d.mark slot))
    (reading : ∀ slot core metric,
      R.relExcept (c.reading slot core metric) (d.reading slot core metric))
    (shutdown : R.relExcept c.shutdown d.shutdown) : Related R (.snapshot c) (.snapshot d)

namespace Backend.Related

open MonadRelation

variable {R : MonadRelation m n} {b : Backend m} {d : Backend n}

theorem init [LawfulMonad m] [LawfulMonad n] (h : Backend.Related R b d) :
    R.relExcept b.init d.init := by
  cases h with
  | clock | cycles | perf => exact relExcept_pure _
  | snapshot init cores =>
    refine relExcept_bind init fun _ => ?_
    exact relExcept_bind (relExcept_lift cores) fun _ => relExcept_pure _

theorem shutdown (h : Backend.Related R b d) : R.relExcept b.shutdown d.shutdown := by
  cases h with
  | clock | cycles | perf => exact relExcept_pure _
  | snapshot _ _ _ _ shutdown => exact shutdown

theorem mark (h : Backend.Related R b d) (slot : Slot) (f : Frame) :
    R.relExcept (b.mark slot f) (d.mark slot f) := by
  cases h with
  | clock now => exact relExcept_bind now fun _ => relExcept_pure _
  -- The clock is read last before the benchmark call and first behind it.
  | cycles now cycles =>
    cases slot with
    | before => exact relExcept_bind cycles fun _ => relExcept_bind now fun _ => relExcept_pure _
    | after => exact relExcept_bind now fun _ => relExcept_bind cycles fun _ => relExcept_pure _
  | perf now cycles aperf mperf =>
    cases slot with
    | before =>
      exact relExcept_bind aperf fun _ => relExcept_bind mperf fun _ =>
        relExcept_bind cycles fun _ => relExcept_bind now fun _ => relExcept_pure _
    | after =>
      exact relExcept_bind now fun _ => relExcept_bind cycles fun _ =>
        relExcept_bind aperf fun _ => relExcept_bind mperf fun _ => relExcept_pure _
  | snapshot _ _ mark => exact relExcept_bind (mark slot) fun _ => relExcept_pure _

theorem sample (h : Backend.Related R b d) (f : Frame) (key : RowKey) :
    R.relExcept (b.sample f key) (d.sample f key) := by
  cases h with
  | clock | cycles | perf => exact relExcept_pure _
  | snapshot _ _ _ reading =>
    exact relExcept_bind (reading _ _ _) fun _ => relExcept_bind (reading _ _ _) fun _ =>
      relExcept_pure _

end Backend.Related

/-! ### Related sessions -/

/-- Two sessions with one configuration, related party by party. -/
structure Session.Related (R : MonadRelation m n) (s : Session m) (t : Session n) : Prop where
  config : t.config = s.config
  backend : Backend.Related R s.backend t.backend
  benchmark : ∀ param, R.rel (s.benchmark param) (t.benchmark param)
  notify : ∀ p, R.rel (s.notify p) (t.notify p)

section Sessions

open MonadRelation

variable [LawfulMonad m] [LawfulMonad n] {R : MonadRelation m n} {config : Config}
  {b : Backend m} {d : Backend n}
  {work : Int32 → m Unit} {work' : Int32 → n Unit} {tell : Progress → m Unit}
  {tell' : Progress → n Unit} {layout : Layout}

namespace Backend.Related

/-- `writeRows` on related backends; neither the benchmark nor the listeners have a part in it. -/
theorem writeRows (h : Backend.Related R b d) (f : Frame) (i : Nat)
    (rows : List (Fin layout.rowCount)) :
    ∀ r : Recording layout config.iterations,
      R.relExcept (Session.writeRows ⟨config, b, work, tell⟩ f i rows r)
        (Session.writeRows ⟨config, d, work', tell'⟩ f i rows r) := by
  induction rows with
  | nil => exact fun r => relExcept_pure r
  | cons row rows ih =>
    intro r
    -- The sample is asked of the backend; the delta and the write are the same on both sides.
    refine relExcept_bind (relExcept_ask (h.sample f _)) fun _ => ?_
    refine relExcept_bind (relExcept_mk_pure _) fun _ => ?_
    exact relExcept_bind (relExcept_mk_pure _) ih

/-- `bracket` on related backends and benchmarks; of the listeners only what they do at the start of
the iteration matters. -/
theorem bracket (h : Backend.Related R b d) (hwork : ∀ param, R.rel (work param) (work' param))
    (i : Nat)
    (htell : R.rel (tell (.iterationStart i config.iterations))
      (tell' (.iterationStart i config.iterations))) (f : Frame) :
    R.relExcept (Session.bracket ⟨config, b, work, tell⟩ i f)
      (Session.bracket ⟨config, d, work', tell'⟩ i f) := by
  refine relExcept_bind (relExcept_lift htell) fun _ => ?_
  refine relExcept_bind (relExcept_ask (h.mark _ f)) fun f => ?_
  refine relExcept_bind (relExcept_lift (hwork _)) fun _ => ?_
  exact relExcept_ask (h.mark _ f)

omit [LawfulMonad m] [LawfulMonad n] in
/-- `close` on related backends, with listeners that are related at the end of the run. -/
theorem close (h : Backend.Related R b d)
    (htell : ∀ r : Recording layout config.iterations,
      R.rel (tell (.runEnd layout config.iterations r))
        (tell' (.runEnd layout config.iterations r)))
    (measured : Except RunError (Frame × Recording layout config.iterations)) :
    R.rel (Session.close ⟨config, b, work, tell⟩ measured)
      (Session.close ⟨config, d, work', tell'⟩ measured) := by
  cases measured with
  | error cause =>
    refine R.rel_bind h.shutdown fun a => ?_
    cases a with
    | ok => exact R.rel_pure _
    | error => exact R.rel_pure _
  | ok x =>
    refine R.rel_bind h.shutdown fun a => ?_
    cases a with
    | ok => exact R.rel_bind (htell _) fun _ => R.rel_pure _
    | error => exact R.rel_pure _

end Backend.Related

namespace Session.Related

theorem iterate (h : Related R ⟨config, b, work, tell⟩ ⟨config, d, work', tell'⟩) (i : Nat)
    (f : Frame) (r : Recording layout config.iterations) :
    R.relExcept (Session.iterate ⟨config, b, work, tell⟩ i f r)
      (Session.iterate ⟨config, d, work', tell'⟩ i f r) := by
  refine relExcept_bind (h.backend.bracket h.benchmark i (h.notify _) f) fun f => ?_
  refine relExcept_bind (h.backend.writeRows f i _ r) fun r => ?_
  exact relExcept_bind (relExcept_lift (h.notify _)) fun _ => relExcept_pure _

theorem measure (h : Related R ⟨config, b, work, tell⟩ ⟨config, d, work', tell'⟩) (count : Nat) :
    ∀ (i : Nat) (f : Frame) (r : Recording layout config.iterations),
      R.relExcept (Session.measure ⟨config, b, work, tell⟩ count i f r)
        (Session.measure ⟨config, d, work', tell'⟩ count i f r) := by
  induction count with
  | zero => exact fun i f r => relExcept_pure _
  | succ count ih =>
    intro i f r
    exact relExcept_bind (h.iterate i f r) fun _ => ih _ _ _

end Session.Related

end Sessions

/-- **Related sessions have related runs.** -/
theorem Session.related_run [LawfulMonad m] [LawfulMonad n] {R : MonadRelation m n}
    {config : Config} {b : Backend m} {d : Backend n} {work : Int32 → m Unit}
    {work' : Int32 → n Unit} {tell : Progress → m Unit} {tell' : Progress → n Unit}
    (h : Session.Related R ⟨config, b, work, tell⟩ ⟨config, d, work', tell'⟩) :
    R.rel (Session.run ⟨config, b, work, tell⟩) (Session.run ⟨config, d, work', tell'⟩) := by
  refine R.rel_bind h.backend.init fun a => ?_
  cases a with
  | error e => exact R.rel_pure _
  | ok layout =>
    refine R.rel_bind (h.notify _) fun _ => ?_
    exact R.rel_bind (h.measure config.iterations 0 {} _) fun x =>
      h.backend.close (fun _ => h.notify _) x

end Stopwatch
