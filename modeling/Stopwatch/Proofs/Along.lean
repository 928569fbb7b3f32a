import Stopwatch.Proofs.Watch

/-!
# Going along with a watched run

A run may work on a state that holds more than its parties know of, such as notes of what happens.
To see what it does, it is compared with the watched run of the parties alone: a `Growth` finds the
state of the parties in the larger one and says what the larger one gains by some events, and two
computations go along (`Growth.along`) if the one gains what the other one shows.

That two runs go along is seen call by call, as for every relation between monads.  What follows is
`Growth.run_eq`: the outcome is the same, so is the state of the parties, and the larger state has
gained the events of the run.
-/

namespace Stopwatch

/-! ### Calls and what is told -/

/-- What listeners are told, or `none` for a call. -/
def Event.progress? : Event → Option Progress
  | progress p => some p
  | _ => none

/-- What listeners are told in the course of some events. -/
def progressOf (es : List Event) : List Progress := es.filterMap Event.progress?

theorem progressOf_append (es more : List Event) :
    progressOf (es ++ more) = progressOf es ++ progressOf more :=
  List.filterMap_append

/-- The calls of the backend and of the benchmark among some events. -/
def callsOf (es : List Event) : List Event := es.filter (·.progress?.isNone)

theorem callsOf_append (es more : List Event) : callsOf (es ++ more) = callsOf es ++ callsOf more :=
  List.filter_append ..

/-! ### Going along -/

variable {σ ω α : Type}

/-- A state that holds the state of the parties, and what it gains by events. -/
structure Growth (ω σ : Type) where
  /-- The state of the parties. -/
  inner : ω → σ
  /-- What the state has become by some events. -/
  grew : ω → List Event → ω → Prop
  refl : ∀ o, grew o [] o
  trans : ∀ {o o' o'' : ω} {es more : List Event},
    grew o es o' → grew o' more o'' → grew o (es ++ more) o''

namespace Growth

variable (G : Growth ω σ)

/-- A computation goes along with a watched one: answers and states are the same, and it gains the
events of the other one. -/
def along : MonadRelation (StateM ω) (StateM (Watched σ)) where
  rel x y := ∀ o v, G.inner o = v.state →
    (x o).1 = (y v).1 ∧ G.inner (x o).2 = (y v).2.state ∧
    ∃ es, (y v).2.events = v.events ++ es ∧ G.grew o es (x o).2
  rel_pure _ o v (h : G.inner o = v.state) :=
    ⟨rfl, h, [], (List.append_nil v.events).symm, G.refl o⟩
  rel_bind {α β x y f g} h hf o v hov := by
    obtain ⟨hanswer, hstate, es, hes, hgrew⟩ := h o v hov
    obtain ⟨hanswer', hstate', more, hmore, hgrew'⟩ := hf (x o).1 (x o).2 (y v).2 hstate
    -- Both go on with the same answer, so the continuations are related there.
    have hx : (x >>= f) o = f (x o).1 (x o).2 := bind_of_eq rfl
    have hy : (y >>= g) v = g (x o).1 (y v).2 := bind_of_answer hanswer.symm
    rw [hx, hy]
    refine ⟨hanswer', hstate', es ++ more, ?_, G.trans hgrew hgrew'⟩
    rw [hmore, hes, List.append_assoc]

variable {G}

/-- If `x` does what `y` does and gains its `event`, it goes along with `y` when that is watched. -/
theorem along_watch {event : α → Event} {x : StateM ω α} {y : StateM σ α}
    (h : ∀ o, (x o).1 = (y (G.inner o)).1 ∧ G.inner (x o).2 = (y (G.inner o)).2 ∧
      G.grew o [event (y (G.inner o)).1] (x o).2) : G.along.rel x (watch event y) := by
  rintro o ⟨_, events⟩ rfl
  obtain ⟨hanswer, hstate, hgrew⟩ := h o
  exact ⟨hanswer, hstate, _, rfl, hgrew⟩

/-- If `x` does what `y` does and gains nothing, it goes along with `y` when that is not watched. -/
theorem along_unwatched {x : StateM ω α} {y : StateM σ α}
    (h : ∀ o, (x o).1 = (y (G.inner o)).1 ∧ G.inner (x o).2 = (y (G.inner o)).2 ∧
      G.grew o [] (x o).2) : G.along.rel x (unwatched y) := by
  rintro o ⟨_, events⟩ rfl
  obtain ⟨hanswer, hstate, hgrew⟩ := h o
  exact ⟨hanswer, hstate, [], (List.append_nil _).symm, hgrew⟩

end Growth

section Within

variable {l m n : Type → Type}

/-- A backend in another monad: `call` makes a call there, knowing as what it is watched, and `look`
looks something up. -/
def Backend.within (call : {α : Type} → (α → Event) → m α → n α)
    (look : {α : Type} → m α → n α) : Backend m → Backend n
  | clock c => clock ⟨call .now c.now.run⟩
  | cycles c => cycles ⟨⟨call .now c.now.run⟩, call .cycles c.cycles.run⟩
  | perf c => perf ⟨⟨⟨call .now c.now.run⟩, call .cycles c.cycles.run⟩, call .aperf c.aperf.run,
    call .mperf c.mperf.run⟩
  | snapshot s => snapshot {
      init := call .init s.init.run
      cores := look s.cores
      mark := fun slot => call (.mark slot) (s.mark slot).run
      reading := fun slot core metric =>
        call (.reading slot core metric) (s.reading slot core metric).run
      shutdown := call .shutdown s.shutdown.run }

theorem Backend.watched_eq_within (b : Backend (StateM σ)) :
    b.watched = b.within watch unwatched := by
  cases b <;> rfl

/-- One backend in two monads is related if its calls are. -/
theorem Backend.related_within [Monad m] [Monad n] {R : MonadRelation m n}
    {call : {α : Type} → (α → Event) → l α → m α} {look : {α : Type} → l α → m α}
    {call' : {α : Type} → (α → Event) → l α → n α} {look' : {α : Type} → l α → n α}
    (hcall : ∀ {α : Type} (event : α → Event), (∀ a, (event a).progress? = none) →
      ∀ x, R.rel (call event x) (call' event x))
    (hlook : ∀ {α : Type} (x : l α), R.rel (look x) (look' x))
    (b : Backend l) : Backend.Related R (b.within call look) (b.within call' look') := by
  cases b with
  | clock c => exact .clock (hcall .now (fun _ => rfl) _)
  | cycles c => exact .cycles (hcall .now (fun _ => rfl) _) (hcall .cycles (fun _ => rfl) _)
  | perf c =>
    exact .perf (hcall .now (fun _ => rfl) _) (hcall .cycles (fun _ => rfl) _)
      (hcall .aperf (fun _ => rfl) _) (hcall .mperf (fun _ => rfl) _)
  | snapshot s =>
    exact .snapshot (hcall .init (fun _ => rfl) _) (hlook _)
      (fun slot => hcall (.mark slot) (fun _ => rfl) _)
      (fun slot core metric => hcall (.reading slot core metric) (fun _ => rfl) _)
      (hcall .shutdown (fun _ => rfl) _)

end Within

/-- **A run that goes along** with the watched run of a session has its outcome, leaves its parties
in the same state, and gains its events. -/
theorem Growth.run_eq {G : Growth ω σ} {config : Config} {d : Backend (StateM ω)}
    {b : Backend (StateM σ)} {work' : Int32 → StateM ω Unit} {work : Int32 → StateM σ Unit}
    {tell' : Progress → StateM ω Unit} {tell : Progress → StateM σ Unit}
    (h : Session.Related G.along ⟨config, d, work', tell'⟩
      (Session.watched ⟨config, b, work, tell⟩))
    (o : ω) :
    (Session.run ⟨config, d, work', tell'⟩ o).1 =
      (Session.run ⟨config, b, work, tell⟩ (G.inner o)).1 ∧
    G.inner (Session.run ⟨config, d, work', tell'⟩ o).2 =
      (Session.run ⟨config, b, work, tell⟩ (G.inner o)).2 ∧
    G.grew o (Session.eventsFrom ⟨config, b, work, tell⟩ (G.inner o))
      (Session.run ⟨config, d, work', tell'⟩ o).2 := by
  obtain ⟨hanswer, hstate, es, hes, hgrew⟩ := Session.related_run h o ⟨G.inner o, []⟩ rfl
  obtain ⟨houtcome, hleft, -⟩ := Session.run_watched ⟨config, b, work, tell⟩ ⟨G.inner o, []⟩
  have hevents : Session.eventsFrom ⟨config, b, work, tell⟩ (G.inner o) = es := hes
  rw [hevents]
  exact ⟨hanswer.trans houtcome, hstate.trans hleft, hgrew⟩

end Stopwatch
