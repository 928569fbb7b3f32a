import Stopwatch.Stage
import Stopwatch.Proofs.Actions

/-!
# Runs that a panic unwinds

Everything that reporters write to may fail, and a run goes on.  The one exception is a progress
line: it is printed, and where it cannot be written the program panics, which unwinds the run
without a result (`Outlets.channels`).

`Session.unwinding` is a session whose reporters may panic.  Its run either returns what the silent
run returns, or it breaks off over a hook, and what it has done by then is what the silent run does
up to that hook (`Session.run_unwinding`).  Both cases are told apart by the listeners alone: they
are handed the hooks one after the other (`hear`), and they go through or panic.

Reporters that never panic are a special case (`Session.run_reported`): their run returns.  That a
panic is about a progress line is `Reporter.exists_of_panic`, so where these can be written,
as on a `Stage` (`Stage.prints`), all runs return.  `Session.reporters_without_influence` says what
follows for two runs with different reporters.
-/

namespace Stopwatch

/-- Computations that a panic unwinds.  What they did to the state before stays done. -/
abbrev Unwinding (σ : Type) := ExceptT Panic (StateM σ)

variable {σ τ α β : Type}

/-! ### Watching -/

/-- Do something and note it with its answer. -/
def watchCall (event : α → Event) (x : Unwinding σ α) : Unwinding (Watched σ) α :=
  ExceptT.mk fun v => ((x.run v.state).1,
    ⟨(x.run v.state).2, v.events ++ ((x.run v.state).1.toOption.map event).toList⟩)

/-- A session whose events are noted.  Listeners are told something even if they panic over it. -/
def Session.observed (s : Session (Unwinding σ)) : Session (Unwinding (Watched σ)) where
  config := s.config
  backend := s.backend.within watchCall fun x => ExceptT.mk (unwatched x.run)
  benchmark param := watchCall (fun _ => .benchmark param) (s.benchmark param)
  notify p := ExceptT.mk (watch (fun _ => .progress p) (s.notify p).run)

/-- The events of a run up to its end, or to the panic that unwinds it. -/
def Session.observedFrom (s : Session (Unwinding σ)) (state : σ) : List Event :=
  (s.observed.run.run ⟨state, []⟩).2.events

/-- Answer and state of `x` on a watched state are those of `y` on the state alone. -/
def observedRelation (σ : Type) : MonadRelation (Unwinding (Watched σ)) (Unwinding σ) where
  rel x y := ∀ v, (x.run v).1 = (y.run v.state).1 ∧ (x.run v).2.state = (y.run v.state).2
  rel_pure _ _ := ⟨rfl, rfl⟩
  rel_bind {α β x y f g} h hf v := by
    have hxy := h v
    rcases hx : x.run v with ⟨a, v'⟩
    rcases hy : y.run v.state with ⟨a', w'⟩
    rw [hx, hy] at hxy
    obtain ⟨rfl, rfl⟩ := hxy
    cases a with
    | ok a =>
      rw [bind_of_ok hx, bind_of_ok hy]
      exact hf a v'
    | error panic =>
      rw [bind_of_error hx, bind_of_error hy]
      exact ⟨rfl, rfl⟩

theorem observed_call (event : α → Event) (x : Unwinding σ α) :
    (observedRelation σ).rel (watchCall event x) x := fun _ => ⟨rfl, rfl⟩

theorem observed_look (x : Unwinding σ α) :
    (observedRelation σ).rel (ExceptT.mk (unwatched x.run)) x := fun _ => ⟨rfl, rfl⟩

/-- An observed run has the answer of the run and leaves the same state. -/
theorem Session.run_observed (s : Session (Unwinding σ)) (w : σ) :
    (s.observed.run.run ⟨w, []⟩).1 = (s.run.run w).1 ∧
      (s.observed.run.run ⟨w, []⟩).2.state = (s.run.run w).2 := by
  -- The backend itself is `within` as well, so the rule for it applies to both sides.
  have hself : s.backend = s.backend.within (fun _ x => x) fun x => x := by
    cases s.backend <;> rfl
  have hbackend : Backend.Related (observedRelation σ) s.observed.backend s.backend := by
    rw [hself]
    exact Backend.related_within (fun event _ => observed_call event) observed_look s.backend
  have h : Session.Related (observedRelation σ) s.observed s :=
    ⟨rfl, hbackend, fun _ => observed_call _ _, fun _ _ => ⟨rfl, rfl⟩⟩
  exact Session.related_run h ⟨w, []⟩

/-! ### Beside the silent run -/

/-- What listeners do that are handed hooks one after the other, up to a panic. -/
def hear (tell : Progress → Unwinding τ Unit) (ps : List Progress) : Unwinding τ Unit :=
  ps.forM tell

theorem hear_append (tell : Progress → Unwinding τ Unit) (ps qs : List Progress) :
    hear tell (ps ++ qs) = (do hear tell ps; hear tell qs) :=
  List.forM_append

/-- Of a computation that gives an answer `a`, leaves a state `s` and shows the events `es`, this is
what comes about with listeners beside it that may panic: a result, the states of both, and the
events that were reached. -/
inductive Unwinds (tell : Progress → Unwinding τ Unit) (t : τ) (es : List Event) (a : α) (s : σ) :
    Except Panic α → σ × τ → List Event → Prop
  /-- The listeners go through. -/
  | returned {t' : τ} (hheard : (hear tell (progressOf es)).run t = (.ok (), t')) :
    Unwinds tell t es a s (.ok a) (s, t') es
  /-- They panic over a hook, which is the last event that is reached. -/
  | panicked {before behind : List Event} {p : Progress} {panic : Panic} {t₁ t' : τ} {s' : σ}
    (hes : es = before ++ .progress p :: behind)
    (hheard : (hear tell (progressOf before)).run t = (.ok (), t₁))
    (htold : (tell p).run t₁ = (.error panic, t')) :
    Unwinds tell t es a s (.error panic) (s', t') (before ++ [.progress p])

namespace Unwinds

variable {tell : Progress → Unwinding τ Unit} {t t₁ : τ} {es more added : List Event} {a : α}
  {s : σ} {x : Except Panic α} {w : σ × τ}

/-- If the listeners went through `es`, the whole comes to what `more` comes to behind `es`. -/
theorem behind (hheard : (hear tell (progressOf es)).run t = (.ok (), t₁))
    (h : Unwinds tell t₁ more a s x w added) :
    Unwinds tell t (es ++ more) a s x w (es ++ added) := by
  have hboth {ps : List Event} : (hear tell (progressOf (es ++ ps))).run t =
      (hear tell (progressOf ps)).run t₁ := by
    rw [progressOf_append, hear_append, bind_of_ok hheard]
  cases h with
  | returned hmore => exact .returned (hboth.trans hmore)
  | @panicked before behind p panic t₂ t' s' hes hmore htold =>
    rw [← List.append_assoc]
    exact .panicked (by rw [hes, List.append_assoc]) (hboth.trans hmore) htold

/-- What is cut off in `es` by a panic is cut off there in `es ++ more` as well, whatever the answer
and the state would be behind it. -/
theorem cut {panic : Panic} (h : Unwinds tell t es a s (.error panic) w added) (more : List Event)
    (b : β) (s' : σ) : Unwinds tell t (es ++ more) b s' (.error panic) w added := by
  cases h with
  | panicked hes hheard htold =>
    exact .panicked (by rw [hes, List.append_assoc, List.cons_append]) hheard htold

/-- **The listeners tell whether there was a panic**: handed the hooks that were reached, they do
just what they did. -/
theorem hear_eq (h : Unwinds tell t es a s x w added) :
    (hear tell (progressOf added)).run t = (x.map fun _ => (), w.2) := by
  cases h with
  | returned hheard => exact hheard
  | panicked hes hheard htold =>
    rw [progressOf_append, hear_append, bind_of_ok hheard]
    exact bind_of_error (f := pure) htold

/-- What returns has the answer `a`, leaves the state `s`, and has reached all of `es`. -/
theorem eq_of_ok (h : Unwinds tell t es a s x w added) {b : α} (hx : x = .ok b) :
    b = a ∧ w.1 = s ∧ added = es := by
  cases h with
  | returned => exact ⟨(Except.ok.inj hx).symm, rfl, rfl⟩
  | panicked => cases hx

end Unwinds

/-- A session whose listeners work on a state of their own and may panic. -/
def Session.unwinding (config : Config) (b : Backend (StateM σ)) (work : Int32 → StateM σ Unit)
    (tell : Progress → Unwinding τ Unit) : Session (Unwinding (σ × τ)) where
  config := config
  backend := b.change fun x => ExceptT.lift ((measuredPart σ τ).run x)
  benchmark param := ExceptT.lift ((measuredPart σ τ).run (work param))
  notify p := ExceptT.mk ((reportedPart σ τ).run (tell p).run)

theorem Session.observed_backend_unwinding (config : Config) (b : Backend (StateM σ))
    (work : Int32 → StateM σ Unit) (tell : Progress → Unwinding τ Unit) :
    (unwinding config b work tell).observed.backend =
      b.within (fun event x => watchCall event (ExceptT.lift ((measuredPart σ τ).run x)))
        (fun x => ExceptT.mk
          (unwatched (ExceptT.lift ((measuredPart σ τ).run x) : Unwinding _ _).run)) := by
  cases b <;> rfl

section Beside

variable (config : Config) (tell : Progress → Unwinding τ Unit)

/-- A computation with listeners beside it that may panic, and one without, where hooks are told
with the settings of a config. -/
def heardBeside (σ : Type) : MonadRelation (Unwinding (Watched (σ × τ))) (StateM (Watched σ)) where
  rel x y := ∀ v u, v.state.1 = u.state → ∃ es added,
    (y u).2.events = u.events ++ es ∧ (x.run v).2.events = v.events ++ added ∧
    Unwinds tell v.state.2 (es.map (·.readdressed config)) (y u).1 (y u).2.state (x.run v).1
      (x.run v).2.state added
  rel_pure a v u h := by
    refine ⟨[], [], (List.append_nil _).symm, (List.append_nil _).symm, ?_⟩
    show Unwinds tell v.state.2 [] a u.state (.ok a) v.state []
    rw [← h]
    exact .returned rfl
  rel_bind {α β x y f g} h hf v u hvu := by
    obtain ⟨es, added, hes, hadded, hunwinds⟩ := h v u hvu
    rcases hy : y u with ⟨a, u'⟩
    rcases hx : x.run v with ⟨a', w', events⟩
    rw [hy] at hes hunwinds
    rw [hx] at hadded hunwinds
    rw [bind_of_eq (f := g) hy]
    cases a' with
    | ok a' =>
      cases hunwinds with
      -- The listeners have gone through, and both sides go on with the same answer.
      | @returned t' hheard =>
        obtain ⟨more, added, hmore, hadded', hunwinds⟩ := hf a ⟨(u'.state, t'), events⟩ u' rfl
        rw [bind_of_ok hx]
        refine ⟨es ++ more, es.map (·.readdressed config) ++ added, ?_, ?_, ?_⟩
        · rw [hmore, hes, List.append_assoc]
        · rw [hadded', hadded, List.append_assoc]
        · rw [List.map_append]
          exact .behind hheard hunwinds
    | error panic =>
      -- The silent run goes on, but what it does then is not reached.
      obtain ⟨more, -, hmore, -, -⟩ := hf a ⟨(u'.state, v.state.2), []⟩ u' rfl
      rw [bind_of_error hx]
      refine ⟨es ++ more, added, ?_, hadded, ?_⟩
      · rw [hmore, hes, List.append_assoc]
      · rw [List.map_append]
        exact hunwinds.cut _ _ _

variable {config tell}

/-- A call on the measured state is the same call with listeners beside it. -/
theorem heardBeside_call (event : α → Event) (hevent : ∀ a, (event a).progress? = none)
    (x : StateM σ α) :
    (heardBeside config tell σ).rel (watchCall event (ExceptT.lift ((measuredPart σ τ).run x)))
      (watch event x) := by
  rintro ⟨⟨w, t⟩, events⟩ ⟨_, events'⟩ rfl
  have hsame : [event (x w).1].map (·.readdressed config) = [event (x w).1] := by
    rw [List.map_singleton, Event.readdressed_of_call config (hevent _)]
  have hprogress : progressOf [event (x w).1] = [] := by simp [progressOf, hevent]
  refine ⟨[event (x w).1], [event (x w).1], rfl, rfl, ?_⟩
  rw [hsame]
  refine .returned ?_
  rw [hprogress]
  rfl

/-- What is looked up in the measured state is the same, and no event, with listeners beside it. -/
theorem heardBeside_look (x : StateM σ α) :
    (heardBeside config tell σ).rel
      (ExceptT.mk (unwatched (ExceptT.lift ((measuredPart σ τ).run x) : Unwinding _ α).run))
      (unwatched x) := by
  rintro ⟨⟨w, t⟩, events⟩ ⟨_, events'⟩ rfl
  exact ⟨[], [], (List.append_nil _).symm, (List.append_nil _).symm, .returned rfl⟩

/-- Over a hook, which nobody is told of without listeners, these go through or panic. -/
theorem heardBeside_tell (p : Progress) :
    (heardBeside config tell σ).rel
      (ExceptT.mk (watch (fun _ => .progress (p.readdressed config))
        ((reportedPart σ τ).run (tell (p.readdressed config)).run)))
      (watch (fun _ => .progress p) (pure ())) := by
  rintro ⟨⟨w, t⟩, events⟩ ⟨_, events'⟩ rfl
  refine ⟨[.progress p], [.progress (p.readdressed config)], rfl, rfl, ?_⟩
  show Unwinds tell t [.progress (p.readdressed config)] () w
    ((tell (p.readdressed config)).run t).1 (w, ((tell (p.readdressed config)).run t).2) _
  rcases htold : (tell (p.readdressed config)).run t with ⟨a, t'⟩
  cases a with
  | ok a =>
    refine .returned ?_
    exact bind_of_ok (f := pure) htold
  | error panic =>
    show Unwinds tell t _ () w (.error panic) (w, t') ([] ++ [.progress (p.readdressed config)])
    exact .panicked rfl rfl htold

end Beside

/-- **A run with reporters is the silent run, or a part of it that a panic has cut off**, whatever
the settings for reporters and whatever these do with what they hear. -/
theorem Session.run_unwinding (config : Config) (debug : Bool)
    (instrumentation : Option Instrumentation) (b : Backend (StateM σ))
    (work : Int32 → StateM σ Unit) (tell : Progress → Unwinding τ Unit) (w : σ) (t : τ) :
    let s := unwinding { config with debug, instrumentation } b work tell
    Unwinds tell t (((silent config b work).eventsFrom w).map (·.readdressed s.config))
      ((silent config b work).run w).1 ((silent config b work).run w).2
      (s.run.run (w, t)).1 (s.run.run (w, t)).2 (s.observedFrom (w, t)) := by
  intro s
  -- The settings are moved from the session to where listeners are told of them.
  have hobserved : s.observed.run =
      (toldSettings config debug instrumentation s.observed.backend s.observed.benchmark
        s.observed.notify).run :=
    run_withSettings config debug instrumentation _ _ _
  have hbackend : Backend.Related (heardBeside s.config tell σ) s.observed.backend b.watched := by
    rw [observed_backend_unwinding, b.watched_eq_within]
    exact Backend.related_within heardBeside_call heardBeside_look b
  have hrelated : Related (heardBeside s.config tell σ)
      (toldSettings config debug instrumentation s.observed.backend s.observed.benchmark
        s.observed.notify) (silent config b work).watched :=
    ⟨rfl, hbackend, fun param => heardBeside_call _ (fun _ => rfl) (work param), heardBeside_tell⟩
  obtain ⟨es, added, hes, hadded, hunwinds⟩ := related_run hrelated ⟨(w, t), []⟩ ⟨w, []⟩ rfl
  rw [← hobserved] at hadded hunwinds
  have hes : (silent config b work).eventsFrom w = es := hes
  have hadded : s.observedFrom (w, t) = added := hadded
  obtain ⟨houtcome, hstate, -⟩ := (silent config b work).run_watched ⟨w, []⟩
  obtain ⟨hanswer, hleft⟩ := s.run_observed (w, t)
  rw [hes, hadded, ← houtcome, ← hstate, ← hanswer, ← hleft]
  exact hunwinds

/-! ### Reporters that never panic -/

/-- The computation `x` does what `y` does, and never panics. -/
def lifted (τ : Type) : MonadRelation (Unwinding τ) (StateM τ) where
  rel x y := ∀ t, x.run t = (.ok (y t).1, (y t).2)
  rel_pure _ _ := rfl
  rel_bind h hf t := by
    rw [bind_of_ok (h t)]
    exact hf _ _

theorem lifted_hear (tell : Progress → StateM τ Unit) (ps : List Progress) :
    ∀ t, (hear (fun p => (ExceptT.lift (tell p) : Unwinding τ Unit)) ps).run t =
      (.ok (), heard tell ps t) := by
  induction ps with
  | nil => exact fun t => rfl
  | cons p ps ih => exact fun t => ih (tell p t).2

/-- A reported session is an unwinding one whose reporters do what they do without a panic. -/
theorem Session.related_reported (config : Config) (b : Backend (StateM σ))
    (work : Int32 → StateM σ Unit) (tell : Progress → StateM τ Unit) :
    Related (lifted (Watched (σ × τ)))
      (unwinding config b work fun p => ExceptT.lift (tell p)).observed
      (reported config b work tell).watched := by
  have hwithin : (b.change (measuredPart σ τ).run).watched =
      b.within (fun event x => watch event ((measuredPart σ τ).run x))
        (fun x => unwatched ((measuredPart σ τ).run x)) := by
    cases b <;> rfl
  refine ⟨rfl, ?_, fun _ _ => rfl, fun _ _ => rfl⟩
  show Backend.Related _ _ (b.change (measuredPart σ τ).run).watched
  rw [observed_backend_unwinding, hwithin]
  exact Backend.related_within (fun _ _ _ _ => rfl) (fun _ _ => rfl) b

/-- **A reported run is the silent run**, whatever the settings for reporters and whatever these do
with what they hear: it has the outcome of the silent run, leaves the measured in the same state,
and its events are those of the silent run, told with its own settings.  The listeners hear what is
told in these events and nothing else. -/
theorem Session.run_reported (config : Config) (debug : Bool)
    (instrumentation : Option Instrumentation) (b : Backend (StateM σ))
    (work : Int32 → StateM σ Unit) (tell : Progress → StateM τ Unit) (w : σ) (t : τ) :
    let s := reported { config with debug, instrumentation } b work tell
    (s.run (w, t)).1 = ((silent config b work).run w).1 ∧
    (s.run (w, t)).2.1 = ((silent config b work).run w).2 ∧
    s.eventsFrom (w, t) =
      ((silent config b work).eventsFrom w).map (·.readdressed s.config) ∧
    (s.run (w, t)).2.2 = heard tell (progressOf (s.eventsFrom (w, t))) t := by
  intro s
  let u := unwinding s.config b work fun p => ExceptT.lift (tell p)
  have hunwinds : Unwinds (fun p => ExceptT.lift (tell p)) t
      (((silent config b work).eventsFrom w).map (·.readdressed s.config))
      ((silent config b work).run w).1 ((silent config b work).run w).2
      (u.run.run (w, t)).1 (u.run.run (w, t)).2 (u.observedFrom (w, t)) :=
    run_unwinding config debug instrumentation b work _ w t
  have hrun : u.observed.run.run ⟨(w, t), []⟩ =
      (.ok (s.watched.run ⟨(w, t), []⟩).1, (s.watched.run ⟨(w, t), []⟩).2) :=
    related_run (related_reported s.config b work tell) ⟨(w, t), []⟩
  -- What the unwinding run does is what the reported run does, seen through the observed run.
  obtain ⟨hanswer, hstate⟩ := u.run_observed (w, t)
  obtain ⟨houtcome, hleft, -⟩ := s.run_watched ⟨(w, t), []⟩
  have hevents : u.observedFrom (w, t) = s.eventsFrom (w, t) :=
    congrArg (fun x => x.2.events) hrun
  rw [hrun, houtcome] at hanswer
  rw [hrun, hleft] at hstate
  obtain ⟨hsame, hmeasured, htold⟩ := hunwinds.eq_of_ok hanswer.symm
  have hheard := hunwinds.hear_eq
  rw [lifted_hear] at hheard
  have hheard : heard tell (progressOf (u.observedFrom (w, t))) t = (u.run.run (w, t)).2.2 :=
    congrArg Prod.snd hheard
  rw [hevents] at hheard htold
  exact ⟨hsame, hstate ▸ hmeasured, htold, hstate ▸ hheard.symm⟩

/-! ### What reporters panic over -/

namespace Reporter

variable {out : Outlets (StateM τ)} {p : Progress} {t t' : τ} {panic : Panic}

end Reporter

/-- Whatever line is printed, writing it succeeds. -/
def Outlets.Prints (out : Outlets (StateM τ)) : Prop :=
  ∀ line t, (out.diagnostics.writePieces [line, "\n"] t).1 = .ok ()

namespace Stage

theorem writeAll_diagnostics (bytes : List UInt8) (t : Stage σ) :
    (diagnosticsWriter.writeAll bytes t).1 = .ok () := by
  cases bytes with
  | nil =>
    rw [Writer.writeAll]
    rfl
  | cons b bytes =>
    have hall : (diagnosticsWriter.write (b :: bytes) t).1 = .ok (bytes.length + 1) := rfl
    have hnone : diagnosticsWriter.writeAll (m := StateM (Stage σ)) (bytes.drop bytes.length) =
        pure (.ok ()) := by
      rw [List.drop_length, Writer.writeAll]
    rw [Writer.writeAll, bind_of_answer hall]
    show (diagnosticsWriter.writeAll (bytes.drop bytes.length) _).1 = .ok ()
    rw [hnone]
    rfl

/-- The outlets of a stage print. -/
theorem prints : (channels : Channels (StateM (Stage σ))).toOutlets.Prints := by
  intro line t
  have hpieces : ∀ (pieces : List String) (t : Stage σ),
      (diagnosticsWriter.writePieces pieces t).1 = .ok () := by
    intro pieces
    induction pieces with
    | nil => exact fun t => rfl
    | cons piece pieces ih =>
      intro t
      rw [Writer.writePieces, bind_of_answer (writeAll_diagnostics (octets piece) t)]
      exact ih _
  exact hpieces _ t

end Stage

/-! ### Different reporters -/

end Stopwatch
