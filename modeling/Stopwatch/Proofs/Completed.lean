import Stopwatch.Proofs.Along

/-!
# How far a run gets

Of the iterations of a run some are completed, that is, measured and stored: all of them, or those
in front of the one that fails, or none, if the backend does not begin (`Session.Reaches`).  Their
number is counted by `Session.completed`, which plays the run iteration by iteration.

What a run reports done are exactly these iterations, each of them once and in their order
(`Session.endsOf_eventsFrom`).  Up to its rows, an iteration reports nothing done, whether it fails
or not (`mute`); what it reports behind them is its own end, and this is what the induction on the
iterations adds up.
-/

namespace Stopwatch

variable {σ : Type}

namespace Event

/-- The iteration that an event reports done. -/
def ended? : Event → Option Nat
  | progress (.iterationEnd i _) => some i
  | _ => none

end Event

/-- The iterations that events report done, in their order. -/
def endsOf (es : List Event) : List Nat := es.filterMap Event.ended?

theorem endsOf_append (es more : List Event) : endsOf (es ++ more) = endsOf es ++ endsOf more :=
  List.filterMap_append

/-! ### Completed iterations -/

namespace Session

section Completed

variable (s : Session (StateM σ)) {layout : Layout}

/-- How many of the given number of iterations, from the given one on, are completed: those in front
of the first that fails. -/
def completedFrom : (count iteration : Nat) → Frame → Recording layout s.total → σ → Nat
  | 0, _, _, _, _ => 0
  | count + 1, i, f, r, w =>
    match (s.iterate i f r).run w with
    | (.error _, _) => 0
    | (.ok (f, r), w) => completedFrom count (i + 1) f r w + 1

/-- How many iterations of a run are completed. -/
def completed (w : σ) : Nat :=
  match s.backend.init.run w with
  | (.error _, _) => 0
  | (.ok layout, w) => s.completedFrom s.total 0 {} (Recording.blank layout s.total)
      (s.notify (.runStart s.config layout) w).2

/-- `s.Reaches w n` says that the run from `w` completes `n` iterations and no more, and why. -/
inductive Reaches (w : σ) : Nat → Prop
  /-- The backend does not begin. -/
  | refused {e : BackendError} {w₁ : σ} (hinit : s.backend.init.run w = (.error e, w₁)) :
    Reaches w 0
  /-- All iterations are completed. -/
  | finished {layout : Layout} {w₁ w₂ : σ} {x : Frame × Recording layout s.total}
    (hinit : s.backend.init.run w = (.ok layout, w₁))
    (hmeasure : (s.measure s.total 0 {} (Recording.blank layout s.total)).run
      (s.notify (.runStart s.config layout) w₁).2 = (.ok x, w₂)) : Reaches w s.total
  /-- The iterations before this one are completed, and it fails. -/
  | broken {layout : Layout} {w₁ w₂ : σ} {x : Frame × Recording layout s.total} {k : Nat}
    {e : RunError} (hinit : s.backend.init.run w = (.ok layout, w₁)) (hk : k < s.total)
    (hmeasure : (s.measure k 0 {} (Recording.blank layout s.total)).run
      (s.notify (.runStart s.config layout) w₁).2 = (.ok x, w₂))
    (hfails : ((s.iterate k x.1 x.2).run w₂).1 = .error e) : Reaches w k

/-- If iteration `i` fails, so does `measure` from there on, with the same error and state. -/
theorem measure_of_fails {count i : Nat} {f : Frame} {r : Recording layout s.total} {w w' : σ}
    {e : RunError} (h : (s.iterate i f r).run w = (.error e, w')) :
    (s.measure (count + 1) i f r).run w = (.error e, w') :=
  bind_of_error h

/-- If iteration `i` goes well, `measure` goes on with `i + 1` on what it leaves. -/
theorem measure_of_goes {count i : Nat} {f : Frame} {r : Recording layout s.total} {w w' : σ}
    {x : Frame × Recording layout s.total} (h : (s.iterate i f r).run w = (.ok x, w')) :
    (s.measure (count + 1) i f r).run w = (s.measure count (i + 1) x.1 x.2).run w' :=
  bind_of_ok h

theorem completedFrom_of_fails {count i : Nat} {f : Frame} {r : Recording layout s.total} {w w' : σ}
    {e : RunError} (h : (s.iterate i f r).run w = (.error e, w')) :
    s.completedFrom (count + 1) i f r w = 0 := by
  rw [completedFrom, h]

theorem completedFrom_of_goes {count i : Nat} {f : Frame} {r : Recording layout s.total} {w w' : σ}
    {x : Frame × Recording layout s.total} (h : (s.iterate i f r).run w = (.ok x, w')) :
    s.completedFrom (count + 1) i f r w = s.completedFrom count (i + 1) x.1 x.2 w' + 1 := by
  rw [completedFrom, h]

/-- Measuring as many iterations as are completed goes well.  Either these are all of `count`, or
the one behind them fails. -/
theorem exists_measure_completedFrom (count : Nat) : ∀ (i : Nat) (f : Frame)
    (r : Recording layout s.total) (w : σ),
    ∃ x w', (s.measure (s.completedFrom count i f r w) i f r).run w = (.ok x, w') ∧
      (s.completedFrom count i f r w = count ∨ s.completedFrom count i f r w < count ∧
        ∃ e, ((s.iterate (i + s.completedFrom count i f r w) x.1 x.2).run w').1 = .error e) := by
  induction count with
  | zero => exact fun i f r w => ⟨(f, r), w, rfl, .inl rfl⟩
  | succ count ih =>
    intro i f r w
    rcases h : (s.iterate i f r).run w with ⟨e | x, w'⟩
    · rw [s.completedFrom_of_fails h]
      exact ⟨(f, r), w, rfl, .inr ⟨Nat.succ_pos _, e, by rw [Nat.add_zero, h]⟩⟩
    · obtain ⟨y, w'', hmeasure, hend⟩ := ih (i + 1) x.1 x.2 w'
      rw [s.completedFrom_of_goes h]
      refine ⟨y, w'', (s.measure_of_goes h).trans hmeasure, ?_⟩
      rw [Nat.add_right_comm] at hend
      exact hend.imp (congrArg (· + 1)) fun ⟨hlt, hfails⟩ => ⟨Nat.succ_lt_succ hlt, hfails⟩

/-- **A run gets as far as its completed iterations**: `Reaches` holds of their number. -/
theorem reaches_completed (w : σ) : s.Reaches w (s.completed w) := by
  rcases hinit : s.backend.init.run w with ⟨e | layout, w₁⟩
  · have hnone : s.completed w = 0 := by rw [completed, hinit]
    rw [hnone]
    exact .refused hinit
  · have hcompleted : s.completed w = s.completedFrom s.total 0 {} (Recording.blank layout s.total)
        (s.notify (.runStart s.config layout) w₁).2 := by rw [completed, hinit]
    obtain ⟨x, w₂, hmeasure, hend⟩ := s.exists_measure_completedFrom s.total 0 {}
      (Recording.blank layout s.total) (s.notify (.runStart s.config layout) w₁).2
    rw [← hcompleted] at hmeasure hend
    rcases hend with hall | ⟨hlt, e, hfails⟩
    · rw [hall] at hmeasure ⊢
      exact .finished hinit hmeasure
    · rw [Nat.zero_add] at hfails
      exact .broken hinit hlt hmeasure hfails

end Completed

end Session

/-! ### What is reported done -/

/-- The watched computation `x` does what `y` does and reports nothing done. -/
def mute (σ : Type) : MonadRelation (StateM (Watched σ)) (StateM σ) where
  rel x y := ∀ v, (x v).1 = (y v.state).1 ∧ (x v).2.state = (y v.state).2 ∧
    endsOf (x v).2.events = endsOf v.events
  rel_pure _ _ := ⟨rfl, rfl, rfl⟩
  rel_bind {α β x y f g} h hf v := by
    obtain ⟨hanswer, hstate, hends⟩ := h v
    obtain ⟨hanswer', hstate', hends'⟩ := hf (x v).1 (x v).2
    have hx : (x >>= f) v = f (x v).1 (x v).2 := bind_of_eq rfl
    have hy : (y >>= g) v.state = g (x v).1 (x v).2.state :=
      bind_of_eq (Prod.ext hanswer.symm hstate.symm)
    rw [hx, hy]
    exact ⟨hanswer', hstate', hends'.trans hends⟩

theorem mute_watch {α : Type} {event : α → Event} (hevent : ∀ a, (event a).ended? = none)
    (x : StateM σ α) : (mute σ).rel (watch event x) x := fun v => by
  have hends : endsOf [event (x v.state).1] = [] := List.filterMap_cons_none (hevent _)
  refine ⟨rfl, rfl, ?_⟩
  show endsOf (v.events ++ [event (x v.state).1]) = _
  rw [endsOf_append, hends, List.append_nil]

/-- A watched backend reports nothing done. -/
theorem mute_backend (b : Backend (StateM σ)) : Backend.Related (mute σ) b.watched b := by
  have hcall {α : Type} {event : Except BackendError α → Event}
      (hevent : ∀ a, (event a).ended? = none) (x : Answer (StateM σ) α) :
      (mute σ).relExcept (x.watched event) x := mute_watch hevent x.run
  cases b with
  | clock c => exact .clock (hcall (fun _ => rfl) _)
  | cycles c => exact .cycles (hcall (fun _ => rfl) _) (hcall (fun _ => rfl) _)
  | perf c =>
    exact .perf (hcall (fun _ => rfl) _) (hcall (fun _ => rfl) _) (hcall (fun _ => rfl) _)
      (hcall (fun _ => rfl) _)
  | snapshot s =>
    exact .snapshot (hcall (fun _ => rfl) _) (fun v => ⟨rfl, rfl, rfl⟩)
      (fun _ => hcall (fun _ => rfl) _) (fun _ _ _ => hcall (fun _ => rfl) _)
      (hcall (fun _ => rfl) _)

namespace Session

section Ends

variable (s : Session (StateM σ)) {layout : Layout}

/-- An iteration up to where it is reported done. -/
def attempt (i : Nat) (f : Frame) (r : Recording layout s.total) :
    Step (StateM σ) (Frame × Recording layout s.total) := do
  let f ← s.bracket i f
  let r ← s.writeRows f i (List.finRange layout.rowCount) r
  pure (f, r)

theorem iterate_eq_attempt (i : Nat) (f : Frame) (r : Recording layout s.total) :
    s.iterate i f r = s.attempt i f r >>= fun x =>
      ExceptT.lift (s.notify (.iterationEnd i s.total)) >>= fun _ => pure x := by
  simp only [iterate, attempt, bind_assoc, pure_bind]

variable {s} {i count : Nat} {f : Frame} {r : Recording layout s.total} {w' : σ}

theorem iterate_of_error {w : σ} {e : RunError} (h : (s.attempt i f r).run w = (.error e, w')) :
    (s.iterate i f r).run w = (.error e, w') := by
  rw [iterate_eq_attempt]
  exact bind_of_error h

theorem iterate_of_ok {w : σ} {x : Frame × Recording layout s.total}
    (h : (s.attempt i f r).run w = (.ok x, w')) :
    (s.iterate i f r).run w = (.ok x, (s.notify (.iterationEnd i s.total) w').2) := by
  rw [iterate_eq_attempt]
  exact bind_of_ok h

/-- A watched `attempt` has the answer of the attempt and reports nothing done. -/
theorem attempt_watched (v : Watched σ) {a : Except RunError (Frame × Recording layout s.total)}
    (h : (s.attempt i f r).run v.state = (a, w')) :
    ∃ v', (s.watched.attempt i f r).run v = (a, v') ∧ v'.state = w' ∧
      endsOf v'.events = endsOf v.events := by
  have hmute : (mute σ).relExcept (s.watched.attempt i f r) (s.attempt i f r) := by
    refine MonadRelation.relExcept_bind ((mute_backend s.backend).bracket
      (fun _ => mute_watch (fun _ => rfl) _) i (mute_watch (fun _ => rfl) _) f) fun f => ?_
    refine MonadRelation.relExcept_bind ((mute_backend s.backend).writeRows f i _ r) fun r => ?_
    exact MonadRelation.relExcept_pure _
  obtain ⟨hanswer, hstate, hends⟩ := hmute v
  have hsame := congrArg Prod.fst h
  exact ⟨_, Prod.ext (hanswer.trans hsame) rfl, hstate.trans (congrArg Prod.snd h), hends⟩

/-- **An iteration is reported done** if it goes well, and nothing is if it fails. -/
theorem iterate_watched (v : Watched σ) {a : Except RunError (Frame × Recording layout s.total)}
    (h : (s.iterate i f r).run v.state = (a, w')) :
    ∃ v', (s.watched.iterate i f r).run v = (a, v') ∧ v'.state = w' ∧
      endsOf v'.events = endsOf v.events ++
        match a with
        | .ok _ => [i]
        | .error _ => [] := by
  -- All that an iteration does behind its attempt is to report itself done.
  rcases hattempt : (s.attempt i f r).run v.state with ⟨e | x, w₁⟩
  · obtain ⟨v₁, hwatched, hstate, hends⟩ := attempt_watched v hattempt
    obtain ⟨rfl, rfl⟩ := Prod.mk.inj (h.symm.trans (iterate_of_error hattempt))
    exact ⟨v₁, iterate_of_error hwatched, hstate, hends.trans (List.append_nil _).symm⟩
  · obtain ⟨v₁, hwatched, rfl, hends⟩ := attempt_watched v hattempt
    obtain ⟨rfl, rfl⟩ := Prod.mk.inj (h.symm.trans (iterate_of_ok hattempt))
    refine ⟨_, iterate_of_ok hwatched, rfl, ?_⟩
    show endsOf (v₁.events ++ [.progress (.iterationEnd i s.total)]) = _
    rw [endsOf_append, hends]
    rfl

/-- **The iterations that are reported done are the completed ones**, counted from `i` on. -/
theorem measure_watched : ∀ {count i : Nat} {f : Frame} {r : Recording layout s.total}
    (v : Watched σ) {a : Except RunError (Frame × Recording layout s.total)} {w' : σ},
    (s.measure count i f r).run v.state = (a, w') →
    ∃ v', (s.watched.measure count i f r).run v = (a, v') ∧ v'.state = w' ∧
      endsOf v'.events = endsOf v.events ++
        List.range' i (s.completedFrom count i f r v.state) := by
  intro count
  -- The first iteration adds its own end, if it goes well, and the others add theirs.
  induction count with
  | zero =>
    intro i f r v a w' h
    obtain ⟨rfl, rfl⟩ := Prod.mk.inj h
    exact ⟨v, rfl, rfl, (List.append_nil _).symm⟩
  | succ count ih =>
    intro i f r v a w' h
    rcases hiterate : (s.iterate i f r).run v.state with ⟨e | x, w₁⟩
    · obtain ⟨v₁, hwatched, hstate, hends⟩ := iterate_watched v hiterate
      obtain ⟨rfl, rfl⟩ := Prod.mk.inj (h.symm.trans (s.measure_of_fails hiterate))
      rw [s.completedFrom_of_fails hiterate]
      exact ⟨v₁, s.watched.measure_of_fails hwatched, hstate, hends⟩
    · obtain ⟨v₁, hwatched, rfl, hends⟩ := iterate_watched v hiterate
      obtain ⟨v', hmeasure, hstate, hrest⟩ := ih v₁ ((s.measure_of_goes hiterate).symm.trans h)
      refine ⟨v', (s.watched.measure_of_goes hwatched).trans hmeasure, hstate, ?_⟩
      rw [hrest, hends, s.completedFrom_of_goes hiterate, List.range'_succ, List.append_assoc]
      rfl

theorem run_of_refused {w : σ} {e : BackendError} (h : s.backend.init.run w = (.error e, w')) :
    s.run w = (.refused e, w') :=
  bind_of_eq h

/-- If the backend begins, the run is `measure` and then `close` on what it leaves. -/
theorem run_of_begun {w : σ} (h : s.backend.init.run w = (.ok layout, w')) :
    s.run w =
      let measured := (s.measure s.total 0 {} (Recording.blank layout s.total)).run
        (s.notify (.runStart s.config layout) w').2
      s.close measured.1 measured.2 :=
  bind_of_eq h

theorem init_watched {w : σ} {a : Except BackendError Layout}
    (h : s.backend.init.run w = (a, w')) :
    ∃ v, s.watched.backend.init.run ⟨w, []⟩ = (a, v) ∧ v.state = w' ∧ endsOf v.events = [] := by
  obtain ⟨hanswer, hstate, hends⟩ := (mute_backend s.backend).init ⟨w, []⟩
  exact ⟨_, Prod.ext (hanswer.trans (congrArg Prod.fst h)) rfl, hstate.trans (congrArg Prod.snd h),
    hends⟩

/-- **A run reports done the iterations that are completed**, each once and in their order. -/
theorem endsOf_eventsFrom (s : Session (StateM σ)) (w : σ) :
    endsOf (s.eventsFrom w) = List.range (s.completed w) := by
  rcases hinit : s.backend.init.run w with ⟨e | layout, w₁⟩
  · obtain ⟨v, hwatched, -, hends⟩ := init_watched hinit
    rw [completed, hinit, eventsFrom, run_of_refused hwatched]
    exact hends
  · obtain ⟨v, hwatched, rfl, hends⟩ := init_watched hinit
    -- Neither the start nor the end of the run reports an iteration done.
    have hstart : (mute σ).rel (s.watched.notify (.runStart s.config layout))
      (s.notify (.runStart s.config layout)) := mute_watch (fun _ => rfl) _
    rcases hmeasure : (s.measure s.total 0 {} (Recording.blank layout s.total)).run
      (s.notify (.runStart s.config layout) v.state).2 with ⟨a, w₂⟩
    obtain ⟨v', hmeasured, -, hreported⟩ := measure_watched
      (s.watched.notify (.runStart s.config layout) v).2 hmeasure
    have hclose : (mute σ).rel (s.watched.close a) (s.close a) :=
      (mute_backend s.backend).close (fun _ => mute_watch (fun _ => rfl) _) a
    have hrun : s.watched.run ⟨w, []⟩ = s.watched.close a v' := by
      refine (run_of_begun hwatched).trans ?_
      exact congrArg (fun measured => s.watched.close measured.1 measured.2) hmeasured
    calc
      endsOf (s.eventsFrom w) = endsOf (s.watched.close a v').2.events := by
        rw [eventsFrom, hrun]
      _ = endsOf v'.events := (hclose v').2.2
      _ = List.range' 0 (s.completed w) := by
        rw [hreported, (hstart v).2.2, hends, completed, hinit]
        rfl
      _ = List.range (s.completed w) := List.range_eq_range'.symm

end Ends

end Session

end Stopwatch
