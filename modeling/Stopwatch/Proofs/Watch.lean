import Stopwatch.Proofs.Relation

/-!
# Watching a run

An `Event` is one thing that passes between a run and its parties, with the answer that came back: a
call of the backend, a call of the benchmark, or what a listener is told.  `Session.watched` is a
session whose events are noted beside the state of its parties, in the order in which they happen;
`Session.eventsFrom` are the events of its run.

Watching has no influence (`Session.run_watched`): the run ends as it would end unwatched, its
parties are left in the same state, and nothing that was noted is lost.

The number of cores is not an event.  It is looked up, not asked for, and it is found again in the
layout that listeners are told at the start.
-/

namespace Stopwatch

/-- What passes between a run and its parties, with the answer. -/
inductive Event
  | init (answer : Except BackendError Unit)
  | now (answer : Except BackendError Double)
  | cycles (answer : Except BackendError UInt64)
  | aperf (answer : Except BackendError UInt64)
  | mperf (answer : Except BackendError UInt64)
  | mark (slot : Slot) (answer : Except BackendError Unit)
  | reading (slot : Slot) (core : Nat) (metric : Metric) (answer : Except BackendError Reading)
  | shutdown (answer : Except BackendError Unit)
  | benchmark (param : Int32)
  | progress (p : Progress)

/-- The state of the parties of a run, and the events so far. -/
structure Watched (σ : Type) where
  state : σ
  events : List Event := []

section Watch

variable {σ α : Type}

/-- Do something, and note it with its answer. -/
def watch (event : α → Event) (x : StateM σ α) : StateM (Watched σ) α := fun w =>
  ((x w.state).1, ⟨(x w.state).2, w.events ++ [event (x w.state).1]⟩)

/-- Do something that is not noted. -/
def unwatched (x : StateM σ α) : StateM (Watched σ) α := fun w =>
  ((x w.state).1, ⟨(x w.state).2, w.events⟩)

/-- Ask something of a backend, and note it with its answer. -/
def Answer.watched (event : Except BackendError α → Event) (x : Answer (StateM σ) α) :
    Answer (StateM (Watched σ)) α :=
  ExceptT.mk (watch event x.run)

def Clock.watched (c : Clock (StateM σ)) : Clock (StateM (Watched σ)) := ⟨c.now.watched .now⟩

def CycleCounter.watched (c : CycleCounter (StateM σ)) : CycleCounter (StateM (Watched σ)) :=
  ⟨c.toClock.watched, c.cycles.watched .cycles⟩

def PerfCounters.watched (c : PerfCounters (StateM σ)) : PerfCounters (StateM (Watched σ)) :=
  ⟨c.toCycleCounter.watched, c.aperf.watched .aperf, c.mperf.watched .mperf⟩

def Snapshot.watched (s : Snapshot (StateM σ)) : Snapshot (StateM (Watched σ)) where
  init := s.init.watched .init
  cores := unwatched s.cores
  mark slot := (s.mark slot).watched (.mark slot)
  reading slot core metric := (s.reading slot core metric).watched (.reading slot core metric)
  shutdown := s.shutdown.watched .shutdown

/-- A backend whose calls are noted. -/
def Backend.watched : Backend (StateM σ) → Backend (StateM (Watched σ))
  | clock c => clock c.watched
  | cycles c => cycles c.watched
  | perf c => perf c.watched
  | snapshot s => snapshot s.watched

/-- A session whose events are noted. -/
def Session.watched (s : Session (StateM σ)) : Session (StateM (Watched σ)) where
  config := s.config
  backend := s.backend.watched
  benchmark param := watch (fun _ => .benchmark param) (s.benchmark param)
  notify p := watch (fun _ => .progress p) (s.notify p)

/-- The events of a run, in their order. -/
def Session.eventsFrom (s : Session (StateM σ)) (state : σ) : List Event :=
  (s.watched.run ⟨state, []⟩).2.events

end Watch

/-! ### Watching has no influence -/

section Influence

variable {σ : Type}

/-- A computation on a watched state does to the state what another one does to it unwatched, and
only adds to the events. -/
def watchedRelation (σ : Type) : MonadRelation (StateM (Watched σ)) (StateM σ) where
  rel x y := ∀ w, (x w).1 = (y w.state).1 ∧ (x w).2.state = (y w.state).2 ∧
    w.events <+: (x w).2.events
  rel_pure a w := ⟨rfl, rfl, List.prefix_rfl⟩
  rel_bind {α β x y f g} h hf w := by
    obtain ⟨hanswer, hstate, hevents⟩ := h w
    obtain ⟨hanswer', hstate', hevents'⟩ := hf (x w).1 (x w).2
    show (f (x w).1 (x w).2).1 = (g (y w.state).1 (y w.state).2).1 ∧
      (f (x w).1 (x w).2).2.state = (g (y w.state).1 (y w.state).2).2 ∧
      w.events <+: (f (x w).1 (x w).2).2.events
    -- Both go on from the same answer in the same state.
    rw [← hanswer, ← hstate]
    exact ⟨hanswer', hstate', hevents.trans hevents'⟩

theorem related_watch {α : Type} (event : α → Event) (x : StateM σ α) :
    (watchedRelation σ).rel (watch event x) x := fun w =>
  ⟨rfl, rfl, List.prefix_append w.events _⟩

theorem related_watched (b : Backend (StateM σ)) :
    Backend.Related (watchedRelation σ) b.watched b := by
  cases b with
  | clock c => exact .clock (related_watch _ _)
  | cycles c => exact .cycles (related_watch _ _) (related_watch _ _)
  | perf c =>
    exact .perf (related_watch _ _) (related_watch _ _) (related_watch _ _) (related_watch _ _)
  | snapshot s =>
    exact .snapshot (related_watch _ _) (fun w => ⟨rfl, rfl, List.prefix_rfl⟩)
      (fun _ => related_watch _ _) (fun _ _ _ => related_watch _ _) (related_watch _ _)

/-- **Watching has no influence**: a watched run has the outcome of the run, leaves its parties in
the same state, and only adds to the events. -/
theorem Session.run_watched (s : Session (StateM σ)) (w : Watched σ) :
    (s.watched.run w).1 = (s.run w.state).1 ∧ (s.watched.run w).2.state = (s.run w.state).2 ∧
      w.events <+: (s.watched.run w).2.events := by
  have h : Session.Related (watchedRelation σ) s.watched s :=
    ⟨rfl, related_watched s.backend, fun _ => related_watch _ _, fun _ => related_watch _ _⟩
  exact Session.related_run h w

end Influence

end Stopwatch
