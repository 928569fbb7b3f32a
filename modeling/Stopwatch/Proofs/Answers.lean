import Stopwatch.Proofs.Watch

/-!
# A run by its answers

What a run does is settled by the answers that it gets.  `Answers` is a table of them: what `init`,
`shutdown` and the number of cores are, and for each iteration a `Turn`, which holds an answer to
every call that can be made in it.  From such a table everything that can be seen of a run is read
off without running anything.

* `Turn.items` lists what there is to do in an iteration, in the order in which it is done: calls,
  and the deltas that are judged and written in between.  `Answers.schedule` is the whole list.
* `firstFailure` is the first thing in a list that fails.  Whatever stands behind it is not done:
  `told` are the calls up to there, that one included.
* `Answers.trace` and `Answers.outcome` are the events and the outcome that belong to the table.

That every run is the run of some table is the content of `Stopwatch.Proofs.Conduct`.
-/

namespace Stopwatch

/-! ### Kinds of backend -/

/-- The kinds of backend. -/
inductive Kind
  | clock
  | cycles
  | perf
  | snapshot
  deriving DecidableEq, Repr

/-- The kind of a backend. -/
def Backend.kind {m : Type → Type} : Backend m → Kind
  | clock _ => .clock
  | cycles _ => .cycles
  | perf _ => .perf
  | snapshot _ => .snapshot

namespace Kind

/-- The metrics whose readings are filed in the frame. -/
def framed : Kind → List Metric
  | clock => [.wallclock]
  | cycles => [.wallclock, .coreCycles]
  | perf => Metric.all
  | snapshot => []

/-- The layout that a backend of the kind announces. -/
def layout : Kind → Nat → Layout
  | clock, _ => .singleCore [.wallclock]
  | cycles, _ => .singleCore [.wallclock, .coreCycles]
  | perf, _ => .singleCore Metric.all
  | snapshot, cores => .multiCore cores

end Kind

/-! ### The answers of an iteration -/

/-- An answer to every call on one side of a benchmark call. -/
structure Side where
  now : Except BackendError Double
  cycles : Except BackendError UInt64
  aperf : Except BackendError UInt64
  mperf : Except BackendError UInt64
  mark : Except BackendError Unit

namespace Side

/-- Everything is zero. -/
def idle : Side := ⟨.ok .zero, .ok 0, .ok 0, .ok 0, .ok ()⟩

/-- What is read for a metric. -/
def read (t : Side) : Metric → Except BackendError Reading
  | .wallclock => t.now.map .seconds
  | .coreCycles => t.cycles.map .count
  | .aperf => t.aperf.map .count
  | .mperf => t.mperf.map .count

/-- The calls of one side, in their order: the clock is read last before the benchmark and first
after it, and the performance counters keep their order. -/
def calls (t : Side) : Kind → Slot → List Event
  | .clock, _ => [.now t.now]
  | .cycles, .before => [.cycles t.cycles, .now t.now]
  | .cycles, .after => [.now t.now, .cycles t.cycles]
  | .perf, .before => [.aperf t.aperf, .mperf t.mperf, .cycles t.cycles, .now t.now]
  | .perf, .after => [.now t.now, .cycles t.cycles, .aperf t.aperf, .mperf t.mperf]
  | .snapshot, slot => [.mark slot t.mark]

end Side

/-- An answer to every call of one iteration. -/
structure Turn where
  before : Side
  after : Side
  /-- What a snapshot backend hands out for a row. -/
  reading : Slot → RowKey → Except BackendError Reading

namespace Turn

/-- Everything is zero. -/
def idle : Turn := ⟨.idle, .idle, fun _ _ => .ok (.count 0)⟩

/-- The answers of one side. -/
def side (t : Turn) : Slot → Side
  | .before => t.before
  | .after => t.after

/-- The reading of a row on one side, wherever the kind of backend has it from. -/
def taken (t : Turn) : Kind → Slot → RowKey → Except BackendError Reading
  | .snapshot, slot, key => t.reading slot key
  | _, slot, key => (t.side slot).read key.1

/-- The delta of a row: that of its reading before and its reading after the benchmark call. -/
def delta (t : Turn) (k : Kind) (key : RowKey) : Except RunError Double := do
  let start ← (t.taken k .before key).mapError .backend
  let stop ← (t.taken k .after key).mapError .backend
  (Sample.mk key.1 key.2 start stop).delta.mapError .measure

end Turn

/-- `mapError` makes no success. -/
theorem eq_ok_of_mapError {ε ε' α : Type} {x : Except ε α} {f : ε → ε'} {a : α}
    (h : x.mapError f = .ok a) : x = .ok a := by
  cases x with
  | error e => cases h
  | ok b => exact congrArg Except.ok (Except.ok.inj h)

/-! ### Lists of things to do -/

/-- The failure in an answer. -/
def failureOf {α : Type} : Except BackendError α → Option RunError
  | .ok _ => none
  | .error e => some (.backend e)

/-- The failure of an event. -/
def Event.failure : Event → Option RunError
  | init a => failureOf a
  | now a => failureOf a
  | cycles a => failureOf a
  | aperf a => failureOf a
  | mperf a => failureOf a
  | mark _ a => failureOf a
  | reading _ _ _ a => failureOf a
  | shutdown a => failureOf a
  | benchmark _ => none
  | progress _ => none

/-- Something to do in a run. -/
inductive Item
  /-- A call of one of the parties. -/
  | call (e : Event)
  /-- The delta of a row is judged and written. -/
  | delta (key : RowKey) (value : Except RunError Double)

namespace Item

/-- The failure of an item. -/
def failure : Item → Option RunError
  | call e => e.failure
  | delta _ (.error e) => some e
  | delta _ (.ok _) => none

/-- The event of an item that can be seen from outside. -/
def event? : Item → Option Event
  | call e => some e
  | delta .. => none

end Item

/-- The first failure in a list. -/
def firstFailure (items : List Item) : Option RunError := items.findSome? Item.failure

/-- A list up to its first failure, which is the last item left. -/
def untilFailure : List Item → List Item
  | [] => []
  | x :: xs => if x.failure.isSome then [x] else x :: untilFailure xs

/-- The events of a list. -/
def eventsOf (items : List Item) : List Event := items.filterMap Item.event?

/-- The events that happen when a list is done one by one until something fails. -/
def told (items : List Item) : List Event := eventsOf (untilFailure items)

theorem firstFailure_append (xs ys : List Item) :
    firstFailure (xs ++ ys) = (firstFailure xs).or (firstFailure ys) := List.findSome?_append

theorem firstFailure_eq_none {items : List Item} :
    firstFailure items = none ↔ ∀ x ∈ items, x.failure = none := List.findSome?_eq_none_iff

/-- Block by block: the first failure of a `flatMap` is that of the first block that has one. -/
theorem firstFailure_flatMap {α : Type} (xs : List α) (f : α → List Item) :
    firstFailure (xs.flatMap f) = xs.findSome? fun x => firstFailure (f x) := by
  induction xs with
  | nil => rfl
  | cons x xs ih =>
    rw [List.flatMap_cons, firstFailure_append, List.findSome?_cons, ih]
    -- If this block fails, the blocks behind it are not looked at, on either side.
    cases firstFailure (f x) <;> rfl

theorem firstFailure_calls {es : List Event} :
    firstFailure (es.map .call) = none ↔ ∀ e ∈ es, e.failure = none := by
  rw [firstFailure_eq_none, List.forall_mem_map]
  rfl

/-- A call that cannot fail is not the first failure. -/
theorem firstFailure_cons {e : Event} (he : e.failure = none) (xs : List Item) :
    firstFailure (.call e :: xs) = firstFailure xs := by
  rw [firstFailure, List.findSome?_cons, Item.failure, he]
  rfl

theorem eventsOf_append (xs ys : List Item) : eventsOf (xs ++ ys) = eventsOf xs ++ eventsOf ys :=
  List.filterMap_append

/-- If `xs` fails, nothing behind it is done. -/
theorem untilFailure_append_of_some {xs : List Item} {e : RunError} (h : firstFailure xs = some e)
    (ys : List Item) : untilFailure (xs ++ ys) = untilFailure xs := by
  induction xs with
  | nil => cases h
  | cons x xs ih =>
    rw [firstFailure, List.findSome?_cons] at h
    rw [List.cons_append, untilFailure, untilFailure]
    -- Either `x` is the failure, and both lists end with it, or it is somewhere behind `x`.
    cases hx : x.failure with
    | some e' => rfl
    | none =>
      rw [hx] at h
      simp only [Option.isSome_none, Bool.false_eq_true, ↓reduceIte, ih h]

/-- If `xs` does not fail, all of it is done, and what is behind it up to its first failure. -/
theorem untilFailure_append_of_none {xs : List Item} (h : firstFailure xs = none)
    (ys : List Item) : untilFailure (xs ++ ys) = xs ++ untilFailure ys := by
  induction xs with
  | nil => rfl
  | cons x xs ih =>
    rw [firstFailure, List.findSome?_cons] at h
    rw [List.cons_append, List.cons_append, untilFailure]
    cases hx : x.failure with
    | some e' => rw [hx] at h; cases h
    | none =>
      rw [hx] at h
      simp only [Option.isSome_none, Bool.false_eq_true, ↓reduceIte, ih h]

theorem told_append_of_some {xs : List Item} {e : RunError} (h : firstFailure xs = some e)
    (ys : List Item) : told (xs ++ ys) = told xs := by
  rw [told, untilFailure_append_of_some h, told]

theorem told_append_of_none {xs : List Item} (h : firstFailure xs = none) (ys : List Item) :
    told (xs ++ ys) = eventsOf xs ++ told ys := by
  rw [told, untilFailure_append_of_none h, eventsOf_append, told]

theorem told_of_none {xs : List Item} (h : firstFailure xs = none) : told xs = eventsOf xs := by
  have hnil : told [] = [] := rfl
  have happ := told_append_of_none h []
  rwa [List.append_nil, hnil, List.append_nil] at happ

/-! ### What there is to do -/

namespace Turn

/-- The calls for a row: a snapshot backend is asked for both readings. -/
def readings (t : Turn) (k : Kind) (key : RowKey) : List Event :=
  match k with
  | .snapshot =>
    [.reading .before (key.2.getD 0) key.1 (t.reading .before key),
      .reading .after (key.2.getD 0) key.1 (t.reading .after key)]
  | _ => []

/-- What is done for a row: its readings are got, and its delta is judged and written. -/
def rowItems (t : Turn) (k : Kind) (key : RowKey) : List Item :=
  (t.readings k key).map .call ++ [.delta key (t.delta k key)]

/-- What is done around the benchmark call. -/
def bracketItems (t : Turn) (k : Kind) (c : Config) (i : Nat) : List Item :=
  .call (.progress (.iterationStart i c.iterations)) ::
    ((t.before.calls k .before).map .call ++
      .call (.benchmark c.param) :: (t.after.calls k .after).map .call)

/-- What is done in an iteration. -/
def items (t : Turn) (k : Kind) (c : Config) (layout : Layout) (i : Nat) : List Item :=
  t.bracketItems k c i ++ layout.rowKeys.flatMap (t.rowItems k) ++
    [.call (.progress (.iterationEnd i c.iterations))]

end Turn

/-! ### The answers of a run -/

namespace Kind

/-- How the beginning goes.  Only a snapshot backend has something to begin and cores to look up. -/
def begun (k : Kind) (init : Except BackendError Unit) (cores : Nat) : Except BackendError Layout :=
  match k with
  | snapshot => init.map fun _ => .multiCore cores
  | k => .ok (k.layout 0)

/-- How the end goes; only a snapshot backend has something to end. -/
def ended : Kind → Except BackendError Unit → Except BackendError Unit
  | snapshot, shutdown => shutdown
  | _, _ => .ok ()

/-- The calls at the beginning. -/
def opening : Kind → Except BackendError Unit → List Event
  | snapshot, answer => [.init answer]
  | _, _ => []

/-- The calls at the end. -/
def closing : Kind → Except BackendError Unit → List Event
  | snapshot, answer => [.shutdown answer]
  | _, _ => []

end Kind

/-- The outcome of a run from what came of the iterations and how the backend ended. -/
def conclusion {layout : Layout} {n : Nat} :
    Except RunError (Recording layout n) → Except BackendError Unit → Outcome n
  | .error e, .ok () => .aborted e none
  | .error e, .error e' => .aborted e (some e')
  | .ok _, .error e => .unclosed e
  | .ok r, .ok () => .completed layout r

/-- What listeners are told after the backend ended. -/
def epilogue {layout : Layout} {n : Nat} :
    Except RunError (Recording layout n) → Except BackendError Unit → List Event
  | .ok r, .ok () => [.progress (.runEnd layout n r)]
  | _, _ => []

/-- An answer to every call of a run. -/
structure Answers where
  init : Except BackendError Unit
  /-- The number of cores, known after `init`. -/
  cores : Nat
  turn : Nat → Turn
  shutdown : Except BackendError Unit

namespace Answers

variable (h : Answers) (k : Kind) (c : Config)

/-- How the beginning goes. -/
def begun : Except BackendError Layout := k.begun h.init h.cores

/-- How the end goes. -/
def ended : Except BackendError Unit := k.ended h.shutdown

/-- The calls at the beginning. -/
def opening : List Event := k.opening h.init

/-- The calls at the end. -/
def closing : List Event := k.closing h.shutdown

/-- What there is to do in the iterations. -/
def items (layout : Layout) : List Item :=
  (List.range c.iterations).flatMap fun i => (h.turn i).items k c layout i

/-- Everything that can fail in a run, in its order. -/
def schedule : List Item :=
  (h.opening k).map .call ++
    (match h.begun k with
      | .error _ => []
      | .ok layout => h.items k c layout) ++
    (h.closing k).map .call

/-- The recording that holds the delta of each row and iteration. -/
def recording (layout : Layout) (n : Nat) : Recording layout n :=
  ⟨Vector.ofFn fun row => ⟨Vector.ofFn fun i =>
    ((h.turn i).delta k (layout.rowKey row)).toOption.getD sentinel, n⟩⟩

/-- What comes of the iterations. -/
def measured (layout : Layout) : Except RunError (Recording layout c.iterations) :=
  match firstFailure (h.items k c layout) with
  | some e => .error e
  | none => .ok (h.recording k layout c.iterations)

/-- How a run with these answers ends. -/
def outcome : Outcome c.iterations :=
  match h.begun k with
  | .error e => .refused e
  | .ok layout => conclusion (h.measured k c layout) (h.ended k)

/-- What happens in a run with these answers.  After the beginning listeners are told that the run
starts; what there is to do is done up to the first failure; whether or not there was one, the
backend is shut down once; and listeners are told of the end if nothing failed at all. -/
def trace : List Event :=
  h.opening k ++
    match h.begun k with
    | .error _ => []
    | .ok layout =>
      .progress (.runStart c layout) :: (told (h.items k c layout) ++
        (h.closing k ++ epilogue (h.measured k c layout) (h.ended k)))

end Answers

end Stopwatch
