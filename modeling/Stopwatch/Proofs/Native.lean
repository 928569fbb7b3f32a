import Stopwatch.Proofs.Along
import Stopwatch.Proofs.Bindings
import Stopwatch.Proofs.Sending

/-!
# Calls of a measurement library

A `NativeCall` is one call of a function of a measurement library.  The calls are noted beside the
state of the library (`MeasurementLibrary.noted`), and what comes of a use of the library is not
influenced by that.

Which calls are made is a matter of what is known of the library and of what it is used for:
`Binding.Step` says for each event what is called, and what is known afterwards.  A session on a
noted library goes along with the watched session on the library itself
(`MeasurementLibrary.related_noted`), so the calls that are noted in a run are those of its events,
one step after the other (`Binding.Steps`).
-/

namespace Stopwatch

/-- A call of a measurement library. -/
inductive NativeCall
  | init
  | done
  | measure (side : Int32)
  | coreCount (answer : Int32)
  | wallclock (side : Int32)
  | coreCycles (side core : Int32)
  | aperf (side core : Int32)
  | mperf (side core : Int32)
  deriving DecidableEq

/-- The call that gets a reading. -/
def NativeCall.getter (slot : Slot) (core : Nat) : Metric → NativeCall
  | .wallclock => wallclock slot.number
  | .coreCycles => coreCycles slot.number (Int32.ofNat core)
  | .aperf => aperf slot.number (Int32.ofNat core)
  | .mperf => mperf slot.number (Int32.ofNat core)

variable {ρ : Type}

/-- A library whose calls are noted. -/
def MeasurementLibrary.noted (l : MeasurementLibrary (StateM ρ)) :
    MeasurementLibrary (StateM (Noted ρ NativeCall)) where
  init := noting (fun _ => .init) l.init
  done := noting (fun _ => .done) l.done
  measure side := noting (fun _ => .measure side) (l.measure side)
  coreCount := noting .coreCount l.coreCount
  wallclock side := noting (fun _ => .wallclock side) (l.wallclock side)
  coreCycles side core := noting (fun _ => .coreCycles side core) (l.coreCycles side core)
  aperf side core := noting (fun _ => .aperf side core) (l.aperf side core)
  mperf side core := noting (fun _ => .mperf side core) (l.mperf side core)

/-! ### Steps -/

namespace Binding

/-- `Step b e calls b'` says that the event `e`, met with `b` known of the library, makes these
calls of it and leaves `b'` known. -/
inductive Step : Binding → Event → List NativeCall → Binding → Prop
  -- `init` always makes its two calls, begun or not.
  | begun {b : Binding} {count : Int32} (hcount : 0 ≤ count.toInt) :
    Step b (.init (.ok ())) [.init, .coreCount count] ⟨count.toInt.toNat, true⟩
  /-- A negative number of cores is refused when the library is begun already. -/
  | uncounted {b : Binding} {count : Int32} (hcount : count.toInt < 0) :
    Step b (.init (.error (.invalidCoreCount count.toInt))) [.init, .coreCount count] b
  -- `mark` and `reading` make one call or none, and change nothing that is known.
  | marked {b : Binding} (hb : b.initialised = true) (slot : Slot) :
    Step b (.mark slot (.ok ())) [.measure slot.number] b
  | unmarked {b : Binding} (hb : b.initialised = false) (slot : Slot) :
    Step b (.mark slot (.error .notInitialised)) [] b
  | read {b : Binding} (hb : b.initialised = true) (slot : Slot) {core : Nat} {m : Metric}
    (hcore : m = .wallclock ∨ core < b.cores) (r : Reading) :
    Step b (.reading slot core m (.ok r)) [.getter slot core m] b
  | outside {b : Binding} (hb : b.initialised = true) (slot : Slot) {core : Nat} {m : Metric}
    (hm : m ≠ .wallclock) (hcore : b.cores ≤ core) :
    Step b (.reading slot core m (.error (.coreOutOfRange core b.cores))) [] b
  | unread {b : Binding} (hb : b.initialised = false) (slot : Slot) (core : Nat) (m : Metric) :
    Step b (.reading slot core m (.error .notInitialised)) [] b
  | ended {b : Binding} (hb : b.initialised = true) :
    Step b (.shutdown (.ok ())) [.done] ⟨b.cores, false⟩
  | idle {b : Binding} (hb : b.initialised = false) : Step b (.shutdown (.ok ())) [] b
  | benchmark (b : Binding) (param : Int32) : Step b (.benchmark param) [] b
  | progress (b : Binding) (p : Progress) : Step b (.progress p) [] b

/-- `Step` over some events, one after the other, with all of their calls. -/
inductive Steps : Binding → List Event → List NativeCall → Binding → Prop
  | nil (b : Binding) : Steps b [] [] b
  | cons {b b' b'' : Binding} {e : Event} {es : List Event} {calls more : List NativeCall}
    (h : Step b e calls b') (hmore : Steps b' es more b'') : Steps b (e :: es) (calls ++ more) b''

namespace Steps

variable {b b' b'' : Binding} {es es' : List Event} {calls more : List NativeCall}

theorem single {e : Event} (h : Step b e calls b') : Steps b [e] calls b' := by
  have hone := cons h (nil b')
  rwa [List.append_nil] at hone

theorem append (h : Steps b es calls b') (hmore : Steps b' es' more b'') :
    Steps b (es ++ es') (calls ++ more) b'' := by
  induction h with
  | nil b => exact hmore
  | cons hstep _ ih =>
    rw [List.cons_append, List.append_assoc]
    exact cons hstep (ih hmore)

/-- `Steps` over `es ++ es'` are steps over `es` and steps over `es'`, and the calls come apart in
the same place. -/
theorem exists_append {es es' : List Event} (h : Steps b (es ++ es') calls b'') :
    ∃ b' first second, calls = first ++ second ∧ Steps b es first b' ∧ Steps b' es' second b'' := by
  induction es generalizing b calls with
  | nil => exact ⟨b, [], calls, rfl, nil b, h⟩
  | cons e es ih =>
    -- The calls of the first event belong to the first part.
    cases h with
    | @cons _ b₁ _ _ _ own _ hstep hrest =>
      obtain ⟨b', first, second, rfl, hfirst, hsecond⟩ := ih hrest
      exact ⟨b', own ++ first, second, (List.append_assoc ..).symm, cons hstep hfirst, hsecond⟩

end Steps

end Binding

/-! ### Going along -/

/-- A noted library gains the calls of the events. -/
def nativeGrowth (ρ : Type) : Growth (Binding × Noted ρ NativeCall) (Binding × ρ) where
  inner o := (o.1, o.2.state)
  grew o es o' := ∃ calls, o'.2.notes = o.2.notes ++ calls ∧ Binding.Steps o.1 es calls o'.1
  refl o := ⟨[], (List.append_nil _).symm, .nil _⟩
  trans := by
    rintro o o' o'' es more ⟨calls, hcalls, hsteps⟩ ⟨calls', hcalls', hsteps'⟩
    refine ⟨calls ++ calls', ?_, hsteps.append hsteps'⟩
    rw [hcalls', hcalls, List.append_assoc]

namespace MeasurementLibrary

variable (l : MeasurementLibrary (StateM ρ))

/-- To begin a library and ask it for its cores are two calls. -/
theorem announce_noted (o : Noted ρ NativeCall) : l.noted.announce o =
    ((l.announce o.state).1,
      ⟨(l.announce o.state).2, o.notes ++ [.init, .coreCount (l.announce o.state).1]⟩) := by
  have hcalls : l.noted.announce o = ((l.announce o.state).1,
      ⟨(l.announce o.state).2, o.notes ++ [.init] ++ [.coreCount (l.announce o.state).1]⟩) := rfl
  rw [hcalls, List.append_assoc]
  rfl

/-- To get a reading is one call. -/
theorem answer_noted (slot : Slot) (core : Nat) (m : Metric) (o : Noted ρ NativeCall) :
    l.noted.answer slot core m o = ((l.answer slot core m o.state).1,
      ⟨(l.answer slot core m o.state).2, o.notes ++ [.getter slot core m]⟩) := by
  cases m <;> rfl

open Binding (Step Steps)

/-- A verb of a noted library answers as it does without notes, leaves the same behind, and notes
the calls of its step; where it makes none, nothing is changed. -/
def Makes {α : Type} (event : Except BackendError α → Event)
    (x : StateM (Binding × Noted ρ NativeCall) (Except BackendError α))
    (y : StateM (Binding × ρ) (Except BackendError α)) : Prop :=
  ∀ b r, ∃ calls, (∀ notes, x (b, ⟨r, notes⟩) =
      ((y (b, r)).1, (y (b, r)).2.1, ⟨(y (b, r)).2.2, notes ++ calls⟩)) ∧
    Step b (event (y (b, r)).1) calls (y (b, r)).2.1 ∧ (calls = [] → (y (b, r)).2 = (b, r))

theorem makes_init : Makes .init l.noted.inUse.init l.inUse.init := by
  refine fun b r => ⟨[.init, .coreCount (l.announce r).1], ?_⟩
  simp only [inUse_init, announce_noted]
  -- Both calls are made before the count is looked at.
  split
  next hneg => exact ⟨fun _ => rfl, .uncounted hneg, nofun⟩
  next hcount => exact ⟨fun _ => rfl, .begun (Int.not_lt.1 hcount), nofun⟩

theorem makes_mark (slot : Slot) :
    Makes (.mark slot) (l.noted.inUse.mark slot) (l.inUse.mark slot) := by
  intro b r
  simp only [inUse_mark]
  split
  next hb => exact ⟨[.measure slot.number], fun _ => rfl, .marked hb slot, nofun⟩
  next hb =>
    exact ⟨[], fun _ => by rw [List.append_nil], .unmarked (Bool.not_eq_true _ ▸ hb) slot,
      fun _ => rfl⟩

theorem makes_reading (slot : Slot) (core : Nat) (m : Metric) :
    Makes (.reading slot core m) (l.noted.inUse.reading slot core m)
      (l.inUse.reading slot core m) := by
  intro b r
  simp only [inUse_reading, answer_noted]
  split
  next hb =>
    split
    next houtside =>
      exact ⟨[], fun _ => by rw [List.append_nil], .outside hb slot houtside.1 houtside.2,
        fun _ => rfl⟩
    next hinside =>
      refine ⟨[.getter slot core m], fun _ => rfl, .read hb slot ?_ _, nofun⟩
      rwa [not_and_or, not_not, Nat.not_le] at hinside
  next hb =>
    exact ⟨[], fun _ => by rw [List.append_nil], .unread (Bool.not_eq_true _ ▸ hb) slot core m,
      fun _ => rfl⟩

theorem makes_shutdown : Makes .shutdown l.noted.inUse.shutdown l.inUse.shutdown := by
  intro b r
  simp only [inUse_shutdown]
  split
  next hb => exact ⟨[.done], fun _ => rfl, .ended hb, nofun⟩
  next hb =>
    exact ⟨[], fun _ => by rw [List.append_nil], .idle (Bool.not_eq_true _ ▸ hb), fun _ => rfl⟩

/-- A verb that `Makes` the calls of its step goes along with the watched verb. -/
theorem Makes.along {α : Type} {event : Except BackendError α → Event}
    {x : StateM (Binding × Noted ρ NativeCall) (Except BackendError α)}
    {y : StateM (Binding × ρ) (Except BackendError α)} (h : Makes event x y) :
    (nativeGrowth ρ).along.rel x (watch event y) := by
  refine Growth.along_watch ?_
  rintro ⟨b, r, notes⟩
  obtain ⟨calls, hx, hstep, -⟩ := h b r
  rw [hx]
  exact ⟨rfl, rfl, calls, rfl, .single hstep⟩

/-- Parties that do not use the library note nothing. -/
theorem along_unnoted (event : Event) (hevent : ∀ b, Step b event [] b) (x : StateM ρ Unit) :
    (nativeGrowth ρ).along.rel (Part.right.run (unnoted x))
      (watch (fun _ => event) (Part.right.run x)) := by
  refine Growth.along_watch ?_
  rintro ⟨b, r, notes⟩
  exact ⟨rfl, rfl, [], (List.append_nil _).symm, .single (hevent b)⟩

/-- A session on a library whose calls are noted, and nothing else. -/
abbrev notedSession (config : Config) (benchmark : Int32 → StateM ρ Unit)
    (notify : Progress → StateM ρ Unit) : Session (StateM (Binding × Noted ρ NativeCall)) :=
  l.noted.inUse.session config (fun param => unnoted (benchmark param)) fun p => unnoted (notify p)

/-- **A session on a noted library** goes along with the watched session on the library. -/
theorem related_noted (config : Config) (benchmark : Int32 → StateM ρ Unit)
    (notify : Progress → StateM ρ Unit) :
    Session.Related (nativeGrowth ρ).along (l.notedSession config benchmark notify)
      (l.inUse.session config benchmark notify).watched where
  config := rfl
  backend := .snapshot l.makes_init.along (Growth.along_unwatched fun _ => ⟨rfl, rfl, [],
    (List.append_nil _).symm, .nil _⟩) (fun slot => (l.makes_mark slot).along)
    (fun slot core m => (l.makes_reading slot core m).along) l.makes_shutdown.along
  benchmark param := along_unnoted _ (fun b => .benchmark b param) _
  notify p := along_unnoted _ (fun b => .progress b p) _

end MeasurementLibrary

end Stopwatch
