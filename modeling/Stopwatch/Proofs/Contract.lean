import Mathlib.Algebra.Group.Nat.Defs
import Stopwatch.Proofs.Native

/-!
# The contract of a measurement library

A library checks nothing: it must be begun before it is measured with or asked for a reading, it
must not be ended twice, and it takes a core for granted.  Here a library is used in any order, with
any arguments, whatever it answers, and each use is kept with its reply and with the calls that were
made for it (`Service`).

What may be called is decided by what went before.  A number of cores is in force from a beginning
that went well, with the number that was announced then, to the next end (`Service.inForce`).
`Service.Meets` says what each use calls and answers while such a number is in force or none is, and
`NativeCall.Permitted` what the library takes.

The step is `Binding.Step`: by it a use meets what its binding asks for and leaves the binding that
belongs to the number then in force (`Binding.Serves`).  The induction on the uses carries the
equation of the number in force with that of the binding
(`MeasurementLibrary.foldl_after_services`).
-/

namespace Stopwatch

namespace NativeCall

/-- The number of cores that was announced. -/
def count? : NativeCall → Option Nat
  | coreCount count => some count.toInt.toNat
  | _ => none

/-- What a library takes while a number of cores is in force, or none is. -/
def Permitted (inForce : Option Nat) : NativeCall → Prop
  | init | coreCount _ => True
  | done => inForce ≠ none
  | measure side | wallclock side => inForce ≠ none ∧ (side = 0 ∨ side = 1)
  | coreCycles side core | aperf side core | mperf side core =>
    (side = 0 ∨ side = 1) ∧ ∃ count : Nat, inForce = some count ∧ 0 ≤ core.toInt ∧
      core.toInt < count

end NativeCall

/-- A use of a library, what it was answered with, and what was called for it. -/
structure Service where
  use : Use
  reply : Reply
  calls : List NativeCall

namespace Service

/-- The number of cores that is in force after a use: a beginning that goes well puts the one in
force that was announced, and an end puts it out of force. -/
def after (inForce : Option Nat) (x : Service) : Option Nat :=
  match x.use, x.reply with
  | .init, .verb (.ok ()) => x.calls.findSome? NativeCall.count?
  | .shutdown, _ => none
  | _, _ => inForce

/-- The number of cores that is in force after some uses of a library. -/
def inForce (history : List Service) : Option Nat := history.foldl after none

/-- What a use calls and answers while a number of cores is in force, or none is. -/
def Meets (x : Service) (inForce : Option Nat) : Prop :=
  match x.use, inForce with
  | .init, _ => ∃ count : Int32, x.calls = [.init, .coreCount count] ∧
      x.reply = .verb (if count.toInt < 0 then .error (.invalidCoreCount count.toInt) else .ok ())
  | .cores, _ => x.calls = []
  | .mark slot, some _ => x.calls = [.measure slot.number] ∧ x.reply = .verb (.ok ())
  | .mark _, none => x.calls = [] ∧ x.reply = .verb (.error .notInitialised)
  | .reading slot core metric, some count =>
    if metric = .wallclock ∨ core < count then
      x.calls = [.getter slot core metric] ∧ ∃ value, x.reply = .reading (.ok value)
    else x.calls = [] ∧ x.reply = .reading (.error (.coreOutOfRange core count))
  | .reading .., none => x.calls = [] ∧ x.reply = .reading (.error .notInitialised)
  | .shutdown, some _ => x.calls = [.done] ∧ x.reply = .verb (.ok ())
  | .shutdown, none => x.calls = [] ∧ x.reply = .verb (.ok ())

/-- With fewer than `2^31` cores in force, a counter is asked for on the core that was meant:
nothing is lost in `Int32.ofNat core`. -/
theorem Meets.toInt_core {x : Service} {inForce : Option Nat} (h : x.Meets inForce)
    (hbound : ∀ count, inForce = some count → count < 2 ^ 31) {slot : Slot} {core : Nat}
    {metric : Metric} (huse : x.use = .reading slot core metric) (hmetric : metric ≠ .wallclock)
    (hcalls : x.calls ≠ []) : (Int32.ofNat core).toInt = core := by
  obtain ⟨use, reply, calls⟩ := x
  obtain rfl : use = _ := huse
  cases inForce with
  | none => exact absurd h.1 hcalls
  | some count =>
    have h : if metric = .wallclock ∨ core < count then _ else _ := h
    split at h
    next hcore =>
      have hlt := hcore.resolve_left hmetric
      exact Int32.toInt_ofNat_of_lt (Nat.lt_trans hlt (hbound count rfl))
    next => exact absurd h.1 hcalls

/-- With fewer than `2^31` cores in force, the calls of a use that `Meets` what it should are
`Permitted`. -/
theorem Meets.permitted {x : Service} {inForce : Option Nat} (h : x.Meets inForce)
    (hbound : ∀ count, inForce = some count → count < 2 ^ 31) :
    ∀ call ∈ x.calls, call.Permitted inForce := by
  obtain ⟨use, reply, calls⟩ := x
  have hside : ∀ slot : Slot, slot.number = 0 ∨ slot.number = 1 := fun slot => by
    cases slot <;> decide
  have hnone : calls = [] → ∀ call ∈ calls, call.Permitted inForce := by
    rintro rfl call hcall
    exact absurd hcall List.not_mem_nil
  have hone : ∀ c : NativeCall, calls = [c] → c.Permitted inForce →
      ∀ call ∈ calls, call.Permitted inForce := by
    rintro c rfl hc
    exact List.forall_mem_singleton.2 hc
  -- Where no number is in force, there is no call but by `init`.
  cases use with
  | init =>
    obtain ⟨count, rfl, -⟩ := h
    exact List.forall_mem_cons.2 ⟨trivial, List.forall_mem_singleton.2 trivial⟩
  | cores => exact hnone h
  | mark slot =>
    cases inForce with
    | none => exact hnone h.1
    | some count => exact hone _ h.1 ⟨nofun, hside slot⟩
  | reading slot core m =>
    cases inForce with
    | none => exact hnone h.1
    | some count =>
      have h : if m = .wallclock ∨ core < count then _ else _ := h
      split at h
      next hcore =>
        refine hone _ h.1 ?_
        have hcounter (hm : m ≠ .wallclock) : ∃ n : Nat, some count = some n ∧
            0 ≤ (Int32.ofNat core).toInt ∧ (Int32.ofNat core).toInt < n := by
          have hlt := hcore.resolve_left hm
          rw [Int32.toInt_ofNat_of_lt (Nat.lt_trans hlt (hbound count rfl))]
          exact ⟨count, rfl, Int.natCast_nonneg core, Int.ofNat_lt.2 hlt⟩
        -- The clock is read without a core, so its getter asks only for the side.
        cases m with
        | wallclock => exact ⟨nofun, hside slot⟩
        | _ => exact ⟨hside slot, hcounter nofun⟩
      next => exact hnone h.1
  | shutdown =>
    cases inForce with
    | none => exact hnone h.1
    | some count => exact hone _ h.1 nofun

end Service

/-! ### One use -/

namespace Binding

variable {b b' : Binding} {calls : List NativeCall} {a : Except BackendError Unit}

/-- The number of cores that is in force by what is known of a library. -/
def inForce (b : Binding) : Option Nat := if b.initialised then some b.cores else none

theorem inForce_of_initialised (hb : b.initialised = true) : b.inForce = some b.cores := if_pos hb

theorem inForce_of_not_initialised (hb : b.initialised = false) : b.inForce = none :=
  if_neg (hb ▸ Bool.false_ne_true)

/-- A use `x` meets what is in force by `b`, and what it puts in force is in force by `b'`.  A
number of cores below `2^31` is followed by another one. -/
structure Serves (b : Binding) (x : Service) (b' : Binding) : Prop where
  meets : x.Meets b.inForce
  after : x.after b.inForce = b'.inForce
  cores : b.cores < 2 ^ 31 → b'.cores < 2 ^ 31

namespace Step

theorem serves_init (h : Step b (.init a) calls b') : Serves b ⟨.init, .verb a, calls⟩ b' := by
  cases h with
  | @begun count hcount =>
    refine ⟨⟨count, rfl, by rw [if_neg (Int.not_lt.2 hcount)]⟩, rfl, fun _ => ?_⟩
    -- What was announced is an `Int32`, so it is below `2^31` whatever was known before.
    have hlt : count.toInt < 2 ^ 31 := count.toInt_lt
    show count.toInt.toNat < 2 ^ 31
    omega
  | @uncounted count hcount => exact ⟨⟨count, rfl, by rw [if_pos hcount]⟩, rfl, id⟩

theorem serves_mark {slot : Slot} (h : Step b (.mark slot a) calls b') :
    Serves b ⟨.mark slot, .verb a, calls⟩ b' := by
  cases h with
  | marked hb =>
    refine ⟨?_, rfl, id⟩
    rw [inForce_of_initialised hb]
    exact ⟨rfl, rfl⟩
  | unmarked hb =>
    refine ⟨?_, rfl, id⟩
    rw [inForce_of_not_initialised hb]
    exact ⟨rfl, rfl⟩

theorem serves_reading {slot : Slot} {core : Nat} {m : Metric} {a : Except BackendError Reading}
    (h : Step b (.reading slot core m a) calls b') :
    Serves b ⟨.reading slot core m, .reading a, calls⟩ b' := by
  cases h with
  | read hb _ hcore value =>
    refine ⟨?_, rfl, id⟩
    rw [inForce_of_initialised hb]
    show if m = .wallclock ∨ core < b.cores then _ else _
    rw [if_pos hcore]
    exact ⟨rfl, value, rfl⟩
  | outside hb _ hm hcore =>
    refine ⟨?_, rfl, id⟩
    have houtside : ¬ (m = .wallclock ∨ core < b.cores) := not_or.2 ⟨hm, Nat.not_lt.2 hcore⟩
    rw [inForce_of_initialised hb]
    show if m = .wallclock ∨ core < b.cores then _ else _
    rw [if_neg houtside]
    exact ⟨rfl, rfl⟩
  | unread hb =>
    refine ⟨?_, rfl, id⟩
    rw [inForce_of_not_initialised hb]
    exact ⟨rfl, rfl⟩

theorem serves_shutdown (h : Step b (.shutdown a) calls b') :
    Serves b ⟨.shutdown, .verb a, calls⟩ b' := by
  cases h with
  | ended hb =>
    refine ⟨?_, rfl, id⟩
    rw [inForce_of_initialised hb]
    exact ⟨rfl, rfl⟩
  | idle hb =>
    refine ⟨?_, (inForce_of_not_initialised hb).symm, id⟩
    rw [inForce_of_not_initialised hb]
    exact ⟨rfl, rfl⟩

end Step

end Binding

namespace MeasurementLibrary

open Binding (Step)

variable {ρ : Type} (l : MeasurementLibrary (StateM ρ))

/-- `calls` are made for the use `u` in the state `w`: they are what is noted, with no influence on
what is answered or left behind; the binding is served; and without a call nothing is changed. -/
structure Calls (u : Use) (w : Binding × ρ) (calls : List NativeCall) : Prop where
  noted : ∀ notes, l.noted.inUse.serve u (w.1, ⟨w.2, notes⟩) =
    ((l.inUse.serve u w).1, (l.inUse.serve u w).2.1, ⟨(l.inUse.serve u w).2.2, notes ++ calls⟩)
  serves : w.1.Serves ⟨u, (l.inUse.serve u w).1, calls⟩ (l.inUse.serve u w).2.1
  unchanged : calls = [] → (l.inUse.serve u w).2 = w

variable {l} in
/-- If the verb `y` of a use `Makes` calls, these are the calls of the use. -/
theorem Makes.exists_calls {u : Use} {α : Type} {event : Except BackendError α → Event}
    {x : StateM (Binding × Noted ρ NativeCall) (Except BackendError α)}
    {y : StateM (Binding × ρ) (Except BackendError α)} (h : Makes event x y)
    {reply : Except BackendError α → Reply} (hx : l.noted.inUse.serve u = reply <$> x)
    (hy : l.inUse.serve u = reply <$> y)
    (hserves : ∀ {b calls b' a}, Step b (event a) calls b' → b.Serves ⟨u, reply a, calls⟩ b')
    (w : Binding × ρ) : ∃ calls, l.Calls u w calls := by
  obtain ⟨calls, hnoted, hstep, hsame⟩ := h w.1 w.2
  refine ⟨calls, fun notes => ?_, ?_, ?_⟩
  · rw [hx, hy]
    show (reply (x (w.1, ⟨w.2, notes⟩)).1, (x (w.1, ⟨w.2, notes⟩)).2) = _
    rw [hnoted]
    rfl
  · rw [hy]
    exact hserves hstep
  · rw [hy]
    exact hsame

/-- **Every use makes the calls that its binding asks for.** -/
theorem exists_calls (u : Use) (w : Binding × ρ) : ∃ calls, l.Calls u w calls := by
  cases u with
  | init => exact l.makes_init.exists_calls rfl rfl Step.serves_init w
  | cores => exact ⟨[], fun notes => by rw [List.append_nil]; rfl, ⟨rfl, rfl, id⟩, fun _ => rfl⟩
  | mark slot => exact (l.makes_mark slot).exists_calls rfl rfl Step.serves_mark w
  | reading slot core m =>
    exact (l.makes_reading slot core m).exists_calls rfl rfl Step.serves_reading w
  | shutdown => exact l.makes_shutdown.exists_calls rfl rfl Step.serves_shutdown w

/-! ### Uses one after the other -/

/-- Use a library once, and keep what was called for it. -/
def service (u : Use) : StateM (Binding × ρ) Service := fun w =>
  let o := l.noted.inUse.serve u (w.1, ⟨w.2, []⟩)
  (⟨u, o.1, o.2.2.notes⟩, o.2.1, o.2.2.state)

/-- Use a library again and again, and keep what was called for each use. -/
def services : List Use → StateM (Binding × ρ) (List Service)
  | [] => pure []
  | u :: us => do
    let x ← l.service u
    let xs ← services us
    pure (x :: xs)

/-- What is kept of a use is its reply and its calls. -/
theorem exists_service (u : Use) (w : Binding × ρ) :
    ∃ calls, l.Calls u w calls ∧
      l.service u w = (⟨u, (l.inUse.serve u w).1, calls⟩, (l.inUse.serve u w).2) := by
  obtain ⟨calls, hcalls⟩ := l.exists_calls u w
  refine ⟨calls, hcalls, ?_⟩
  unfold service
  rw [hcalls.noted]
  rfl

theorem services_cons (u : Use) (us : List Use) (w : Binding × ρ) : l.services (u :: us) w =
    ((l.service u w).1 :: (l.services us (l.service u w).2).1,
      (l.services us (l.service u w).2).2) := rfl

/-- **`services us` keeps the uses of `serveAll us`**: the same replies, the same state behind them,
and all calls that a noted library has noted. -/
theorem services_spec (us : List Use) (w : Binding × ρ) :
    (l.services us w).1.map Service.use = us ∧
    (l.services us w).1.map Service.reply = (l.inUse.serveAll us w).1 ∧
    (l.services us w).2 = (l.inUse.serveAll us w).2 ∧
    ∀ notes, (l.noted.inUse.serveAll us (w.1, ⟨w.2, notes⟩)).2.2.notes =
      notes ++ (l.services us w).1.flatMap Service.calls := by
  induction us generalizing w with
  | nil => exact ⟨rfl, rfl, rfl, fun notes => (List.append_nil notes).symm⟩
  | cons u us ih =>
    obtain ⟨calls, hcalls, hservice⟩ := l.exists_service u w
    obtain ⟨huse, hreply, hstate, hnotes⟩ := ih (l.inUse.serve u w).2
    rw [services_cons, hservice]
    refine ⟨congrArg (u :: ·) huse, congrArg ((l.inUse.serve u w).1 :: ·) hreply, hstate,
      fun notes => ?_⟩
    -- The notes of the first use stand in front of those of the others.
    show (l.noted.inUse.serveAll us (l.noted.inUse.serve u (w.1, ⟨w.2, notes⟩)).2).2.2.notes = _
    rw [hcalls.noted, hnotes, List.flatMap_cons, List.append_assoc]

/-- Folding `Service.after` over the uses comes to what is in force by the binding that they
leave. -/
theorem foldl_after_services (us : List Use) (w : Binding × ρ) (hcores : w.1.cores < 2 ^ 31) :
    (l.services us w).1.foldl Service.after w.1.inForce = (l.services us w).2.1.inForce ∧
    (l.services us w).2.1.cores < 2 ^ 31 := by
  induction us generalizing w with
  | nil => exact ⟨rfl, hcores⟩
  | cons u us ih =>
    obtain ⟨calls, hcalls, hservice⟩ := l.exists_service u w
    have hrest := ih (l.inUse.serve u w).2 (hcalls.serves.cores hcores)
    rw [← hcalls.serves.after] at hrest
    rw [services_cons, hservice]
    exact hrest

/-- **A library is called only within its contract**, in whatever order it is used and whatever it
answers.  After any uses of a fresh binding, the next use

* makes exactly the calls, and gives the answer, of `Service.Meets`, by the number of cores in
  force;
* makes no call that the library does not take: it is measured with, asked for a reading and ended
  only while a number is in force, with one of the two sides, and asked for a counter only with a
  core from zero up and below that number;
* asks for a counter on the core that was meant, none being lost in the 32 bits of a C integer;
* changes nothing, neither what is known of the library nor the library, where it makes no call.

The uses are those of the backend itself, and all calls made in their course are kept. -/
theorem within_contract (r : ρ) (us : List Use) (u : Use) :
    let history := (l.services us ({}, r)).1
    let w := (l.services us ({}, r)).2
    let x := (l.service u w).1
    let w' := (l.service u w).2
    (history.map Service.use = us ∧
      history.map Service.reply = (l.inUse.serveAll us ({}, r)).1 ∧
      history.flatMap Service.calls = (l.noted.inUse.serveAll us ({}, ⟨r, []⟩)).2.2.notes ∧
      w = (l.inUse.serveAll us ({}, r)).2) ∧
    (x.use = u ∧ (x.reply, w') = l.inUse.serve u w) ∧
    x.Meets (Service.inForce history) ∧
    (∀ call ∈ x.calls, call.Permitted (Service.inForce history)) ∧
    (∀ slot core metric, u = .reading slot core metric → metric ≠ .wallclock → x.calls ≠ [] →
      (Int32.ofNat core).toInt = core) ∧
    (x.calls = [] → w' = w) := by
  intro history w x w'
  obtain ⟨huse, hreply, hstate, hnotes⟩ := l.services_spec us ({}, r)
  obtain ⟨hforce, hcores⟩ := l.foldl_after_services us ({}, r) (Nat.two_pow_pos 31)
  obtain ⟨calls, hcalls, hservice⟩ := l.exists_service u w
  have hinForce : Service.inForce history = w.1.inForce := hforce
  have hmeets : x.Meets w.1.inForce := by
    show (l.service u w).1.Meets _
    rw [hservice]
    exact hcalls.serves.meets
  have hbound : ∀ count, w.1.inForce = some count → count < 2 ^ 31 := fun count hcount => by
    obtain ⟨-, hsome⟩ := Option.ite_none_right_eq_some.1 hcount
    exact Option.some.inj hsome ▸ hcores
  rw [hinForce]
  refine ⟨⟨huse, hreply, (hnotes []).symm, hstate⟩, ?_, hmeets, hmeets.permitted hbound, ?_, ?_⟩
  · show (l.service u w).1.use = u ∧ ((l.service u w).1.reply, (l.service u w).2) = _
    rw [hservice]
    exact ⟨rfl, rfl⟩
  · rintro slot core metric rfl
    exact hmeets.toInt_core hbound rfl
  · show (l.service u w).1.calls = [] → (l.service u w).2 = w
    rw [hservice]
    exact hcalls.unchanged

end MeasurementLibrary

end Stopwatch
