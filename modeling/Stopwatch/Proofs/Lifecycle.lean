import Stopwatch.Proofs.Causes
import Stopwatch.Proofs.Native
import Stopwatch.Proofs.Protocol

/-!
# The life of a measurement library

A measurement library wants to be ended as often as it was begun.  A run begins it once, and asks it
for its cores.  If these can be counted, then whatever happens afterwards the run ends the library
once, and last of all (`Lifecycle.closed`).  If the number of cores is negative, the run is over
before the library is known to have been begun, and nobody ends it (`Lifecycle.uncounted`).

So of the runs of a succession each one is of these two kinds, the library is never ended without
having been begun, and of its beginnings those are left without an end whose run was refused
(`MeasurementLibrary.lifecycle_of_runs`).
-/

namespace Stopwatch

variable {ρ : Type}

/-! ### Beginnings and ends -/

namespace NativeCall

/-- Whether a call begins the library, ends it, or asks for its cores. -/
def isAdministrative : NativeCall → Bool
  | init => true
  | done => true
  | coreCount _ => true
  | _ => false

/-- How many beginnings are without an end after a call, if `n` were so before, or `none` if it ends
what was not begun. -/
def settle : (n : Nat) → NativeCall → Option Nat
  | n, init => some (n + 1)
  | 0, done => none
  | n + 1, done => some n
  | n, _ => some n

/-- How many beginnings are without an end after some calls, if `n` were so before. -/
def unmatched (n : Nat) (calls : List NativeCall) : Option Nat := calls.foldlM settle n

theorem unmatched_append (n : Nat) (xs ys : List NativeCall) :
    unmatched n (xs ++ ys) = (unmatched n xs).bind fun k => unmatched k ys :=
  List.foldlM_append

/-- Calls that are not administrative leave the number of unmatched beginnings as it is. -/
theorem unmatched_of_uses {n : Nat} {calls : List NativeCall}
    (h : ∀ c ∈ calls, c.isAdministrative = false) : unmatched n calls = some n := by
  induction calls with
  | nil => rfl
  | cons c calls ih =>
    have hc : settle n c = some n := by
      have hc := h c List.mem_cons_self
      cases c with
      | init => cases hc
      | done => cases hc
      | _ => cases n <;> rfl
    rw [unmatched, List.foldlM_cons, hc]
    exact ih fun c' hc' => h c' (List.mem_cons_of_mem c hc')

end NativeCall

/-- The backend could not begin. -/
def Outcome.isRefused {n : Nat} : Outcome n → Bool
  | refused _ => true
  | _ => false

/-- No conclusion is a refusal. -/
theorem isRefused_conclusion {layout : Layout} {n : Nat}
    (measured : Except RunError (Recording layout n))
    (ended : Except BackendError Unit) : (conclusion measured ended).isRefused = false := by
  cases measured <;> cases ended <;> rfl

/-- The calls of a run with the given outcome. -/
inductive Lifecycle {n : Nat} : Outcome n → List NativeCall → Prop
  /-- The library is begun and ended, and in between it is used. -/
  | closed {o : Outcome n} {count : Int32} {uses : List NativeCall} (hcount : 0 ≤ count.toInt)
    (huses : ∀ c ∈ uses, c.isAdministrative = false) (ho : o.isRefused = false) :
    Lifecycle o (.init :: .coreCount count :: (uses ++ [.done]))
  /-- The library is begun, but its cores cannot be counted. -/
  | uncounted {count : Int32} (hcount : count.toInt < 0) :
    Lifecycle (.refused (.invalidCoreCount count.toInt)) [.init, .coreCount count]

/-- A run adds one unmatched beginning if its outcome is a refusal, and none otherwise. -/
theorem Lifecycle.unmatched_eq {n : Nat} {o : Outcome n} {calls : List NativeCall}
    (h : Lifecycle o calls) (k : Nat) :
    NativeCall.unmatched k calls = some (if o.isRefused then k + 1 else k) := by
  cases h with
  | @closed _ count uses _ huses ho =>
    have hopened : NativeCall.unmatched k (.init :: .coreCount count :: (uses ++ [.done])) =
        NativeCall.unmatched (k + 1) (uses ++ [.done]) := rfl
    rw [hopened, NativeCall.unmatched_append, NativeCall.unmatched_of_uses huses, ho]
    rfl
  | uncounted => rfl

/-- In a succession of runs as many beginnings are left unmatched as there are refusals in `os`. -/
theorem Lifecycle.unmatched_flatten {n : Nat} {os : List (Outcome n)}
    {parts : List (List NativeCall)} (h : List.Forall₂ Lifecycle os parts) (k : Nat) :
    NativeCall.unmatched k parts.flatten = some (k + os.countP (·.isRefused)) := by
  induction h generalizing k with
  | nil => rfl
  | @cons o part os parts hpart _ ih =>
    rw [List.flatten_cons, NativeCall.unmatched_append, hpart.unmatched_eq, List.countP_cons]
    cases o.isRefused with
    | true => exact (ih (k + 1)).trans (congrArg some (by simp only [↓reduceIte]; omega))
    | false => exact ih k

/-! ### What a run calls -/

/-- Whether an event begins the backend or ends it. -/
def Event.isAdministrative : Event → Bool
  | init _ => true
  | shutdown _ => true
  | _ => false

theorem Turn.isAdministrative_of_mem_events {t : Turn} {c : Config} {layout : Layout} {i : Nat}
    {e : Event} (h : e ∈ t.events .snapshot c layout i) : e.isAdministrative = false := by
  simp only [events, readings, Side.calls, List.mem_append, List.mem_flatMap, List.mem_cons,
    List.not_mem_nil, or_false] at h
  rcases h with ((((rfl | rfl) | rfl) | rfl) | ⟨key, -, rfl | rfl⟩) | rfl <;> rfl

/-- **A run begins its backend first**; unless it is refused, it ends the backend later on, and does
neither in between.  After the end only listeners are told something. -/
theorem Answers.trace_eq_of_begun {h : Answers} {c : Config} {layout : Layout}
    (hbegun : h.begun .snapshot = .ok layout) :
    ∃ (uses : List Event) (a : Except BackendError Unit) (ps : List Progress),
      h.trace .snapshot c = .init (.ok ()) :: (uses ++ .shutdown a :: ps.map .progress) ∧
      ∀ e ∈ uses, e.isAdministrative = false := by
  have hopening : h.opening .snapshot = [.init (.ok ())] := by
    obtain ⟨u, hu, -⟩ := exists_of_map_eq_ok hbegun
    rw [opening, Kind.opening, hu]
  -- Behind the end at most the listeners hear of the end of the run.
  obtain ⟨ps, hps⟩ : ∃ ps : List Progress,
      epilogue (h.measured .snapshot c layout) (h.ended .snapshot) = ps.map .progress := by
    cases h.measured .snapshot c layout with
    | error e => exact ⟨[], rfl⟩
    | ok r =>
      cases h.ended .snapshot with
      | error e => exact ⟨[], rfl⟩
      | ok u => exact ⟨[.runEnd layout c.iterations r], rfl⟩
  refine ⟨.progress (.runStart c layout) :: told (h.items .snapshot c layout), h.shutdown,
    ps, ?_, ?_⟩
  · rw [trace, hopening, hbegun, ← hps]
    rfl
  · intro e he
    rcases List.mem_cons.1 he with rfl | he
    · rfl
    · obtain ⟨i, -, he⟩ := exists_turn_of_mem_told he
      exact Turn.isAdministrative_of_mem_events he

namespace Binding

/-- An event that neither begins nor ends the backend leaves `b` as it is, and its calls are not
administrative either. -/
theorem Step.of_use {b b' : Binding} {e : Event} {calls : List NativeCall} (h : Step b e calls b')
    (he : e.isAdministrative = false) : b' = b ∧ ∀ c ∈ calls, c.isAdministrative = false := by
  cases h with
  | begun => cases he
  | uncounted => cases he
  | ended => cases he
  | idle => cases he
  | marked => exact ⟨rfl, fun c hc => List.mem_singleton.1 hc ▸ rfl⟩
  | @read _ slot core m =>
    refine ⟨rfl, fun c hc => List.mem_singleton.1 hc ▸ ?_⟩
    cases m <;> rfl
  | _ => exact ⟨rfl, fun c hc => absurd hc List.not_mem_nil⟩

theorem Steps.of_uses {b b' : Binding} {es : List Event} {calls : List NativeCall}
    (h : Steps b es calls b') (hes : ∀ e ∈ es, e.isAdministrative = false) :
    b' = b ∧ ∀ c ∈ calls, c.isAdministrative = false := by
  induction h with
  | nil b => exact ⟨rfl, fun c hc => absurd hc List.not_mem_nil⟩
  | @cons b b' b'' e es calls more hstep _ ih =>
    obtain ⟨rfl, hcalls⟩ := hstep.of_use (hes e List.mem_cons_self)
    obtain ⟨rfl, hmore⟩ := ih fun e' he' => hes e' (List.mem_cons_of_mem e he')
    exact ⟨rfl, fun c hc => (List.mem_append.1 hc).elim (hcalls c) (hmore c)⟩

/-- The library is not called for what listeners are told. -/
theorem Steps.of_progress {b b' : Binding} {ps : List Progress} {calls : List NativeCall}
    (h : Steps b (ps.map .progress) calls b') : calls = [] := by
  induction ps generalizing b calls with
  | nil => cases h; rfl
  | cons p ps ih =>
    cases h with
    | cons hstep hmore =>
      cases hstep
      exact ih hmore

end Binding

/-- The calls for the events of the run of a table `h` are a `Lifecycle` of its outcome. -/
theorem Binding.Steps.lifecycle {b b' : Binding} {h : Answers} {c : Config}
    {calls : List NativeCall} (hsteps : Steps b (h.trace .snapshot c) calls b') :
    Lifecycle (h.outcome .snapshot c) calls := by
  cases hbegun : h.begun .snapshot with
  | error e =>
    have houtcome : h.outcome .snapshot c = .refused e := by rw [Answers.outcome, hbegun]
    rw [Answers.trace_of_refused hbegun] at hsteps
    rw [houtcome]
    -- There is only the beginning, and of the steps for it one fails.
    cases hsteps with
    | cons hstep hmore =>
      cases hmore
      cases hstep with
      | uncounted hcount => exact .uncounted hcount
  | ok layout =>
    have houtcome : (h.outcome .snapshot c).isRefused = false := by
      rw [Answers.outcome, hbegun]
      exact isRefused_conclusion _ _
    obtain ⟨uses, a, ps, htrace, huses⟩ := Answers.trace_eq_of_begun (c := c) hbegun
    rw [htrace] at hsteps
    cases hsteps with
    | cons hbegin hrest =>
      cases hbegin with
      | begun hcount =>
        obtain ⟨b₁, first, second, rfl, hfirst, hsecond⟩ := hrest.exists_append
        obtain ⟨rfl, hcalls⟩ := hfirst.of_uses huses
        cases hsecond with
        | cons hend htold =>
          obtain rfl := htold.of_progress
          -- The library is known to have been begun, so it is ended.
          cases hend with
          | ended => exact .closed hcount hcalls houtcome
          | idle hidle => cases hidle

/-! ### Successions -/

/-- If each run notes a part that is related to its outcome by `P`, a succession of runs notes such
parts one after the other. -/
theorem Session.exists_parts {τ ε : Type} (s : Session (StateM (τ × Noted ρ ε)))
    {P : Outcome s.total → List ε → Prop} {works : List (Int32 → StateM (τ × Noted ρ ε) Unit)}
    (h : ∀ work ∈ works, ∀ w, ∃ part, ((s.calling work).run w).2.2.notes = w.2.notes ++ part ∧
      P ((s.calling work).run w).1 part) :
    ∀ w, ∃ parts, (s.runs works w).2.2.notes = w.2.notes ++ parts.flatten ∧
      List.Forall₂ P (s.runs works w).1 parts := by
  induction works with
  | nil => exact fun w => ⟨[], (List.append_nil _).symm, .nil⟩
  | cons work works ih =>
    intro w
    obtain ⟨part, hpart, hP⟩ := h work List.mem_cons_self w
    obtain ⟨parts, hparts, hPs⟩ :=
      ih (fun work' hwork' => h work' (List.mem_cons_of_mem work hwork'))
      ((s.calling work).run w).2
    refine ⟨part :: parts, ?_, .cons hP hPs⟩
    have hnotes : (s.runs (work :: works) w).2.2.notes =
        (s.runs works ((s.calling work).run w).2).2.2.notes := rfl
    rw [hnotes, hparts, hpart, List.flatten_cons, List.append_assoc]

namespace MeasurementLibrary

variable (l : MeasurementLibrary (StateM ρ)) (config : Config) (notify : Progress → StateM ρ Unit)

/-- **What a run calls** is a `Lifecycle` of its outcome. -/
theorem exists_lifecycle (benchmark : Int32 → StateM ρ Unit) (o : Binding × Noted ρ NativeCall) :
    ∃ calls, ((l.notedSession config benchmark notify).run o).2.2.notes = o.2.notes ++ calls ∧
      Lifecycle ((l.notedSession config benchmark notify).run o).1 calls := by
  obtain ⟨houtcome, -, calls, hnotes, hsteps⟩ :=
    Growth.run_eq (l.related_noted config benchmark notify) o
  obtain ⟨h, -, -, -, htrace, hresult⟩ :=
    (l.inUse.session config benchmark notify).follows_arbitrary.exists_answers
      (w := (o.1, o.2.state)) trivial
  have hevents : Binding.Steps o.1 (h.trace .snapshot config) calls _ := htrace ▸ hsteps
  refine ⟨calls, hnotes, ?_⟩
  rw [houtcome]
  exact hresult ▸ hevents.lifecycle

/-- Runs one after another on a library whose calls are noted. -/
def notedRuns (works : List (Int32 → StateM ρ Unit)) :
    StateM (Binding × Noted ρ NativeCall) (List (Outcome config.iterations)) :=
  l.noted.inUse.runs config (fun p => unnoted (notify p))
    (works.map fun work param => unnoted (work param))

/-- The outcomes of the noted runs are those of the runs. -/
theorem notedRuns_apply (works : List (Int32 → StateM ρ Unit)) (o : Binding × Noted ρ NativeCall) :
    (l.notedRuns config notify works o).1 =
      (l.inUse.runs config notify works (o.1, o.2.state)).1 := by
  induction works generalizing o with
  | nil => rfl
  | cons work works ih =>
    obtain ⟨houtcome, hstate, -⟩ := Growth.run_eq (l.related_noted config work notify) o
    have hothers := ih ((l.notedSession config work notify).run o).2
    have hnoted : (l.notedRuns config notify (work :: works) o).1 =
        ((l.notedSession config work notify).run o).1 ::
          (l.notedRuns config notify works ((l.notedSession config work notify).run o).2).1 := rfl
    rw [hnoted, hothers, houtcome]
    -- The next run begins in the state that the noted one leaves of the parties.
    show _ :: (l.inUse.runs config notify works
      ((nativeGrowth ρ).inner ((l.notedSession config work notify).run o).2)).1 = _
    rw [hstate]
    rfl

/-- The calls of a succession of runs are those of its runs, each a `Lifecycle`, one after the
other. -/
theorem exists_parts (works : List (Int32 → StateM ρ Unit)) (o : Binding × Noted ρ NativeCall) :
    ∃ parts, (l.notedRuns config notify works o).2.2.notes = o.2.notes ++ parts.flatten ∧
      List.Forall₂ Lifecycle (l.notedRuns config notify works o).1 parts := by
  refine (l.notedSession config (fun _ => pure ()) notify).exists_parts ?_ o
  intro noted hnoted o'
  obtain ⟨unnoted', hunnoted, rfl⟩ := List.mem_map.1 hnoted
  obtain ⟨work, -, rfl⟩ := List.mem_map.1 hunnoted
  exact l.exists_lifecycle config notify work o'

/-- **The life of a library in a succession of runs**, whatever it answers, and wherever the runs
break off.  The calls of the runs come one after the other, and each run that can count the cores
ends the library which it has begun; of all beginnings those are left without an end whose run was
refused. -/
theorem lifecycle_of_runs (works : List (Int32 → StateM ρ Unit))
    (o : Binding × Noted ρ NativeCall) :
    ∃ parts, (l.notedRuns config notify works o).2.2.notes = o.2.notes ++ parts.flatten ∧
      List.Forall₂ Lifecycle (l.inUse.runs config notify works (o.1, o.2.state)).1 parts ∧
      NativeCall.unmatched 0 parts.flatten =
        some ((l.inUse.runs config notify works (o.1, o.2.state)).1.countP (·.isRefused)) := by
  obtain ⟨parts, hnotes, hparts⟩ := l.exists_parts config notify works o
  rw [notedRuns_apply] at hparts
  refine ⟨parts, hnotes, hparts, ?_⟩
  rw [Lifecycle.unmatched_flatten hparts, Nat.zero_add]

/-- A library that announces three cores less than none. -/
def uncountable : MeasurementLibrary (StateM Unit) where
  init := pure ()
  done := pure ()
  measure _ := pure ()
  coreCount := pure (-3)
  wallclock _ := pure .zero
  coreCycles _ _ := pure 0
  aperf _ _ := pure 0
  mperf _ _ := pure 0

/-- In two runs `uncountable` is begun twice and never ended. -/
theorem notes_uncountable :
    let runs := uncountable.notedRuns {} (fun _ => pure ()) [fun _ => pure (), fun _ => pure ()]
    (runs ({}, ⟨(), []⟩)).2.2.notes = [.init, .coreCount (-3), .init, .coreCount (-3)] ∧
      NativeCall.unmatched 0 (runs ({}, ⟨(), []⟩)).2.2.notes = some 2 :=
  ⟨rfl, rfl⟩

end MeasurementLibrary

end Stopwatch
