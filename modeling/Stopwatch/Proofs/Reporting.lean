import Stopwatch.Part
import Stopwatch.Reporter
import Stopwatch.Proofs.Along

/-!
# Reporters and what they are told

A tree of reporters is the list of its leaves (`Reporter.notify_eq_forM_leaves`): whatever it is
told, it hands to each of them once, from left to right.  How it is nested makes no difference.

A run does not read the settings for reporters, it only tells them (`Session.run_withSettings`).  So
it is the run with other settings, of which the listeners are told as they were
(`Progress.readdressed`).

`Session.reported` is a session whose backend and benchmark work on one state and whose reporters
work on another, by any operations whatever, so that anything they write to may fail at any time.
`Session.silent` is a session that nobody is told of.  That their runs are the same is shown in
`Stopwatch.Proofs.Unwinding`, together with the runs in which a reporter panics.
-/

namespace Stopwatch

/-! ### The leaves of a tree -/

namespace Reporter

mutual

/-- The reporters of a tree that are no trees themselves, from left to right. -/
def leaves : Reporter → List Reporter
  | all parts => leavesAll parts
  | leaf => [leaf]

/-- The leaves of trees, one tree after the other. -/
def leavesAll : List Reporter → List Reporter
  | [] => []
  | r :: rs => leaves r ++ leavesAll rs

end

mutual

/-- A leaf of a tree is never `all`. -/
theorem ne_all_of_mem_leaves : ∀ (r : Reporter) {leaf : Reporter}, leaf ∈ r.leaves →
    ∀ parts, leaf ≠ all parts
  | silent, _, h | console _, _, h | markers _, _, h | log _, _, h => by
    rw [leaves] at h
    · rw [List.mem_singleton.1 h]
      exact fun _ heq => nomatch heq
    · exact fun _ heq => nomatch heq
  | all parts, _, h => ne_all_of_mem_leavesAll parts (by rwa [leaves] at h)

theorem ne_all_of_mem_leavesAll : ∀ (rs : List Reporter) {leaf : Reporter}, leaf ∈ leavesAll rs →
    ∀ parts, leaf ≠ all parts
  | [], _, h => absurd h List.not_mem_nil
  | r :: rs, _, h => by
    rw [leavesAll] at h
    exact (List.mem_append.1 h).elim (ne_all_of_mem_leaves r) (ne_all_of_mem_leavesAll rs)

end

section

variable {m : Type → Type} [Monad m] [LawfulMonad m] (ch : Channels m)

mutual

/-- **A tree tells its leaves**, each of them once, from left to right. -/
theorem notify_eq_forM_leaves : ∀ (r : Reporter) (p : Progress),
    r.notify ch p = r.leaves.forM fun leaf => leaf.notify ch p
  | silent, p | console _, p | markers _, p | log _, p => by
    simp [leaves]
  | all parts, p => by
    rw [notify, leaves]
    exact notifyAll_eq_forM_leaves parts p

theorem notifyAll_eq_forM_leaves : ∀ (rs : List Reporter) (p : Progress),
    notifyAll ch rs p = (leavesAll rs).forM fun leaf => leaf.notify ch p
  | [], p => by simp [notifyAll, leavesAll]
  | r :: rs, p => by
    rw [notifyAll, leavesAll, notify_eq_forM_leaves r p, notifyAll_eq_forM_leaves rs p]
    simp

end

end

end Reporter

/-! ### What is told -/

/-- What a run with other settings is told: only the start says what the settings are. -/
def Progress.readdressed (config : Config) : Progress → Progress
  | runStart _ layout => runStart config layout
  | p => p

namespace Event

/-- The event with another config at the start. -/
def readdressed (config : Config) : Event → Event
  | progress p => progress (p.readdressed config)
  | e => e

theorem readdressed_of_call (config : Config) {e : Event} (h : e.progress? = none) :
    e.readdressed config = e := by
  cases e <;> first | rfl | cases h

end Event

/-- What becomes of the state of listeners that are told of all this. -/
def heard {τ : Type} (tell : Progress → StateM τ Unit) (ps : List Progress) (t : τ) : τ :=
  ps.foldl (fun t p => (tell p t).2) t

/-! ### Settings that a run does not read -/

namespace Session

section Settings

variable {m : Type → Type} [Monad m] (config : Config) (debug : Bool)
  (instrumentation : Option Instrumentation) (b : Backend m) (work : Int32 → m Unit)
  (tell : Progress → m Unit)

/-- A session with other settings for reporters. -/
abbrev withSettings : Session m := ⟨{ config with debug, instrumentation }, b, work, tell⟩

/-- A session in which the listeners are told of the other settings. -/
abbrev toldSettings : Session m :=
  ⟨config, b, work, fun p => tell (p.readdressed { config with debug, instrumentation })⟩

theorem writeRows_withSettings (f : Frame) (i : Nat) {layout : Layout}
    (rows : List (Fin layout.rowCount)) : ∀ r : Recording layout config.iterations,
    (withSettings config debug instrumentation b work tell).writeRows f i rows r =
      (toldSettings config debug instrumentation b work tell).writeRows f i rows r := by
  induction rows with
  | nil => exact fun r => rfl
  | cons row rows ih =>
    intro r
    refine bind_congr fun sample => bind_congr fun delta => bind_congr fun r => ?_
    exact ih r

theorem measure_withSettings {layout : Layout} (count : Nat) :
    ∀ (i : Nat) (f : Frame) (r : Recording layout config.iterations),
    (withSettings config debug instrumentation b work tell).measure count i f r =
      (toldSettings config debug instrumentation b work tell).measure count i f r := by
  induction count with
  | zero => exact fun i f r => rfl
  | succ count ih =>
    intro i f r
    -- An iteration reads the settings only where it tells them.
    have hiterate : (withSettings config debug instrumentation b work tell).iterate i f r =
        (toldSettings config debug instrumentation b work tell).iterate i f r := by
      refine bind_congr fun f => ?_
      exact congrArg (· >>= _)
        (writeRows_withSettings config debug instrumentation b work tell f i _ r)
    rw [measure, measure, hiterate]
    exact bind_congr fun x => ih _ _ _

/-- **A run does not read the settings for reporters**, it only tells them. -/
theorem run_withSettings :
    (withSettings config debug instrumentation b work tell).run =
      (toldSettings config debug instrumentation b work tell).run := by
  refine bind_congr fun answer => ?_
  cases answer with
  | error e => rfl
  | ok layout =>
    refine bind_congr fun _ => ?_
    show (measure _ _ 0 {} _).run >>= _ = (measure _ _ 0 {} _).run >>= _
    rw [measure_withSettings]
    refine bind_congr fun measured => ?_
    cases measured <;> rfl

end Settings

end Session

/-! ### Two states -/

variable {σ τ : Type}

theorem measured_get_set (σ τ : Type) (v : σ) (w : σ × τ) : (v, w.2).1 = v := rfl

theorem reported_get_set (σ τ : Type) (t : τ) (w : σ × τ) : (w.1, t).2 = t := rfl

/-- The state of what is measured. -/
def measuredPart (σ τ : Type) : Part (σ × τ) σ where
  get w := w.1
  set v w := (v, w.2)
  get_set := measured_get_set σ τ

/-- The state of what reporters write to. -/
def reportedPart (σ τ : Type) : Part (σ × τ) τ where
  get w := w.2
  set t w := (w.1, t)
  get_set := reported_get_set σ τ

/-- A session whose listeners work on a state of their own. -/
def Session.reported (config : Config) (b : Backend (StateM σ)) (work : Int32 → StateM σ Unit)
    (tell : Progress → StateM τ Unit) : Session (StateM (σ × τ)) where
  config := config
  backend := b.change (measuredPart σ τ).run
  benchmark param := (measuredPart σ τ).run (work param)
  notify p := (reportedPart σ τ).run (tell p)

/-- A session that nobody is told of. -/
def Session.silent (config : Config) (b : Backend (StateM σ)) (work : Int32 → StateM σ Unit) :
    Session (StateM σ) :=
  ⟨config, b, work, fun _ => pure ()⟩

end Stopwatch
