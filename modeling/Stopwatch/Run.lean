import Stopwatch.Backend
import Stopwatch.Config

/-!
# Runs

A run measures one benchmark for a fixed number of iterations.  It begins with `init`, which settles
the layout; then, for each iteration in turn, one side is marked, the benchmark is called once, the
other side is marked, and every row is sampled and written (`Session.measure`); and it ends with
`shutdown`.  The frame that the marks fill is made once and handed on from iteration to iteration.
The first failure ends the measurement, and the backend is shut down once all the same.

The loop knows its parties only as operations of a monad `m`: a backend, a benchmark, and somebody
who is told of the progress.  Its result is an `Outcome`.

A session can be run again, with another benchmark and with whatever its parties have become in the
meantime (`Session.runs`).  What is true of a run from every state is true of all runs of a
succession (`Session.forall_mem_runs`).
-/

namespace Stopwatch

/-- Why a measurement was broken off. -/
inductive RunError
  | backend (e : BackendError)
  | measure (e : MeasureError)
  | record (e : RecordError)
  deriving DecidableEq, Repr

def RunError.message : RunError → String
  | backend e => e.message
  | measure e => e.message
  | record e => e.message

/-- What is told of a run while it goes on. -/
inductive Progress
  /-- The backend is ready and the recording is blank. -/
  | runStart (config : Config) (layout : Layout)
  | iterationStart (iteration total : Nat)
  /-- The deltas of the iteration are written. -/
  | iterationEnd (iteration total : Nat)
  /-- The run is complete and the backend is shut down. -/
  | runEnd (layout : Layout) (total : Nat) (recording : Recording layout total)

/-- Where a run stands. -/
inductive Phase
  | init
  | done
  | aborted
  deriving DecidableEq, Repr

/-- How a run of `n` iterations ended. -/
inductive Outcome (n : Nat)
  | completed (layout : Layout) (recording : Recording layout n)
  /-- The backend could not begin. -/
  | refused (e : BackendError)
  /-- The measurement was broken off; the backend may have failed to shut down as well. -/
  | aborted (cause : RunError) (teardown : Option BackendError)
  /-- Everything was measured, but the backend failed to shut down. -/
  | unclosed (e : BackendError)

namespace Outcome

variable {n : Nat}

/-- What the run gives to its caller. -/
def result : Outcome n → Except RunError ((layout : Layout) × Recording layout n)
  | completed layout recording => .ok ⟨layout, recording⟩
  | refused e => .error (.backend e)
  | aborted cause _ => .error cause
  | unclosed e => .error (.backend e)

/-- Where the run stands at its end. -/
def phase : Outcome n → Phase
  | completed .. => .done
  | _ => .aborted

/-- What is said about the run but not returned. -/
def warnings : Outcome n → List String
  | aborted _ (some e) =>
    ["backend teardown failed after fatal error error=" ++ e.message]
  | _ => []

end Outcome

/-- The parties of a run. -/
structure Session (m : Type → Type) where
  config : Config
  backend : Backend m
  benchmark : Int32 → m Unit
  notify : Progress → m Unit

namespace Session

variable {m : Type → Type} [Monad m]

/-- The number of iterations. -/
abbrev total (s : Session m) : Nat := s.config.iterations

/-- A step of a run: it may fail for any of the reasons of a run. -/
abbrev Step (m : Type → Type) (α : Type) := ExceptT RunError m α

/-- A step that asks the backend. -/
def ask {α : Type} (a : Answer m α) : Step m α := ExceptT.adapt RunError.backend a

/-- Sample and write the given rows, in their order. -/
def writeRows (s : Session m) {layout : Layout} (frame : Frame) (iteration : Nat) :
    List (Fin layout.rowCount) → Recording layout s.total → Step m (Recording layout s.total)
  | [], r => pure r
  | row :: rows, r => do
    let sample ← ask (s.backend.sample frame (layout.rowKey row))
    let delta ← ExceptT.mk (pure (sample.delta.mapError RunError.measure))
    let r ← ExceptT.mk (pure ((r.write row iteration delta).mapError RunError.record))
    s.writeRows frame iteration rows r

/-- One iteration up to the rows: the benchmark is called, and the frame is filled anew. -/
def bracket (s : Session m) (iteration : Nat) (frame : Frame) : Step m Frame := do
  ExceptT.lift (s.notify (.iterationStart iteration s.total))
  let frame ← ask (s.backend.mark .before frame)
  ExceptT.lift (s.benchmark s.config.param)
  ask (s.backend.mark .after frame)

/-- One iteration. -/
def iterate (s : Session m) {layout : Layout} (iteration : Nat) (frame : Frame)
    (r : Recording layout s.total) : Step m (Frame × Recording layout s.total) := do
  let frame ← s.bracket iteration frame
  let r ← s.writeRows frame iteration (List.finRange layout.rowCount) r
  ExceptT.lift (s.notify (.iterationEnd iteration s.total))
  pure (frame, r)

/-- The given number of iterations, from the given one on, in one frame. -/
def measure (s : Session m) {layout : Layout} : (count iteration : Nat) → Frame →
    Recording layout s.total → Step m (Frame × Recording layout s.total)
  | 0, _, frame, r => pure (frame, r)
  | count + 1, iteration, frame, r => do
    let (frame, r) ← s.iterate iteration frame r
    s.measure count (iteration + 1) frame r

/-- Shut the backend down after a measurement. -/
def close (s : Session m) {layout : Layout} :
    Except RunError (Frame × Recording layout s.total) → m (Outcome s.total)
  | .error cause => do
    match ← s.backend.shutdown.run with
    | .ok () => pure (.aborted cause none)
    | .error e => pure (.aborted cause (some e))
  | .ok (_, r) => do
    match ← s.backend.shutdown.run with
    | .error e => pure (.unclosed e)
    | .ok () =>
      s.notify (.runEnd layout s.total r)
      pure (.completed layout r)

/-- Measure the benchmark. -/
def run (s : Session m) : m (Outcome s.total) := do
  match ← s.backend.init.run with
  | .error e => pure (.refused e)
  | .ok layout =>
    s.notify (.runStart s.config layout)
    let measured ← (s.measure s.total 0 {} (Recording.blank layout s.total)).run
    s.close measured

end Session

/-! ### Runs one after another -/

/-- The session with another benchmark. -/
abbrev Session.calling {m : Type → Type} (s : Session m) (work : Int32 → m Unit) : Session m :=
  { s with benchmark := work }

/-- Runs of the session one after another, each with a benchmark of its own. -/
def Session.runs {m : Type → Type} [Monad m] (s : Session m) :
    List (Int32 → m Unit) → m (List (Outcome s.total))
  | [] => pure []
  | work :: works => do
    let outcome ← (s.calling work).run
    let outcomes ← s.runs works
    pure (outcome :: outcomes)

/-- What is true of the outcome of every run is true of the outcomes of a succession. -/
theorem Session.forall_mem_runs {σ : Type} (s : Session (StateM σ)) {P : Outcome s.total → Prop}
    {works : List (Int32 → StateM σ Unit)}
    (h : ∀ work ∈ works, ∀ w, P ((s.calling work).run w).1) :
    ∀ w, ∀ o ∈ (s.runs works w).1, P o := by
  induction works with
  | nil => exact fun w o ho => absurd ho List.not_mem_nil
  | cons work works ih =>
    intro w o ho
    rcases List.mem_cons.1 ho with rfl | ho
    · exact h work List.mem_cons_self w
    · exact ih (fun work' hwork' => h work' (List.mem_cons_of_mem work hwork')) _ o ho

end Stopwatch
