import Stopwatch.Part
import Stopwatch.Backend

/-!
# Scripted answers

Counters that answer whatever they are told to, errors included.  Each accessor has a queue of
answers; when it is empty the answer is zero (`AnswerScript.asked_next`).  So whatever single-core
counters answer in a run, there is an `AnswerScript` that answers the same.
-/

namespace Stopwatch

/-- The answers still to be given. -/
structure AnswerScript where
  now : List (Except BackendError Double) := []
  cycles : List (Except BackendError UInt64) := []
  aperf : List (Except BackendError UInt64) := []
  mperf : List (Except BackendError UInt64) := []

namespace AnswerScript

/-- Give the next answer of a queue. -/
def next {α : Type} (idle : α) (l : Part AnswerScript (List (Except BackendError α))) :
    Answer (StateM AnswerScript) α := fun s =>
  match l.get s with
  | [] => (.ok idle, s)
  | a :: rest => (a, l.set rest s)

/-- Ask for an answer again and again. -/
def asked {α : Type} (x : Answer (StateM AnswerScript) α) :
    Nat → StateM AnswerScript (List (Except BackendError α))
  | 0 => pure []
  | n + 1 => do
    let a ← x.run
    let others ← asked x n
    pure (a :: others)

/-- **The answers of a queue are given in their order**, and behind them only the idle one. -/
theorem asked_next {α : Type} (idle : α) (l : Part AnswerScript (List (Except BackendError α)))
    (n : Nat) (s : AnswerScript) :
    (asked (next idle l) n s).1 = (l.get s ++ List.replicate n (Except.ok idle)).take n := by
  induction n generalizing s with
  | zero => rfl
  | succ n ih =>
    cases hqueue : l.get s with
    | nil =>
      have hnext : (next idle l).run s = (.ok idle, s) := by
        simp only [next, ExceptT.run, hqueue]
      show ((next idle l).run s).1 :: (asked (next idle l) n ((next idle l).run s).2).1 = _
      rw [hnext, ih, hqueue, List.nil_append, List.nil_append, List.replicate_succ,
        List.take_succ_cons]
    | cons a rest =>
      have hnext : (next idle l).run s = (a, l.set rest s) := by
        simp only [next, ExceptT.run, hqueue]
      show ((next idle l).run s).1 :: (asked (next idle l) n ((next idle l).run s).2).1 = _
      rw [hnext, ih, l.get_set, List.cons_append, List.take_succ_cons, List.replicate_succ',
        ← List.append_assoc]
      exact congrArg (a :: ·) (List.take_append_of_le_length (by simp)).symm

/-- The counters that give scripted answers. -/
def counters : PerfCounters (StateM AnswerScript) where
  now := next .zero { get := (·.now), set := fun q s => { s with now := q } }
  cycles := next 0 { get := (·.cycles), set := fun q s => { s with cycles := q } }
  aperf := next 0 { get := (·.aperf), set := fun q s => { s with aperf := q } }
  mperf := next 0 { get := (·.mperf), set := fun q s => { s with mperf := q } }

end AnswerScript

end Stopwatch
