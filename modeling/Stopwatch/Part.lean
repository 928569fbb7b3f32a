/-!
# Parts of a state, and logs

An operation that needs only a part of a state is written for that part and then run on the whole.
A `Part` says how the part is found and put back; what is put back is found again, and nothing else
is asked of it.

A state can be a part of a `Logged` one: what happens to it is written down beside it, as lines in
the order in which it happens.  A log only grows: `Logged.note` is the one operation that touches
it.
-/

namespace Stopwatch

/-- A part of a larger state. -/
structure Part (whole part : Type) where
  get : whole → part
  set : part → whole → whole
  get_set : ∀ p w, get (set p w) = p := by intros; rfl

namespace Part

variable {whole part piece : Type}

/-- Run an operation of the part on the whole. -/
def run {α : Type} (l : Part whole part) (a : StateM part α) : StateM whole α := fun w =>
  let (x, p) := a (l.get w)
  (x, l.set p w)

/-- A part of a part. -/
def trans (l : Part whole part) (k : Part part piece) : Part whole piece where
  get w := k.get (l.get w)
  set p w := l.set (k.set p (l.get w)) w
  get_set p w := by rw [l.get_set, k.get_set]

end Part

/-- A state, and the lines that were written down about it. -/
structure Logged (σ : Type) where
  state : σ
  lines : Array String := #[]

namespace Logged

variable {σ : Type}

/-- The state without its log. -/
def inner : Part (Logged σ) σ where
  get s := s.state
  set t s := { s with state := t }

/-- Write a line down. -/
def note (line : String) : StateM (Logged σ) Unit := fun s =>
  ((), { s with lines := s.lines.push line })

end Logged

end Stopwatch
