/-!
# Writers and sinks

A `Writer` takes octets, as many of those offered as it likes at a time, and can be flushed; both
may fail with a text.  `writeAll` offers what is left until nothing is, and gives up at the first
failure or when the writer takes nothing.

A `Sink` is a writer with an appetite that is known beforehand: how much it takes in total, how much
at a time, and whether it can be flushed.
-/

namespace Stopwatch

/-- A text as octets. -/
def octets (s : String) : List UInt8 := s.toUTF8.data.toList

/-- A place that octets are written to. -/
structure Writer (m : Type → Type) where
  /-- Offer octets; the answer is how many of them were taken. -/
  write : List UInt8 → m (Except String Nat)
  flush : m (Except String Unit)

/-- The same writer in another monad. -/
def Writer.change {m n : Type → Type} (f : {α : Type} → m α → n α) (w : Writer m) : Writer n where
  write bytes := f (w.write bytes)
  flush := f w.flush

namespace Writer

variable {m : Type → Type} [Monad m]

/-- Offer octets until all are taken. -/
def writeAll (w : Writer m) : List UInt8 → m (Except String Unit)
  | [] => pure (.ok ())
  | b :: bs => do
    match ← w.write (b :: bs) with
    | .error e => pure (.error e)
    | .ok 0 => pure (.error "failed to write whole buffer")
    | .ok (k + 1) => w.writeAll (bs.drop k)
termination_by bytes => bytes.length
decreasing_by
  rw [List.length_drop, List.length_cons]
  omega

/-- Write texts one after the other. -/
def writePieces (w : Writer m) : List String → m (Except String Unit)
  | [] => pure (.ok ())
  | s :: rest => do
    match ← w.writeAll (octets s) with
    | .error e => pure (.error e)
    | .ok () => w.writePieces rest

end Writer

/-- A writer of known appetite, and what it has taken. -/
structure Sink where
  /-- How many octets it still takes. -/
  limit : Option Nat := none
  /-- How many octets it takes at a time. -/
  chunk : Option Nat := none
  /-- Whether it refuses to be flushed. -/
  refusesFlush : Bool := false
  /-- What it has taken, the latest first. -/
  taken : List UInt8 := []
  deriving Repr, Inhabited

namespace Sink

/-- What the sink has taken, in order. -/
def received (s : Sink) : List UInt8 := s.taken.reverse

/-- The sink with some more octets taken. -/
def accept (s : Sink) (bytes : List UInt8) : Sink :=
  { s with limit := s.limit.map (· - bytes.length), taken := bytes.reverse ++ s.taken }

/-- What is accepted stands behind what has been received before. -/
theorem received_accept (s : Sink) (bytes : List UInt8) :
    (s.accept bytes).received = s.received ++ bytes := by
  simp [accept, received]

/-- Take some of the octets that are offered. -/
def write (bytes : List UInt8) : StateM Sink (Except String Nat) := fun s =>
  let room := s.limit.getD bytes.length
  if room = 0 ∧ bytes ≠ [] then (.error "sink full", s)
  else
    let count := min (min bytes.length room) (s.chunk.getD bytes.length)
    (.ok count, s.accept (bytes.take count))

def flush : StateM Sink (Except String Unit) := fun s =>
  (if s.refusesFlush then .error "flush refused" else .ok (), s)

/-- A sink as a writer. -/
def writer : Writer (StateM Sink) := ⟨write, flush⟩

/-- What the sink has taken, as text. -/
def text (s : Sink) : String :=
  (String.fromUTF8? ⟨s.received.toArray⟩).getD ""

end Sink

end Stopwatch
