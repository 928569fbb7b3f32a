import Stopwatch.Benchmark

/-!
# Benchmarks for demonstration

Three benchmarks to try the program with: one that sleeps, one that computes, and one that counts.
Time is spent by a `Worker`, which can sleep and can be made to evaluate a condition; who only wants
to see the calls uses a worker that does neither.

The one that computes goes through all permutations of a row of pancakes.  For each it counts the
flips until the smallest pancake lies first, where a flip turns over as many pancakes as the first
one says.  The permutations are generated by rotations: all of a longer part of the row are those of
the shorter part, once for each rotation of the longer one (`Fannkuch.permute`).  The greatest count
and the alternating sum of all counts are kept; for eight pancakes the sum is known.
-/

namespace Stopwatch

/-! ### Pancake flips -/

namespace Fannkuch

/-- How many pancakes there are. -/
def size : Nat := 8

/-- The alternating sum for that many. -/
def expectedSum : Int := 1616

/-- A row of pancakes and what was found so far. -/
structure State where
  row : List Nat := List.range size
  greatest : Nat := 0
  odd : Bool := false
  sum : Int := 0
  deriving Repr

/-- Turn over as many pancakes as the first one says. -/
def flip (row : List Nat) : List Nat :=
  let n := row.headD 0 + 1
  (row.take n).reverse ++ row.drop n

/-- The pancake in the place that the first one names. -/
def named (row : List Nat) : Nat := row.getD (row.headD 0) 0

/-- Count flips, one for each and one more, until the one that is named is the smallest. -/
def flips : (limit : Nat) → List Nat → Nat
  | 0, _ => 1
  | limit + 1, row => if named row = 0 then 1 else 1 + flips limit (flip row)

/-- Count the flips of the row at hand.  No row of this size takes more than a few dozen. -/
def visit (s : State) : State :=
  let s := { s with odd := !s.odd }
  if s.row.headD 0 = 0 then s
  else
    let count := flips 64 s.row
    { s with
      greatest := max s.greatest count
      sum := if s.odd then s.sum - count else s.sum + count }

/-- Rotate the first pancakes by one. -/
def rotate (n : Nat) (s : State) : State :=
  match s.row.take n with
  | [] => s
  | first :: rest => { s with row := rest ++ [first] ++ s.row.drop n }

/-- Go through the permutations of the first pancakes, one more than given. -/
def permute : Nat → State → State
  | 0, s => s
  | n + 1, s =>
    let again := fun s => permute n (visit (rotate (n + 2) s))
    rotate (n + 2) (Nat.repeat again (n + 1) (permute n s))

/-- Go through all permutations a number of times.  Each time ends with the row it began with. -/
def run (rounds : Nat) : State :=
  Nat.repeat (fun s => permute (size - 1) { s with odd := false }) rounds {}

/-- Whether the sum is the known one. -/
def isRight (rounds : Nat) : Bool := (run rounds).sum == rounds * expectedSum

end Fannkuch

/-! ### The benchmarks -/

/-- Somebody who spends time. -/
structure Worker (m : Type → Type) where
  /-- Sleep for so many milliseconds. -/
  sleep : Nat → m Unit
  /-- Evaluate a condition, and complain if it does not hold. -/
  check : String → (Unit → Bool) → m Unit

namespace Demo

variable {m : Type → Type}

/-- How often a benchmark repeats its work for a parameter. -/
def rounds (param : Int32) : Nat := param.toInt.toNat

/-- Count up to a number, one by one. -/
def count (n : Nat) : Nat := Nat.repeat (· + 1) n 0

/-- The benchmarks, registered by a module. -/
def entries (modulePath : String) (w : Worker m) : List (Entry m) :=
  [ { name := "dummy", modulePath, run := fun _ => w.sleep 1000 },
    { name := "fannkuch_redux", modulePath,
      run := fun param => w.check "bad checksum" fun _ => Fannkuch.isRight (rounds param) },
    { name := "spin", modulePath,
      run := fun param => w.check "bad count" fun _ => count (rounds param) == rounds param } ]

end Demo

end Stopwatch
