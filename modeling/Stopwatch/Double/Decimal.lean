import Stopwatch.Double.Round

/-!
# The shortest decimal of a double

The reals that round to a magnitude `m` lie between two midpoints: the one it shares with `m - 1`
and the one it shares with `m + 1`, both included when `m` is even.  A decimal reads back as the
double when it lies in that interval, and the *shortest* decimal is the one with the fewest digits
that does; of two of the same length it is the nearer one, and an exact tie is decided by the
caller.

A half unit is `5^1075 * 10^-1075`, so the value, the two midpoints and every decimal of at most 17
digits are whole numbers of `10^-1075`, and the search compares natural numbers.
-/

namespace Stopwatch.Double

/-- `significand * 10^exponent`. -/
structure Decimal where
  significand : Nat
  exponent : Int
  deriving DecidableEq, Repr

/-- Which of two equally near neighbours is taken. -/
inductive Tie
  | up
  | even
  deriving DecidableEq, Repr

namespace Decimal

/-- Decimals are counted in `10^-gridExponent`. -/
def gridExponent : Nat := 1075

/-- The number of grid steps of a half unit. -/
def gridPerHalfUnit : Nat := Nat.pow 5 1075

/-- The value of a magnitude, in grid steps. -/
def gridValue (m : Nat) : Nat := 2 * unitsOf m * gridPerHalfUnit

/-- The midpoint between the magnitudes `m` and `m + 1`, in grid steps. -/
def gridMidpoint (m : Nat) : Nat := (unitsOf m + unitsOf (m + 1)) * gridPerHalfUnit

/-- Whether `c` grid steps round to the magnitude `m`. -/
def readsBack (m c : Nat) : Bool :=
  if m % 2 = 0 then decide (gridMidpoint (m - 1) ≤ c ∧ c ≤ gridMidpoint m)
  else decide (gridMidpoint (m - 1) < c ∧ c < gridMidpoint m)

/-- The multiple of `10^p` grid steps, if there is one, that reads back as `m` and is nearest to
it. -/
def candidate? (tie : Tie) (m p : Nat) : Option Nat :=
  let step := Nat.pow 10 p
  let d := gridValue m / step
  let r := gridValue m % step
  match readsBack m (d * step), readsBack m ((d + 1) * step) with
  | false, false => none
  | true, false => some d
  | false, true => some (d + 1)
  | true, true =>
    if 2 * r < step then some d
    else if step < 2 * r then some (d + 1)
    else match tie with
      | .up => some (d + 1)
      | .even => some (d + d % 2)

/-- The number of decimal digits, counted in blocks of 64 but for the first ones. -/
def digitCount (n : Nat) : Nat :=
  let block := Nat.pow 10 64
  let full := (Nat.toDigits block n).length - 1
  64 * full + (Nat.toDigits 10 (n / Nat.pow block full)).length

/-- The shortest decimal that reads back as the magnitude `m`.  Seventeen digits always suffice; the
exact value stands for the case that they do not. -/
def shortest (tie : Tie) (m : Nat) : Decimal :=
  let n := digitCount (gridValue m)
  let found := (List.range 17).findSome? fun k =>
    (candidate? tie m (n - (k + 1))).map fun d =>
      (⟨d, (n - (k + 1) : Nat) - gridExponent⟩ : Decimal)
  found.getD ⟨gridValue m, -gridExponent⟩

end Decimal

end Stopwatch.Double
