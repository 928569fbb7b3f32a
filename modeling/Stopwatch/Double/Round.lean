import Stopwatch.Double.Basic

/-!
# Rounding to the nearest double, and arithmetic

There is one rounding function, `round`, and it takes an exact quotient of units.  A quotient with
more than 53 binary digits before the point is rounded at a coarser step `2^s`, one with fewer at
the step of one unit; at either step `divRoundEven` takes the nearest multiple, and the even one of
two.  The magnitude of `q` steps of `2^s` units is `s * 2^52 + q`: a carry out of `q` moves on to
the next exponent by itself, and whatever reaches the infinite magnitude is infinite.

Everything that comes in from outside, whole numbers and decimals, and every result of arithmetic
goes through it: the result is the exact one, rounded once.  A sum of finite doubles is a sum of
units, and a product of `a` and `b` units is `a * b / 2^1074` units.  Where the exact result is zero
its sign needs a rule: a sum is `-0` only if both terms are negative, a product takes the product of
the signs.
-/

namespace Stopwatch.Double

/-- `n / d` rounded to the nearest whole number, halves to the even one. -/
def divRoundEven (n d : Nat) : Nat :=
  let q := n / d
  let r := n % d
  if 2 * r < d then q
  else if d < 2 * r then q + 1
  else q + q % 2

/-- The magnitude nearest to `n / d` units. -/
def roundMagnitude (n d : Nat) : Nat :=
  let s := (n / d).log2 - 52
  min (s * exponentBit + divRoundEven n (d <<< s)) infinityMagnitude

/-- The double nearest to `n / d` units, with the given sign. -/
def round (negative : Bool) (n d : Nat) : Double :=
  ofMagnitude negative (roundMagnitude n d)

/-- The double nearest to a whole number. -/
def ofNat (n : Nat) : Double := round false (n * unitsPerOne) 1

/-- The double nearest to an integer. -/
def ofInt (i : Int) : Double := round (decide (i < 0)) (i.natAbs * unitsPerOne) 1

/-- The double nearest to `m * 10^e`, with the given sign. -/
def ofDecimal (negative : Bool) (m : Nat) (e : Int) : Double :=
  if 0 ≤ e then round negative (m * Nat.pow 10 e.toNat * unitsPerOne) 1
  else round negative (m * unitsPerOne) (Nat.pow 10 e.natAbs)

/-- The whole part of a finite double, without its sign. -/
def wholePart (x : Double) : Nat := x.units.natAbs / unitsPerOne

/-- No magnitude is rounded past infinity. -/
theorem roundMagnitude_le (n d : Nat) : roundMagnitude n d ≤ infinityMagnitude :=
  Nat.min_le_right _ _

theorem infinityMagnitude_lt : infinityMagnitude < signBit := by decide

/-- The sign of a rounded number is the one that was asked for, also of zero. -/
theorem negative_round (s : Bool) (n d : Nat) : (round s n d).negative = s :=
  negative_ofMagnitude s (Nat.lt_of_le_of_lt (roundMagnitude_le n d) infinityMagnitude_lt)

theorem magnitude_round (s : Bool) (n d : Nat) : (round s n d).magnitude = roundMagnitude n d :=
  magnitude_ofMagnitude s (Nat.lt_of_le_of_lt (roundMagnitude_le n d) infinityMagnitude_lt)

/-! ### Sums, differences and products -/

/-- The sum, rounded to the nearest double. -/
def add (x y : Double) : Double :=
  if x.isNaN || y.isNaN then nan
  else if x.isInfinite then
    if y.isInfinite && x.negative != y.negative then nan else x
  else if y.isInfinite then y
  else
    let sum := x.units + y.units
    if sum = 0 then ofMagnitude (x.negative && y.negative) 0
    else round (decide (sum < 0)) sum.natAbs 1

/-- The difference, rounded to the nearest double. -/
def sub (x y : Double) : Double := x.add y.neg

/-- The product, rounded to the nearest double. -/
def mul (x y : Double) : Double :=
  let negative := x.negative != y.negative
  if x.isNaN || y.isNaN then nan
  else if x.isInfinite || y.isInfinite then
    if x.units = 0 || y.units = 0 then nan else ofMagnitude negative infinityMagnitude
  else round negative (x.units.natAbs * y.units.natAbs) unitsPerOne

instance : Add Double := ⟨add⟩

instance : Sub Double := ⟨sub⟩

instance : Mul Double := ⟨mul⟩

instance : Neg Double := ⟨neg⟩

end Stopwatch.Double
