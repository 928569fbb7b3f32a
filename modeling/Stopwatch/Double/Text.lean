import Stopwatch.Double.Decimal

/-!
# Doubles as text

A `Style` says how the shortest digits of a double are laid out: which decimal exponents are written
with a plain point and which with an `e`, whether a whole number keeps `.0`, whether a positive
exponent carries its sign, and what stands for the values that have no digits.  The digits
themselves are the same in every style.

Three styles are in use: `plain` for readings in messages, `tagged` for readings in a dump, and the
number style of the result document, which stands with the document.
-/

namespace Stopwatch.Double

/-- A layout for shortest digits. -/
structure Style where
  /-- Whether a number whose first digit stands for `10^e` is written without an exponent. -/
  positional : Int → Bool
  /-- Whether a whole number in positional notation ends in `.0`. -/
  pointZero : Bool
  /-- Whether a positive exponent is written with a plus sign. -/
  plusSign : Bool
  /-- Which of two equally short and equally near decimals is written. -/
  tie : Tie
  nan : String
  infinity : String
  negativeInfinity : String

namespace Style

/-- Never an exponent, never a trailing `.0`. -/
def plain : Style where
  positional _ := true
  pointZero := false
  plusSign := false
  tie := .up
  nan := "NaN"
  infinity := "inf"
  negativeInfinity := "-inf"

/-- An exponent below `10^-4` and from `10^16` on, `.0` on whole numbers. -/
def tagged : Style where
  positional e := decide (-4 ≤ e ∧ e < 16)
  pointZero := true
  plusSign := false
  tie := .up
  nan := "NaN"
  infinity := "inf"
  negativeInfinity := "-inf"

end Style

/-- Digits without the zeros at the end. -/
def dropTrailingZeros (ds : List Char) : List Char :=
  (ds.reverse.dropWhile (· == '0')).reverse

/-- Digits with a point, the first of them standing for `10^e`. -/
def positionalText (pointZero : Bool) (ds : List Char) (e : Int) : List Char :=
  if e < 0 then '0' :: '.' :: (List.replicate (e.natAbs - 1) '0' ++ ds)
  else
    let whole := e.toNat + 1
    if ds.length ≤ whole then
      ds ++ List.replicate (whole - ds.length) '0' ++ (if pointZero then ['.', '0'] else [])
    else ds.take whole ++ '.' :: ds.drop whole

/-- Digits with an exponent, the first of them standing for `10^e`. -/
def scientificText (plusSign : Bool) (ds : List Char) (e : Int) : List Char :=
  let sign := if e < 0 then ['-'] else if plusSign then ['+'] else []
  let fraction := match ds.tail with
    | [] => []
    | rest => '.' :: rest
  ds.take 1 ++ fraction ++ 'e' :: (sign ++ Nat.toDigits 10 e.natAbs)

/-- The text of a finite magnitude. -/
def magnitudeText (style : Style) (m : Nat) : List Char :=
  if m = 0 then positionalText style.pointZero ['0'] 0
  else
    let decimal := Decimal.shortest style.tie m
    let ds := Nat.toDigits 10 decimal.significand
    let e := (ds.length : Int) - 1 + decimal.exponent
    let ds := dropTrailingZeros ds
    if style.positional e then positionalText style.pointZero ds e
    else scientificText style.plusSign ds e

/-- The text of a double in a style. -/
def text (style : Style) (x : Double) : String :=
  if x.isNaN then style.nan
  else if x.isInfinite then (if x.negative then style.negativeInfinity else style.infinity)
  else String.ofList ((if x.negative then ['-'] else []) ++ magnitudeText style x.magnitude)

end Stopwatch.Double
