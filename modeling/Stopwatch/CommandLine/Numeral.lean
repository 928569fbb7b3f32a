/-!
# Numerals

How numbers are written on a command line: as decimal digits, after at most one sign.  Since a word
that begins with a hyphen could also be meant as a switch, `looksNumeric` says what is taken for a
number there: digits with at most a point and an exponent, whether or not the number is then
accepted.
-/

namespace Stopwatch.Numeral

/-- The number of a text of digits. -/
def natural? (cs : List Char) : Option Nat :=
  if cs.isEmpty || !cs.all Char.isDigit then none
  else some (cs.foldl (fun n c => 10 * n + (c.toNat - '0'.toNat)) 0)

/-- A whole number that a machine word holds. -/
def word? (text : String) : Option Nat :=
  let digits := match text.toList with
    | '+' :: cs => cs
    | cs => cs
  (natural? digits).filter (· < UInt64.size)

/-- A whole number with at most one sign. -/
def integer? (text : String) : Option Int :=
  match text.toList with
  | '-' :: cs => (natural? cs).map fun n => -(n : Int)
  | '+' :: cs => (natural? cs).map Int.ofNat
  | cs => (natural? cs).map Int.ofNat

/-- A whole number with at most one sign that 32 bits hold. -/
def int32? (text : String) : Option Int32 :=
  ((integer? text).filter fun i =>
    Int32.minValue.toInt ≤ i ∧ i ≤ Int32.maxValue.toInt).map Int32.ofInt

/-- Drop a point and the digits after it. -/
def dropFraction : List Char → List Char
  | '.' :: cs => cs.dropWhile Char.isDigit
  | cs => cs

/-- Whether a text is empty or an exponent. -/
def isExponent : List Char → Bool
  | [] => true
  | c :: cs => (c == 'e' || c == 'E') && !cs.isEmpty && cs.all Char.isDigit

/-- Whether what follows a hyphen is taken for a number. -/
def looksNumeric (cs : List Char) : Bool :=
  let (whole, rest) := cs.span Char.isDigit
  !whole.isEmpty && isExponent (dropFraction rest)

end Stopwatch.Numeral
