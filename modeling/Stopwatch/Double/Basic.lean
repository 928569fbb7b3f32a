/-!
# Double-precision numbers

A `Double` is one of the `2^64` patterns of the binary64 format: a sign bit above a *magnitude* of
63 bits.  The arithmetic on it is integer arithmetic, because every finite double is a whole number
of *units* of `2^-1074`, the smallest positive one.  `unitsOf` reads a magnitude as that number;
below `2^53`, that is twice `exponentBit`, a magnitude is its own number of units (`unitsOf_of_lt`).

The magnitudes in order are the numbers in order, with infinity behind the largest finite number
and the NaNs behind infinity, so the three classes are intervals of magnitudes.
-/

namespace Stopwatch

/-- A binary64 number, given by its bits. -/
structure Double where
  bits : UInt64
  deriving DecidableEq, Repr, Inhabited

namespace Double

/-! ### Sign and magnitude -/

/-- The weight of the sign bit, `2^63`. -/
def signBit : Nat := 0x8000000000000000

/-- The weight of the lowest bit of the exponent, `2^52`. -/
def exponentBit : Nat := 0x10000000000000

/-- The bits below the sign. -/
def magnitude (x : Double) : Nat := x.bits.toNat % signBit

/-- Whether the sign bit is set; it is for `-0` too. -/
def negative (x : Double) : Bool := decide (signBit ≤ x.bits.toNat)

/-- The double of a sign and a magnitude. -/
def ofMagnitude (negative : Bool) (m : Nat) : Double :=
  ⟨UInt64.ofNat ((if negative then signBit else 0) + m)⟩

/-- The magnitude of the infinities. -/
def infinityMagnitude : Nat := 0x7ff * exponentBit

/-- Positive zero. -/
def zero : Double := ⟨0⟩

/-- A quiet NaN. -/
def nan : Double := ⟨0x7ff8000000000000⟩

def isFinite (x : Double) : Bool := decide (x.magnitude < infinityMagnitude)

def isInfinite (x : Double) : Bool := decide (x.magnitude = infinityMagnitude)

def isNaN (x : Double) : Bool := decide (infinityMagnitude < x.magnitude)

/-- The double of the same magnitude and the other sign. -/
def neg (x : Double) : Double := ofMagnitude (!x.negative) x.magnitude

/-- A magnitude is below the sign bit. -/
theorem magnitude_lt (x : Double) : x.magnitude < signBit :=
  Nat.mod_lt _ (by decide)

/-- The pattern is its sign and its magnitude, nothing else. -/
theorem toNat_bits (x : Double) :
    x.bits.toNat = (if x.negative then signBit else 0) + x.magnitude := by
  have h := x.bits.toNat_lt
  unfold negative magnitude
  by_cases hs : signBit ≤ x.bits.toNat
  · rw [if_pos (decide_eq_true hs)]
    unfold signBit at *
    omega
  · rw [if_neg (fun hd => hs (of_decide_eq_true hd))]
    unfold signBit at *
    omega

/-- A double is put together again from its sign and its magnitude. -/
theorem ofMagnitude_negative_magnitude (x : Double) :
    ofMagnitude x.negative x.magnitude = x := by
  cases x with
  | mk bits => simp only [ofMagnitude, ← toNat_bits, UInt64.ofNat_toNat]

theorem toNat_bits_ofMagnitude (s : Bool) {m : Nat} (h : m < signBit) :
    (ofMagnitude s m).bits.toNat = (if s then signBit else 0) + m := by
  unfold ofMagnitude
  rw [UInt64.toNat_ofNat']
  apply Nat.mod_eq_of_lt
  unfold signBit at *
  cases s
  · rw [if_neg Bool.false_ne_true]
    omega
  · rw [if_pos rfl]
    omega

theorem magnitude_ofMagnitude (s : Bool) {m : Nat} (h : m < signBit) :
    (ofMagnitude s m).magnitude = m := by
  unfold magnitude
  rw [toNat_bits_ofMagnitude s h]
  cases s
  · rw [if_neg Bool.false_ne_true, Nat.zero_add, Nat.mod_eq_of_lt h]
  · rw [if_pos rfl, Nat.add_mod_left, Nat.mod_eq_of_lt h]

theorem negative_ofMagnitude (s : Bool) {m : Nat} (h : m < signBit) :
    (ofMagnitude s m).negative = s := by
  unfold negative
  rw [toNat_bits_ofMagnitude s h]
  cases s
  · rw [if_neg Bool.false_ne_true, Nat.zero_add]
    exact decide_eq_false (Nat.not_le_of_lt h)
  · rw [if_pos rfl]
    exact decide_eq_true (Nat.le_add_right _ _)

/-! ### Units -/

/-- One is `2^1074` units. -/
def unitsPerOne : Nat := 1 <<< 1074

/-- The number of units of a magnitude: the lowest 52 bits are the fraction, those above it the
exponent, and from exponent 1 on a leading bit is implied. -/
def unitsOf (m : Nat) : Nat :=
  if m < exponentBit then m
  else (exponentBit + m % exponentBit) <<< (m / exponentBit - 1)

/-- The number of units of a double, with its sign. -/
def units (x : Double) : Int :=
  if x.negative then -(unitsOf x.magnitude : Int) else unitsOf x.magnitude

/-- Subnormals and the first normals are spaced by one unit. -/
theorem unitsOf_of_lt {m : Nat} (h : m < 2 * exponentBit) : unitsOf m = m := by
  unfold unitsOf
  split
  · rfl
  next hm =>
    have hm : exponentBit ≤ m := Nat.le_of_not_lt hm
    have hq : m / exponentBit = 1 :=
      Nat.div_eq_of_lt_le (by rwa [Nat.one_mul]) h
    have hr : m % exponentBit = m - exponentBit := by
      rw [Nat.mod_eq_sub_mod hm, Nat.mod_eq_of_lt (Nat.sub_lt_left_of_lt_add hm (by omega))]
    rw [hq, hr, Nat.sub_self, Nat.shiftLeft_zero, Nat.add_sub_cancel' hm]

/-! ### Order -/

/-- `x < y` as numbers.  A NaN is unordered, and the infinities take their place because the rule
for units runs on past the largest finite magnitude. -/
def lt (x y : Double) : Bool := !x.isNaN && !y.isNaN && decide (x.units < y.units)

/-- Equality as numbers: the two zeros are equal and a NaN is not equal to itself. -/
def numEq (x y : Double) : Bool := !x.isNaN && !y.isNaN && decide (x.units = y.units)

end Double

end Stopwatch
