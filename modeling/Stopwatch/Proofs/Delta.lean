import Stopwatch.Recording
import Stopwatch.Sample

/-!
# Deltas are numbers from zero up

`Sample.isDelta` says that whatever a sample gives out is finite and at least zero, from whichever
kind of reading it comes.  For counters this is seen from the test that a difference has to pass:
the whole part of the double is a 64-bit number, and that of infinity is not
(`Double.isFinite_round`, from `Double.unitsOf_infinityMagnitude`).  For the clock, the exact
difference of two readings in order is not negative, and rounding keeps the sign
(`Double.units_sub_nonneg`).

So no delta is the sentinel (`Double.IsDelta.ne_sentinel`).
-/

namespace Stopwatch

namespace Double

/-! ### Signs -/

theorem units_of_negative_eq_false {x : Double} (h : x.negative = false) : 0 ≤ x.units := by
  rw [units, h, if_neg Bool.false_ne_true]
  exact Int.natCast_nonneg _

/-- A rounded number that is asked for without a sign is at least zero. -/
theorem units_round_nonneg (n d : Nat) : 0 ≤ (round false n d).units :=
  units_of_negative_eq_false (negative_round false n d)

theorem magnitude_neg (x : Double) : x.neg.magnitude = x.magnitude :=
  magnitude_ofMagnitude _ x.magnitude_lt

/-- Changing the sign changes the sign of the units. -/
theorem units_neg (x : Double) : x.neg.units = -x.units := by
  have hsign : x.neg.negative = !x.negative := negative_ofMagnitude _ x.magnitude_lt
  rw [units, units, hsign, magnitude_neg]
  cases x.negative
  · rfl
  · exact (Int.neg_neg _).symm

/-- The zeros are worth nothing. -/
theorem units_zero (s : Bool) : (ofMagnitude s 0).units = 0 := by
  cases s <;> rfl

/-! ### Finiteness -/

theorem isNaN_of_isFinite {x : Double} (h : x.isFinite = true) : x.isNaN = false :=
  decide_eq_false (Nat.not_lt_of_lt (of_decide_eq_true h))

theorem isInfinite_of_isFinite {x : Double} (h : x.isFinite = true) : x.isInfinite = false :=
  decide_eq_false (Nat.ne_of_lt (of_decide_eq_true h))

theorem isFinite_neg (x : Double) : x.neg.isFinite = x.isFinite := by
  rw [isFinite, magnitude_neg, isFinite]

/-- The sum of two finite doubles is the sum of their units, rounded. -/
theorem add_of_isFinite {x y : Double} (hx : x.isFinite = true) (hy : y.isFinite = true) :
    x.add y = if x.units + y.units = 0 then ofMagnitude (x.negative && y.negative) 0
      else round (decide (x.units + y.units < 0)) (x.units + y.units).natAbs 1 := by
  simp only [add, isNaN_of_isFinite hx, isNaN_of_isFinite hy, isInfinite_of_isFinite hx,
    isInfinite_of_isFinite hy, Bool.or_self, Bool.false_eq_true, ↓reduceIte]

/-- **The difference of finite doubles in order is not negative.** -/
theorem units_sub_nonneg {x y : Double} (hx : x.isFinite = true) (hy : y.isFinite = true)
    (h : x.lt y = false) : 0 ≤ (x - y).units := by
  have hle : y.units ≤ x.units := by
    rw [lt, isNaN_of_isFinite hx, isNaN_of_isFinite hy] at h
    exact Int.not_lt.1 (of_decide_eq_false h)
  have hsub : x - y = x.add y.neg := rfl
  rw [hsub, add_of_isFinite hx (isFinite_neg y ▸ hy), units_neg]
  split
  · exact Int.le_of_eq (units_zero _).symm
  · have hsign : decide (x.units + -y.units < 0) = false := decide_eq_false (by omega)
    rw [hsign]
    exact units_round_nonneg _ 1

/-- Infinity is worth more units than any 64-bit number. -/
theorem unitsOf_infinityMagnitude : UInt64.size * unitsPerOne < unitsOf infinityMagnitude := by
  decide

/-- A rounded number is finite if its whole part has 64 bits. -/
theorem isFinite_round {n d w : Nat} (h : (round false n d).wholePart = w)
    (hw : w < UInt64.size) : (round false n d).isFinite = true := by
  have hle := roundMagnitude_le n d
  rw [← magnitude_round false] at hle
  rcases Nat.lt_or_eq_of_le hle with hlt | heq
  · exact decide_eq_true hlt
  -- Infinity would have a whole part beyond all 64-bit numbers.
  · rw [wholePart, units, negative_round, heq, if_neg Bool.false_ne_true, Int.natAbs_natCast] at h
    have hlarge : UInt64.size ≤ unitsOf infinityMagnitude / unitsPerOne :=
      (Nat.le_div_iff_mul_le (by decide)).2 (Nat.le_of_lt unitsOf_infinityMagnitude)
    omega

/-! ### Deltas -/

/-- A number as a delta is: finite and at least zero. -/
structure IsDelta (x : Double) : Prop where
  isFinite : x.isFinite = true
  nonneg : 0 ≤ x.units

theorem units_sentinel : sentinel.units < 0 := by decide

/-- No delta is the sentinel. -/
theorem IsDelta.ne_sentinel {x : Double} (h : x.IsDelta) : x ≠ sentinel := by
  rintro rfl
  exact Int.not_lt.2 h.nonneg units_sentinel

end Double

namespace Sample

variable {s : Sample} {d : Double}

theorem isDelta_secondsDelta {start stop : Double} (h : s.secondsDelta start stop = .ok d) :
    d.IsDelta := by
  simp only [secondsDelta] at h
  split at h
  next => cases h
  next hfinite =>
    split at h
    next => cases h
    next horder =>
      split at h
      next hd =>
        obtain rfl := Except.ok.inj h
        simp only [Bool.or_eq_true, Bool.not_eq_true', not_or, Bool.not_eq_false] at hfinite
        exact ⟨hd, Double.units_sub_nonneg hfinite.2 hfinite.1 (Bool.eq_false_iff.2 horder)⟩
      next => cases h

theorem isDelta_countDelta {start stop : UInt64} (h : s.countDelta start stop = .ok d) :
    d.IsDelta := by
  simp only [countDelta] at h
  split at h
  next => cases h
  next =>
    split at h
    next hwhole =>
      obtain rfl := Except.ok.inj h
      exact ⟨Double.isFinite_round hwhole (UInt64.toNat_lt_size _), Double.units_round_nonneg _ 1⟩
    next => cases h

/-- **Every delta is finite and at least zero**, whatever the readings are. -/
theorem isDelta (h : s.delta = .ok d) : d.IsDelta := by
  unfold delta at h
  split at h
  next => exact isDelta_secondsDelta h
  next => exact isDelta_countDelta h
  next => cases h

end Sample

end Stopwatch
