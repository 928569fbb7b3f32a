import Stopwatch.Proofs.Exact

/-!
# Intervals between clock readings

The exact difference of two finite doubles is a whole number of units, and the subtraction rounds it
once.  So an interval that is not empty is worth at least a unit and is never rounded to zero
(`Double.roundMagnitude_pos`), whatever the underflow, and what is rounded to infinity is known from
its size alone: it is half a step, or less, away from the power of two behind the largest finite
double (`Double.overflows_iff`).

`Sample.delta_seconds` puts it together: of two clock readings that are finite and in order the
difference is given out as the double closest to it, unless that overflows.
-/

namespace Stopwatch

namespace Double

/-! ### Overflow -/

theorem unitsPerOne_eq : unitsPerOne = 2 ^ 1074 := by
  have hshift : ∀ n, 1 <<< n = 2 ^ n := Nat.one_shiftLeft
  exact hshift 1074

/-- Rounded as if there were no greatest exponent, the number of units is no longer finite. -/
def Overflows (q : ℚ) : Prop := ∃ m, Nearest m q ∧ infinityMagnitude ≤ m

/-- What is rounded to an even magnitude or beyond has reached the midpoint below it. -/
theorem Nearest.succ_le_iff {m j : Nat} {q : ℚ} (h : Nearest m q) (hj : j % 2 = 1) :
    j + 1 ≤ m ↔ (twiceMidpoint j : ℚ) ≤ 2 * q := by
  constructor
  · intro hle
    obtain ⟨i, rfl⟩ := Nat.exists_eq_add_of_le hle
    have hmono : twiceMidpoint j ≤ twiceMidpoint (j + i) :=
      twiceMidpoint_strictMono.monotone (Nat.le_add_right j i)
    exact (Nat.cast_le.2 hmono).trans (h.lower (j + i) (by omega))
  · intro hq
    by_contra hlt
    have hmj : m ≤ j := by omega
    -- The number lies on the midpoint, so that the even neighbour is taken, and that is not `j`.
    have hmidpoint : twiceMidpoint j ≤ twiceMidpoint m := Nat.cast_le.1 (hq.trans h.upper)
    obtain rfl : m = j := le_antisymm hmj (twiceMidpoint_strictMono.le_iff_le.1 hmidpoint)
    have heven := h.upper_even (le_antisymm h.upper hq)
    omega

/-- The midpoint between the largest finite magnitude and infinity. -/
theorem twiceMidpoint_of_succ_eq_infinity {j : Nat} (hj : j + 1 = infinityMagnitude) :
    twiceMidpoint j = 2 * ((2 ^ 1024 - 2 ^ 970) * unitsPerOne) := by
  have hbit : exponentBit = 2 ^ 52 := by decide
  have hform : infinityMagnitude = 2045 * exponentBit + 2 * exponentBit := by decide
  have hlarge : exponentBit ≤ 2 * exponentBit := by decide
  have hmidpoint : twiceMidpoint j + 2 ^ 2045 = 2 * (2 * exponentBit) * 2 ^ 2045 := by
    rcases twiceMidpoint_pred le_rfl (.inr hlarge) (hj.trans hform) with h | ⟨-, h, -⟩
    · exact h
    · exact absurd h (by decide)
  have hadd : ∀ k l, (2 : Nat) ^ (k + l) = 2 ^ k * 2 ^ l := Nat.pow_add 2
  have hone : (2 : Nat) ^ 1024 = 2 ^ 54 * 2 ^ 970 := by rw [← hadd]
  have hstep : (2 : Nat) ^ 2045 = 2 ^ 1 * (2 ^ 970 * 2 ^ 1074) := by rw [← hadd, ← hadd]
  rw [unitsPerOne_eq, hone, Nat.sub_mul, Nat.mul_assoc]
  rw [hstep, hbit] at hmidpoint
  generalize (2 : Nat) ^ 970 * 2 ^ 1074 = y at hmidpoint ⊢
  omega

/-- **Overflow** begins half a step before the power of two behind the largest finite double. -/
theorem overflows_iff (n : Nat) : Overflows n ↔ (2 ^ 1024 - 2 ^ 970) * unitsPerOne ≤ n := by
  obtain ⟨j, hj⟩ : ∃ j, j + 1 = infinityMagnitude := ⟨infinityMagnitude - 1, by decide⟩
  have hodd : j % 2 = 1 := by
    have heven : infinityMagnitude % 2 = 0 := by decide
    omega
  have hreach : ∀ {m}, Nearest m n → (infinityMagnitude ≤ m ↔
      (2 ^ 1024 - 2 ^ 970) * unitsPerOne ≤ n) := by
    intro m hm
    have hcast : (2 : ℚ) * n = (2 * n : Nat) := by push_cast; rfl
    rw [← hj, hm.succ_le_iff hodd, hcast, Nat.cast_le, twiceMidpoint_of_succ_eq_infinity hj]
    exact Nat.mul_le_mul_left_iff Nat.two_pos
  constructor
  · rintro ⟨m, hm, hle⟩
    exact (hreach hm).1 hle
  · intro hle
    obtain ⟨m, hm, -⟩ := nearest_roundMagnitude n Nat.one_pos
    rw [Nat.cast_one, div_one] at hm
    exact ⟨m, hm, (hreach hm).2 hle⟩

/-- A whole number of units is rounded to the nearest magnitude, unless it overflows. -/
theorem nearest_or_overflows (n : Nat) :
    Nearest (roundMagnitude n 1) n ∧ roundMagnitude n 1 < infinityMagnitude ∧ ¬ Overflows n ∨
      roundMagnitude n 1 = infinityMagnitude ∧ Overflows n := by
  obtain ⟨m, hm, hround⟩ := nearest_roundMagnitude n Nat.one_pos
  rw [Nat.cast_one, div_one] at hm
  rcases Nat.lt_or_ge m infinityMagnitude with hlt | hge
  · rw [hround, Nat.min_eq_left hlt.le]
    refine .inl ⟨hm, hlt, ?_⟩
    rintro ⟨m', hm', hle⟩
    rw [hm.unique hm'] at hlt
    exact Nat.not_le.2 hlt hle
  · exact .inr ⟨hround.trans (Nat.min_eq_right hge), m, hm, hge⟩

/-- **Not even the smallest number of units is rounded to zero.** -/
theorem roundMagnitude_pos {n : Nat} (hn : 0 < n) : 0 < roundMagnitude n 1 := by
  obtain ⟨m, hm, hround⟩ := nearest_roundMagnitude n Nat.one_pos
  rw [Nat.cast_one, div_one] at hm
  have hone : 1 ≤ m := by
    refine (nearest_unitsOf 1).mono hm (Nat.cast_le.2 ?_)
    rw [unitsOf_of_lt (by decide)]
    exact hn
  rw [hround]
  exact Nat.lt_min.2 ⟨hone, by decide⟩

/-! ### Differences -/

variable {x y : Double}

theorem unitsOf_eq_zero {m : Nat} : unitsOf m = 0 ↔ m = 0 :=
  unitsOf_strictMono.injective.eq_iff' rfl

/-- Which doubles are worth nothing: the two zeros. -/
theorem units_eq_zero_iff : x.units = 0 ↔ x = ofMagnitude x.negative 0 := by
  rw [← Int.natAbs_eq_zero, natAbs_units, unitsOf_eq_zero]
  constructor
  · intro h
    rw [← h, ofMagnitude_negative_magnitude]
  · intro h
    rw [h]
    exact magnitude_ofMagnitude _ (by decide)

/-- What is not worth less than nothing is worth its magnitude. -/
theorem units_of_nonneg (h : 0 ≤ x.units) : x.units = unitsOf x.magnitude := by
  rw [← natAbs_units, Int.natAbs_of_nonneg h]

/-- Finite doubles are ordered by their units. -/
theorem lt_of_isFinite (hx : x.isFinite = true) (hy : y.isFinite = true) :
    x.lt y = decide (x.units < y.units) := by
  rw [lt, isNaN_of_isFinite hx, isNaN_of_isFinite hy]
  rfl

theorem sub_of_isFinite (hx : x.isFinite = true) (hy : y.isFinite = true) :
    x - y = if x.units = y.units then ofMagnitude (x.negative && !y.negative) 0
      else round (decide (x.units < y.units)) (x.units - y.units).natAbs 1 := by
  have hsub : x - y = x.add y.neg := rfl
  have hsign : y.neg.negative = !y.negative := negative_ofMagnitude _ y.magnitude_lt
  rw [hsub, add_of_isFinite hx (isFinite_neg y ▸ hy), units_neg, hsign, ← Int.sub_eq_add_neg]
  simp only [Int.sub_eq_zero, sub_neg]

/-- **The difference of finite doubles in order** is the exact one, rounded once. -/
theorem magnitude_sub (hx : x.isFinite = true) (hy : y.isFinite = true) (h : y.units ≤ x.units) :
    (x - y).magnitude = roundMagnitude (x.units - y.units).toNat 1 := by
  rw [sub_of_isFinite hx hy]
  split
  next heq =>
    have hnone : (x.units - y.units).toNat = 0 := by omega
    rw [magnitude_ofMagnitude _ (by decide), hnone]
    rfl
  next =>
    have habs : (x.units - y.units).natAbs = (x.units - y.units).toNat := by omega
    rw [magnitude_round, habs]

/-- The difference has a sign only where positive zero is taken from negative zero. -/
theorem negative_sub (hx : x.isFinite = true) (hy : y.isFinite = true) (h : y.units ≤ x.units) :
    (x - y).negative = true ↔ x = ofMagnitude true 0 ∧ y = zero := by
  rw [sub_of_isFinite hx hy]
  split
  next heq =>
    rw [negative_ofMagnitude _ (by decide), Bool.and_eq_true, Bool.not_eq_true']
    constructor
    · rintro ⟨hxneg, hyneg⟩
      have hynonneg := units_of_negative_eq_false hyneg
      have hxnonpos : x.units ≤ 0 := by
        rw [units, hxneg, if_pos rfl]
        exact Int.neg_nonpos_of_nonneg (Int.natCast_nonneg _)
      have hxzero := units_eq_zero_iff.1 (show x.units = 0 by omega)
      have hyzero := units_eq_zero_iff.1 (show y.units = 0 by omega)
      rw [hxneg] at hxzero
      rw [hyneg] at hyzero
      exact ⟨hxzero, hyzero⟩
    · rintro ⟨rfl, rfl⟩
      decide
  next hne =>
    have hsign : decide (x.units < y.units) = false := decide_eq_false (by omega)
    rw [hsign, negative_round]
    refine iff_of_false Bool.false_ne_true ?_
    rintro ⟨rfl, rfl⟩
    exact hne rfl

/-- Which double is closest depends on its magnitude and its units only. -/
theorem Closest.congr {q : ℚ} (h : x.Closest q) (hmagnitude : y.magnitude = x.magnitude)
    (hunits : y.units = x.units) : y.Closest q where
  isFinite := by
    rw [Double.isFinite, hmagnitude]
    exact h.isFinite
  dist_le z hz := by
    rw [hunits]
    exact h.dist_le z hz
  even z hz hne heq := by
    rw [hunits] at hne heq
    rw [hmagnitude]
    exact h.even z hz hne heq

/-- **The difference of finite doubles in order**: the double closest to the exact difference,
finite and not negative, and zero only where the two are equal; or it is infinity, where that
overflows. -/
theorem sub_spec (hx : x.isFinite = true) (hy : y.isFinite = true) (h : y.units ≤ x.units) :
    ((x - y).isFinite = true ↔ ¬ Overflows (x.units - y.units : Int)) ∧
    ((x - y).isFinite = true → (x - y).Closest (x.units - y.units : Int) ∧ 0 ≤ (x - y).units ∧
      ((x - y).units = 0 ↔ x.units = y.units)) := by
  obtain ⟨n, hn⟩ := Int.eq_ofNat_of_zero_le (Int.sub_nonneg.2 h)
  have hmagnitude := magnitude_sub hx hy h
  have hnonneg : 0 ≤ (x - y).units :=
    units_sub_nonneg hx hy ((lt_of_isFinite hx hy).trans (decide_eq_false (Int.not_lt.2 h)))
  have hunits := units_of_nonneg hnonneg
  rw [hn, Int.toNat_natCast] at hmagnitude
  rw [hn, Int.cast_natCast]
  rcases nearest_or_overflows n with ⟨hnearest, hlt, hover⟩ | ⟨hinfinite, hover⟩
  · refine ⟨iff_of_true ?_ hover, fun _ => ⟨?_, hnonneg, ?_⟩⟩
    · rw [isFinite, hmagnitude]
      exact decide_eq_true hlt
    · have hbits : roundMagnitude n 1 < signBit := hlt.trans infinityMagnitude_lt
      refine (hnearest.closest hlt (Nat.cast_nonneg n)).congr ?_ ?_
      · rw [hmagnitude, magnitude_ofMagnitude false hbits]
      · rw [hunits, hmagnitude, units, negative_ofMagnitude false hbits,
          magnitude_ofMagnitude false hbits, if_neg Bool.false_ne_true]
    · rw [hunits, hmagnitude, Nat.cast_eq_zero, unitsOf_eq_zero]
      constructor
      · intro hzero
        by_contra hne
        exact (roundMagnitude_pos (n := n) (by omega)).ne' hzero
      · intro heq
        obtain rfl : n = 0 := by omega
        rfl
  · have hnot : (x - y).isFinite = false := by
      rw [isFinite, hmagnitude, hinfinite]
      exact decide_eq_false (Nat.lt_irrefl _)
    rw [hnot]
    exact ⟨iff_of_false Bool.false_ne_true (not_not_intro hover),
      fun h => absurd h Bool.false_ne_true⟩

end Double

namespace Sample

/-! ### Differences of clock readings -/

variable {metric : Metric} {core : Option Nat} {start stop : Double}

/-- A reading that is not finite is given back with the other one. -/
theorem delta_seconds_of_not_isFinite (h : ¬ (start.isFinite = true ∧ stop.isFinite = true)) :
    (Sample.mk metric core (.seconds start) (.seconds stop)).delta =
      .error (.nonFinite metric core (.seconds start) (.seconds stop)) := by
  refine if_pos ?_
  rw [Bool.or_eq_true, Bool.not_eq_true', Bool.not_eq_true']
  simpa only [not_and_or, Bool.not_eq_true] using h

/-- What is made of two finite readings. -/
theorem delta_seconds_of_isFinite (hstart : start.isFinite = true) (hstop : stop.isFinite = true) :
    (Sample.mk metric core (.seconds start) (.seconds stop)).delta =
      if stop.units < start.units then
        .error (.nonMonotonic metric core (.seconds start) (.seconds stop))
      else if (stop - start).isFinite then .ok (stop - start)
      else .error (.nonFinite metric core (.seconds start) (.seconds stop)) := by
  simp only [delta, secondsDelta, hstart, hstop, Double.lt_of_isFinite hstop hstart, Bool.not_true,
    Bool.or_self, Bool.false_eq_true, if_false, decide_eq_true_eq]

/-- **The delta of two clock readings.**  Let `d` be the exact difference in units.  The readings
are given back as not finite if and only if one of them is infinite or no number, or both are finite
and in order and `d`, rounded to the nearest double, is beyond the largest one, which is so from
`2^1024 - 2^970` on.  They are given back as going backwards if and only if both are finite and the
first one is greater.  There is no other error.  In all other cases the delta is the double closest
to `d`, the even one of two; it is finite and not negative, it is zero only if the readings are
equal, and it is negative zero only for negative zero after positive zero. -/
theorem delta_seconds (metric : Metric) (core : Option Nat) (start stop : Double) :
    let s : Sample := ⟨metric, core, .seconds start, .seconds stop⟩
    let d : Int := stop.units - start.units
    let finite := start.isFinite = true ∧ stop.isFinite = true
    (s.delta = .error (.nonFinite metric core (.seconds start) (.seconds stop)) ↔
      ¬ finite ∨ finite ∧ start.units ≤ stop.units ∧ Double.Overflows d) ∧
    (s.delta = .error (.nonMonotonic metric core (.seconds start) (.seconds stop)) ↔
      finite ∧ stop.units < start.units) ∧
    (∀ e, s.delta = .error e → e = .nonFinite metric core (.seconds start) (.seconds stop) ∨
      e = .nonMonotonic metric core (.seconds start) (.seconds stop)) ∧
    (0 ≤ d → (Double.Overflows d ↔ (2 ^ 1024 - 2 ^ 970 : Nat) * Double.unitsPerOne ≤ d)) ∧
    ((∃ v, s.delta = .ok v) ↔ finite ∧ start.units ≤ stop.units ∧ ¬ Double.Overflows d) ∧
    (∀ v, s.delta = .ok v → v = stop - start ∧ v.Closest d ∧ v.isFinite = true ∧ 0 ≤ v.units ∧
      (v.units = 0 ↔ start.units = stop.units) ∧
      (v.negative = true ↔ stop = Double.ofMagnitude true 0 ∧ start = Double.zero)) := by
  intro s d finite
  have hover : 0 ≤ d →
      (Double.Overflows d ↔ (2 ^ 1024 - 2 ^ 970 : Nat) * Double.unitsPerOne ≤ d) := by
    intro hd
    obtain ⟨n, hn⟩ := Int.eq_ofNat_of_zero_le hd
    rw [hn, Int.cast_natCast, Double.overflows_iff, ← Nat.cast_mul, Nat.cast_le]
  by_cases hfinite : finite
  · have hs : s.delta = _ := delta_seconds_of_isFinite hfinite.1 hfinite.2
    rcases Int.lt_or_le stop.units start.units with hlt | hle
    -- The readings went backwards.
    · rw [if_pos hlt] at hs
      rw [hs]
      refine ⟨iff_of_false nofun ?_, iff_of_true rfl ⟨hfinite, hlt⟩,
        fun e he => .inr (Except.error.inj he).symm, hover, iff_of_false nofun ?_, nofun⟩
      · rintro (h | ⟨-, h, -⟩)
        · exact h hfinite
        · exact Int.not_lt.2 h hlt
      · exact fun h => Int.not_lt.2 h.2.1 hlt
    · obtain ⟨hfits, hspec⟩ := Double.sub_spec hfinite.2 hfinite.1 hle
      rw [if_neg (Int.not_lt.2 hle)] at hs
      by_cases hd : Double.Overflows d
      -- The difference overflows.
      · rw [if_neg fun h => hfits.1 h hd] at hs
        rw [hs]
        exact ⟨iff_of_true rfl (.inr ⟨hfinite, hle, hd⟩),
          iff_of_false nofun fun h => Int.not_lt.2 hle h.2,
          fun e he => .inl (Except.error.inj he).symm, hover, iff_of_false nofun fun h => h.2.2 hd,
          nofun⟩
      -- The difference is given out.
      · rw [if_pos (hfits.2 hd)] at hs
        rw [hs]
        refine ⟨iff_of_false nofun ?_, iff_of_false nofun fun h => Int.not_lt.2 hle h.2, nofun,
          hover, iff_of_true ⟨_, rfl⟩ ⟨hfinite, hle, hd⟩, ?_⟩
        · rintro (h | ⟨-, -, h⟩)
          · exact h hfinite
          · exact hd h
        · rintro v hv
          obtain rfl := Except.ok.inj hv
          obtain ⟨hclosest, hnonneg, hzero⟩ := hspec (hfits.2 hd)
          exact ⟨rfl, hclosest, hclosest.isFinite, hnonneg, hzero.trans eq_comm,
            Double.negative_sub hfinite.2 hfinite.1 hle⟩
  · rw [show s.delta = _ from delta_seconds_of_not_isFinite hfinite]
    exact ⟨iff_of_true rfl (.inl hfinite), iff_of_false nofun fun h => hfinite h.1,
      fun e he => .inl (Except.error.inj he).symm, hover, iff_of_false nofun fun h => hfinite h.1,
      nofun⟩

end Sample

end Stopwatch
