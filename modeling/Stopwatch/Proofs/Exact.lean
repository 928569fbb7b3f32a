import Stopwatch.Proofs.Delta
import Stopwatch.Proofs.Nearest

/-!
# Counter differences that are exactly doubles

A whole number is *exact* if it has no more than 53 binary digits from the first to the last that is
set, and then an exponent (`Double.IsExact`).  The exact ones are those that are the units of some
magnitude (`Double.isExact_iff_exists_unitsOf`), and below `2^64` those that `Double.ofNat` does not
change (`Double.units_ofNat_eq_iff`).  From `2^53` on the doubles are whole numbers, so that the
nearest one can always be shown as such (`Double.wholePart_ofNat_mul`), and the test that a
difference has to pass, to be the same again after it was made a double, is whether it is exact
(`Double.wholePart_ofNat_eq_iff`).

`Sample.delta_count` puts it together: of two counter readings in order the difference is given out
if and only if it is exact.
-/

namespace Stopwatch

namespace Double

/-! ### Exact numbers -/

/-- A number of 53 binary digits with an exponent. -/
def IsExact (d : Nat) : Prop := ∃ m e, m < 2 ^ 53 ∧ d = m * 2 ^ e

theorem isExact_of_le {d : Nat} (h : d ≤ 2 ^ 53) : IsExact d := by
  rcases Nat.lt_or_eq_of_le h with hlt | rfl
  · exact ⟨d, 0, hlt, (Nat.mul_one d).symm⟩
  · exact ⟨1, 53, by decide, by decide⟩

/-- An odd number has no exponent to help it. -/
theorem not_isExact_of_odd {d : Nat} (hodd : d % 2 = 1) (hd : 2 ^ 53 ≤ d) : ¬ IsExact d := by
  rintro ⟨m, e, hm, rfl⟩
  cases e with
  | zero => omega
  | succ e =>
    rw [Nat.pow_succ, ← Nat.mul_assoc, Nat.mul_mod_left] at hodd
    cases hodd

/-- One is a power of two of units. -/
theorem exists_unitsPerOne : ∃ p, unitsPerOne = 2 ^ p := by
  have hshift : ∀ n, ∃ p, 1 <<< n = 2 ^ p := fun n => ⟨n, Nat.one_shiftLeft n⟩
  exact hshift 1074

theorem unitsPerOne_pos : 0 < unitsPerOne := by
  obtain ⟨p, hp⟩ := exists_unitsPerOne
  exact hp ▸ Nat.two_pow_pos p

/-- 53 digits and an exponent are the units of some magnitude. -/
theorem exists_unitsOf_eq (e : Nat) : ∀ {m : Nat}, m < 2 * exponentBit →
    ∃ M, unitsOf M = m * 2 ^ e := by
  induction e with
  | zero =>
    intro m hm
    refine ⟨m, ?_⟩
    rw [unitsOf_of_lt hm, Nat.pow_zero, Nat.mul_one]
  | succ e ih =>
    intro m hm
    -- A short number is shifted up; a long one fills its binade.
    rcases Nat.lt_or_ge m exponentBit with hshort | hlong
    · obtain ⟨M, hM⟩ := ih (m := 2 * m) (by omega)
      refine ⟨M, ?_⟩
      rw [hM, Nat.pow_succ]
      ring
    · exact ⟨_, unitsOf_binade hm.le (.inr hlong)⟩

/-- **The exact numbers are the units of the magnitudes**, as far as they are whole numbers. -/
theorem isExact_iff_exists_unitsOf {d : Nat} :
    IsExact d ↔ ∃ M, unitsOf M = d * unitsPerOne := by
  have hbit : 2 * exponentBit = 2 ^ 53 := by decide
  obtain ⟨p, hp⟩ := exists_unitsPerOne
  rw [hp]
  constructor
  · rintro ⟨m, e, hm, rfl⟩
    obtain ⟨M, hM⟩ := exists_unitsOf_eq (e + p) (hbit ▸ hm)
    refine ⟨M, ?_⟩
    rw [hM, Nat.pow_add, Nat.mul_assoc]
  · rintro ⟨M, hM⟩
    obtain ⟨s, k, rfl, hk, hs⟩ := exists_binade M
    rw [unitsOf_binade hk.le hs] at hM
    rcases Nat.le_total p s with hle | hle
    · refine ⟨k, s - p, hbit ▸ hk, ?_⟩
      refine Nat.eq_of_mul_eq_mul_right (Nat.two_pow_pos p) ?_
      rw [← hM, Nat.mul_assoc, ← Nat.pow_add, Nat.sub_add_cancel hle]
    -- A step below one: the number is no greater than the digits.
    · refine ⟨d, 0, ?_, (Nat.mul_one d).symm⟩
      have hd : k = d * 2 ^ (p - s) := by
        refine Nat.eq_of_mul_eq_mul_right (Nat.two_pow_pos s) ?_
        rw [hM, Nat.mul_assoc, ← Nat.pow_add, Nat.sub_add_cancel hle]
      calc d ≤ d * 2 ^ (p - s) := Nat.le_mul_of_pos_right d (Nat.two_pow_pos _)
        _ < 2 ^ 53 := by rw [← hd, ← hbit]; exact hk

/-- The units without their sign are those of the magnitude. -/
theorem natAbs_units (x : Double) : x.units.natAbs = unitsOf x.magnitude := by
  rw [units]
  split
  · rw [Int.natAbs_neg, Int.natAbs_natCast]
  · exact Int.natAbs_natCast _

/-- A magnitude of no more than `2^64` is finite. -/
theorem lt_infinityMagnitude {M d : Nat} (hd : d ≤ 2 ^ 64) (hM : unitsOf M = d * unitsPerOne) :
    M < infinityMagnitude := by
  rw [← unitsOf_strictMono.lt_iff_lt, hM]
  exact (Nat.mul_le_mul_right _ hd).trans_lt unitsOf_infinityMagnitude

/-- **The exact numbers are the values of doubles.** -/
theorem isExact_iff_exists_double {d : Nat} (hd : d ≤ 2 ^ 64) :
    IsExact d ↔ ∃ x : Double, x.isFinite = true ∧ x.units = d * unitsPerOne := by
  rw [isExact_iff_exists_unitsOf]
  constructor
  · rintro ⟨M, hM⟩
    have hlt := lt_infinityMagnitude hd hM
    have hbits : M < signBit := hlt.trans infinityMagnitude_lt
    refine ⟨ofMagnitude false M, ?_, ?_⟩
    · rw [isFinite, magnitude_ofMagnitude false hbits]
      exact decide_eq_true hlt
    · rw [units, negative_ofMagnitude false hbits, magnitude_ofMagnitude false hbits, hM,
        if_neg Bool.false_ne_true, Nat.cast_mul]
  · rintro ⟨x, -, hx⟩
    refine ⟨x.magnitude, ?_⟩
    rw [← natAbs_units, hx, ← Nat.cast_mul, Int.natAbs_natCast]

/-! ### The nearest double to a whole number -/

theorem units_ofNat (d : Nat) : (ofNat d).units = unitsOf (ofNat d).magnitude := by
  rw [units, ofNat, negative_round, if_neg Bool.false_ne_true]

/-- `2^64` is exact and finite. -/
theorem exists_unitsOf_eq_pow : ∃ M, M < infinityMagnitude ∧ unitsOf M = 2 ^ 64 * unitsPerOne := by
  obtain ⟨M, hM⟩ := isExact_iff_exists_unitsOf.1 (⟨1, 64, by decide, by decide⟩ : IsExact (2 ^ 64))
  exact ⟨M, lt_infinityMagnitude le_rfl hM, hM⟩

theorem nearest_ofNat {d : Nat} (hd : d ≤ 2 ^ 64) :
    Nearest (ofNat d).magnitude (d * unitsPerOne) ∧ (ofNat d).magnitude < infinityMagnitude := by
  have hone : (d * unitsPerOne : ℚ) = (d * unitsPerOne : Nat) / (1 : Nat) := by
    rw [Nat.cast_one, div_one, Nat.cast_mul]
  obtain ⟨m, hm, hround⟩ := nearest_roundMagnitude (d * unitsPerOne) Nat.one_pos
  rw [← hone] at hm
  -- No greater number than `2^64` is rounded beyond it.
  obtain ⟨M, hfinite, hM⟩ := exists_unitsOf_eq_pow
  have hle : m ≤ M := by
    refine hm.mono (nearest_unitsOf M) ?_
    rw [hM, ← Nat.cast_mul]
    exact Nat.cast_le.2 (Nat.mul_le_mul_right _ hd)
  have hlt := hle.trans_lt hfinite
  rw [ofNat, magnitude_round, hround, Nat.min_eq_left hlt.le]
  exact ⟨hm, hlt⟩

/-- **The nearest double** to a whole number is the closest one. -/
theorem closest_ofNat {d : Nat} (hd : d ≤ 2 ^ 64) : (ofNat d).Closest (d * unitsPerOne) := by
  obtain ⟨hnearest, hlt⟩ := nearest_ofNat hd
  have hself : ofMagnitude false (ofNat d).magnitude = ofNat d := by
    conv_rhs => rw [← ofMagnitude_negative_magnitude (ofNat d)]
    rw [ofNat, negative_round]
  rw [← hself]
  exact hnearest.closest hlt (by positivity)

/-- **Rounding does not change the exact numbers, and changes all others.** -/
theorem units_ofNat_eq_iff {d : Nat} (hd : d ≤ 2 ^ 64) :
    (ofNat d).units = d * unitsPerOne ↔ IsExact d := by
  rw [isExact_iff_exists_unitsOf, units_ofNat, ← Nat.cast_mul, Nat.cast_inj]
  refine ⟨fun h => ⟨_, h⟩, ?_⟩
  rintro ⟨M, hM⟩
  have hself : Nearest M (d * unitsPerOne) := by
    rw [← Nat.cast_mul, ← hM]
    exact nearest_unitsOf M
  rw [(nearest_ofNat hd).1.unique hself, hM]

/-- What rounds to `2^64` from below is not exact. -/
theorem not_isExact_of_units_ofNat {d : Nat} (hd : d < 2 ^ 64)
    (h : (ofNat d).units = 2 ^ 64 * unitsPerOne) : ¬ IsExact d := by
  rw [← units_ofNat_eq_iff hd.le, h]
  intro heq
  have hone : (unitsPerOne : Int) ≠ 0 := by exact_mod_cast unitsPerOne_pos.ne'
  have hd' : (d : Int) = 2 ^ 64 := (mul_right_cancel₀ hone heq).symm
  omega

/-- From `2^53` on a magnitude lies in a binade whose step is greater than one. -/
theorem exists_binade_of_large {M : Nat} (hM : 2 ^ 53 * unitsPerOne ≤ unitsOf M) :
    ∃ p s k, unitsPerOne = 2 ^ p ∧ p < s ∧ M = s * exponentBit + k ∧ k < 2 * exponentBit ∧
      exponentBit ≤ k := by
  obtain ⟨p, hp⟩ := exists_unitsPerOne
  obtain ⟨s, k, rfl, hk, hs⟩ := exists_binade M
  have hbit : 2 * exponentBit = 2 ^ 53 := by decide
  rw [unitsOf_binade hk.le hs, hp] at hM
  -- The digits alone are fewer, so the step is greater than one.
  have hlt : 2 ^ 53 * 2 ^ p < 2 ^ 53 * 2 ^ s :=
    hM.trans_lt (Nat.mul_lt_mul_of_pos_right (hbit ▸ hk) (Nat.two_pow_pos s))
  have hps : p < s := (Nat.pow_lt_pow_iff_right (by decide)).1 (Nat.lt_of_mul_lt_mul_left hlt)
  exact ⟨p, s, k, hp, hps, rfl, hk, hs.resolve_left (by omega)⟩

/-- From `2^53` on the doubles are whole numbers. -/
theorem unitsPerOne_dvd_unitsOf {M : Nat} (hM : 2 ^ 53 * unitsPerOne ≤ unitsOf M) :
    unitsPerOne ∣ unitsOf M := by
  obtain ⟨p, s, k, hp, hps, rfl, hk, hs⟩ := exists_binade_of_large hM
  rw [unitsOf_binade hk.le (.inr hs), hp]
  exact (Nat.pow_dvd_pow 2 hps.le).trans (Nat.dvd_mul_left _ k)

/-- **The nearest double to a whole number is one as well.** -/
theorem wholePart_ofNat_mul {d : Nat} (hd : d ≤ 2 ^ 64) :
    (wholePart (ofNat d) * unitsPerOne : Nat) = (ofNat d).units := by
  have hdvd : unitsPerOne ∣ unitsOf (ofNat d).magnitude := by
    rcases Nat.le_total d (2 ^ 53) with hle | hge
    · have hexact := (units_ofNat_eq_iff hd).2 (isExact_of_le hle)
      rw [← natAbs_units, hexact, ← Nat.cast_mul, Int.natAbs_natCast]
      exact Nat.dvd_mul_left _ d
    · obtain ⟨M, hM⟩ := isExact_iff_exists_unitsOf.1 (isExact_of_le (le_refl (2 ^ 53)))
      refine unitsPerOne_dvd_unitsOf ?_
      rw [← hM]
      refine unitsOf_strictMono.monotone ((nearest_unitsOf M).mono (nearest_ofNat hd).1 ?_)
      rw [hM, ← Nat.cast_mul]
      exact Nat.cast_le.2 (Nat.mul_le_mul_right _ hge)
  rw [wholePart, natAbs_units, Nat.div_mul_cancel hdvd, units_ofNat]

/-- **The way through a double and back** leads to the same number if and only if that is exact. -/
theorem wholePart_ofNat_eq_iff {d : Nat} (hd : d ≤ 2 ^ 64) :
    (ofNat d).wholePart = d ↔ IsExact d := by
  have hwhole := wholePart_ofNat_mul hd
  rw [← units_ofNat_eq_iff hd, ← hwhole, ← Nat.cast_mul, Nat.cast_inj,
    Nat.mul_left_inj unitsPerOne_pos.ne']

end Double

namespace Sample

/-! ### Differences of counters -/

variable {metric : Metric} {core : Option Nat} {start stop : UInt64}

/-- Readings that went backwards are given back. -/
theorem delta_count_of_lt (h : stop < start) :
    (Sample.mk metric core (.count start) (.count stop)).delta =
      .error (.nonMonotonic metric core (.count start) (.count stop)) := if_pos h

/-- A difference that is exact is given out. -/
theorem delta_count_of_isExact (h : start ≤ stop) (hd : Double.IsExact (stop - start).toNat) :
    (Sample.mk metric core (.count start) (.count stop)).delta =
      .ok (Double.ofNat (stop - start).toNat) := by
  have hwhole := (Double.wholePart_ofNat_eq_iff (stop - start).toNat_lt.le).2 hd
  exact (if_neg (UInt64.not_lt.2 h)).trans (if_pos hwhole)

/-- A difference that is not exact is rejected. -/
theorem delta_count_of_not_isExact (h : start ≤ stop)
    (hd : ¬ Double.IsExact (stop - start).toNat) :
    (Sample.mk metric core (.count start) (.count stop)).delta =
      .error (.precisionLoss metric core (stop - start)) := by
  have hwhole := mt (Double.wholePart_ofNat_eq_iff (stop - start).toNat_lt.le).1 hd
  exact (if_neg (UInt64.not_lt.2 h)).trans (if_neg hwhole)

/-- Whatever is given out is the double of an exact difference. -/
theorem isExact_of_delta_count (h : start ≤ stop) {v : Double}
    (hv : (Sample.mk metric core (.count start) (.count stop)).delta = .ok v) :
    Double.IsExact (stop - start).toNat ∧ v = Double.ofNat (stop - start).toNat := by
  by_cases hd : Double.IsExact (stop - start).toNat
  · rw [delta_count_of_isExact h hd] at hv
    exact ⟨hd, (Except.ok.inj hv).symm⟩
  · rw [delta_count_of_not_isExact h hd] at hv
    cases hv

/-- Readings in order are not said to have gone backwards. -/
theorem delta_count_ne_nonMonotonic (h : start ≤ stop) :
    (Sample.mk metric core (.count start) (.count stop)).delta ≠
      .error (.nonMonotonic metric core (.count start) (.count stop)) := by
  by_cases hd : Double.IsExact (stop - start).toNat
  · rw [delta_count_of_isExact h hd]
    exact nofun
  · rw [delta_count_of_not_isExact h hd]
    exact nofun

/-- The message of a difference that is not exact tells the double nearest to it. -/
theorem message_precisionLoss {delta : UInt64} (hd : ¬ Double.IsExact delta.toNat) :
    ∃ (x : Double) (w : Nat), (MeasureError.precisionLoss metric core delta).message =
      s!"loss of precision detected for {metric.name}{Metric.coreSuffix core}: {delta.toNat} != " ++
        toString w ∧
      x.Closest (delta.toNat * Double.unitsPerOne) ∧ x.units = w * Double.unitsPerOne ∧
      w ≠ delta.toNat := by
  have hle : delta.toNat ≤ 2 ^ 64 := delta.toNat_lt.le
  have hwhole := Double.wholePart_ofNat_mul hle
  rw [Nat.cast_mul] at hwhole
  refine ⟨Double.ofNat delta.toNat, (Double.ofNat delta.toNat).wholePart, rfl,
    Double.closest_ofNat hle, hwhole.symm, mt (Double.wholePart_ofNat_eq_iff hle).1 hd⟩

/-- **The delta of two counter readings.**  If the readings went backwards, both are given back as
they are.  Otherwise let `d` be the exact difference.  There is a delta if and only if `d` has at
most 53 binary digits and an exponent, that is, if and only if `d` is a double, and then the delta
is worth exactly `d`; in particular there is one up to `2^53`.  A `d` that is not a double is
rejected as it is, in particular `2^64 - 1` and whatever rounds to `2^64`, and the message shows
beside it the whole number that is the double nearest to it, the even one of two, and never `d`
itself. -/
theorem delta_count (metric : Metric) (core : Option Nat) (start stop : UInt64) :
    let s : Sample := ⟨metric, core, .count start, .count stop⟩
    let d := stop.toNat - start.toNat
    (s.delta = .error (.nonMonotonic metric core (.count start) (.count stop)) ↔ stop < start) ∧
    (start ≤ stop → (stop - start).toNat = d ∧
      ((∃ v, s.delta = .ok v) ↔ Double.IsExact d) ∧
      (Double.IsExact d ↔ ∃ x : Double, x.isFinite = true ∧ x.units = d * Double.unitsPerOne) ∧
      (∀ v, s.delta = .ok v → v.isFinite = true ∧ v.units = d * Double.unitsPerOne) ∧
      (s.delta = .error (.precisionLoss metric core (stop - start)) ↔ ¬ Double.IsExact d) ∧
      (d ≤ 2 ^ 53 → ∃ v, s.delta = .ok v) ∧
      (d = 2 ^ 64 - 1 ∨ (Double.ofNat d).units = 2 ^ 64 * Double.unitsPerOne →
        s.delta = .error (.precisionLoss metric core (stop - start))) ∧
      (¬ Double.IsExact d → ∃ (x : Double) (w : Nat),
        (MeasureError.precisionLoss metric core (stop - start)).message =
          s!"loss of precision detected for {metric.name}{Metric.coreSuffix core}: {d} != " ++
            toString w ∧
        x.Closest (d * Double.unitsPerOne) ∧ x.units = w * Double.unitsPerOne ∧ w ≠ d)) := by
  intro s d
  refine ⟨⟨fun h => ?_, fun h => delta_count_of_lt h⟩, fun hle => ?_⟩
  · by_contra hlt
    exact delta_count_ne_nonMonotonic (UInt64.not_lt.1 hlt) h
  have hd : (stop - start).toNat = d := UInt64.toNat_sub_of_le _ _ hle
  have hsize : (stop - start).toNat < 2 ^ 64 := (stop - start).toNat_lt
  rw [← hd]
  refine ⟨rfl, ⟨?_, ?_⟩, Double.isExact_iff_exists_double hsize.le, ?_,
    ⟨?_, fun h => delta_count_of_not_isExact hle h⟩, ?_, ?_, fun h => message_precisionLoss h⟩
  · rintro ⟨v, hv⟩
    exact (isExact_of_delta_count hle hv).1
  · intro h
    exact ⟨_, delta_count_of_isExact hle h⟩
  · intro v hv
    obtain ⟨h, rfl⟩ := isExact_of_delta_count hle hv
    exact ⟨(Double.closest_ofNat hsize.le).isFinite, (Double.units_ofNat_eq_iff hsize.le).2 h⟩
  · intro hlost h
    rw [delta_count_of_isExact hle h] at hlost
    cases hlost
  · intro h
    exact ⟨_, delta_count_of_isExact hle (Double.isExact_of_le h)⟩
  · rintro (h | h)
    · refine delta_count_of_not_isExact hle ?_
      rw [h]
      exact Double.not_isExact_of_odd (by decide) (by decide)
    · exact delta_count_of_not_isExact hle (Double.not_isExact_of_units_ofNat hsize h)

end Sample

end Stopwatch
