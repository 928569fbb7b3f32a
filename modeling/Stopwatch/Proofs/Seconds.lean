import Stopwatch.Proofs.Interval
import Stopwatch.Proofs.Transfers

/-!
# Clock values in seconds

A clock shows whole seconds and the nanoseconds of the running one, and `Hardware.seconds` makes one
double of them: the seconds are rounded, the nanoseconds are multiplied by a rounded constant and
rounded, and the sum is rounded again.  None of this puts two times in another order.

Within one second that is so because rounding is monotone (`Double.roundMagnitude_mono`).  From one
second to another two facts are needed.  The nanoseconds of a second stay less than one
(`Hardware.fraction_lt`), so that below `2^53`, where every second is a double of its own, they do
not reach the next second.  From `2^53` on the doubles are two seconds apart or more
(`Double.unitsOf_succ_of_large`), and the nanoseconds are rounded away
(`Double.roundMagnitude_add_of_large`).

`Hardware.clock_in_order` says what follows for two readings of a clock.
-/

namespace Stopwatch

namespace Double

/-! ### Rounding in order -/

/-- **Rounding is monotone** in the numerator. -/
theorem roundMagnitude_mono {n n' d : Nat} (hd : 0 < d) (h : n ≤ n') :
    roundMagnitude n d ≤ roundMagnitude n' d := by
  obtain ⟨m, hm, hround⟩ := nearest_roundMagnitude n hd
  obtain ⟨m', hm', hround'⟩ := nearest_roundMagnitude n' hd
  have hquotient : (n / d : ℚ) ≤ n' / d :=
    div_le_div_of_nonneg_right (Nat.cast_le.2 h) (Nat.cast_nonneg d)
  rw [hround, hround']
  exact min_le_min_right _ (hm.mono hm' hquotient)

/-- A magnitude is what its own units are rounded to. -/
theorem roundMagnitude_unitsOf {m : Nat} (hm : m ≤ infinityMagnitude) :
    roundMagnitude (unitsOf m) 1 = m := by
  refine roundMagnitude_eq_of_nearest Nat.one_pos ?_ hm
  rw [Nat.cast_one, div_one]
  exact nearest_unitsOf m

/-- Up to `2^64` a number is not rounded beyond `2^64`. -/
theorem unitsOf_roundMagnitude_le {n : Nat} (h : n ≤ 2 ^ 64 * unitsPerOne) :
    unitsOf (roundMagnitude n 1) ≤ 2 ^ 64 * unitsPerOne ∧
      roundMagnitude n 1 < infinityMagnitude := by
  obtain ⟨m, hm, hunits⟩ := exists_unitsOf_eq_pow
  rw [← hunits] at h ⊢
  have hle := roundMagnitude_mono Nat.one_pos h
  rw [roundMagnitude_unitsOf hm.le] at hle
  exact ⟨unitsOf_strictMono.monotone hle, hle.trans_lt hm⟩

/-- **From `2^53` on the doubles are two or more apart**: the one behind the magnitude `m` is
greater by at least two. -/
theorem unitsOf_succ_of_large {m : Nat} (hm : 2 ^ 53 * unitsPerOne ≤ unitsOf m) :
    unitsOf m + 2 * unitsPerOne ≤ unitsOf (m + 1) := by
  obtain ⟨p, s, k, hp, hps, rfl, hk, hs⟩ := exists_binade_of_large hm
  have hstep : 2 * 2 ^ p ≤ 2 ^ s := by
    rw [Nat.mul_comm, ← Nat.pow_succ]
    exact Nat.pow_le_pow_right Nat.two_pos hps
  rw [Nat.add_assoc, unitsOf_binade hk.le (.inr hs), unitsOf_binade hk (by omega), hp, k.succ_mul]
  exact Nat.add_le_add_left hstep _

/-- **From `2^53` on less than one is rounded away**: `unitsOf m + f` is rounded to `m`. -/
theorem roundMagnitude_add_of_large {m f : Nat} (hm : 2 ^ 53 * unitsPerOne ≤ unitsOf m)
    (hfinite : m ≤ infinityMagnitude) (hf : f < unitsPerOne) :
    roundMagnitude (unitsOf m + f) 1 = m := by
  have hnext := unitsOf_succ_of_large hm
  have hself := nearest_unitsOf m
  -- The sum is between the midpoints on both sides of `m`, and on neither of them.
  have habove : 2 * (unitsOf m + f) < twiceMidpoint m := by
    rw [twiceMidpoint]
    omega
  have hbelow : ∀ j, j + 1 = m → twiceMidpoint j < 2 * (unitsOf m + f) := by
    rintro j rfl
    have hlt : unitsOf j < unitsOf (j + 1) := unitsOf_strictMono (Nat.lt_succ_self j)
    rw [twiceMidpoint]
    omega
  refine roundMagnitude_eq_of_nearest Nat.one_pos (nearest_div Nat.one_pos ?_ ?_ ?_ ?_) hfinite
  · exact fun j hj => (Nat.mul_one _).symm ▸ (hbelow j hj).le
  · exact (Nat.mul_one _).symm ▸ habove.le
  · exact fun j hj h => absurd ((Nat.mul_one _).symm.trans h) (hbelow j hj).ne
  · exact fun h => absurd (h.trans (Nat.mul_one _)) habove.ne

/-! ### Arithmetic without signs -/

theorem ofInt_natCast (n : Nat) : ofInt n = ofNat n := by
  rw [ofInt, ofNat, decide_eq_false (Int.not_lt.2 (Int.natCast_nonneg n)), Int.natAbs_natCast]

theorem negative_ofNat (n : Nat) : (ofNat n).negative = false := negative_round _ _ _

theorem isFinite_ofNat {n : Nat} (hn : n ≤ 2 ^ 64) : (ofNat n).isFinite = true :=
  decide_eq_true (nearest_ofNat hn).2

theorem units_of_not_negative {x : Double} (h : x.negative = false) :
    x.units = unitsOf x.magnitude := by
  rw [units, h, if_neg Bool.false_ne_true]

/-- Up to `2^53` a whole number is a double without being rounded. -/
theorem unitsOf_ofNat {n : Nat} (hn : n ≤ 2 ^ 53) :
    unitsOf (ofNat n).magnitude = n * unitsPerOne := by
  have hunits := (units_ofNat_eq_iff (hn.trans (by decide))).2 (isExact_of_le hn)
  rw [units_ofNat] at hunits
  exact_mod_cast hunits

theorem magnitude_ofNat_mono {n n' : Nat} (h : n ≤ n') :
    (ofNat n).magnitude ≤ (ofNat n').magnitude := by
  rw [ofNat, ofNat, magnitude_round, magnitude_round]
  exact roundMagnitude_mono Nat.one_pos (Nat.mul_le_mul_right _ h)

variable {x y : Double}

/-- The product of two finite doubles is their exact product, rounded once. -/
theorem mul_of_isFinite (hx : x.isFinite = true) (hy : y.isFinite = true) :
    x * y = round (x.negative != y.negative) (unitsOf x.magnitude * unitsOf y.magnitude)
      unitsPerOne := by
  have hmul : x * y = x.mul y := rfl
  simp only [hmul, mul, isNaN_of_isFinite hx, isNaN_of_isFinite hy, isInfinite_of_isFinite hx,
    isInfinite_of_isFinite hy, natAbs_units, Bool.or_self, Bool.false_eq_true, ↓reduceIte]

/-- The sum of two finite doubles that are not negative is not negative either, and it is their
exact sum, rounded once. -/
theorem add_of_not_negative (hx : x.isFinite = true) (hy : y.isFinite = true)
    (hxsign : x.negative = false) (hysign : y.negative = false) :
    (x + y).negative = false ∧
      (x + y).magnitude = roundMagnitude (unitsOf x.magnitude + unitsOf y.magnitude) 1 := by
  have hadd : x + y = x.add y := rfl
  rw [hadd, add_of_isFinite hx hy, units_of_not_negative hxsign, units_of_not_negative hysign,
    ← Nat.cast_add, hxsign]
  generalize unitsOf x.magnitude + unitsOf y.magnitude = sum
  split
  next hzero =>
    obtain rfl : sum = 0 := Int.natCast_eq_zero.1 hzero
    exact ⟨rfl, rfl⟩
  next =>
    rw [decide_eq_false (Int.not_lt.2 (Int.natCast_nonneg sum)), Int.natAbs_natCast]
    exact ⟨negative_round _ _ _, magnitude_round _ _ _⟩

end Double

namespace Hardware

open Double

/-! ### The nanoseconds of a second -/

theorem isFinite_nanosecond : nanosecond.isFinite = true := by decide +kernel

theorem negative_nanosecond : nanosecond.negative = false := by decide +kernel

/-- So many nanoseconds, in seconds. -/
def fraction (nanoseconds : Nat) : Double := ofNat nanoseconds * nanosecond

theorem fraction_eq {n : Nat} (hn : n < 10 ^ 9) :
    fraction n = round false (n * unitsPerOne * unitsOf nanosecond.magnitude) unitsPerOne := by
  rw [fraction, mul_of_isFinite (isFinite_ofNat (hn.le.trans (by decide))) isFinite_nanosecond,
    unitsOf_ofNat (hn.le.trans (by decide)), negative_ofNat, negative_nanosecond]
  rfl

theorem fraction_mono {n n' : Nat} (hn' : n' < 10 ^ 9) (h : n ≤ n') :
    unitsOf (fraction n).magnitude ≤ unitsOf (fraction n').magnitude := by
  refine unitsOf_strictMono.monotone ?_
  rw [fraction_eq (h.trans_lt hn'), fraction_eq hn', magnitude_round, magnitude_round]
  refine roundMagnitude_mono unitsPerOne_pos ?_
  exact Nat.mul_le_mul_right _ (Nat.mul_le_mul_right _ h)

/-- **The nanoseconds of a second are less than one**, also when they are rounded. -/
theorem fraction_lt {n : Nat} (hn : n < 10 ^ 9) : unitsOf (fraction n).magnitude < unitsPerOne := by
  -- It is enough to look at the last nanosecond.
  have hlast : unitsOf (fraction (10 ^ 9 - 1)).magnitude < unitsPerOne := by decide +kernel
  exact (fraction_mono (by decide) (Nat.le_sub_one_of_lt hn)).trans_lt hlast

theorem isFinite_fraction {n : Nat} (hn : n < 10 ^ 9) : (fraction n).isFinite = true := by
  have hlt : unitsOf (fraction n).magnitude < unitsOf infinityMagnitude := by
    refine (fraction_lt hn).trans (lt_of_le_of_lt ?_ unitsOf_infinityMagnitude)
    exact Nat.le_mul_of_pos_left _ (by decide)
  exact decide_eq_true (unitsOf_strictMono.lt_iff_lt.1 hlt)

theorem negative_fraction {n : Nat} (hn : n < 10 ^ 9) : (fraction n).negative = false := by
  rw [fraction_eq hn]
  exact negative_round _ _ _

/-! ### Seconds and nanoseconds -/

/-- The exact sum of the rounded seconds and the rounded nanoseconds, in units. -/
def unrounded (whole nanoseconds : Nat) : Nat :=
  unitsOf (ofNat whole).magnitude + unitsOf (fraction nanoseconds).magnitude

/-- **Seconds and nanoseconds are added and rounded once more**: `seconds` is not negative, and it
is `unrounded`, rounded. -/
theorem seconds_eq {s n : Nat} (hs : s < 2 ^ 63) (hn : n < 10 ^ 9) :
    (seconds s n).negative = false ∧
      (seconds s n).magnitude = roundMagnitude (unrounded s n) 1 := by
  have hseconds : seconds s n = ofNat s + fraction n := by
    rw [seconds, ofInt_natCast, ofInt_natCast, fraction]
  rw [hseconds]
  exact add_of_not_negative (isFinite_ofNat (hs.le.trans (by decide))) (isFinite_fraction hn)
    (negative_ofNat s) (negative_fraction hn)

theorem unrounded_le {s n : Nat} (hs : s < 2 ^ 63) (hn : n < 10 ^ 9) :
    unrounded s n ≤ 2 ^ 64 * unitsPerOne := by
  have hlimit : unitsOf (ofNat (2 ^ 63)).magnitude = 2 ^ 63 * unitsPerOne := by
    have hexact :=
      (units_ofNat_eq_iff (by decide)).2 (⟨1, 63, by decide, by decide⟩ : IsExact (2 ^ 63))
    rw [units_ofNat] at hexact
    exact_mod_cast hexact
  have hwhole : unitsOf (ofNat s).magnitude ≤ 2 ^ 63 * unitsPerOne :=
    hlimit ▸ unitsOf_strictMono.monotone (magnitude_ofNat_mono hs.le)
  have hfraction := fraction_lt hn
  rw [unrounded]
  omega

/-- **Times in order are seconds in order**, whether they are in one second or in two. -/
theorem magnitude_seconds_mono {s n s' n' : Nat} (hs : s < 2 ^ 63) (hs' : s' < 2 ^ 63)
    (hn : n < 10 ^ 9) (hn' : n' < 10 ^ 9) (h : s < s' ∨ s = s' ∧ n ≤ n') :
    (seconds s n).magnitude ≤ (seconds s' n').magnitude := by
  rw [(seconds_eq hs hn).2, (seconds_eq hs' hn').2]
  have hfraction := fraction_lt hn
  rcases h with hlt | ⟨rfl, hle⟩
  · rcases Nat.lt_or_ge s (2 ^ 53) with hsmall | hlarge
    -- The second is exact, and the next one is as well.
    · refine roundMagnitude_mono Nat.one_pos ?_
      have hnext : unitsOf (ofNat (s + 1)).magnitude ≤ unitsOf (ofNat s').magnitude :=
        unitsOf_strictMono.monotone (magnitude_ofNat_mono hlt)
      rw [unitsOf_ofNat hsmall, Nat.succ_mul] at hnext
      rw [unrounded, unrounded, unitsOf_ofNat hsmall.le]
      omega
    -- What comes behind the seconds is rounded away.
    · have hreached : 2 ^ 53 * unitsPerOne ≤ unitsOf (ofNat s).magnitude := by
        rw [← unitsOf_ofNat le_rfl]
        exact unitsOf_strictMono.monotone (magnitude_ofNat_mono hlarge)
      have hfinite := (nearest_ofNat (hs'.le.trans (by decide))).2.le
      have hseconds := magnitude_ofNat_mono hlt.le
      rw [unrounded, roundMagnitude_add_of_large hreached (hseconds.trans hfinite) hfraction]
      refine hseconds.trans ?_
      rw [← roundMagnitude_unitsOf hfinite]
      exact roundMagnitude_mono Nat.one_pos (Nat.le_add_right _ _)
  · refine roundMagnitude_mono Nat.one_pos ?_
    exact Nat.add_le_add_left (fraction_mono hn' hle) _

/-! ### Readings of a clock -/

/-- What a clock can show: seconds from zero on in a signed machine word, and the nanoseconds of the
running one. -/
structure IsTime (whole nanoseconds : Int) : Prop where
  whole_nonneg : 0 ≤ whole
  whole_lt : whole < 2 ^ 63
  nanoseconds_nonneg : 0 ≤ nanoseconds
  nanoseconds_lt : nanoseconds < 10 ^ 9

theorem now_apply {σ : Type} {h : Hardware (StateM σ)} {w v : σ} {s n : Int}
    (hclock : h.clock w = (.ok (s, n), v)) :
    h.monotonicClock.now.run w = (.ok (seconds s n), v) := by
  have hask : (ask "clock_gettime" h.clock).run w = (.ok (s, n), v) := by
    rw [ask_apply, hclock]
    rfl
  exact (bind_of_ok hask).trans rfl

/-- A time in seconds is finite and at most `2^64`, so that no difference of two such overflows. -/
theorem isFinite_seconds {s n : Nat} (hs : s < 2 ^ 63) (hn : n < 10 ^ 9) :
    (seconds s n).isFinite = true ∧ 0 ≤ (seconds s n).units ∧
      (seconds s n).units ≤ (2 ^ 64 * unitsPerOne : Nat) := by
  obtain ⟨hsign, hmagnitude⟩ := seconds_eq hs hn
  obtain ⟨hle, hfinite⟩ := unitsOf_roundMagnitude_le (unrounded_le hs hn)
  rw [← hmagnitude] at hle hfinite
  rw [units_of_not_negative hsign]
  exact ⟨decide_eq_true hfinite, Int.natCast_nonneg _, Int.ofNat_le.2 hle⟩

/-- **A clock that does not go back is never read as if it did.**  Let a clock show one time and
then another that is not before it, be it in the same second or in a later one.  Then both are read
as finite numbers of seconds, the first of which is not greater, and a sample of the two readings
has a delta. -/
theorem clock_in_order {σ : Type} (h : Hardware (StateM σ)) {w v w' v' : σ} {s n s' n' : Int}
    (hfirst : h.clock w = (.ok (s, n), v)) (hsecond : h.clock w' = (.ok (s', n'), v'))
    (htime : IsTime s n) (htime' : IsTime s' n') (horder : s < s' ∨ s = s' ∧ n ≤ n') :
    let t := seconds s n
    let t' := seconds s' n'
    h.monotonicClock.now.run w = (.ok t, v) ∧ h.monotonicClock.now.run w' = (.ok t', v') ∧
      t.isFinite = true ∧ t'.isFinite = true ∧ t.units ≤ t'.units ∧
      ∀ metric core, (Sample.mk metric core (.seconds t) (.seconds t')).delta = .ok (t' - t) := by
  intro t t'
  obtain ⟨s, rfl⟩ := Int.eq_ofNat_of_zero_le htime.whole_nonneg
  obtain ⟨n, rfl⟩ := Int.eq_ofNat_of_zero_le htime.nanoseconds_nonneg
  obtain ⟨s', rfl⟩ := Int.eq_ofNat_of_zero_le htime'.whole_nonneg
  obtain ⟨n', rfl⟩ := Int.eq_ofNat_of_zero_le htime'.nanoseconds_nonneg
  have hs : s < 2 ^ 63 := by exact_mod_cast htime.whole_lt
  have hn : n < 10 ^ 9 := by exact_mod_cast htime.nanoseconds_lt
  have hs' : s' < 2 ^ 63 := by exact_mod_cast htime'.whole_lt
  have hn' : n' < 10 ^ 9 := by exact_mod_cast htime'.nanoseconds_lt
  obtain ⟨hfinite, hnonneg, -⟩ := isFinite_seconds hs hn
  obtain ⟨hfinite', -, hle'⟩ := isFinite_seconds hs' hn'
  have hle : t.units ≤ t'.units := by
    rw [units_of_not_negative (seconds_eq hs hn).1, units_of_not_negative (seconds_eq hs' hn').1]
    refine Int.ofNat_le.2 (unitsOf_strictMono.monotone (magnitude_seconds_mono hs hs' hn hn' ?_))
    exact_mod_cast horder
  refine ⟨now_apply hfirst, now_apply hsecond, hfinite, hfinite', hle, fun metric core => ?_⟩
  -- The difference does not overflow, since it is at most the second reading.
  have hdifference : (t' - t).isFinite = true := by
    have hsmall : (t'.units - t.units).toNat ≤ 2 ^ 64 * unitsPerOne :=
      Int.toNat_le.2 ((Int.sub_le_self _ hnonneg).trans hle')
    rw [isFinite, magnitude_sub hfinite' hfinite hle]
    exact decide_eq_true (unitsOf_roundMagnitude_le hsmall).2
  rw [Sample.delta_seconds_of_isFinite hfinite hfinite', if_neg (Int.not_lt.2 hle),
    if_pos hdifference]

/-- The second `2^53 + 1` is no double of its own.  Its last nanosecond and the beginning of the
next second are in order all the same. -/
theorem clock_in_order_past_a_second :
    let s : Logged Machine :=
      ⟨{ clock := [.ok (2 ^ 53 + 1, 10 ^ 9 - 1), .ok (2 ^ 53 + 2, 0)] }, #[]⟩
    let t := seconds (2 ^ 53 + 1) (10 ^ 9 - 1)
    let t' := seconds (2 ^ 53 + 2) 0
    IsTime (2 ^ 53 + 1) (10 ^ 9 - 1) ∧ IsTime (2 ^ 53 + 2) 0 ∧
      (Machine.hardware.monotonicClock.now.run s).1 = .ok t ∧
      (Machine.hardware.monotonicClock.now.run (Machine.hardware.clock s).2).1 = .ok t' ∧
      t.units ≤ t'.units ∧
      (Sample.mk .wallclock none (.seconds t) (.seconds t')).delta = .ok (t' - t) := by
  intro s t t'
  have htime : IsTime (2 ^ 53 + 1) (10 ^ 9 - 1) := ⟨by decide, by decide, by decide, by decide⟩
  have htime' : IsTime (2 ^ 53 + 2) 0 := ⟨by decide, by decide, by decide, by decide⟩
  have hfirst : Machine.hardware.clock s =
    (.ok (2 ^ 53 + 1, 10 ^ 9 - 1), (Machine.hardware.clock s).2) := rfl
  have hsecond : Machine.hardware.clock (Machine.hardware.clock s).2 =
    (.ok (2 ^ 53 + 2, 0), (Machine.hardware.clock (Machine.hardware.clock s).2).2) := rfl
  obtain ⟨hnow, hnow', -, -, hle, hdelta⟩ := clock_in_order Machine.hardware hfirst hsecond htime
    htime' (.inl (by decide))
  exact ⟨htime, htime', congrArg Prod.fst hnow, congrArg Prod.fst hnow', hle,
    hdelta .wallclock none⟩

end Hardware

end Stopwatch
