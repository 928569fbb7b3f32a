import Mathlib.Algebra.Order.Field.Rat
import Mathlib.Order.Monotone.Basic
import Mathlib.Tactic.Linarith
import Mathlib.Tactic.Ring
import Stopwatch.Double.Round

/-!
# Rounding takes the nearest double

`Nearest m q` says that `q` units, a rational number, round to the magnitude `m`: they lie between
the midpoints that `m` shares with its two neighbours, and on a midpoint only if `m` is even.  No
number is nearest to two magnitudes (`Nearest.unique`), and `roundMagnitude n d` is the one that `n
/ d` is nearest to, as long as this is no greater than infinity (`roundMagnitude_eq_of_nearest`).
Being nearest is a matter of distance: of all finite doubles the one with this magnitude is
`Closest` to the number (`Nearest.closest`).

The units of a magnitude are seen binade by binade.  A magnitude is `s * 2^52 + k` with `k` below
`2^53`, and then it is worth `k * 2^s` units (`unitsOf_binade`); at `k = 2^53` this is still true,
so that a rounding may carry into the next binade.
-/

namespace Stopwatch.Double

/-! ### The units of a magnitude -/

theorem exponentBit_pos : 0 < exponentBit := by decide

/-- A magnitude with an implied leading bit. -/
theorem unitsOf_normal (s : Nat) {r : Nat} (hr : r < exponentBit) :
    unitsOf ((s + 1) * exponentBit + r) = (exponentBit + r) * 2 ^ s := by
  have hdiv : ((s + 1) * exponentBit + r) / exponentBit = s + 1 := by
    rw [Nat.mul_comm, Nat.mul_add_div exponentBit_pos, Nat.div_eq_of_lt hr, Nat.add_zero]
  have hmod : ((s + 1) * exponentBit + r) % exponentBit = r := by
    rw [Nat.mul_comm, Nat.mul_add_mod, Nat.mod_eq_of_lt hr]
  have hge : ¬ (s + 1) * exponentBit + r < exponentBit := by
    rw [Nat.succ_mul]
    omega
  rw [unitsOf, if_neg hge, hdiv, hmod, Nat.add_sub_cancel, Nat.shiftLeft_eq]

/-- **The units of a binade**, the first magnitude of the next one included. -/
theorem unitsOf_binade {s k : Nat} (hk : k ≤ 2 * exponentBit) (hs : s = 0 ∨ exponentBit ≤ k) :
    unitsOf (s * exponentBit + k) = k * 2 ^ s := by
  rcases Nat.lt_or_ge k exponentBit with hsmall | hlarge
  · obtain rfl : s = 0 := by omega
    rw [Nat.zero_mul, Nat.zero_add, unitsOf_of_lt (by omega), Nat.pow_zero, Nat.mul_one]
  · rcases Nat.lt_or_eq_of_le hk with hlt | rfl
    · have hform : s * exponentBit + k = (s + 1) * exponentBit + (k - exponentBit) := by
        rw [Nat.succ_mul]
        omega
      rw [hform, unitsOf_normal s (by omega), Nat.add_sub_cancel' hlarge]
    · have hform : s * exponentBit + 2 * exponentBit = (s + 1 + 1) * exponentBit + 0 := by ring
      rw [hform, unitsOf_normal (s + 1) exponentBit_pos]
      ring

/-- Every magnitude lies in a binade. -/
theorem exists_binade (m : Nat) : ∃ s k, m = s * exponentBit + k ∧ k < 2 * exponentBit ∧
    (s = 0 ∨ exponentBit ≤ k) := by
  rcases Nat.lt_or_ge m (2 * exponentBit) with hlt | hge
  · exact ⟨0, m, by omega, hlt, .inl rfl⟩
  · have hmod : m % exponentBit < exponentBit := Nat.mod_lt m exponentBit_pos
    have hdiv : 2 ≤ m / exponentBit := (Nat.le_div_iff_mul_le exponentBit_pos).2 hge
    obtain ⟨s, hs⟩ := Nat.exists_eq_add_of_le hdiv
    refine ⟨s + 1, exponentBit + m % exponentBit, ?_, by omega, .inr (Nat.le_add_right _ _)⟩
    calc m = exponentBit * (m / exponentBit) + m % exponentBit := (Nat.div_add_mod _ _).symm
      _ = _ := by rw [hs]; ring

/-- **Magnitudes in order are units in order.** -/
theorem unitsOf_strictMono : StrictMono unitsOf := by
  refine strictMono_nat_of_lt_succ fun m => ?_
  obtain ⟨s, k, rfl, hk, hs⟩ := exists_binade m
  rw [Nat.add_assoc, unitsOf_binade (by omega) hs, unitsOf_binade (by omega) (by omega)]
  exact Nat.mul_lt_mul_of_pos_right (Nat.lt_succ_self k) (Nat.two_pow_pos s)

/-! ### Between midpoints -/

/-- Twice the midpoint between the magnitudes `m` and `m + 1`, in units. -/
def twiceMidpoint (m : Nat) : Nat := unitsOf m + unitsOf (m + 1)

theorem twiceMidpoint_strictMono : StrictMono twiceMidpoint := fun _ _ h =>
  Nat.add_lt_add (unitsOf_strictMono h) (unitsOf_strictMono (Nat.succ_lt_succ h))

/-- The magnitude `m` is the nearest one to `q` units, and the even one of two. -/
structure Nearest (m : Nat) (q : ℚ) : Prop where
  lower : ∀ j, j + 1 = m → (twiceMidpoint j : ℚ) ≤ 2 * q
  upper : 2 * q ≤ twiceMidpoint m
  lower_even : ∀ j, j + 1 = m → (twiceMidpoint j : ℚ) = 2 * q → m % 2 = 0
  upper_even : 2 * q = twiceMidpoint m → m % 2 = 0

theorem nearest_zero : Nearest 0 0 where
  lower j hj := absurd hj (Nat.succ_ne_zero j)
  upper := by
    rw [mul_zero]
    exact Nat.cast_nonneg _
  lower_even j hj := absurd hj (Nat.succ_ne_zero j)
  upper_even _ := rfl

/-- A greater number is not nearest to a smaller magnitude. -/
theorem Nearest.mono {m m' : Nat} {q q' : ℚ} (h : Nearest m q) (h' : Nearest m' q') (hq : q ≤ q') :
    m ≤ m' := by
  by_contra hlt
  obtain ⟨j, rfl⟩ := Nat.exists_eq_add_of_lt (Nat.lt_of_not_le hlt)
  -- Both numbers would lie on the one midpoint between the two magnitudes.
  have hle : (twiceMidpoint (m' + j) : ℚ) ≤ twiceMidpoint m' := by
    linarith [h.lower _ rfl, h'.upper]
  have hj : m' + j ≤ m' := twiceMidpoint_strictMono.le_iff_le.1 (Nat.cast_le.1 hle)
  obtain rfl : j = 0 := by omega
  have hmidpoint : 2 * q' = twiceMidpoint m' := by linarith [h.lower m' rfl, h'.upper]
  have hmidpoint' : (twiceMidpoint m' : ℚ) = 2 * q := by linarith [h.lower m' rfl, h'.upper]
  have heven := h'.upper_even hmidpoint
  have heven' := h.lower_even m' rfl hmidpoint'
  omega

/-- **No number is nearest to two magnitudes.** -/
theorem Nearest.unique {m m' : Nat} {q : ℚ} (h : Nearest m q) (h' : Nearest m' q) : m = m' :=
  le_antisymm (h.mono h' le_rfl) (h'.mono h le_rfl)

/-- A magnitude is nearest to its own units. -/
theorem nearest_unitsOf (m : Nat) : Nearest m (unitsOf m) := by
  have hcast : (2 : ℚ) * unitsOf m = (2 * unitsOf m : Nat) := by push_cast; rfl
  have habove : 2 * unitsOf m < twiceMidpoint m := by
    have hlt : unitsOf m < unitsOf (m + 1) := unitsOf_strictMono (Nat.lt_succ_self m)
    rw [twiceMidpoint]
    omega
  have hbelow : ∀ j, j + 1 = m → twiceMidpoint j < 2 * unitsOf m := by
    rintro j rfl
    have hlt : unitsOf j < unitsOf (j + 1) := unitsOf_strictMono (Nat.lt_succ_self j)
    rw [twiceMidpoint]
    omega
  rw [← Nat.cast_lt (α := ℚ), ← hcast] at habove
  simp only [← Nat.cast_lt (α := ℚ), ← hcast] at hbelow
  exact ⟨fun j hj => (hbelow j hj).le, habove.le, fun j hj h => absurd h (hbelow j hj).ne,
    fun h => absurd h habove.ne⟩

/-- No magnitude has units closer to the number, and of two that are equally close it is even. -/
theorem Nearest.dist_le {m : Nat} {q : ℚ} (h : Nearest m q) (j : Nat) :
    |q - unitsOf m| ≤ |q - unitsOf j| ∧
      (|q - unitsOf m| = |q - unitsOf j| → j ≠ m → m % 2 = 0) := by
  rcases Nat.lt_trichotomy j m with hlt | rfl | hlt
  · obtain ⟨i, rfl⟩ := Nat.exists_eq_succ_of_ne_zero (Nat.ne_zero_of_lt hlt)
    have hji : (unitsOf j : ℚ) ≤ unitsOf i :=
      Nat.cast_le.2 (unitsOf_strictMono.monotone (Nat.lt_succ_iff.1 hlt))
    have him : (unitsOf i : ℚ) < unitsOf (i + 1) :=
      Nat.cast_lt.2 (unitsOf_strictMono (Nat.lt_succ_self i))
    have hlower := h.lower i rfl
    rw [twiceMidpoint, Nat.cast_add] at hlower
    have habs : |q - unitsOf j| = q - unitsOf j := abs_of_nonneg (by linarith)
    rw [habs]
    refine ⟨abs_le.2 ⟨by linarith, by linarith⟩, fun heq _ => h.lower_even i rfl ?_⟩
    rw [twiceMidpoint, Nat.cast_add]
    rcases abs_cases (q - unitsOf (i + 1)) with ⟨hq, -⟩ | ⟨hq, -⟩ <;> rw [hq] at heq <;> linarith
  · exact ⟨le_rfl, fun _ hne => absurd rfl hne⟩
  · have hmj : (unitsOf (m + 1) : ℚ) ≤ unitsOf j :=
      Nat.cast_le.2 (unitsOf_strictMono.monotone hlt)
    have hm : (unitsOf m : ℚ) < unitsOf (m + 1) :=
      Nat.cast_lt.2 (unitsOf_strictMono (Nat.lt_succ_self m))
    have hupper := h.upper
    rw [twiceMidpoint, Nat.cast_add] at hupper
    have habs : |q - unitsOf j| = unitsOf j - q := by
      rw [abs_sub_comm]
      exact abs_of_nonneg (by linarith)
    rw [habs]
    refine ⟨abs_le.2 ⟨by linarith, by linarith⟩, fun heq _ => h.upper_even ?_⟩
    rw [twiceMidpoint, Nat.cast_add]
    rcases abs_cases (q - unitsOf m) with ⟨hq, -⟩ | ⟨hq, -⟩ <;> rw [hq] at heq <;> linarith

/-- Being nearest to a quotient, without division. -/
theorem nearest_div {m n d : Nat} (hd : 0 < d)
    (hlower : ∀ j, j + 1 = m → twiceMidpoint j * d ≤ 2 * n)
    (hupper : 2 * n ≤ twiceMidpoint m * d)
    (hlower_even : ∀ j, j + 1 = m → twiceMidpoint j * d = 2 * n → m % 2 = 0)
    (hupper_even : 2 * n = twiceMidpoint m * d → m % 2 = 0) : Nearest m (n / d) := by
  have hd' : (0 : ℚ) < d := Nat.cast_pos.2 hd
  have hdouble : (2 : ℚ) * (n / d) = (2 * n : Nat) / d := by
    push_cast
    ring
  refine ⟨fun j hj => ?_, ?_, fun j hj heq => hlower_even j hj ?_, fun heq => hupper_even ?_⟩
  · rw [hdouble, le_div_iff₀ hd']
    exact_mod_cast hlower j hj
  · rw [hdouble, div_le_iff₀ hd']
    exact_mod_cast hupper
  · rw [hdouble, eq_div_iff hd'.ne'] at heq
    exact_mod_cast heq
  · rw [hdouble, div_eq_iff hd'.ne'] at heq
    exact_mod_cast heq

/-! ### Rounding a quotient -/

/-- A rounded quotient is at most half a step away, and even if it is exactly that. -/
theorem divRoundEven_spec (n : Nat) {d : Nat} (hd : 0 < d) :
    2 * n ≤ (2 * divRoundEven n d + 1) * d ∧ 2 * divRoundEven n d * d ≤ 2 * n + d ∧
      (2 * n = (2 * divRoundEven n d + 1) * d → divRoundEven n d % 2 = 0) ∧
      (2 * divRoundEven n d * d = 2 * n + d → divRoundEven n d % 2 = 0) := by
  have hn : n = n / d * d + n % d := (Nat.div_add_mod' n d).symm
  have hr : n % d < d := Nat.mod_lt n hd
  have hup : ∀ k, (2 * k + 1) * d = 2 * (k * d) + d := fun k => by ring
  have hdown : ∀ k, 2 * k * d = 2 * (k * d) := fun k => Nat.mul_assoc 2 k d
  have hnext : (n / d + 1) * d = n / d * d + d := Nat.succ_mul _ _
  simp only [hup, hdown]
  unfold divRoundEven
  dsimp only
  -- Below the half, above the half, and on it; there the quotient is even or goes up to be.
  split
  next hbelow => omega
  next =>
    split
    next habove => rw [hnext]; omega
    next =>
      rcases Nat.mod_two_eq_zero_or_one (n / d) with heven | hodd
      · rw [heven, Nat.add_zero]; omega
      · rw [hodd, hnext]; omega

/-- A quotient below a whole number is not rounded beyond it. -/
theorem divRoundEven_le {n d m : Nat} (hd : 0 < d) (h : n < m * d) : divRoundEven n d ≤ m := by
  obtain ⟨-, hdown, -, -⟩ := divRoundEven_spec n hd
  by_contra hlt
  have hle : (m + 1) * d ≤ divRoundEven n d * d := Nat.mul_le_mul_right d (Nat.lt_of_not_le hlt)
  nlinarith

/-- A quotient that reaches a whole number is not rounded to less. -/
theorem le_divRoundEven {n d m : Nat} (hd : 0 < d) (h : m * d ≤ n) : m ≤ divRoundEven n d := by
  obtain ⟨hup, -, -, -⟩ := divRoundEven_spec n hd
  by_contra hlt
  have hle : (divRoundEven n d + 1) * d ≤ m * d := Nat.mul_le_mul_right d (Nat.lt_of_not_le hlt)
  nlinarith

/-- The midpoint above a magnitude is at least half a step of its binade away. -/
theorem le_twiceMidpoint {s k : Nat} (hk : k ≤ 2 * exponentBit) (hs : s = 0 ∨ exponentBit ≤ k) :
    (2 * k + 1) * 2 ^ s ≤ twiceMidpoint (s * exponentBit + k) := by
  have hnext : (k + 1) * 2 ^ s ≤ unitsOf (s * exponentBit + k + 1) := by
    rcases Nat.lt_or_eq_of_le hk with hlt | rfl
    · rw [Nat.add_assoc, unitsOf_binade hlt (by omega)]
    -- The first magnitude of the next binade, where the step is twice as long.
    · have hform : s * exponentBit + 2 * exponentBit + 1 =
          (s + 1) * exponentBit + (exponentBit + 1) := by ring
      rw [hform, unitsOf_binade (by decide) (.inr (Nat.le_succ _)), Nat.pow_succ]
      nlinarith [Nat.two_pow_pos s]
  rw [twiceMidpoint, unitsOf_binade hk hs]
  calc (2 * k + 1) * 2 ^ s = k * 2 ^ s + (k + 1) * 2 ^ s := by ring
    _ ≤ _ := Nat.add_le_add_left hnext _

/-- The midpoint below a magnitude is half a step of its binade away, but for the first magnitude of
a binade, which only numbers that are no smaller are rounded to. -/
theorem twiceMidpoint_pred {s k j : Nat} (hk : k ≤ 2 * exponentBit)
    (hs : s = 0 ∨ exponentBit ≤ k) (hj : j + 1 = s * exponentBit + k) :
    twiceMidpoint j + 2 ^ s = 2 * k * 2 ^ s ∨
      s ≠ 0 ∧ k = exponentBit ∧ twiceMidpoint j < 2 * k * 2 ^ s := by
  have hlast : unitsOf (j + 1) = k * 2 ^ s := hj ▸ unitsOf_binade hk hs
  by_cases hfirst : s ≠ 0 ∧ k = exponentBit
  · refine .inr ⟨hfirst.1, hfirst.2, ?_⟩
    have hlt : unitsOf j < unitsOf (j + 1) := unitsOf_strictMono (Nat.lt_succ_self j)
    rw [twiceMidpoint, Nat.mul_assoc]
    omega
  · have hpos : 0 < k := by
      rcases hs with rfl | hge
      · omega
      · exact exponentBit_pos.trans_le hge
    obtain ⟨i, rfl⟩ : ∃ i, k = i + 1 := ⟨k - 1, by omega⟩
    have hunits : unitsOf j = i * 2 ^ s := by
      obtain rfl : j = s * exponentBit + i := by omega
      exact unitsOf_binade (by omega) (by omega)
    refine .inl ?_
    rw [twiceMidpoint, hunits, hlast]
    ring

/-- **Rounding within a binade** gives the nearest magnitude: the step is that of the binade, and a
quotient that reaches the end of it carries into the next one. -/
theorem nearest_binade {n d s : Nat} (hd : 0 < d) (hs : s = 0 ∨ exponentBit * (d * 2 ^ s) ≤ n)
    (hn : n < 2 * exponentBit * (d * 2 ^ s)) :
    Nearest (s * exponentBit + divRoundEven n (d * 2 ^ s)) (n / d) := by
  have hD : 0 < d * 2 ^ s := Nat.mul_pos hd (Nat.two_pow_pos s)
  obtain ⟨hup, hdown, hupEven, hdownEven⟩ := divRoundEven_spec n hD
  have hk := divRoundEven_le hD hn
  have hks := hs.imp_right (le_divRoundEven hD)
  generalize divRoundEven n (d * 2 ^ s) = k at hup hdown hupEven hdownEven hk hks ⊢
  have habove : (2 * k + 1) * (d * 2 ^ s) ≤ twiceMidpoint (s * exponentBit + k) * d := by
    calc (2 * k + 1) * (d * 2 ^ s) = (2 * k + 1) * 2 ^ s * d := by ring
      _ ≤ _ := Nat.mul_le_mul_right d (le_twiceMidpoint hk hks)
  have hbelow : ∀ j, j + 1 = s * exponentBit + k →
      twiceMidpoint j * d + d * 2 ^ s = 2 * k * (d * 2 ^ s) ∨ twiceMidpoint j * d < 2 * n := by
    intro j hj
    rcases twiceMidpoint_pred hk hks hj with heq | ⟨hs0, rfl, hlt⟩
    · refine .inl ?_
      calc twiceMidpoint j * d + d * 2 ^ s = (twiceMidpoint j + 2 ^ s) * d := by ring
        _ = _ := by rw [heq]; ring
    · refine .inr ?_
      calc twiceMidpoint j * d < 2 * exponentBit * 2 ^ s * d := Nat.mul_lt_mul_of_pos_right hlt hd
        _ = 2 * (exponentBit * (d * 2 ^ s)) := by ring
        _ ≤ 2 * n := Nat.mul_le_mul_left 2 (hs.resolve_left hs0)
  have heven : exponentBit % 2 = 0 := by decide
  have hparity : k % 2 = 0 → (s * exponentBit + k) % 2 = 0 := fun h => by
    rw [Nat.add_mod, Nat.mul_mod, heven, h, Nat.mul_zero]
  refine nearest_div hd (fun j hj => ?_) (hup.trans habove) (fun j hj heq => hparity ?_)
    fun heq => hparity (hupEven (le_antisymm hup (habove.trans heq.ge)))
  · rcases hbelow j hj with h | h <;> omega
  · rcases hbelow j hj with h | h
    · exact hdownEven (by omega)
    · omega

/-- **Rounding takes the nearest magnitude**, or infinity if that is beyond. -/
theorem nearest_roundMagnitude (n : Nat) {d : Nat} (hd : 0 < d) :
    ∃ m, Nearest m (n / d) ∧ roundMagnitude n d = min m infinityMagnitude := by
  have hshift : ∀ s, d <<< s = d * 2 ^ s := fun s => Nat.shiftLeft_eq d s
  have hbit : exponentBit = 2 ^ 52 := by decide
  refine ⟨_, nearest_binade (s := (n / d).log2 - 52) hd ?_ ?_, ?_⟩
  · -- The quotient has its highest digit where the binade says.
    by_cases hs : (n / d).log2 - 52 = 0
    · exact .inl hs
    · have hpos : n / d ≠ 0 := by
        intro h
        rw [h] at hs
        exact hs (by decide)
      have hle := Nat.log2_self_le hpos
      refine .inr ?_
      calc exponentBit * (d * 2 ^ ((n / d).log2 - 52))
          = 2 ^ (52 + ((n / d).log2 - 52)) * d := by rw [hbit, Nat.pow_add]; ring
        _ = 2 ^ (n / d).log2 * d := by rw [Nat.add_sub_cancel' (by omega)]
        _ ≤ n / d * d := Nat.mul_le_mul_right d hle
        _ ≤ n := Nat.div_mul_le_self n d
  · have hlt : n / d < 2 ^ ((n / d).log2 + 1) := Nat.lt_log2_self
    have hle : (n / d).log2 + 1 ≤ 53 + ((n / d).log2 - 52) := by omega
    have hquotient : n < (n / d + 1) * d := by
      rw [Nat.mul_comm]
      exact Nat.lt_mul_div_succ n hd
    calc n < (n / d + 1) * d := hquotient
      _ ≤ 2 ^ (53 + ((n / d).log2 - 52)) * d :=
        Nat.mul_le_mul_right d (hlt.trans_le (Nat.pow_le_pow_right (by decide) hle))
      _ = _ := by rw [hbit, Nat.pow_add]; ring
  · rw [roundMagnitude, hshift]

theorem roundMagnitude_eq_of_nearest {m n d : Nat} (hd : 0 < d) (h : Nearest m (n / d))
    (hm : m ≤ infinityMagnitude) : roundMagnitude n d = m := by
  obtain ⟨m', hm', hround⟩ := nearest_roundMagnitude n hd
  rw [hround, hm'.unique h, Nat.min_eq_left hm]

/-- **A decimal is read as the nearest double** of its sign. -/
theorem ofDecimal_eq_of_nearest {m s : Nat} {e : Int} (negative : Bool)
    (h : Nearest m (s * 10 ^ e * unitsPerOne)) (hm : m ≤ infinityMagnitude) :
    ofDecimal negative s e = ofMagnitude negative m := by
  have hpow : ∀ k, ((Nat.pow 10 k : Nat) : ℚ) = 10 ^ k := fun k => Nat.cast_pow 10 k
  have hpos : ∀ k, 0 < Nat.pow 10 k := fun k => Nat.pow_pos (by decide)
  unfold ofDecimal
  split
  next he =>
    obtain ⟨k, rfl⟩ := Int.eq_ofNat_of_zero_le he
    have hquotient : (s * 10 ^ (k : Int) * unitsPerOne : ℚ) =
        (s * Nat.pow 10 k * unitsPerOne : Nat) / (1 : Nat) := by
      rw [Nat.cast_mul, Nat.cast_mul, hpow, zpow_natCast, Nat.cast_one, div_one]
    rw [hquotient] at h
    exact congrArg (ofMagnitude negative) (roundMagnitude_eq_of_nearest Nat.one_pos h hm)
  next he =>
    obtain ⟨k, rfl⟩ : ∃ k : Nat, e = -k := ⟨e.natAbs, by omega⟩
    have hquotient : (s * 10 ^ (-k : Int) * unitsPerOne : ℚ) =
        (s * unitsPerOne : Nat) / (Nat.pow 10 k : Nat) := by
      rw [Nat.cast_mul, hpow, zpow_neg, zpow_natCast, div_eq_mul_inv]
      ring
    rw [hquotient] at h
    rw [Int.natAbs_neg, Int.natAbs_natCast]
    exact congrArg (ofMagnitude negative) (roundMagnitude_eq_of_nearest (hpos k) h hm)

/-! ### The closest double -/

/-- No finite double is closer to `q` units, and of two that are equally close this is the even
one. -/
structure Closest (x : Double) (q : ℚ) : Prop where
  isFinite : x.isFinite = true
  dist_le : ∀ y : Double, y.isFinite = true → |q - x.units| ≤ |q - y.units|
  even : ∀ y : Double, y.isFinite = true → y.units ≠ x.units → |q - x.units| = |q - y.units| →
    x.magnitude % 2 = 0

/-- A negative double is no closer to a number that is not negative than zero is. -/
theorem exists_unitsOf_closer {q : ℚ} (hq : 0 ≤ q) (y : Double) :
    ∃ j, |q - unitsOf j| ≤ |q - y.units| ∧
      (|q - unitsOf j| = |q - y.units| → y.units = unitsOf j) := by
  rw [units]
  cases y.negative with
  | false => exact ⟨y.magnitude, le_rfl, fun _ => rfl⟩
  | true =>
    have hy : (0 : ℚ) ≤ unitsOf y.magnitude := Nat.cast_nonneg _
    have hzero : ((unitsOf 0 : Nat) : ℚ) = 0 := Nat.cast_zero
    refine ⟨0, ?_, fun heq => ?_⟩
    · rw [if_pos rfl, Int.cast_neg, Int.cast_natCast, sub_neg_eq_add, hzero, sub_zero,
        abs_of_nonneg hq, abs_of_nonneg (add_nonneg hq hy)]
      exact le_add_of_nonneg_right hy
    · rw [if_pos rfl, Int.cast_neg, Int.cast_natCast, sub_neg_eq_add, hzero, sub_zero,
        abs_of_nonneg hq, abs_of_nonneg (add_nonneg hq hy)] at heq
      have hnone : (unitsOf y.magnitude : ℚ) = 0 := by linarith
      rw [if_pos rfl, Nat.cast_eq_zero.1 hnone]
      rfl

/-- **The nearest magnitude makes the closest double** of a number that is not negative. -/
theorem Nearest.closest {m : Nat} {q : ℚ} (h : Nearest m q) (hm : m < infinityMagnitude)
    (hq : 0 ≤ q) : (ofMagnitude false m).Closest q := by
  have hbits : m < signBit := hm.trans infinityMagnitude_lt
  have hmagnitude : (ofMagnitude false m).magnitude = m := magnitude_ofMagnitude false hbits
  have hunits : (ofMagnitude false m).units = unitsOf m := by
    rw [units, negative_ofMagnitude false hbits, hmagnitude, if_neg Bool.false_ne_true]
  refine ⟨?_, fun y _ => ?_, fun y _ hne heq => ?_⟩
  · rw [isFinite, hmagnitude]
    exact decide_eq_true hm
  · obtain ⟨j, hj, -⟩ := exists_unitsOf_closer hq y
    rw [hunits]
    exact (h.dist_le j).1.trans hj
  · obtain ⟨j, hj, hj_eq⟩ := exists_unitsOf_closer hq y
    obtain ⟨hle, heven⟩ := h.dist_le j
    rw [hunits] at hne heq
    have hjm : |q - unitsOf m| = |q - unitsOf j| := le_antisymm hle (hj.trans heq.ge)
    rw [hmagnitude]
    exact heven hjm fun h => hne (h ▸ hj_eq (hjm.symm.trans heq))

end Stopwatch.Double
