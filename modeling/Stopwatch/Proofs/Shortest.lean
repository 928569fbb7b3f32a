import Mathlib.Tactic.FieldSimp
import Stopwatch.Double.Text
import Stopwatch.Proofs.Nearest

/-!
# The shortest decimal is read as the double it was made from

`Decimal.shortest` looks for a decimal among those that round to a magnitude, and whatever it finds
passes the test `Decimal.readsBack`.  The test compares grid steps, and it says that the decimal is
nearest to the magnitude (`Decimal.nearest_of_readsBack`); so the shortest decimal is
(`Decimal.nearest_shortest`).  If nothing is found the exact value stands in, which passes the test
as well.
-/

namespace Stopwatch.Double.Decimal

/-- What a decimal is worth. -/
def value (d : Decimal) : ℚ := d.significand * 10 ^ d.exponent

/-! ### Grid steps -/

/-- One is `10^gridExponent` steps, and a half unit is `gridPerHalfUnit` of them. -/
theorem ten_pow_gridExponent : 10 ^ gridExponent = 2 * gridPerHalfUnit * unitsPerOne := by
  decide +kernel

theorem gridPerHalfUnit_pos : 0 < gridPerHalfUnit := by decide +kernel

/-- Grid steps in units. -/
theorem grid_units (c : Nat) :
    (c * 10 ^ (-(gridExponent : Int)) * unitsPerOne : ℚ) =
      (c : ℚ) / (2 * gridPerHalfUnit : Nat) := by
  have hten : (10 : ℚ) ^ gridExponent = (2 * gridPerHalfUnit : Nat) * unitsPerOne := by
    exact_mod_cast ten_pow_gridExponent
  have hone : (unitsPerOne : ℚ) ≠ 0 := by
    have hne : unitsPerOne ≠ 0 := by decide
    exact_mod_cast hne
  have hhalf : ((2 * gridPerHalfUnit : Nat) : ℚ) ≠ 0 := by
    have hne : 2 * gridPerHalfUnit ≠ 0 := Nat.mul_ne_zero (by decide) gridPerHalfUnit_pos.ne'
    exact_mod_cast hne
  rw [zpow_neg, zpow_natCast, hten]
  field_simp

/-- The test asks for a place between two midpoints, and off them if the magnitude is odd. -/
theorem readsBack_succ {j c : Nat} : readsBack (j + 1) c = true ↔
    gridMidpoint j ≤ c ∧ c ≤ gridMidpoint (j + 1) ∧
      (c = gridMidpoint j ∨ c = gridMidpoint (j + 1) → (j + 1) % 2 = 0) := by
  unfold readsBack
  rw [Nat.add_sub_cancel]
  split <;> rw [decide_eq_true_iff] <;> omega

/-- **What passes the test rounds to the magnitude.** -/
theorem nearest_of_readsBack {j c : Nat} (h : readsBack (j + 1) c = true) :
    Nearest (j + 1) (c * 10 ^ (-(gridExponent : Int)) * unitsPerOne) := by
  obtain ⟨hlower, hupper, heven⟩ := readsBack_succ.1 h
  have hmidpoint : ∀ i, twiceMidpoint i * (2 * gridPerHalfUnit) = 2 * gridMidpoint i := fun i => by
    rw [twiceMidpoint, gridMidpoint]
    ring
  rw [grid_units]
  refine nearest_div (Nat.mul_pos (by decide) gridPerHalfUnit_pos) (fun i hi => ?_) ?_
    (fun i hi heq => heven (.inl ?_)) fun heq => heven (.inr ?_)
  · obtain rfl : i = j := Nat.succ.inj hi
    rw [hmidpoint]
    omega
  · rw [hmidpoint]
    omega
  · obtain rfl : i = j := Nat.succ.inj hi
    rw [hmidpoint] at heq
    omega
  · rw [hmidpoint] at heq
    omega

/-! ### The search -/

/-- The values of magnitudes lie strictly between their midpoints. -/
theorem readsBack_gridValue (j : Nat) : readsBack (j + 1) (gridValue (j + 1)) = true := by
  have hbelow : unitsOf j < unitsOf (j + 1) := unitsOf_strictMono (Nat.lt_succ_self j)
  have habove : unitsOf (j + 1) < unitsOf (j + 1 + 1) := unitsOf_strictMono (Nat.lt_succ_self _)
  have hlower : gridMidpoint j < gridValue (j + 1) :=
    Nat.mul_lt_mul_of_pos_right (by omega) gridPerHalfUnit_pos
  have hupper : gridValue (j + 1) < gridMidpoint (j + 1) :=
    Nat.mul_lt_mul_of_pos_right (by omega) gridPerHalfUnit_pos
  rw [readsBack_succ]
  omega

/-- What is found passes the test. -/
theorem readsBack_candidate {tie : Tie} {m p d : Nat} (h : candidate? tie m p = some d) :
    readsBack m (d * 10 ^ p) = true := by
  unfold candidate? at h
  dsimp only at h
  split at h
  next => cases h
  next hd _ => exact Option.some.inj h ▸ hd
  next _ hd => exact Option.some.inj h ▸ hd
  next hd hnext =>
    split at h
    · exact Option.some.inj h ▸ hd
    · split at h
      · exact Option.some.inj h ▸ hnext
      -- On a tie it is one of the two neighbours, whichever the rule takes.
      · cases tie with
        | up => exact Option.some.inj h ▸ hnext
        | even =>
          obtain rfl := Option.some.inj h
          rcases Nat.mod_two_eq_zero_or_one (gridValue m / Nat.pow 10 p) with heven | hodd
          · rw [heven]
            exact hd
          · rw [hodd]
            exact hnext

/-- The shortest decimal is a number of grid steps that passes the test. -/
theorem exists_readsBack_shortest (tie : Tie) (j : Nat) :
    ∃ c, readsBack (j + 1) c = true ∧
      (shortest tie (j + 1)).value = c * 10 ^ (-(gridExponent : Int)) := by
  unfold shortest
  dsimp only
  cases hfound : (List.range 17).findSome? fun k =>
      (candidate? tie (j + 1) (digitCount (gridValue (j + 1)) - (k + 1))).map fun d =>
        (⟨d, (digitCount (gridValue (j + 1)) - (k + 1) : Nat) - gridExponent⟩ : Decimal) with
  | none =>
    refine ⟨gridValue (j + 1), readsBack_gridValue j, ?_⟩
    rw [Option.getD_none, value]
  | some found =>
    obtain ⟨k, -, hk⟩ := List.exists_of_findSome?_eq_some hfound
    obtain ⟨d, hd, rfl⟩ := Option.map_eq_some_iff.1 hk
    refine ⟨_, readsBack_candidate hd, ?_⟩
    rw [Option.getD_some, value, Int.sub_eq_add_neg, zpow_add₀ (by decide), zpow_natCast]
    push_cast
    ring

/-- **The shortest decimal rounds to the magnitude.** -/
theorem nearest_shortest (tie : Tie) (j : Nat) :
    Nearest (j + 1) ((shortest tie (j + 1)).value * unitsPerOne) := by
  obtain ⟨c, hc, hvalue⟩ := exists_readsBack_shortest tie j
  rw [hvalue]
  exact nearest_of_readsBack hc

/-- The shortest decimal of a number that is not zero is not zero. -/
theorem shortest_significand_pos (tie : Tie) (j : Nat) :
    0 < (shortest tie (j + 1)).significand := by
  refine Nat.pos_of_ne_zero fun hzero => ?_
  have hlower := (nearest_shortest tie j).lower j rfl
  rw [value, hzero, Nat.cast_zero, zero_mul, zero_mul, mul_zero] at hlower
  have hmidpoint : twiceMidpoint j ≤ 0 := by exact_mod_cast hlower
  have hunits : unitsOf j < unitsOf (j + 1) := unitsOf_strictMono (Nat.lt_succ_self j)
  rw [twiceMidpoint] at hmidpoint
  omega

end Stopwatch.Double.Decimal
