import Stopwatch.Proofs.Exact
import Stopwatch.Proofs.Transfers

/-!
# How far a cycle counter advances

The cycle counter has fewer bits than the register it stands in, and it starts again from zero
behind the last of them.  What is read of it is the register cut to the width of the counter
(`Hardware.toNat_and_counterMask`), so two readings in order are the true advance apart
(`Hardware.toNat_advance`), whatever the bits above the width are, and a counter that has wrapped
between them has gone backwards.

`CoreCounters.delta_cycles` puts it together with the check of a sample: what is given out is always
the advance of the counter, modulo its own size.
-/

namespace Stopwatch

namespace Hardware

/-! ### The width -/

/-- The processor has what is measured with: the counters in their second version, at least two of
them, and a width that fits into a register. -/
def Suits (info : CounterInfo) : Prop :=
  2 ≤ info.eax.toNat % 256 ∧ 2 ≤ info.edx.toNat % 32 ∧
    1 ≤ info.edx.toNat / 32 % 256 ∧ info.edx.toNat / 32 % 256 ≤ 64

instance (info : CounterInfo) : Decidable (Suits info) :=
  inferInstanceAs (Decidable (_ ∧ _ ∧ _ ∧ _))

/-- A processor that suits tells its width. -/
theorem counterWidth_of_suits {info : CounterInfo} (h : Suits info) :
    counterWidth info = .ok (info.edx.toNat / 32 % 256) := by
  obtain ⟨hversion, hcount, hlow, hhigh⟩ := h
  simp only [counterWidth]
  rw [if_neg (by omega), if_neg (by omega), if_neg (by omega)]

/-- Any other processor is said to be of no use. -/
theorem counterWidth_of_not_suits {info : CounterInfo} (h : ¬ Suits info) :
    ∃ reason, counterWidth info = .error (.unavailable "msr" reason) := by
  simp only [counterWidth]
  split
  next => exact ⟨_, rfl⟩
  next hversion =>
    split
    next => exact ⟨_, rfl⟩
    next hcount =>
      split
      next => exact ⟨_, rfl⟩
      next hwidth => exact absurd ⟨by omega, by omega, by omega, by omega⟩ h

theorem counterWidth_eq_ok_iff {info : CounterInfo} {w : Nat} :
    counterWidth info = .ok w ↔ Suits info ∧ w = info.edx.toNat / 32 % 256 := by
  by_cases h : Suits info
  · rw [counterWidth_of_suits h, Except.ok.injEq, eq_comm]
    exact (and_iff_right h).symm
  · obtain ⟨reason, he⟩ := counterWidth_of_not_suits h
    rw [he]
    exact iff_of_false nofun fun hw => h hw.1

/-! ### What is read of a counter -/

variable {w : Nat}

theorem toNat_counterMask (hw : w ≤ 64) : (counterMask w).toNat = 2 ^ w - 1 := by
  rcases Nat.lt_or_eq_of_le hw with hlt | rfl
  · have hsize : 2 ^ w ≤ 2 ^ 63 := Nat.pow_le_pow_right (by decide) (by omega)
    rw [counterMask, if_neg (by omega), Nat.one_shiftLeft, UInt64.toNat_ofNat']
    exact Nat.mod_eq_of_lt (by omega)
  · rfl

/-- **A register cut to a width** is the register modulo the size of the counter. -/
theorem toNat_and_counterMask (r : UInt64) (hw : w ≤ 64) :
    (r &&& counterMask w).toNat = r.toNat % 2 ^ w := by
  rw [UInt64.toNat_and, toNat_counterMask hw, Nat.and_two_pow_sub_one_eq_mod]

/-- **Two readings in order** are apart what the counter has advanced modulo its size. -/
theorem toNat_advance {r₀ r₁ : UInt64} (hw : w ≤ 64)
    (h : r₀.toNat % 2 ^ w ≤ r₁.toNat % 2 ^ w) :
    ((r₁ &&& counterMask w) - (r₀ &&& counterMask w)).toNat =
      (((r₁.toNat : Int) - r₀.toNat) % 2 ^ w).toNat := by
  have hle : r₀ &&& counterMask w ≤ r₁ &&& counterMask w := by
    rw [UInt64.le_iff_toNat_le, toNat_and_counterMask r₀ hw, toNat_and_counterMask r₁ hw]
    exact h
  have hlt : r₁.toNat % 2 ^ w < 2 ^ w := Nat.mod_lt _ (Nat.two_pow_pos w)
  -- The quotients do not matter modulo the size.
  have hmod : ((r₁.toNat : Int) - r₀.toNat) % 2 ^ w =
      (r₁.toNat % 2 ^ w : Nat) - (r₀.toNat % 2 ^ w : Nat) := by
    have hsize : ((2 ^ w : Nat) : Int) = 2 ^ w := Nat.cast_pow 2 w
    rw [Int.sub_emod, ← hsize, ← Int.natCast_emod, ← Int.natCast_emod]
    exact Int.emod_eq_of_lt (by omega) (by omega)
  rw [UInt64.toNat_sub_of_le _ _ hle, toNat_and_counterMask r₀ hw, toNat_and_counterMask r₁ hw,
    hmod]
  omega

end Hardware

namespace CoreCounters

open Hardware

variable {σ : Type}

/-- The counters that are opened have the mask of the width that the processor tells. -/
theorem eq_of_ofCore {h : Hardware (StateM σ)} {core : Nat} {s t : σ} {c : CoreCounters}
    (hopen : (ofCore h core).run s = (.ok c, t)) :
    ∃ w, counterWidth (h.counterInfo s).1 = .ok w ∧ c = ⟨core, counterMask w⟩ := by
  obtain ⟨info, s₁, hinfo, hrest₁⟩ := exists_of_bind_eq_ok hopen
  obtain ⟨w, s₂, hw, hrest₂⟩ := exists_of_bind_eq_ok hrest₁
  obtain ⟨_, s₃, _, hrest₃⟩ := exists_of_bind_eq_ok hrest₂
  obtain ⟨_, s₄, _, hrest₄⟩ := exists_of_bind_eq_ok hrest₃
  obtain ⟨_, s₅, _, hrest₅⟩ := exists_of_bind_eq_ok hrest₄
  obtain ⟨_, s₆, _, hrest₆⟩ := exists_of_bind_eq_ok hrest₅
  obtain ⟨_, s₇, _, hrest₇⟩ := exists_of_bind_eq_ok hrest₆
  obtain ⟨_, s₈, _, hrest₈⟩ := exists_of_bind_eq_ok hrest₇
  have htold : (h.counterInfo s).1 = info := Except.ok.inj (congrArg Prod.fst hinfo)
  rw [htold]
  exact ⟨w, congrArg Prod.fst hw, (Except.ok.inj (congrArg Prod.fst hrest₈)).symm⟩

/-- The cycles are what the register holds, cut to the width of the counter. -/
theorem cycles_apply (c : CoreCounters) (h : Hardware (StateM σ)) (s : σ) :
    (c.counters h).cycles.run s = match h.read cyclesRegister s with
      | (.ok r, t) => (.ok (r &&& c.mask), t)
      | (.error e, t) => (.error (.io "msr read" e.text), t) := by
  have hread : (h.readRegister cyclesRegister).run s = _ := ask_apply "msr read" _ s
  rcases hr : h.read cyclesRegister s with ⟨e | r, t⟩
  · rw [hr] at hread
    exact bind_of_error hread
  · rw [hr] at hread
    exact bind_of_ok hread

/-- **The advance of a cycle counter.**  Let the processor tell a width `w` that is of use; it is
between 1 and 64, and counters that are opened have the mask of this width.  What the cycles answer
is what their register holds modulo `2^w`.  Let `d` be how far the counter has advanced between two
readings, that is, the difference of what the register held, modulo `2^w`.  The sample of the two is
rejected as going backwards if and only if the counter has wrapped, so that the second reading is
less than the first.  Otherwise `d` is given out if it is a double, and rejected as it is if it is
not.  In no case is anything given out but `d`. -/
theorem delta_cycles (h : Hardware (StateM σ)) {info : CounterInfo} {w : Nat}
    (hw : counterWidth info = .ok w) (core : Nat) :
    let c : CoreCounters := ⟨core, counterMask w⟩
    1 ≤ w ∧ w ≤ 64 ∧
    (∀ s t c', (h.counterInfo s).1 = info → (ofCore h core).run s = (.ok c', t) → c' = c) ∧
    (∀ s, (c.counters h).cycles.run s = match h.read cyclesRegister s with
      | (.ok r, t) => (.ok (UInt64.ofNat (r.toNat % 2 ^ w)), t)
      | (.error e, t) => (.error (.io "msr read" e.text), t)) ∧
    ∀ (metric : Metric) (core' : Option Nat) (r₀ r₁ : UInt64),
      let start : Reading := .count (.ofNat (r₀.toNat % 2 ^ w))
      let stop : Reading := .count (.ofNat (r₁.toNat % 2 ^ w))
      let s : Sample := ⟨metric, core', start, stop⟩
      let d := (((r₁.toNat : Int) - r₀.toNat) % 2 ^ w).toNat
      (s.delta = .error (.nonMonotonic metric core' start stop) ↔
        r₁.toNat % 2 ^ w < r₀.toNat % 2 ^ w) ∧
      (r₀.toNat % 2 ^ w ≤ r₁.toNat % 2 ^ w → ((∃ v, s.delta = .ok v) ↔ Double.IsExact d) ∧
        (s.delta = .error (.precisionLoss metric core' (.ofNat d)) ↔ ¬ Double.IsExact d)) ∧
      ∀ v, s.delta = .ok v → v.isFinite = true ∧ v.units = d * Double.unitsPerOne := by
  intro c
  obtain ⟨⟨-, -, hlow, hhigh⟩, rfl⟩ := counterWidth_eq_ok_iff.1 hw
  set w := info.edx.toNat / 32 % 256
  have hcut : ∀ r : UInt64, UInt64.ofNat (r.toNat % 2 ^ w) = r &&& counterMask w := fun r => by
    rw [← toNat_and_counterMask r hhigh, UInt64.ofNat_toNat]
  refine ⟨hlow, hhigh, fun s t c' hinfo hopen => ?_, fun s => ?_, ?_⟩
  · obtain ⟨w', hw', rfl⟩ := eq_of_ofCore hopen
    rw [hinfo, hw] at hw'
    rw [← Except.ok.inj hw']
  · simp only [hcut]
    exact cycles_apply c h s
  intro metric core' r₀ r₁ start stop s d
  simp only [start, stop, s, hcut]
  rcases Nat.lt_or_ge (r₁.toNat % 2 ^ w) (r₀.toNat % 2 ^ w) with hlt | hle
  -- The counter has wrapped.
  · have hback : r₁ &&& counterMask w < r₀ &&& counterMask w := by
      rw [UInt64.lt_iff_toNat_lt, toNat_and_counterMask r₀ hhigh, toNat_and_counterMask r₁ hhigh]
      exact hlt
    rw [Sample.delta_count_of_lt hback]
    exact ⟨iff_of_true rfl hlt, fun h => absurd hlt (Nat.not_lt.2 h), nofun⟩
  · have hforth : r₀ &&& counterMask w ≤ r₁ &&& counterMask w := by
      rw [UInt64.le_iff_toNat_le, toNat_and_counterMask r₀ hhigh, toNat_and_counterMask r₁ hhigh]
      exact hle
    have hd : ((r₁ &&& counterMask w) - (r₀ &&& counterMask w)).toNat = d := toNat_advance hhigh hle
    have hsize : d ≤ 2 ^ 64 := hd ▸ (UInt64.toNat_lt _).le
    have hofNat : UInt64.ofNat d = (r₁ &&& counterMask w) - (r₀ &&& counterMask w) := by
      rw [← hd, UInt64.ofNat_toNat]
    refine ⟨iff_of_false (Sample.delta_count_ne_nonMonotonic hforth) (Nat.not_lt.2 hle),
      fun _ => ?_,
      fun v hv => ?_⟩
    · rw [hofNat]
      by_cases hexact : Double.IsExact d
      · rw [Sample.delta_count_of_isExact hforth (hd ▸ hexact)]
        exact ⟨iff_of_true ⟨_, rfl⟩ hexact, iff_of_false nofun (not_not_intro hexact)⟩
      · rw [Sample.delta_count_of_not_isExact hforth (hd ▸ hexact)]
        exact ⟨iff_of_false nofun hexact, iff_of_true rfl hexact⟩
    · obtain ⟨hexact, rfl⟩ := Sample.isExact_of_delta_count hforth hv
      rw [hd] at hexact ⊢
      exact ⟨(Double.closest_ofNat hsize).isFinite, (Double.units_ofNat_eq_iff hsize).2 hexact⟩

/-- A counter of 48 bits with other bits above it: it goes backwards where it wraps, and without a
wrap it has advanced by 7. -/
theorem delta_cycles_of_48_bits :
    let before : Reading := .count (.ofNat ((0xabcdfffffffffff0 : UInt64).toNat % 2 ^ 48))
    let wrapped : Reading := .count (.ofNat ((0x1234000000000010 : UInt64).toNat % 2 ^ 48))
    let after : Reading := .count (.ofNat ((0x1234fffffffffff7 : UInt64).toNat % 2 ^ 48))
    counterWidth ⟨2, 0x603⟩ = .ok 48 ∧
    (Sample.mk .coreCycles none before wrapped).delta =
      .error (.nonMonotonic .coreCycles none before wrapped) ∧
    ∃ v, (Sample.mk .coreCycles none before after).delta = .ok v ∧
      v.units = 7 * Double.unitsPerOne := by
  intro before wrapped after
  have hw : counterWidth ⟨2, 0x603⟩ = .ok 48 := rfl
  obtain ⟨-, -, -, -, hdelta⟩ := delta_cycles Machine.hardware hw 0
  obtain ⟨hback, -, -⟩ := hdelta .coreCycles none 0xabcdfffffffffff0 0x1234000000000010
  obtain ⟨-, hforth, hunits⟩ := hdelta .coreCycles none 0xabcdfffffffffff0 0x1234fffffffffff7
  obtain ⟨v, hv⟩ := (hforth (by decide)).1.2 (Double.isExact_of_le (by decide))
  exact ⟨hw, hback.2 (by decide), v, hv, (hunits v hv).2⟩

end CoreCounters

end Stopwatch
