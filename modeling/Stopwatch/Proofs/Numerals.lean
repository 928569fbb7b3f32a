import Stopwatch.CommandLine.Numeral
import Stopwatch.Proofs.Delta
import Stopwatch.Proofs.Shortest

/-!
# Numerals are read as the doubles they were written for

`Double.numeral?` reads a numeral as documents have it, that is a sign, digits without needless
zeros in front, digits behind a point, and an exponent, of which only the digits must be there.
`Double.ofNumeral?` takes it for the nearest double.

The text of a finite double, in whatever style, is such a numeral and is read as that double
(`Double.ofNumeral?_text`).  All styles lay out the same digits, and a layout does not change what
the digits are worth: this is `Spells`, with one lemma for each of the two notations.
-/

namespace Stopwatch.Double

open Stopwatch.Numeral (natural?)

/-! ### Reading a numeral -/

/-- A whole number with at most one sign. -/
def signed? : List Char → Option Int
  | '-' :: ds => (natural? ds).map fun n : Nat => -(n : Int)
  | '+' :: ds => (natural? ds).map Int.ofNat
  | ds => (natural? ds).map Int.ofNat

/-- The exponent at the end of a numeral, which may be missing. -/
def exponent? : List Char → Option Int
  | [] => some 0
  | c :: cs => if c = 'e' ∨ c = 'E' then signed? cs else none

/-- The digits behind a point, which may be missing, and what follows them. -/
def fraction? : List Char → Option (List Char × List Char)
  | '.' :: cs =>
    if (cs.takeWhile Char.isDigit).isEmpty then none
    else some (cs.takeWhile Char.isDigit, cs.dropWhile Char.isDigit)
  | cs => some ([], cs)

/-- Digits before the point: at least one, and no zero in front of others. -/
def isWhole (ds : List Char) : Bool :=
  !ds.isEmpty && (ds.head? != some '0' || ds.length == 1)

/-- The decimal of a numeral without a sign. -/
def unsigned? (cs : List Char) : Option Decimal :=
  let whole := cs.takeWhile Char.isDigit
  if isWhole whole then
    match fraction? (cs.dropWhile Char.isDigit) with
    | none => none
    | some (fraction, rest) => (exponent? rest).map fun e =>
      ⟨Nat.ofDigitChars 10 (whole ++ fraction) 0, e - fraction.length⟩
  else none

/-- The sign and the decimal of a numeral. -/
def numeral? : List Char → Option (Bool × Decimal)
  | '-' :: cs => (unsigned? cs).map (true, ·)
  | cs => (unsigned? cs).map (false, ·)

/-- The double that a numeral is nearest to. -/
def ofNumeral? (cs : List Char) : Option Double :=
  (numeral? cs).map fun (negative, d) => ofDecimal negative d.significand d.exponent

/-- A character that a numeral may have. -/
def isNumeral (c : Char) : Bool :=
  c.isDigit || c == '-' || c == '+' || c == '.' || c == 'e' || c == 'E'

/-! ### What a numeral spells -/

/-- The point and the digits behind it, if there are any. -/
def pointed (ds : List Char) : List Char := if ds.isEmpty then [] else '.' :: ds

/-- The text is a numeral without a sign, and it is worth `v`. -/
def Spells (cs : List Char) (v : ℚ) : Prop :=
  ∃ whole fraction rest e, cs = whole ++ (pointed fraction ++ rest) ∧
    (∀ c ∈ whole, c.isDigit = true) ∧ isWhole whole = true ∧
    (∀ c ∈ fraction, c.isDigit = true) ∧ exponent? rest = some e ∧
    Decimal.value ⟨Nat.ofDigitChars 10 (whole ++ fraction) 0, e - fraction.length⟩ = v

/-- An exponent, or nothing, begins neither with a digit nor with a point. -/
theorem isDigit_of_exponent? {rest : List Char} {e : Int} (h : exponent? rest = some e) :
    ∀ c ∈ rest.head?, c.isDigit = false ∧ c ≠ '.' := by
  cases rest with
  | nil => exact fun c hc => nomatch hc
  | cons c cs =>
    intro c' hc'
    obtain rfl : c = c' := Option.some.inj hc'
    by_cases hc : c = 'e' ∨ c = 'E'
    · rcases hc with rfl | rfl <;> decide
    · rw [exponent?, if_neg hc] at h
      cases h

/-- If `rest` begins with no digit, `takeWhile` and `dropWhile` part `ds ++ rest` behind `ds`. -/
theorem span_digits {ds rest : List Char} (hds : ∀ c ∈ ds, c.isDigit = true)
    (hrest : ∀ c ∈ rest.head?, c.isDigit = false) :
    (ds ++ rest).takeWhile Char.isDigit = ds ∧ (ds ++ rest).dropWhile Char.isDigit = rest := by
  rw [List.takeWhile_append_of_pos hds, List.dropWhile_append_of_pos hds]
  cases rest with
  | nil => simp
  | cons c cs =>
    have hc : c.isDigit = false := hrest c rfl
    simp [hc]

/-- **What is spelled is read** as a decimal of the same worth. -/
theorem Spells.unsigned?_eq {cs : List Char} {v : ℚ} (h : Spells cs v) :
    ∃ d, unsigned? cs = some d ∧ d.value = v := by
  obtain ⟨whole, fraction, rest, e, rfl, hwhole, hlead, hfraction, hrest, hv⟩ := h
  have hend := isDigit_of_exponent? hrest
  -- The whole digits end at the point or, without one, where those of the fraction would.
  have hbehind : ∀ c ∈ (pointed fraction ++ rest).head?, c.isDigit = false := by
    unfold pointed
    split
    · exact fun c hc => (hend c hc).1
    · rintro c hc
      obtain rfl : '.' = c := Option.some.inj hc
      decide
  obtain ⟨htake, hdrop⟩ := span_digits hwhole hbehind
  have hfraction? : fraction? (pointed fraction ++ rest) = some (fraction, rest) := by
    cases fraction with
    | nil =>
      show fraction? rest = some ([], rest)
      cases rest with
      | nil => rfl
      | cons c cs =>
        have hpoint : c ≠ '.' := (hend c rfl).2
        simp [fraction?, hpoint]
    | cons c fraction =>
      obtain ⟨htake', hdrop'⟩ := span_digits hfraction fun c hc => (hend c hc).1
      show fraction? ('.' :: (c :: fraction ++ rest)) = _
      simp only [fraction?, htake', hdrop', List.isEmpty_cons, Bool.false_eq_true, ↓reduceIte]
  refine ⟨_, ?_, hv⟩
  unfold unsigned?
  simp only [htake, hdrop, hlead, hfraction?, hrest, ↓reduceIte, Option.map_some]

/-- What is spelled begins with a digit. -/
theorem Spells.exists_cons {cs : List Char} {v : ℚ} (h : Spells cs v) :
    ∃ c cs', cs = c :: cs' ∧ c.isDigit = true := by
  obtain ⟨whole, fraction, rest, e, rfl, hwhole, hlead, -⟩ := h
  cases whole with
  | nil => cases hlead
  | cons c whole => exact ⟨c, _, rfl, hwhole c List.mem_cons_self⟩

/-- **What is spelled behind a sign is read** with the sign. -/
theorem Spells.numeral?_eq {cs : List Char} {v : ℚ} (h : Spells cs v) (negative : Bool) :
    ∃ d, numeral? ((if negative then ['-'] else []) ++ cs) = some (negative, d) ∧ d.value = v := by
  obtain ⟨d, hd, hv⟩ := h.unsigned?_eq
  refine ⟨d, ?_, hv⟩
  cases negative with
  | true =>
    show (unsigned? cs).map (true, ·) = _
    rw [hd, Option.map_some]
  | false =>
    -- A numeral without a sign must not be taken for one with a sign.
    obtain ⟨c, cs', rfl, hc⟩ := h.exists_cons
    have hsign : c ≠ '-' := by
      rintro rfl
      exact absurd hc (by decide)
    show numeral? (c :: cs') = _
    unfold numeral?
    split
    next heq => exact absurd (List.cons.inj heq).1 hsign
    next => rw [hd, Option.map_some]

theorem isNumeral_of_isDigit {c : Char} (h : c.isDigit = true) : isNumeral c = true := by
  rw [isNumeral, h]
  rfl

theorem isNumeral_of_natural? {cs : List Char} {n : Nat} (h : natural? cs = some n) :
    ∀ c ∈ cs, isNumeral c = true := by
  rw [natural?] at h
  split at h
  next => cases h
  next hcs =>
    rw [Bool.not_eq_true, Bool.or_eq_false_iff, Bool.not_eq_false'] at hcs
    exact fun c hc => isNumeral_of_isDigit (List.all_eq_true.1 hcs.2 c hc)

theorem isNumeral_of_signed? {cs : List Char} {e : Int} (h : signed? cs = some e) :
    ∀ c ∈ cs, isNumeral c = true := by
  unfold signed? at h
  split at h <;> obtain ⟨n, hn, -⟩ := Option.map_eq_some_iff.1 h
  · exact List.forall_mem_cons.2 ⟨rfl, isNumeral_of_natural? hn⟩
  · exact List.forall_mem_cons.2 ⟨rfl, isNumeral_of_natural? hn⟩
  · exact isNumeral_of_natural? hn

theorem isNumeral_of_exponent? {cs : List Char} {e : Int} (h : exponent? cs = some e) :
    ∀ c ∈ cs, isNumeral c = true := by
  cases cs with
  | nil => exact fun c hc => absurd hc List.not_mem_nil
  | cons c cs =>
    by_cases hc : c = 'e' ∨ c = 'E'
    · rw [exponent?, if_pos hc] at h
      refine List.forall_mem_cons.2 ⟨?_, isNumeral_of_signed? h⟩
      rcases hc with rfl | rfl <;> rfl
    · rw [exponent?, if_neg hc] at h
      cases h

/-- What is spelled has the characters of a numeral and no others. -/
theorem Spells.isNumeral {cs : List Char} {v : ℚ} (h : Spells cs v) :
    ∀ c ∈ cs, isNumeral c = true := by
  obtain ⟨whole, fraction, rest, e, rfl, hwhole, -, hfraction, hrest, -⟩ := h
  intro c hc
  rcases List.mem_append.1 hc with hc | hc
  · exact isNumeral_of_isDigit (hwhole c hc)
  rcases List.mem_append.1 hc with hc | hc
  · unfold pointed at hc
    split at hc
    next => exact absurd hc List.not_mem_nil
    next =>
      rcases List.mem_cons.1 hc with rfl | hc
      · rfl
      · exact isNumeral_of_isDigit (hfraction c hc)
  · exact isNumeral_of_exponent? hrest c hc

/-! ### Laying out digits -/

/-- What digits are worth when the first one stands for `10^e`. -/
def digitsValue (ds : List Char) (e : Int) : ℚ :=
  Decimal.value ⟨Nat.ofDigitChars 10 ds 0, e + 1 - ds.length⟩

/-- `k` zeros behind `ds` leave their value, since the first digit still stands for `10^e`. -/
theorem digitsValue_append_zeros (ds : List Char) (k : Nat) (e : Int) :
    digitsValue (ds ++ List.replicate k '0') e = digitsValue ds e := by
  have hvalue : Nat.ofDigitChars 10 (ds ++ List.replicate k '0') 0 =
      10 ^ k * Nat.ofDigitChars 10 ds 0 := by
    rw [Nat.ofDigitChars_append, Nat.ofDigitChars_replicate_zero]
  have hlength : e + 1 - ((ds ++ List.replicate k '0').length : Int) =
      e + 1 - ds.length + -(k : Int) := by
    rw [List.length_append, List.length_replicate]
    omega
  have hk : (10 : ℚ) ^ k ≠ 0 := pow_ne_zero k (by norm_num)
  rw [digitsValue, digitsValue, Decimal.value, Decimal.value, hvalue, hlength,
    zpow_add₀ (by norm_num), zpow_neg, zpow_natCast]
  push_cast
  field_simp

/-- `k` zeros before `ds` leave their value if the first of them stands for `10^(e + k)`. -/
theorem digitsValue_zeros_append (k : Nat) (ds : List Char) (e : Int) :
    digitsValue (List.replicate k '0' ++ ds) (e + k) = digitsValue ds e := by
  have hlength : e + k + 1 - ((List.replicate k '0' ++ ds).length : Int) = e + 1 - ds.length := by
    rw [List.length_append, List.length_replicate]
    omega
  rw [digitsValue, digitsValue, Nat.ofDigitChars_append, Nat.ofDigitChars_replicate_zero,
    Nat.mul_zero, hlength]

/-- Digits as a number has them: no zero stands in front. -/
structure Leading (ds : List Char) : Prop where
  digits : ∀ c ∈ ds, c.isDigit = true
  ne_nil : ds ≠ []
  head : ds.head? ≠ some '0'

variable {ds : List Char}

theorem isDigit_of_mem_zeros {k : Nat} {c : Char} (h : c ∈ List.replicate k '0') :
    c.isDigit = true := by
  rw [List.eq_of_mem_replicate h]
  decide

theorem Leading.isWhole_append (h : Leading ds) (rest : List Char) :
    isWhole (ds ++ rest) = true := by
  cases ds with
  | nil => exact absurd rfl h.ne_nil
  | cons c ds =>
    have hc : c ≠ '0' := fun heq => h.head (congrArg some heq)
    simp [isWhole, hc]

theorem Leading.isWhole_take (h : Leading ds) (k : Nat) : isWhole (ds.take (k + 1)) = true := by
  cases ds with
  | nil => exact absurd rfl h.ne_nil
  | cons c ds =>
    have hc : c ≠ '0' := fun heq => h.head (congrArg some heq)
    simp [isWhole, hc]

theorem pointed_of_ne_nil {fraction : List Char} (h : fraction ≠ []) :
    pointed fraction = '.' :: fraction := by
  rw [pointed, List.isEmpty_eq_false_iff.2 h, if_neg Bool.false_ne_true]

/-- Digits `whole` before and `fraction` behind a point, with an exponent `e`, spell what they are
worth. -/
theorem spells_digits {whole fraction rest : List Char} {e : Int} (hwhole : isWhole whole = true)
    (hdigits : ∀ c ∈ whole ++ fraction, c.isDigit = true) (hrest : exponent? rest = some e) :
    Spells (whole ++ (pointed fraction ++ rest))
      (digitsValue (whole ++ fraction) (whole.length - 1 + e)) := by
  have hexponent : (whole.length - 1 + e : Int) + 1 - (whole ++ fraction).length =
      e - fraction.length := by
    rw [List.length_append]
    omega
  refine ⟨whole, fraction, rest, e, rfl, fun c hc => hdigits c (List.mem_append_left _ hc), hwhole,
    fun c hc => hdigits c (List.mem_append_right _ hc), hrest, ?_⟩
  rw [digitsValue, hexponent]

/-- Digits `whole` before and `fraction` behind a point, without an exponent, spell what they are
worth. -/
theorem spells_pointed {whole fraction : List Char} {e : Int} (hwhole : isWhole whole = true)
    (hdigits : ∀ c ∈ whole ++ fraction, c.isDigit = true) (hlength : whole.length = e + 1) :
    Spells (whole ++ pointed fraction) (digitsValue (whole ++ fraction) e) := by
  have hspells := spells_digits hwhole hdigits (show exponent? [] = some 0 from rfl)
  have he : (whole.length - 1 + 0 : Int) = e := by omega
  rwa [List.append_nil, he] at hspells

/-- A number below one is spelled with `k` zeros between the point and the digits. -/
theorem spells_behindPoint (h : Leading ds) (k : Nat) :
    Spells ('0' :: '.' :: (List.replicate k '0' ++ ds)) (digitsValue ds (-(k + 1))) := by
  have hne : List.replicate k '0' ++ ds ≠ [] := List.append_ne_nil_of_right_ne_nil _ h.ne_nil
  have hzeros : ['0'] ++ (List.replicate k '0' ++ ds) = List.replicate (k + 1) '0' ++ ds := rfl
  have hdigits : ∀ c ∈ ['0'] ++ (List.replicate k '0' ++ ds), c.isDigit = true := fun c hc =>
    (List.mem_append.1 (hzeros ▸ hc)).elim isDigit_of_mem_zeros (h.digits c)
  have hspells := spells_pointed (e := 0) rfl hdigits rfl
  have he : (0 : Int) = -(k + 1) + (k + 1 : Nat) := by omega
  rw [pointed_of_ne_nil hne, hzeros, he, digitsValue_zeros_append] at hspells
  exact hspells

/-- A whole number is spelled with zeros up to the point, and with or without one behind it. -/
theorem spells_beforePoint (pointZero : Bool) (h : Leading ds) {k : Nat} (hk : ds.length ≤ k + 1) :
    Spells (ds ++ List.replicate (k + 1 - ds.length) '0' ++ (if pointZero then ['.', '0'] else []))
      (digitsValue ds k) := by
  have hwhole : isWhole (ds ++ List.replicate (k + 1 - ds.length) '0') = true := h.isWhole_append _
  have hlength : ((ds ++ List.replicate (k + 1 - ds.length) '0').length : Int) = k + 1 := by
    rw [List.length_append, List.length_replicate]
    omega
  have hdigits : ∀ j, ∀ c ∈ ds ++ List.replicate j '0', c.isDigit = true := fun j c hc =>
    (List.mem_append.1 hc).elim (h.digits c) isDigit_of_mem_zeros
  cases pointZero with
  -- The zero behind the point is one more of the zeros that fill the digits up.
  | true =>
    have hzeros : ds ++ List.replicate (k + 1 - ds.length) '0' ++ ['0'] =
        ds ++ List.replicate (k + 1 - ds.length + 1) '0' := by
      rw [List.replicate_succ', List.append_assoc]
    have hall : ∀ c ∈ ds ++ List.replicate (k + 1 - ds.length) '0' ++ ['0'], c.isDigit = true :=
      hzeros ▸ hdigits _
    have hspells := spells_pointed hwhole hall hlength
    rw [hzeros, digitsValue_append_zeros] at hspells
    exact hspells
  | false =>
    have hall : ∀ c ∈ ds ++ List.replicate (k + 1 - ds.length) '0' ++ [], c.isDigit = true :=
      (List.append_nil _).symm ▸ hdigits _
    have hspells := spells_pointed hwhole hall hlength
    rw [List.append_nil (ds ++ _), digitsValue_append_zeros] at hspells
    exact hspells

/-- A number with more than `k + 1` digits is spelled with the point behind the first `k + 1`. -/
theorem spells_aroundPoint (h : Leading ds) {k : Nat} (hk : k + 1 < ds.length) :
    Spells (ds.take (k + 1) ++ '.' :: ds.drop (k + 1)) (digitsValue ds k) := by
  have hne : ds.drop (k + 1) ≠ [] := by
    rw [ne_eq, List.drop_eq_nil_iff]
    omega
  have hlength : ((ds.take (k + 1)).length : Int) = k + 1 := by
    rw [List.length_take]
    omega
  have hsplit : ds.take (k + 1) ++ ds.drop (k + 1) = ds := List.take_append_drop _ _
  have hspells := spells_pointed (h.isWhole_take k) (hsplit.symm ▸ h.digits) hlength
  rw [hsplit, pointed_of_ne_nil hne] at hspells
  exact hspells

/-- **Digits around a point** spell what they are worth. -/
theorem spells_positionalText (pointZero : Bool) (h : Leading ds) (e : Int) :
    Spells (positionalText pointZero ds e) (digitsValue ds e) := by
  unfold positionalText
  split
  next he =>
    have hspells := spells_behindPoint h (e.natAbs - 1)
    have hexponent : -((e.natAbs - 1 : Nat) + 1 : Int) = e := by omega
    rwa [hexponent] at hspells
  next he =>
    obtain ⟨k, rfl⟩ := Int.eq_ofNat_of_zero_le (Int.not_lt.1 he)
    dsimp only
    rw [Int.toNat_natCast]
    split
    next hlong => exact spells_beforePoint pointZero h hlong
    next hshort => exact spells_aroundPoint h (Nat.lt_of_not_le hshort)

/-- `natural?` reads the digits of `n` as `n`. -/
theorem natural?_toDigits (n : Nat) : natural? (Nat.toDigits 10 n) = some n := by
  have hempty : (Nat.toDigits 10 n).isEmpty = false :=
    List.isEmpty_eq_false_iff.2 Nat.toDigits_ne_nil
  have hdigits : (Nat.toDigits 10 n).all Char.isDigit = true :=
    List.all_eq_true.2 fun c hc => Nat.isDigit_of_mem_toDigits (by decide) (by decide) hc
  rw [natural?, hempty, hdigits]
  exact congrArg some Nat.ofDigitChars_ten_toDigits

/-- `signed?` reads an exponent `e` as it is written, with a plus sign or without. -/
theorem signed?_toDigits (plusSign : Bool) (e : Int) :
    signed? ((if e < 0 then ['-'] else if plusSign then ['+'] else []) ++
      Nat.toDigits 10 e.natAbs) = some e := by
  have hread := natural?_toDigits e.natAbs
  split
  next he =>
    show (natural? (Nat.toDigits 10 e.natAbs)).map _ = _
    rw [hread, Option.map_some]
    exact congrArg some (by omega)
  next he =>
    have hnat : Int.ofNat e.natAbs = e := Int.natAbs_of_nonneg (Int.not_lt.1 he)
    split
    next =>
      show (natural? (Nat.toDigits 10 e.natAbs)).map _ = _
      rw [hread, Option.map_some, hnat]
    next =>
      rw [List.nil_append]
      unfold signed?
      -- The first character is a digit and no sign.
      split
      next ds hds =>
        have hc : '-' ∈ Nat.toDigits 10 e.natAbs := hds ▸ List.mem_cons_self
        exact absurd (Nat.isDigit_of_mem_toDigits (by decide) (by decide) hc) (by decide)
      next ds hds =>
        have hc : '+' ∈ Nat.toDigits 10 e.natAbs := hds ▸ List.mem_cons_self
        exact absurd (Nat.isDigit_of_mem_toDigits (by decide) (by decide) hc) (by decide)
      next => rw [hread, Option.map_some, hnat]

/-- **Digits with an exponent** spell what they are worth. -/
theorem spells_scientificText (plusSign : Bool) (h : Leading ds) (e : Int) :
    Spells (scientificText plusSign ds e) (digitsValue ds e) := by
  cases ds with
  | nil => exact absurd rfl h.ne_nil
  | cons c ds =>
    have hwhole : isWhole [c] = true := by simp [isWhole]
    have hdigits : ∀ c' ∈ [c] ++ ds, c'.isDigit = true := h.digits
    have hexponent : exponent? ('e' :: ((if e < 0 then ['-'] else if plusSign then ['+'] else []) ++
        Nat.toDigits 10 e.natAbs)) = some e := signed?_toDigits plusSign e
    have htext : scientificText plusSign (c :: ds) e = [c] ++ (pointed ds ++
        'e' :: ((if e < 0 then ['-'] else if plusSign then ['+'] else []) ++
          Nat.toDigits 10 e.natAbs)) := by
      cases ds <;> rfl
    have hspells := spells_digits hwhole hdigits hexponent
    have he : (([c].length : Nat) - 1 + e : Int) = e := by
      rw [List.length_singleton]
      omega
    rw [htext]
    rwa [he] at hspells

/-! ### The digits of a double -/

/-- The first digit of a positive number is not a zero. -/
theorem head?_toDigits {n : Nat} (hn : 0 < n) : (Nat.toDigits 10 n).head? ≠ some '0' := by
  -- The digits of `n` begin with those of `n / 10`.
  induction n using Nat.strongRecOn with
  | ind n ih =>
    rcases Nat.lt_or_ge n 10 with hlt | hge
    · rw [Nat.toDigits_of_lt_base hlt, List.head?_cons, ne_eq, Option.some.injEq,
        Nat.digitChar_eq_zero]
      exact hn.ne'
    · rw [Nat.toDigits_of_base_le (by decide) hge,
        List.head?_append_of_ne_nil _ Nat.toDigits_ne_nil]
      exact ih (n / 10) (Nat.div_lt_self hn (by decide)) (Nat.div_pos hge (by decide))

/-- `dropTrailingZeros` drops zeros only. -/
theorem exists_zeros (ds : List Char) :
    ∃ k, ds = dropTrailingZeros ds ++ List.replicate k '0' := by
  refine ⟨(ds.reverse.takeWhile (· == '0')).length, ?_⟩
  have hzeros : (ds.reverse.takeWhile (· == '0')).reverse =
      List.replicate (ds.reverse.takeWhile (· == '0')).length '0' := by
    rw [List.eq_replicate_iff, List.length_reverse]
    refine ⟨rfl, fun c hc => ?_⟩
    exact eq_of_beq (List.all_eq_true.1 List.all_takeWhile c (List.mem_reverse.1 hc))
  rw [← hzeros, dropTrailingZeros, ← List.reverse_append, List.takeWhile_append_dropWhile,
    List.reverse_reverse]

/-- Without its trailing zeros, a positive number still has digits, and no zero in front. -/
theorem leading_dropTrailingZeros {n : Nat} (hn : 0 < n) :
    Leading (dropTrailingZeros (Nat.toDigits 10 n)) := by
  obtain ⟨k, hk⟩ := exists_zeros (Nat.toDigits 10 n)
  have hhead := head?_toDigits hn
  have hdigits : ∀ c ∈ Nat.toDigits 10 n, c.isDigit = true := fun c hc =>
    Nat.isDigit_of_mem_toDigits (by decide) (by decide) hc
  generalize dropTrailingZeros (Nat.toDigits 10 n) = ds at hk ⊢
  have hne : ds ≠ [] := by
    -- Otherwise all digits would be zeros, the first one too.
    rintro rfl
    cases k with
    | zero => exact Nat.toDigits_ne_nil hk
    | succ k => exact hhead (hk ▸ rfl)
  refine ⟨fun c hc => hdigits c (hk ▸ List.mem_append_left _ hc), hne, ?_⟩
  rwa [hk, List.head?_append_of_ne_nil _ hne] at hhead

/-- **The text of a magnitude** spells its shortest decimal. -/
theorem spells_magnitudeText (style : Style) (j : Nat) :
    Spells (magnitudeText style (j + 1)) (Decimal.shortest style.tie (j + 1)).value := by
  have hpos := Decimal.shortest_significand_pos style.tie j
  rw [magnitudeText, if_neg (Nat.succ_ne_zero j)]
  generalize Decimal.shortest style.tie (j + 1) = d at hpos ⊢
  have hleading := leading_dropTrailingZeros hpos
  obtain ⟨k, hk⟩ := exists_zeros (Nat.toDigits 10 d.significand)
  have hvalue : digitsValue (dropTrailingZeros (Nat.toDigits 10 d.significand))
      ((Nat.toDigits 10 d.significand).length - 1 + d.exponent) = d.value := by
    have hexponent : ((Nat.toDigits 10 d.significand).length - 1 + d.exponent : Int) + 1 -
        (Nat.toDigits 10 d.significand).length = d.exponent := by omega
    rw [← digitsValue_append_zeros _ k, ← hk, digitsValue, hexponent,
      Nat.ofDigitChars_ten_toDigits]
  rw [← hvalue]
  dsimp only
  -- Whichever notation the style chooses, it lays out the same digits.
  split
  · exact spells_positionalText _ hleading _
  · exact spells_scientificText _ hleading _

/-- The text of the magnitude zero spells zero, in every style. -/
theorem spells_magnitudeText_zero (style : Style) : Spells (magnitudeText style 0) 0 := by
  have hzero : ∀ e, Decimal.value ⟨0, e⟩ = 0 := fun e => by
    rw [Decimal.value, Nat.cast_zero, zero_mul]
  have hdigit : ∀ c ∈ ['0'], c.isDigit = true := fun c hc => List.mem_singleton.1 hc ▸ rfl
  rw [magnitudeText, if_pos rfl]
  cases style.pointZero with
  | true => exact ⟨['0'], ['0'], [], 0, rfl, hdigit, rfl, hdigit, rfl, hzero _⟩
  | false =>
    exact ⟨['0'], [], [], 0, rfl, hdigit, rfl, fun c hc => absurd hc List.not_mem_nil, rfl, hzero _⟩

/-- The text of a magnitude `m` spells a number to which `m` is the nearest magnitude. -/
theorem exists_spells_magnitudeText (style : Style) (m : Nat) :
    ∃ v, Spells (magnitudeText style m) v ∧ Nearest m (v * unitsPerOne) := by
  cases m with
  | zero =>
    refine ⟨0, spells_magnitudeText_zero style, ?_⟩
    rw [zero_mul]
    exact nearest_zero
  | succ j => exact ⟨_, spells_magnitudeText style j, Decimal.nearest_shortest style.tie j⟩

theorem toList_text_of_isFinite (style : Style) {x : Double} (hx : x.isFinite = true) :
    (x.text style).toList =
      (if x.negative then ['-'] else []) ++ magnitudeText style x.magnitude := by
  rw [text, isNaN_of_isFinite hx, isInfinite_of_isFinite hx, if_neg Bool.false_ne_true,
    if_neg Bool.false_ne_true, String.toList_ofList]

/-- The text of a finite double has no characters but those of numerals. -/
theorem isNumeral_text (style : Style) {x : Double} (hx : x.isFinite = true) :
    ∀ c ∈ (x.text style).toList, isNumeral c = true := by
  obtain ⟨v, hspells, -⟩ := exists_spells_magnitudeText style x.magnitude
  intro c hc
  rw [toList_text_of_isFinite style hx] at hc
  rcases List.mem_append.1 hc with hc | hc
  · split at hc
    next => exact List.mem_singleton.1 hc ▸ rfl
    next => exact absurd hc List.not_mem_nil
  · exact hspells.isNumeral c hc

/-- **The text of a finite double is read as that double**, whatever its style. -/
theorem ofNumeral?_text (style : Style) {x : Double} (hx : x.isFinite = true) :
    ofNumeral? (x.text style).toList = some x := by
  have hfinite : x.magnitude < infinityMagnitude := of_decide_eq_true hx
  obtain ⟨v, hspells, hnearest⟩ := exists_spells_magnitudeText style x.magnitude
  obtain ⟨d, hd, rfl⟩ := hspells.numeral?_eq x.negative
  rw [ofNumeral?, toList_text_of_isFinite style hx, hd, Option.map_some]
  exact congrArg some ((ofDecimal_eq_of_nearest x.negative hnearest hfinite.le).trans
    (ofMagnitude_negative_magnitude x))

end Stopwatch.Double
