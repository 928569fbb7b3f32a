import Stopwatch.CommandLine.Layering
import Stopwatch.Proofs.Course

/-!
# Command lines that are refused

A command line that is laid over a base is looked at twice.  What it lacks, or has in part, is found
while it is laid over the base; what is empty or zero is found when the whole is validated.
Together these are six reasons to refuse it (`Refusal`), looked for in one order, and all of them
are about the command line alone.

Each step is taken by itself (`Config.overlaid_of_none` to `Config.overlaid_of_asks`), and behind
the last one is the validation.  So what is not refused is an `Overlay` that is valid
(`Config.overlaid_eq_ok_iff`), and a refusal is that of the first reason that applies
(`Config.overlaid_eq_error_iff`).  `Config.overlaid_or_refused` puts the two together, and adds that
an execution does not refuse what was accepted here.
-/

namespace Stopwatch

/-! ### What a command line asks for -/

namespace Arguments

/-- How many iterations are asked for, or zero if the command line does not say. -/
def count (a : Arguments) : Int := (a.iterations.map Int32.toInt).getD 0

/-- The three values for instrumentation are given, and are these, or none of them is given. -/
structure Asks (a : Arguments) (o : Option Instrumentation) : Prop where
  directory : a.directory = o.map (·.dir)
  key : a.key = o.map (·.key)
  index : a.index = o.map (·.index)

variable {a : Arguments} {o : Option Instrumentation}

theorem instrumentation_of_asks (h : a.Asks o) : a.instrumentation = .ok o := by
  rw [instrumentation, h.directory, h.key, h.index]
  cases o <;> rfl

theorem Asks.unique {o' : Option Instrumentation} (h : a.Asks o) (h' : a.Asks o') : o' = o :=
  Except.ok.inj ((instrumentation_of_asks h').symm.trans (instrumentation_of_asks h))

/-- A positive `count` is a number that the command line gives. -/
theorem exists_iterations_of_count_pos (h : 0 < a.count) :
    ∃ n, a.iterations = some n ∧ n.toInt = a.count := by
  cases hn : a.iterations with
  | none =>
    rw [count, hn] at h
    cases h
  | some n =>
    rw [count, hn]
    exact ⟨n, rfl, rfl⟩

/-- Some `o` is asked for if and only if all of the three values are given, or none of them. -/
theorem exists_asks_iff :
    (∃ o, a.Asks o) ↔ a.directory.isSome = a.key.isSome ∧ a.key.isSome = a.index.isSome := by
  constructor
  · rintro ⟨o, hdirectory, hkey, hindex⟩
    rw [hdirectory, hkey, hindex]
    simp only [Option.isSome_map, and_self]
  · rintro ⟨hdirectory, hindex⟩
    cases hd : a.directory with
    | none =>
      have hk : a.key = none := by simpa [hd] using hdirectory
      have hi : a.index = none := by simpa [hk] using hindex
      exact ⟨none, hd, hk, hi⟩
    | some dir =>
      have hk : a.key.isSome := by simpa [hd] using hdirectory
      obtain ⟨key, hk⟩ := Option.isSome_iff_exists.1 hk
      have hi : a.index.isSome := by simpa [hk] using hindex
      obtain ⟨index, hi⟩ := Option.isSome_iff_exists.1 hi
      exact ⟨some ⟨dir, key, index⟩, hd, hk, hi⟩

theorem instrumentation_eq_error (h : ¬ ∃ o, a.Asks o) :
    a.instrumentation = .error .incompleteInstrumentation := by
  rw [instrumentation]
  -- The first two cases are those in which something is asked for.
  split
  next hd hk hi => exact absurd ⟨none, hd, hk, hi⟩ h
  next dir key index hd hk hi => exact absurd ⟨some ⟨dir, key, index⟩, hd, hk, hi⟩ h
  next => rfl

/-- Progress is wanted if and only if the level `a.debug` is given and positive. -/
theorem wantsProgress_iff :
    a.wantsProgress = true ↔ ∃ level, a.debug = some level ∧ 0 < level.toInt := by
  rw [wantsProgress, Option.any_eq_true]
  simp only [decide_eq_true_eq]

end Arguments

/-! ### Reasons to refuse -/

/-- Why a command line is refused. -/
inductive Refusal
  | noBenchmark
  | negativeIterations
  /-- Some of the values for instrumentation are given, and others are not. -/
  | partialInstrumentation
  | emptyBenchmark
  | noIterations
  /-- The directory or the key is given as an empty text. -/
  | emptyInstrumentation
  deriving DecidableEq, Repr

namespace Refusal

/-- The place of a reason among those that are looked for. -/
def index : Refusal → Nat
  | noBenchmark => 0
  | negativeIterations => 1
  | partialInstrumentation => 2
  | emptyBenchmark => 3
  | noIterations => 4
  | emptyInstrumentation => 5

instance : LT Refusal := ⟨fun r s => r.index < s.index⟩

instance (r s : Refusal) : Decidable (r < s) := inferInstanceAs (Decidable (r.index < s.index))

/-- Whether a command line gives the reason. -/
def AppliesTo (a : Arguments) : Refusal → Prop
  | noBenchmark => a.benchmark = none
  | negativeIterations => a.count < 0
  | partialInstrumentation =>
    ¬ (a.directory.isSome = a.key.isSome ∧ a.key.isSome = a.index.isSome)
  | emptyBenchmark => a.benchmark = some ""
  | noIterations => a.count = 0
  | emptyInstrumentation => a.directory = some "" ∨ a.key = some ""

/-- The error that tells of the reason. -/
def error (a : Arguments) : Refusal → ConfigError
  | noBenchmark | emptyBenchmark => .missingBenchmark
  | negativeIterations => .nonPositiveIterations a.count
  | noIterations => .nonPositiveIterations 0
  | partialInstrumentation | emptyInstrumentation => .incompleteInstrumentation

/-- The reason applies, and none before it does. -/
structure First (a : Arguments) (r : Refusal) : Prop where
  applies : r.AppliesTo a
  before : ∀ s < r, ¬ s.AppliesTo a

/-- If any reason applies, one of them is the first. -/
theorem exists_first {a : Arguments} {r : Refusal} (h : r.AppliesTo a) : ∃ s, First a s := by
  -- The first one is the one of least `index`.
  obtain ⟨s, hs, hleast⟩ := (measure index).wf.has_min {s | s.AppliesTo a} ⟨r, h⟩
  exact ⟨s, hs, fun s' hlt happlies => hleast s' happlies hlt⟩

section Absent

variable {a : Arguments} {b : String} {o : Option Instrumentation}

theorem exists_benchmark (h : ¬ noBenchmark.AppliesTo a) : ∃ b, a.benchmark = some b :=
  Option.ne_none_iff_exists'.1 h

theorem exists_asks (h : ¬ partialInstrumentation.AppliesTo a) : ∃ o, a.Asks o :=
  Arguments.exists_asks_iff.2 (not_not.1 h)

theorem benchmark_ne (h : ¬ emptyBenchmark.AppliesTo a) (hb : a.benchmark = some b) : b ≠ "" :=
  fun heq => h (hb.trans (congrArg some heq))

theorem count_pos (hnegative : ¬ negativeIterations.AppliesTo a)
    (hzero : ¬ noIterations.AppliesTo a) : 0 < a.count :=
  lt_of_le_of_ne (not_lt.1 hnegative) (Ne.symm hzero)

theorem instrumentation_ne (h : ¬ emptyInstrumentation.AppliesTo a) (ho : a.Asks o) :
    ∀ i, o = some i → i.dir ≠ "" ∧ i.key ≠ "" := by
  rintro i rfl
  obtain ⟨hdir, hkey⟩ := not_or.1 h
  exact ⟨fun heq => hdir (ho.directory.trans (congrArg some heq)),
    fun heq => hkey (ho.key.trans (congrArg some heq))⟩

end Absent

/-- If the directory or the key is empty, it is that of the instrumentation that is asked for. -/
theorem exists_instrumentation {a : Arguments} {o : Option Instrumentation}
    (h : emptyInstrumentation.AppliesTo a) (ho : a.Asks o) :
    ∃ i, o = some i ∧ (i.dir = "" ∨ i.key = "") := by
  rcases h with hempty | hempty
  · rw [ho.directory] at hempty
    obtain ⟨i, hi, hdir⟩ := Option.map_eq_some_iff.1 hempty
    exact ⟨i, hi, .inl hdir⟩
  · rw [ho.key] at hempty
    obtain ⟨i, hi, hkey⟩ := Option.map_eq_some_iff.1 hempty
    exact ⟨i, hi, .inr hkey⟩

/-- The command lines to which no reason applies: a benchmark and a number of iterations are given,
and for instrumentation nothing, or everything. -/
theorem forall_not_appliesTo_iff {a : Arguments} : (∀ r, ¬ AppliesTo a r) ↔
    (∃ b, a.benchmark = some b ∧ b ≠ "") ∧ 0 < a.count ∧
      ((a.directory = none ∧ a.key = none ∧ a.index = none) ∨
        ∃ dir key index, a.directory = some dir ∧ a.key = some key ∧ a.index = some index ∧
          dir ≠ "" ∧ key ≠ "") := by
  constructor
  · intro h
    obtain ⟨b, hb⟩ := exists_benchmark (h noBenchmark)
    refine ⟨⟨b, hb, benchmark_ne (h emptyBenchmark) hb⟩,
      count_pos (h negativeIterations) (h noIterations), ?_⟩
    obtain ⟨o, ho⟩ := exists_asks (h partialInstrumentation)
    cases o with
    | none => exact .inl ⟨ho.directory, ho.key, ho.index⟩
    | some i =>
      obtain ⟨hdir, hkey⟩ := instrumentation_ne (h emptyInstrumentation) ho i rfl
      exact .inr ⟨i.dir, i.key, i.index, ho.directory, ho.key, ho.index, hdir, hkey⟩
  · rintro ⟨⟨b, hb, hempty⟩, hcount, hasks⟩ r hr
    cases r with
    | noBenchmark => exact Option.some_ne_none b (hb.symm.trans hr)
    | negativeIterations => exact absurd hr (Int.not_lt_of_ge hcount.le)
    | partialInstrumentation =>
      rcases hasks with ⟨hd, hk, hi⟩ | ⟨dir, key, index, hd, hk, hi, -⟩ <;>
        simp [AppliesTo, *] at hr
    | emptyBenchmark => exact hempty (Option.some.inj (hb.symm.trans hr))
    | noIterations => exact hcount.ne' hr
    | emptyInstrumentation =>
      rcases hasks with ⟨hd, hk, -⟩ | ⟨dir, key, index, hd, hk, -, hdir, hkey⟩ <;>
        simp [AppliesTo, *] at hr

end Refusal

namespace Config

/-! ### Validation -/

section Validation

variable {c : Config}

theorem validate_of_empty_benchmark (h : c.benchmark = "") :
    c.validate = .error .missingBenchmark := by
  rw [validate, if_pos (String.isEmpty_iff.2 h)]

theorem validate_of_no_iterations (hbenchmark : c.benchmark ≠ "") (h : c.iterations = 0) :
    c.validate = .error (.nonPositiveIterations 0) := by
  rw [validate, if_neg (mt String.isEmpty_iff.1 hbenchmark), if_pos h]

variable (hbenchmark : c.benchmark ≠ "") (hiterations : c.iterations ≠ 0)
include hbenchmark hiterations

theorem validate_of_empty_instrumentation {i : Instrumentation} (hi : c.instrumentation = some i)
    (h : i.dir = "" ∨ i.key = "") : c.validate = .error .incompleteInstrumentation := by
  rw [validate, if_neg (mt String.isEmpty_iff.1 hbenchmark), if_neg hiterations, hi]
  have hempty : (i.key.isEmpty || i.dir.isEmpty) = true := by
    rw [Bool.or_eq_true, String.isEmpty_iff, String.isEmpty_iff]
    exact h.symm
  exact if_pos hempty

theorem validate_eq_ok (h : ∀ i, c.instrumentation = some i → i.dir ≠ "" ∧ i.key ≠ "") :
    c.validate = .ok () := by
  rw [validate, if_neg (mt String.isEmpty_iff.1 hbenchmark), if_neg hiterations]
  cases hi : c.instrumentation with
  | none => rfl
  | some i =>
    have hempty : ¬ (i.key.isEmpty || i.dir.isEmpty) = true := by
      rw [Bool.or_eq_true, String.isEmpty_iff, String.isEmpty_iff, not_or]
      exact (h i hi).symm
    exact if_neg hempty

end Validation

/-! ### Laying a command line over a base -/

section Overlay

variable {base c : Config} {a : Arguments} {b : String} {o : Option Instrumentation}

/-- A base with what a command line says laid over it. -/
def under (base : Config) (a : Arguments) (b : String) (o : Option Instrumentation) : Config where
  benchmark := b
  iterations := a.count.toNat
  param := a.param.getD 0
  debug := a.wantsProgress
  instrumentation := o
  backend := a.backend.getD base.backend
  shape := a.shape <|> base.shape
  kruntimePath := a.kruntime.getD base.kruntimePath

theorem overlaid_of_none (h : a.benchmark = none) : base.overlaid a = .error .missingBenchmark := by
  rw [overlaid, h]
  rfl

variable (hb : a.benchmark = some b)
include hb

theorem overlaid_of_negative (h : a.count < 0) :
    base.overlaid a = .error (.nonPositiveIterations a.count) := by
  simp only [overlaid, hb, pure_bind]
  exact if_pos h

variable (hcount : ¬ a.count < 0)
include hcount

/-- With a benchmark and no negative number, the outcome depends on the instrumentation and then on
the validation of `base.under a b o`. -/
theorem overlaid_of_count : base.overlaid a = a.instrumentation.bind fun o =>
    (base.under a b o).validate.map fun _ => base.under a b o := by
  simp only [overlaid, hb, pure_bind]
  exact if_neg hcount

theorem overlaid_of_partial (h : ¬ ∃ o, a.Asks o) :
    base.overlaid a = .error .incompleteInstrumentation := by
  rw [overlaid_of_count hb hcount, Arguments.instrumentation_eq_error h]
  rfl

theorem overlaid_of_asks (h : a.Asks o) :
    base.overlaid a = (base.under a b o).validate.map fun _ => base.under a b o := by
  rw [overlaid_of_count hb hcount, Arguments.instrumentation_of_asks h]
  rfl

end Overlay

/-- What comes of the three settings when a command line is laid over a base. -/
structure Laid (base : Config) (a : Arguments) (c : Config) : Prop where
  backend : c.backend = a.backend.getD base.backend
  shape : c.shape = (a.shape <|> base.shape)
  kruntimePath : c.kruntimePath = a.kruntime.getD base.kruntimePath

/-- What a command line makes of a base.  From the base come the settings that it leaves open. -/
structure Overlay (base : Config) (a : Arguments) (c : Config) : Prop extends Laid base a c where
  benchmark : a.benchmark = some c.benchmark
  iterations : a.count = c.iterations
  param : c.param = a.param.getD 0
  debug : c.debug = true ↔ ∃ level, a.debug = some level ∧ 0 < level.toInt
  instrumentation : a.Asks c.instrumentation

section Outcome

variable {base c : Config} {a : Arguments}

/-- `Overlay` determines `c`. -/
theorem Overlay.eq_under (h : Overlay base a c) :
    c = base.under a c.benchmark c.instrumentation := by
  have hcount : a.count.toNat = c.iterations := by rw [h.iterations, Int.toNat_natCast]
  have hdebug : c.debug = a.wantsProgress := by
    rw [Bool.eq_iff_iff, h.debug, Arguments.wantsProgress_iff]
  rw [under, hcount, ← hdebug, ← h.param, ← h.backend, ← h.shape, ← h.kruntimePath]

/-- Over another base `base'` the same command line makes the same, up to `backend`, `shape` and
`kruntimePath`. -/
theorem Overlay.eq_of_overlay {base' c' : Config} (h : Overlay base a c) (h' : Overlay base' a c') :
    c' = { c with backend := c'.backend, shape := c'.shape, kruntimePath := c'.kruntimePath } := by
  have hbenchmark : c'.benchmark = c.benchmark :=
    Option.some.inj (h'.benchmark.symm.trans h.benchmark)
  have hinstrumentation : c'.instrumentation = c.instrumentation :=
    h.instrumentation.unique h'.instrumentation
  rw [h'.eq_under, h.eq_under, hbenchmark, hinstrumentation]
  rfl

/-- If the first reason `r` comes behind `partialInstrumentation`, the error `e` of the validation
is the error of the whole. -/
theorem overlaid_of_validate {r : Refusal} {e : ConfigError} (h : Refusal.First a r)
    (hr : .partialInstrumentation < r)
    (hvalid : ∀ b o, a.benchmark = some b → a.Asks o → (base.under a b o).validate = .error e) :
    base.overlaid a = .error e := by
  -- The reasons up to `partialInstrumentation` do not apply, so there is something to validate.
  have hearlier : ∀ s ≤ Refusal.index .partialInstrumentation, s < r.index := fun s hs =>
    Nat.lt_of_le_of_lt hs hr
  obtain ⟨b, hb⟩ := Refusal.exists_benchmark (h.before .noBenchmark (hearlier 0 (by decide)))
  have hcount : ¬ a.count < 0 := h.before .negativeIterations (hearlier 1 (by decide))
  obtain ⟨o, ho⟩ := Refusal.exists_asks (h.before .partialInstrumentation hr)
  rw [overlaid_of_asks hb hcount ho, hvalid b o hb ho]
  rfl

/-- **The first reason that applies is the one that is told.** -/
theorem overlaid_of_first {r : Refusal} (h : Refusal.First a r) :
    base.overlaid a = .error (r.error a) := by
  cases r with
  | noBenchmark => exact overlaid_of_none h.applies
  -- For each further reason, the reasons before it say how far the command line comes.
  | negativeIterations =>
    obtain ⟨b, hb⟩ := Refusal.exists_benchmark (h.before .noBenchmark (by decide))
    exact overlaid_of_negative hb h.applies
  | partialInstrumentation =>
    obtain ⟨b, hb⟩ := Refusal.exists_benchmark (h.before .noBenchmark (by decide))
    exact overlaid_of_partial hb (h.before .negativeIterations (by decide))
      (mt Arguments.exists_asks_iff.1 h.applies)
  | emptyBenchmark =>
    refine overlaid_of_validate h (by decide) fun b o hb _ => validate_of_empty_benchmark ?_
    exact Option.some.inj (hb.symm.trans h.applies)
  | noIterations =>
    refine overlaid_of_validate h (by decide) fun b o hb _ => validate_of_no_iterations ?_ ?_
    · exact Refusal.benchmark_ne (h.before .emptyBenchmark (by decide)) hb
    · exact congrArg Int.toNat h.applies
  | emptyInstrumentation =>
    refine overlaid_of_validate h (by decide) fun b o hb ho => ?_
    have hbenchmark : b ≠ "" := Refusal.benchmark_ne (h.before .emptyBenchmark (by decide)) hb
    have hcount : a.count.toNat ≠ 0 := by
      have hpos := Refusal.count_pos (h.before .negativeIterations (by decide))
        (h.before .noIterations (by decide))
      omega
    obtain ⟨i, hi, hempty⟩ := Refusal.exists_instrumentation h.applies ho
    exact validate_of_empty_instrumentation hbenchmark hcount hi hempty

section Accepted

variable {b : String} {o : Option Instrumentation} (h : ∀ r, ¬ Refusal.AppliesTo a r)
  (hb : a.benchmark = some b) (ho : a.Asks o)
include h hb ho

/-- If no reason applies, `base.under a b o` is valid. -/
theorem validate_under : (base.under a b o).validate = .ok () := by
  have hpos := Refusal.count_pos (h .negativeIterations) (h .noIterations)
  have hiterations : (base.under a b o).iterations ≠ 0 := by
    show a.count.toNat ≠ 0
    omega
  exact validate_eq_ok (Refusal.benchmark_ne (h .emptyBenchmark) hb) hiterations
    (Refusal.instrumentation_ne (h .emptyInstrumentation) ho)

theorem overlaid_eq_under : base.overlaid a = .ok (base.under a b o) := by
  rw [overlaid_of_asks hb (h .negativeIterations) ho, validate_under h hb ho]
  rfl

end Accepted

theorem exists_overlaid_iff : (∃ c, base.overlaid a = .ok c) ↔ ∀ r, ¬ Refusal.AppliesTo a r := by
  constructor
  · rintro ⟨c, hc⟩ r hr
    obtain ⟨s, hs⟩ := Refusal.exists_first hr
    rw [overlaid_of_first hs] at hc
    cases hc
  · intro h
    obtain ⟨b, hb⟩ := Refusal.exists_benchmark (h .noBenchmark)
    obtain ⟨o, ho⟩ := Refusal.exists_asks (h .partialInstrumentation)
    exact ⟨_, overlaid_eq_under h hb ho⟩

/-- **A command line is accepted with the outcome `c`** if and only if `c` is its `Overlay` over the
base and valid. -/
theorem overlaid_eq_ok_iff : base.overlaid a = .ok c ↔ Overlay base a c ∧ c.validate = .ok () := by
  constructor
  · intro h
    have habsent : ∀ r, ¬ Refusal.AppliesTo a r := exists_overlaid_iff.1 ⟨c, h⟩
    obtain ⟨b, hb⟩ := Refusal.exists_benchmark (habsent .noBenchmark)
    obtain ⟨o, ho⟩ := Refusal.exists_asks (habsent .partialInstrumentation)
    have hunder : base.overlaid a = .ok (base.under a b o) := overlaid_eq_under habsent hb ho
    obtain rfl : base.under a b o = c := Except.ok.inj (hunder.symm.trans h)
    have hcount : a.count = (a.count.toNat : Int) := by
      have hnegative : ¬ a.count < 0 := habsent .negativeIterations
      omega
    exact ⟨⟨⟨rfl, rfl, rfl⟩, hb, hcount, rfl, Arguments.wantsProgress_iff, ho⟩,
      validate_under habsent hb ho⟩
  · rintro ⟨h, hvalid⟩
    -- The number of `c` is a natural one.
    have hcount : ¬ a.count < 0 := by
      rw [h.iterations]
      omega
    rw [overlaid_of_asks h.benchmark hcount h.instrumentation, ← h.eq_under, hvalid]
    rfl

/-- **A command line is refused with the error `e`** if and only if `e` is the error of the first
reason that applies. -/
theorem overlaid_eq_error_iff {e : ConfigError} :
    base.overlaid a = .error e ↔ ∃ r, Refusal.First a r ∧ e = r.error a := by
  constructor
  · intro h
    by_cases hany : ∃ r, Refusal.AppliesTo a r
    · obtain ⟨r, hr⟩ := hany
      obtain ⟨s, hs⟩ := Refusal.exists_first hr
      rw [overlaid_of_first hs] at h
      exact ⟨s, hs, (Except.error.inj h).symm⟩
    · obtain ⟨c, hc⟩ := exists_overlaid_iff.2 (not_exists.1 hany)
      rw [hc] at h
      cases h
  · rintro ⟨r, hr, rfl⟩
    exact overlaid_of_first hr

/-- **A command line is accepted or refused for itself**, whatever base it is laid over.

* It is accepted if and only if a benchmark is given that is not the empty text, more than no
  iterations are asked for, and for instrumentation there is nothing, or everything, with a
  directory and a key that are not empty.
* Then the result is valid.  The iterations are as many as are asked for; the benchmark, the
  parameter, the progress and the instrumentation are those of the command line, over any base; and
  a setting is the one that the command line gives, or else that of the base.
* If it is refused, then with the error of the first reason that applies.
* What was accepted is not refused by the validation of an execution. -/
theorem overlaid_or_refused (base : Config) (a : Arguments) :
    ((∃ c, base.overlaid a = .ok c) ↔
      (∃ b, a.benchmark = some b ∧ b ≠ "") ∧ 0 < a.count ∧
        ((a.directory = none ∧ a.key = none ∧ a.index = none) ∨
          ∃ dir key index, a.directory = some dir ∧ a.key = some key ∧ a.index = some index ∧
            dir ≠ "" ∧ key ≠ "")) ∧
    (∀ c, base.overlaid a = .ok c →
      c.validate = .ok () ∧ Overlay base a c ∧
      (∃ n, a.iterations = some n ∧ n.toInt = c.iterations) ∧
      ∀ base' c' : Config, base'.overlaid a = .ok c' →
        c' = { c with backend := c'.backend, shape := c'.shape, kruntimePath := c'.kruntimePath }) ∧
    (∀ e, base.overlaid a = .error e ↔ ∃ r, Refusal.First a r ∧ e = r.error a) ∧
    ∀ c, base.overlaid a = .ok c →
      ∀ (σ : Type) (x : Execution (StateM σ)) (w : σ) (e : ConfigError),
      (x.run c w).1 ≠ .error (.config e) := by
  refine ⟨exists_overlaid_iff.trans Refusal.forall_not_appliesTo_iff, fun c hc => ?_,
    fun e => overlaid_eq_error_iff, fun c hc σ x w e he => ?_⟩
  · obtain ⟨hoverlay, hvalid⟩ := overlaid_eq_ok_iff.1 hc
    refine ⟨hvalid, hoverlay, ?_, fun base' c' hc' => ?_⟩
    · have hcount := (Refusal.forall_not_appliesTo_iff.1 (exists_overlaid_iff.1 ⟨c, hc⟩)).2.1
      obtain ⟨n, hn, hint⟩ := Arguments.exists_iterations_of_count_pos hcount
      exact ⟨n, hn, hint.trans hoverlay.iterations⟩
    · exact hoverlay.eq_of_overlay (overlaid_eq_ok_iff.1 hc').1
  · -- an execution refuses only what its first stage, the same validation, refuses
    obtain ⟨hanswer, -, hcourse⟩ := x.course_noted c w
    rw [hanswer, he] at hcourse
    have hinvalid := hcourse.validate_of_config
    rw [(overlaid_eq_ok_iff.1 hc).2] at hinvalid
    cases hinvalid

end Outcome

end Config

end Stopwatch
