import Stopwatch.Program
import Stopwatch.Proofs.Refusals

/-!
# The command line and the environment

Three settings can be given in two places, and the command line is meant to win: the backend, the
shape, and the path of the measurement library.  Once the command line is laid over what was read, a
setting that it names is no longer looked up underneath (`Config.overlaid_congr`).  But the
environment is read first and on its own (`Config.ofEnvironment_eq`), and a variable that holds none
of the words it may hold ends everything there, though the command line would have hidden it.

`Config.arguments_win` says both of the whole: a setting on the command line hides every readable
value of its variable and no unreadable one, and a setting that is left open is that of the
environment.  The path of the library can be any text, and there the command line always wins.
-/

namespace Stopwatch.Config

variable {α : Type} {environment other : String → Option String} {a : Arguments} {base c : Config}

/-! ### Reading a variable -/

/-- The word that a value stands for, blanks at its ends and the case of letters aside. -/
def word (value : String) : String := Text.lowerAscii (Text.trim value)

/-- A variable says a setting: that of its word, or the default if it is not set. -/
def Says (ofName? : String → Option α) (default : α) : Option String → α → Prop
  | none, a => a = default
  | some v, a => ofName? (word v) = some a

/-- A variable is not set, or its value is one of the words. -/
def Readable (ofName? : String → Option α) (value : Option String) : Prop :=
  ∀ v, value = some v → ∃ a, ofName? (word v) = some a

/-- Two environments that differ at most in one variable. -/
def AgreeBut (name : String) (environment other : String → Option String) : Prop :=
  ∀ key, key ≠ name → other key = environment key

/-- The setting that a variable says, or an error that shows its value. -/
def setting (ofName? : String → Option α) (default : α) (name : String) :
    Option String → Except ConfigError α
  | none => .ok default
  | some v => ofVariable ofName? name v

section Setting

variable {ofName? : String → Option α} {default : α} {name : String} {value : Option String}

theorem setting_eq_ok_iff {a : α} :
    setting ofName? default name value = .ok a ↔ Says ofName? default value a := by
  cases value with
  | none => exact ⟨fun h => (Except.ok.inj h).symm, fun h => congrArg _ h.symm⟩
  | some v =>
    rw [setting, Says, ofVariable, word]
    cases ofName? (Text.lowerAscii (Text.trim v)) with
    | none => exact ⟨nofun, nofun⟩
    | some b =>
      exact ⟨fun h => congrArg some (Except.ok.inj h), fun h => congrArg _ (Option.some.inj h)⟩

theorem Readable.exists_setting (h : Readable ofName? value) (default : α) (name : String) :
    ∃ a, setting ofName? default name value = .ok a := by
  simp only [setting_eq_ok_iff]
  cases value with
  | none => exact ⟨default, rfl⟩
  | some v => exact h v rfl

/-- A value that is none of the words is an error, which shows it as it is. -/
theorem setting_eq_error {v : String} (h : ¬ Readable ofName? (some v)) :
    setting ofName? default name (some v) = .error (.invalidVariable name v) := by
  have hnone : ofName? (Text.lowerAscii (Text.trim v)) = none := by
    cases hsome : ofName? (Text.lowerAscii (Text.trim v)) with
    | none => rfl
    | some a => exact absurd (fun w hw => ⟨a, Option.some.inj hw ▸ hsome⟩) h
  rw [setting, ofVariable, hnone]

end Setting

/-- The shape of a word, as a setting that may be left open. -/
def shapeOfName? (word : String) : Option (Option Shape) := (Shape.ofName? word).map some

theorem setting_shape (name v : String) :
    setting shapeOfName? none name (some v) = some <$> ofVariable Shape.ofName? name v := by
  rw [setting, ofVariable, ofVariable, shapeOfName?]
  cases Shape.ofName? (Text.lowerAscii (Text.trim v)) <;> rfl

/-- **The environment is read** variable by variable, and the first that is not readable is an
error. -/
theorem ofEnvironment_eq (environment : String → Option String) :
    ofEnvironment environment = (do
      let backend ← setting BackendChoice.ofName? .wallclock "ITERS_BACKEND"
        (environment "ITERS_BACKEND")
      let shape ← setting shapeOfName? none "ITERS_SHAPE" (environment "ITERS_SHAPE")
      pure { backend, shape,
             kruntimePath := (environment "ITERS_KRUNTIME_LIB").getD "libkruntime.so" }) := by
  rw [ofEnvironment]
  -- A shape that is not set is no word at all, and a word is a shape that is set.
  cases environment "ITERS_SHAPE" with
  | none => cases environment "ITERS_BACKEND" <;> rfl
  | some v =>
    rw [setting_shape]
    cases environment "ITERS_BACKEND" <;> rfl

/-! ### Laying the command line over it -/

/-- `overlaid` depends on the base through the three settings only, and on each of them only if the
command line leaves it open. -/
theorem overlaid_congr {base' : Config}
    (hbackend : a.backend.getD base'.backend = a.backend.getD base.backend)
    (hshape : (a.shape <|> base'.shape) = (a.shape <|> base.shape))
    (hpath : a.kruntime.getD base'.kruntimePath = a.kruntime.getD base.kruntimePath) :
    base'.overlaid a = base.overlaid a := by
  simp only [overlaid, hbackend, hshape, hpath]

/-! ### Both layers -/

/-- `ofLayers` reads the two variables, one after the other, and lays the command line over them. -/
theorem ofLayers_eq (environment : String → Option String) (a : Arguments) :
    ofLayers environment a = (do
      let backend ← (setting BackendChoice.ofName? .wallclock "ITERS_BACKEND"
        (environment "ITERS_BACKEND")).mapError .environment
      let shape ← (setting shapeOfName? none "ITERS_SHAPE"
        (environment "ITERS_SHAPE")).mapError .environment
      (overlaid { backend, shape,
                  kruntimePath := (environment "ITERS_KRUNTIME_LIB").getD "libkruntime.so" }
        a).mapError .arguments) := by
  rw [ofLayers, ofEnvironment_eq]
  cases setting BackendChoice.ofName? .wallclock "ITERS_BACKEND" (environment "ITERS_BACKEND") with
  | error e => rfl
  | ok backend =>
    cases setting shapeOfName? none "ITERS_SHAPE" (environment "ITERS_SHAPE") with
    | error e => rfl
    | ok shape => rfl

theorem readable_shape {value : Option String} :
    Readable shapeOfName? value ↔ Readable Shape.ofName? value := by
  refine forall₂_congr fun v _ => ?_
  simp only [shapeOfName?, Option.map_eq_some_iff]
  exact ⟨fun ⟨_, s, hs, _⟩ => ⟨s, hs⟩, fun ⟨s, hs⟩ => ⟨some s, s, hs, rfl⟩⟩

/-- Two results that `f` makes equal are the same error, or two values that `f` makes equal. -/
theorem cases_of_map_eq {ε α β : Type} {f : α → β} {x y : Except ε α} (h : y.map f = x.map f) :
    (∃ e, x = .error e ∧ y = .error e) ∨ ∃ v w, x = .ok v ∧ y = .ok w ∧ f w = f v := by
  cases x with
  | error e =>
    cases y with
    | error e' => exact .inl ⟨e, rfl, congrArg _ (Except.error.inj h)⟩
    | ok w => cases h
  | ok v =>
    cases y with
    | error e' => cases h
    | ok w => exact .inr ⟨v, w, rfl, rfl, Except.ok.inj h⟩

/-- **What matters of the environment** is whether it can be read, and the settings that the command
line leaves open. -/
theorem ofLayers_congr
    (hbackend : (setting BackendChoice.ofName? .wallclock "ITERS_BACKEND"
        (other "ITERS_BACKEND")).map a.backend.getD =
      (setting BackendChoice.ofName? .wallclock "ITERS_BACKEND"
        (environment "ITERS_BACKEND")).map a.backend.getD)
    (hshape : (setting shapeOfName? none "ITERS_SHAPE" (other "ITERS_SHAPE")).map (a.shape <|> ·) =
      (setting shapeOfName? none "ITERS_SHAPE" (environment "ITERS_SHAPE")).map (a.shape <|> ·))
    (hpath : a.kruntime.getD ((other "ITERS_KRUNTIME_LIB").getD "libkruntime.so") =
      a.kruntime.getD ((environment "ITERS_KRUNTIME_LIB").getD "libkruntime.so")) :
    ofLayers other a = ofLayers environment a := by
  rw [ofLayers_eq, ofLayers_eq]
  -- The first variable that is not readable ends both, and with the same error.
  obtain ⟨e, he, he'⟩ | ⟨b, b', hb, hb', hbb⟩ := cases_of_map_eq hbackend
  · rw [he, he']
    rfl
  obtain ⟨e, he, he'⟩ | ⟨s, s', hs, hs', hss⟩ := cases_of_map_eq hshape
  · rw [hb, hb', he, he']
    rfl
  · rw [hb, hb', hs, hs']
    exact congrArg (Except.mapError _) (overlaid_congr hbb hss hpath)

/-- Behind a constant `f`, such as laying a given setting over it, two readable values are the
same. -/
theorem setting_map_eq {β : Type} {ofName? : String → Option α} {default : α} {name : String}
    {value value' : Option String} {f : α → β} (hf : ∀ v w, f v = f w)
    (h : Readable ofName? value) (h' : Readable ofName? value') :
    (setting ofName? default name value').map f = (setting ofName? default name value).map f := by
  obtain ⟨v, hv⟩ := h.exists_setting default name
  obtain ⟨w, hw⟩ := h'.exists_setting default name
  rw [hv, hw]
  exact congrArg Except.ok (hf w v)

/-- An unreadable `ITERS_BACKEND` is an error that shows its value, whatever `a` gives. -/
theorem ofLayers_eq_error_of_backend {v : String} (hv : environment "ITERS_BACKEND" = some v)
    (h : ¬ Readable BackendChoice.ofName? (some v)) :
    ofLayers environment a = .error (.environment (.invalidVariable "ITERS_BACKEND" v)) := by
  rw [ofLayers_eq, hv, setting_eq_error h]
  rfl

theorem ofLayers_eq_error_of_shape {v : String} (hv : environment "ITERS_SHAPE" = some v)
    (h : ¬ Readable Shape.ofName? (some v))
    (hbackend : Readable BackendChoice.ofName? (environment "ITERS_BACKEND")) :
    ofLayers environment a = .error (.environment (.invalidVariable "ITERS_SHAPE" v)) := by
  obtain ⟨b, hb⟩ := hbackend.exists_setting .wallclock "ITERS_BACKEND"
  rw [ofLayers_eq, hb, hv, setting_eq_error fun hs => h (readable_shape.1 hs)]
  rfl

/-- If there is a config `c`, each of its settings is the one on the command line or, where `a`
leaves it open, the one that the environment says. -/
theorem exists_says_of_ofLayers (h : ofLayers environment a = .ok c) :
    ∃ backend shape, Says BackendChoice.ofName? .wallclock (environment "ITERS_BACKEND") backend ∧
      Says shapeOfName? none (environment "ITERS_SHAPE") shape ∧
      c.backend = a.backend.getD backend ∧ c.shape = (a.shape <|> shape) ∧
      c.kruntimePath =
        a.kruntime.getD ((environment "ITERS_KRUNTIME_LIB").getD "libkruntime.so") := by
  rw [ofLayers_eq] at h
  cases hb : setting BackendChoice.ofName? .wallclock "ITERS_BACKEND"
      (environment "ITERS_BACKEND") with
  | error e => rw [hb] at h; cases h
  | ok backend =>
    cases hs : setting shapeOfName? none "ITERS_SHAPE" (environment "ITERS_SHAPE") with
    | error e => rw [hb, hs] at h; cases h
    | ok shape =>
      rw [hb, hs] at h
      let base : Config := { backend, shape, kruntimePath :=
        (environment "ITERS_KRUNTIME_LIB").getD "libkruntime.so" }
      have hlayers : (base.overlaid a).mapError ProgramFailure.arguments = .ok c := h
      cases hoverlaid : base.overlaid a with
      | error e => rw [hoverlaid] at hlayers; cases hlayers
      | ok c' =>
        rw [hoverlaid] at hlayers
        obtain rfl : c' = c := Except.ok.inj hlayers
        have hlaid : Laid base a c' := (overlaid_eq_ok_iff.1 hoverlaid).1.toLaid
        exact ⟨backend, shape, setting_eq_ok_iff.1 hb, setting_eq_ok_iff.1 hs, hlaid.backend,
          hlaid.shape, hlaid.kruntimePath⟩

/-- **Arguments win over a readable environment, and over no other.**  With `a.backend` given,
`ofLayers` is the same for all `Readable` values of `ITERS_BACKEND`; likewise for `a.shape` and
`ITERS_SHAPE`, and with `a.kruntime` given, for all values of `ITERS_KRUNTIME_LIB`.  An unreadable
`ITERS_BACKEND` or `ITERS_SHAPE` is an error that shows it, even where the command line gives that
setting.  If there is a config, a setting that the command line leaves open is the one in the
environment, and the others are those on the command line. -/
theorem arguments_win (a : Arguments) (environment other : String → Option String) :
    (a.backend.isSome → AgreeBut "ITERS_BACKEND" environment other →
      Readable BackendChoice.ofName? (environment "ITERS_BACKEND") →
      Readable BackendChoice.ofName? (other "ITERS_BACKEND") →
      ofLayers other a = ofLayers environment a) ∧
    (a.shape.isSome → AgreeBut "ITERS_SHAPE" environment other →
      Readable Shape.ofName? (environment "ITERS_SHAPE") →
      Readable Shape.ofName? (other "ITERS_SHAPE") →
      ofLayers other a = ofLayers environment a) ∧
    (a.kruntime.isSome → AgreeBut "ITERS_KRUNTIME_LIB" environment other →
      ofLayers other a = ofLayers environment a) ∧
    (∀ v, environment "ITERS_BACKEND" = some v → ¬ Readable BackendChoice.ofName? (some v) →
      ofLayers environment a = .error (.environment (.invalidVariable "ITERS_BACKEND" v))) ∧
    (∀ v, environment "ITERS_SHAPE" = some v → ¬ Readable Shape.ofName? (some v) →
      Readable BackendChoice.ofName? (environment "ITERS_BACKEND") →
      ofLayers environment a = .error (.environment (.invalidVariable "ITERS_SHAPE" v))) ∧
    ∀ c, ofLayers environment a = .ok c →
      (a.backend = none →
        Says BackendChoice.ofName? .wallclock (environment "ITERS_BACKEND") c.backend) ∧
      (a.shape = none → Says shapeOfName? none (environment "ITERS_SHAPE") c.shape) ∧
      (a.kruntime = none →
        c.kruntimePath = (environment "ITERS_KRUNTIME_LIB").getD "libkruntime.so") ∧
      (∀ b, a.backend = some b → c.backend = b) ∧ (∀ s, a.shape = some s → c.shape = some s) ∧
      ∀ k, a.kruntime = some k → c.kruntimePath = k := by
  -- To hide a variable, the other two must be the same, and the given setting a constant.
  refine ⟨fun ha h hreadable hother => ?_, fun ha h hreadable hother => ?_, fun ha h => ?_,
    fun v hv h => ofLayers_eq_error_of_backend hv h,
    fun v hv h hbackend => ofLayers_eq_error_of_shape hv h hbackend, fun c hc => ?_⟩
  · obtain ⟨b, hb⟩ := Option.isSome_iff_exists.1 ha
    refine ofLayers_congr (setting_map_eq (fun _ _ => by rw [hb]; rfl) hreadable hother) ?_ ?_
    · rw [h "ITERS_SHAPE" (by decide)]
    · rw [h "ITERS_KRUNTIME_LIB" (by decide)]
  · obtain ⟨s, hs⟩ := Option.isSome_iff_exists.1 ha
    refine ofLayers_congr ?_ (setting_map_eq (fun _ _ => by rw [hs]; rfl)
      (readable_shape.2 hreadable) (readable_shape.2 hother)) ?_
    · rw [h "ITERS_BACKEND" (by decide)]
    · rw [h "ITERS_KRUNTIME_LIB" (by decide)]
  · obtain ⟨k, hk⟩ := Option.isSome_iff_exists.1 ha
    refine ofLayers_congr ?_ ?_ (by rw [hk]; rfl)
    · rw [h "ITERS_BACKEND" (by decide)]
    · rw [h "ITERS_SHAPE" (by decide)]
  · obtain ⟨backend, shape, hbackend, hshape, hb, hs, hk⟩ := exists_says_of_ofLayers hc
    refine ⟨fun ha => ?_, fun ha => ?_, fun ha => ?_, fun b ha => ?_, fun s ha => ?_,
      fun k ha => ?_⟩
    · rw [hb, ha]
      exact hbackend
    · rw [hs, ha]
      exact hshape
    · rw [hk, ha]
      rfl
    · rw [hb, ha]
      rfl
    · rw [hs, ha]
      rfl
    · rw [hk, ha]
      rfl

/-- Although the command line gives the backend, `ITERS_BACKEND=nope` is an error. -/
theorem ofLayers_misspelled : ∃ a,
    Arguments.parse ["bench", "3", "7", "0", "--backend", "wallclock"] = .ok a ∧ a.list = false ∧
      a.backend = some .wallclock ∧
      AgreeBut "ITERS_BACKEND" (fun _ => none)
        (fun key => if key = "ITERS_BACKEND" then some "nope" else none) ∧
      (∃ c, ofLayers (fun _ => none) a = .ok c) ∧
      ofLayers (fun key => if key = "ITERS_BACKEND" then some "nope" else none) a =
        .error (.environment (.invalidVariable "ITERS_BACKEND" "nope")) := by
  exact ⟨_, rfl, rfl, rfl, fun key hkey => if_neg hkey, ⟨_, rfl⟩, rfl⟩

end Stopwatch.Config
