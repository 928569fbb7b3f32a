import Mathlib.Tactic.Choose
import Mathlib.Tactic.IntervalCases
import Stopwatch.Proofs.Advance
import Stopwatch.Proofs.Transfers

/-!
# Opening the counters of a core

Opening the counters asks the processor for them, opens a device, reads one register and writes
four.  An access that is interrupted is made again, so each of these steps is decided by one access,
the first one behind the step before that is not interrupted (`Machine.Turns`).

What a machine is after so many steps does not depend on which accesses these are
(`Machine.enabled`), and `Machine.registers_enabled` says what each of its registers holds then.  So
it is enough to know how far the opening gets: to its end (`Machine.enable_of_none`), or to the
first access that fails (`Machine.enable_of_code`).  `CoreCounters.ofCore_effects` collects all that
can happen.
-/

namespace Stopwatch

namespace Machine

variable {s : Machine} {fault : Nat → Option AccessFault} {i : Nat} {turn : Nat → Nat}

/-! ### Steps one after the other -/

/-- The access with which step `j` begins, where `turn` decides the steps. -/
def begins (i : Nat) (turn : Nat → Nat) : Nat → Nat
  | 0 => i
  | j + 1 => turn j + 1

/-- The accesses `turn 0`, `turn 1` and so on decide the steps that begin with access `i`. -/
def Turns (fault : Nat → Option AccessFault) (i : Nat) (turn : Nat → Nat) : Prop :=
  ∀ j, Decides fault (begins i turn j) (turn j)

/-- Some `turn` decides the steps, wherever they begin. -/
theorem exists_turns (s : Machine) (i : Nat) : ∃ turn, Turns s.faultAt i turn := by
  -- The next step begins behind the access that decides this one.
  choose next hnext using s.exists_decides
  refine ⟨fun j => j.rec (next i) fun _ p => next (p + 1), fun j => ?_⟩
  cases j with
  | zero => exact hnext i
  | succ j => exact hnext _

/-- If no fault of `s` is an interruption, each access decides a step. -/
theorem turns_of_uninterrupted (hs : ∀ f ∈ s.faults, f.2 ≠ .code SystemError.interrupted)
    (i : Nat) : Turns s.faultAt i (i + ·) := by
  intro j
  have hj : begins i (i + ·) j = i + j := by cases j <;> rfl
  rw [hj]
  exact .here fun h => hs _ (mem_of_faultAt h) rfl

theorem Turns.first (h : Turns fault i turn) : Decides fault i (turn 0) := h 0

/-- The steps behind the first one begin at `turn 0 + 1`. -/
theorem Turns.tail (h : Turns fault i turn) :
    Turns fault (turn 0 + 1) fun j => turn (j + 1) := by
  intro j
  have hj := h (j + 1)
  cases j with
  | zero => exact hj
  | succ j => exact hj

/-- If every fault of `s` has a code, either the first `n` steps all do well, or there is a first
step `j` among them that does not, and its code is not an interruption. -/
theorem Turns.none_or_code (hs : ∀ f ∈ s.faults, ∃ k, f.2 = .code k)
    (h : Turns s.faultAt i turn) (n : Nat) :
    (∀ j < n, s.faultAt (turn j) = none) ∨ ∃ j < n, ∃ k, k ≠ SystemError.interrupted ∧
      (∀ l < j, s.faultAt (turn l) = none) ∧ s.faultAt (turn j) = some (.code k) := by
  induction n with
  | zero => exact .inl nofun
  | succ n ih =>
    rcases ih with hnone | ⟨j, hj, hfails⟩
    · cases hfault : s.faultAt (turn n) with
      | none =>
        refine .inl fun j hj => ?_
        rcases Nat.lt_succ_iff_lt_or_eq.1 hj with hlt | rfl
        · exact hnone j hlt
        · exact hfault
      | some f =>
        obtain ⟨k, rfl⟩ := exists_code_of_faultAt hs hfault
        refine .inr ⟨n, Nat.lt_succ_self n, k, ?_, hnone, hfault⟩
        rintro rfl
        exact (h n).decided hfault
    · exact .inr ⟨j, Nat.lt_succ_of_lt hj, hfails⟩

theorem begins_tail (i : Nat) (turn : Nat → Nat) (j : Nat) :
    begins (turn 0 + 1) (fun j => turn (j + 1)) j = begins i turn (j + 1) := by
  cases j <;> rfl

/-- The lines of steps, each as often as its step is tried. -/
def attempts (i : Nat) (turn : Nat → Nat) : List String → List String
  | [] => []
  | line :: rest =>
    List.replicate (turn 0 + 1 - i) line ++ attempts (turn 0 + 1) (fun j => turn (j + 1)) rest

/-- The lines of the first step, and those of the others behind them, are the lines of all steps. -/
theorem repeated_append_attempts (i : Nat) (turn : Nat → Nat) (lines : Array String) (line : String)
    (rest : List String) : repeated lines (turn 0 + 1 - i) line ++
        (attempts (turn 0 + 1) (fun j => turn (j + 1)) rest).toArray =
      lines ++ (attempts i turn (line :: rest)).toArray := by
  refine Array.ext' ?_
  simp only [repeated, attempts, Array.toList_append, List.append_assoc]

theorem repeated_eq_attempts (i : Nat) (turn : Nat → Nat) (lines : Array String) (line : String) :
    repeated lines (turn 0 + 1 - i) line = lines ++ (attempts i turn [line]).toArray := by
  rw [← repeated_append_attempts, attempts, Array.append_empty]

/-! ### Writes one after the other -/

/-- The machine after registers have been written. -/
def written (s : Machine) (writes : List (UInt64 × UInt64)) : Machine :=
  writes.foldl (fun s w => s.store w.1 w.2) s

/-- How the writes are logged. -/
def writeLines (writes : List (UInt64 × UInt64)) : List String :=
  writes.map fun w => writeLine w.1 w.2

/-- Write registers, one after the other. -/
def writeEach (writes : List (UInt64 × UInt64)) : Answer (StateM (Logged Machine)) Unit :=
  writes.forM fun w => hardware.writeRegister w.1 w.2

theorem writeEach_nil : writeEach [] = pure () := rfl

theorem writeEach_cons (w : UInt64 × UInt64) (writes : List (UInt64 × UInt64)) :
    writeEach (w :: writes) = hardware.writeRegister w.1 w.2 >>= fun _ => writeEach writes := rfl

/-- **All writes take effect** if none of the accesses `turn 0`, `turn 1` and so on goes wrong. -/
theorem writeEach_of_none (writes : List (UInt64 × UInt64)) (hturn : Turns s.faultAt i turn)
    (h : ∀ j < writes.length, s.faultAt (turn j) = none) (lines : Array String) :
    (writeEach writes).run ⟨s.numbered i, lines⟩ =
      (.ok (), ⟨(s.written writes).numbered (begins i turn writes.length),
        lines ++ (attempts i turn (writeLines writes)).toArray⟩) := by
  -- The other writes begin behind the access that decides the first one, on what that one wrote.
  induction writes generalizing s i turn lines with
  | nil =>
    rw [writeLines, List.map_nil, attempts, Array.append_empty]
    rfl
  | cons w writes ih =>
    have hrest := ih (s := s.store w.1 w.2) hturn.tail
      (fun j hj => h (j + 1) (Nat.succ_lt_succ hj))
      (repeated lines (turn 0 + 1 - i) (writeLine w.1 w.2))
    rw [begins_tail i, repeated_append_attempts] at hrest
    have hfirst := writeRegister_of_none hturn.first (h 0 (Nat.succ_pos _)) w.1 w.2 lines
    exact (bind_of_ok hfirst).trans hrest

/-- **The first write that fails**, write `j`, ends the writing: the `j` writes before it have taken
effect and no other. -/
theorem writeEach_of_code (writes : List (UInt64 × UInt64)) {j : Nat} {k : Int}
    (hturn : Turns s.faultAt i turn) (hj : j < writes.length)
    (h : ∀ l < j, s.faultAt (turn l) = none) (hfault : s.faultAt (turn j) = some (.code k))
    (lines : Array String) :
    (writeEach writes).run ⟨s.numbered i, lines⟩ =
      (.error (.io "msr write" (SystemError.code k).text),
        ⟨(s.written (writes.take j)).numbered (turn j + 1),
          lines ++ (attempts i turn ((writeLines writes).take (j + 1))).toArray⟩) := by
  induction writes generalizing s i turn lines j with
  | nil => cases hj
  | cons w writes ih =>
    cases j with
    | zero =>
      have hfirst := writeRegister_of_code hturn.first hfault w.1 w.2 lines
      rw [repeated_eq_attempts] at hfirst
      exact bind_of_error hfirst
    | succ j =>
      have hrest := ih (s := s.store w.1 w.2) hturn.tail (Nat.lt_of_succ_lt_succ hj)
        (fun l hl => h (l + 1) (Nat.succ_lt_succ hl)) hfault
        (repeated lines (turn 0 + 1 - i) (writeLine w.1 w.2))
      rw [repeated_append_attempts] at hrest
      have hfirst := writeRegister_of_none hturn.first (h 0 (Nat.succ_pos _)) w.1 w.2 lines
      exact (bind_of_ok hfirst).trans hrest

/-! ### The devices of a core -/

/-- What comes of opening a device. -/
def opens (s : Machine) (path : String) : Except SystemError Unit :=
  (s.devices path).getD (.error (.code 2))

/-- How the opening of a device is logged. -/
def openLine (path : String) : String := s!"open {path} read=true write=true"

/-- What comes of opening the devices of a core: the one without a check of privileges counts if it
can be opened, and the plain one else. -/
def opened (s : Machine) (core : Nat) : Except SystemError Unit :=
  match s.opens s!"/dev/cpu/{core}/rmsr" with
  | .ok () => .ok ()
  | .error _ => s.opens s!"/dev/cpu/{core}/msr"

/-- The lines of opening them.  The plain one is tried only if the other one cannot be opened. -/
def openLines (s : Machine) (core : Nat) : List String :=
  match s.opens s!"/dev/cpu/{core}/rmsr" with
  | .ok () => [openLine s!"/dev/cpu/{core}/rmsr"]
  | .error _ => [openLine s!"/dev/cpu/{core}/rmsr", openLine s!"/dev/cpu/{core}/msr"]

/-- `openCore` answers with `opened` and logs `openLines`; the machine stays as it is. -/
theorem openCore_apply (s : Machine) (core : Nat) (lines : Array String) :
    (hardware.openCore core).run ⟨s, lines⟩ =
      ((s.opened core).mapError fun e => .io "open msr device" e.text,
        ⟨s, lines ++ (s.openLines core).toArray⟩) := by
  have hrun : (hardware.openCore core).run ⟨s, lines⟩ =
      (match s.opens s!"/dev/cpu/{core}/rmsr" with
        | .ok () => pure (.ok ())
        | .error _ => (Hardware.ask "open msr device"
            (hardware.openDevice s!"/dev/cpu/{core}/msr")).run : StateM (Logged Machine) _)
        ⟨s, lines.push (openLine s!"/dev/cpu/{core}/rmsr")⟩ := rfl
  -- The lines are pushed one by one, and `openLines` names them as one list.
  have hone : ∀ line, lines.push line = lines ++ [line].toArray := fun _ => Array.push_eq_append
  have htwo : ∀ line line', (lines.push line).push line' = lines ++ [line, line'].toArray := by
    intro line line'
    rw [hone, Array.push_eq_append, Array.append_assoc]
    rfl
  rw [hrun, opened, openLines]
  cases s.opens s!"/dev/cpu/{core}/rmsr" with
  | ok =>
    dsimp only
    rw [hone]
    rfl
  | error e =>
    dsimp only
    rw [Hardware.ask_apply, ← htwo]
    rfl

/-! ### Enabling -/

open Hardware

/-- What is written to enable and to reset the counters where the control register holds `old`. -/
def enabling (old : UInt64) : List (UInt64 × UInt64) :=
  [(controlRegister, old ||| enableCounter1), (cyclesRegister, 0), (mperfRegister, 0),
    (aperfRegister, 0)]

/-- The machine after so many steps of enabling.  The first one reads the control register, where
something may arrive, and each of the others makes a write of `enabling`. -/
def enabled (s : Machine) : Nat → Machine
  | 0 => s
  | n + 1 =>
    (s.arrive controlRegister).written ((enabling (s.held controlRegister)).take n)

/-- The lines of all steps of enabling. -/
def enableLines (s : Machine) : List String :=
  readLine controlRegister :: writeLines (enabling (s.held controlRegister))

/-- Read the control register, enable and reset. -/
def enable : Answer (StateM (Logged Machine)) Unit := do
  let control ← hardware.readRegister controlRegister
  writeEach (enabling control)

/-- **All five steps take effect** if none of the accesses `turn 0` to `turn 4` goes wrong. -/
theorem enable_of_none (hturn : Turns s.faultAt i turn) (h : ∀ j < 5, s.faultAt (turn j) = none)
    (lines : Array String) : enable.run ⟨s.numbered i, lines⟩ =
      (.ok (), ⟨(s.enabled 5).numbered (turn 4 + 1),
        lines ++ (attempts i turn s.enableLines).toArray⟩) := by
  have hread := readRegister_of_none hturn.first (h 0 (by decide)) controlRegister lines
  have hwrites := writeEach_of_none (s := s.arrive controlRegister)
    (enabling (s.held controlRegister)) (faultAt_arrive s _ ▸ hturn.tail)
    (fun j hj => faultAt_arrive s _ ▸ h (j + 1) (Nat.succ_lt_succ hj))
    (repeated lines (turn 0 + 1 - i) (readLine controlRegister))
  rw [begins_tail i, repeated_append_attempts] at hwrites
  exact (bind_of_ok hread).trans hwrites

/-- **The first step that fails**, step `j`, ends the enabling, and the machine is left as
`s.enabled j`. -/
theorem enable_of_code {j : Nat} {k : Int} (hturn : Turns s.faultAt i turn) (hj : j < 5)
    (h : ∀ l < j, s.faultAt (turn l) = none) (hfault : s.faultAt (turn j) = some (.code k))
    (lines : Array String) : enable.run ⟨s.numbered i, lines⟩ =
      (.error (.io (if j = 0 then "msr read" else "msr write") (SystemError.code k).text),
        ⟨(s.enabled j).numbered (turn j + 1),
          lines ++ (attempts i turn (s.enableLines.take (j + 1))).toArray⟩) := by
  cases j with
  -- The first step is the only one that reads.
  | zero =>
    have hread := readRegister_of_code hturn.first hfault controlRegister lines
    rw [repeated_eq_attempts] at hread
    exact bind_of_error hread
  | succ j =>
    have hread := readRegister_of_none hturn.first (h 0 (Nat.succ_pos _)) controlRegister lines
    have hwrites := writeEach_of_code (s := s.arrive controlRegister)
      (enabling (s.held controlRegister)) (faultAt_arrive s _ ▸ hturn.tail)
      (Nat.lt_of_succ_lt_succ hj)
      (fun l hl => faultAt_arrive s _ ▸ h (l + 1) (Nat.succ_lt_succ hl))
      (faultAt_arrive s _ ▸ hfault)
      (repeated lines (turn 0 + 1 - i) (readLine controlRegister))
    rw [repeated_append_attempts] at hwrites
    rw [if_neg (Nat.succ_ne_zero j)]
    exact (bind_of_ok hread).trans hwrites

/-- What arrives at `address` leaves every other register as it is. -/
theorem registers_arrive_of_ne {address other : UInt64} (h : other ≠ address) :
    (s.arrive address).registers other = s.registers other := by
  unfold arrive
  split
  next => rfl
  next => exact if_neg h

/-- The registers after `j` of the five steps of enabling.  Beside the control register, the cycle
counter and the two others, which the steps are about, none is changed. -/
theorem registers_enabled (s : Machine) {j : Nat} (hj : j ≤ 5) (address : UInt64) :
    (s.enabled j).registers address =
      if address = controlRegister then
        if 2 ≤ j then s.held controlRegister ||| enableCounter1
        else if j = 1 then s.held controlRegister else s.registers controlRegister
      else if address = cyclesRegister ∧ 3 ≤ j ∨ address = mperfRegister ∧ 4 ≤ j ∨
        address = aperfRegister ∧ 5 ≤ j then 0
      else s.registers address := by
  have harrive : (s.arrive controlRegister).registers address =
      if address = controlRegister then s.held controlRegister else s.registers address := by
    split
    next h => rw [h]; rfl
    next h => exact registers_arrive_of_ne h
  have hcycles : controlRegister ≠ cyclesRegister := by decide
  have hmperf : controlRegister ≠ mperfRegister := by decide
  have haperf : controlRegister ≠ aperfRegister := by decide
  -- Each number of steps is a fixed list of writes, and `grind` sorts the addresses out.
  interval_cases j <;>
    simp only [enabled, enabling, written, store, List.take, List.foldl, harrive] <;> grind

/-- `enableCounter1` sets the bits 4 to 6 of the control register and no other. -/
theorem testBit_or_enableCounter1 (old : UInt64) (i : Nat) :
    (old ||| enableCounter1).toNat.testBit i = (old.toNat.testBit i || decide (4 ≤ i ∧ i ≤ 6)) := by
  have hbits : enableCounter1.toNat = (2 ^ 3 - 1) <<< 4 := rfl
  rw [UInt64.toNat_or, Nat.testBit_or, hbits, Nat.testBit_shiftLeft, Nat.testBit_two_pow_sub_one]
  congr 1
  rw [← Bool.decide_and]
  exact decide_eq_decide.2 (by omega)

end Machine

namespace CoreCounters

open Hardware Machine

variable {s : Machine} {turn : Nat → Nat}

/-- Opening the counters is asking the processor, opening the device and enabling. -/
theorem ofCore_apply (core : Nat) (s : Machine) (lines : Array String) :
    (ofCore Machine.hardware core).run ⟨s, lines⟩ = (do
      let width ← ExceptT.mk (pure (counterWidth s.info))
      hardware.openCore core
      enable
      pure (⟨core, counterMask width⟩ : CoreCounters) :
        Answer (StateM (Logged Machine)) CoreCounters).run ⟨s, lines.push "cpuid 0xa"⟩ := by
  simp only [ofCore, enable, enabling, writeEach_cons, writeEach_nil, bind_assoc, pure_bind]
  rfl

/-- If the processor does not suit, there are no counters, and nothing is done but to ask it. -/
theorem ofCore_of_not_suits (h : ¬ Suits s.info) (core : Nat) (lines : Array String) :
    ∃ reason, (ofCore Machine.hardware core).run ⟨s, lines⟩ =
      (.error (.unavailable "msr" reason), ⟨s, lines.push "cpuid 0xa"⟩) := by
  obtain ⟨reason, hr⟩ := counterWidth_of_not_suits h
  refine ⟨reason, ?_⟩
  rw [ofCore_apply, hr]
  exact bind_of_error rfl

/-- If the processor suits, what is left is to open the device and to enable. -/
theorem ofCore_of_suits (h : Suits s.info) (core : Nat) (lines : Array String) :
    (ofCore Machine.hardware core).run ⟨s, lines⟩ = (do
      hardware.openCore core
      enable
      pure (⟨core, counterMask (s.info.edx.toNat / 32 % 256)⟩ : CoreCounters) :
        Answer (StateM (Logged Machine)) CoreCounters).run ⟨s, lines.push "cpuid 0xa"⟩ := by
  rw [ofCore_apply, counterWidth_of_suits h]
  exact bind_of_ok rfl

/-- If no device can be opened, its error `e` is given out and nothing is read or written. -/
theorem ofCore_of_not_opened {core : Nat} {e : SystemError} (h : Suits s.info)
    (hopened : s.opened core = .error e) (lines : Array String) :
    (ofCore Machine.hardware core).run ⟨s, lines⟩ = (.error (.io "open msr device" e.text),
      ⟨s, lines.push "cpuid 0xa" ++ (s.openLines core).toArray⟩) := by
  have hopen := openCore_apply s core (lines.push "cpuid 0xa")
  rw [hopened] at hopen
  rw [ofCore_of_suits h]
  exact bind_of_error hopen

/-- If a device can be opened, what is left is to enable. -/
theorem ofCore_of_opened {core : Nat} (h : Suits s.info) (hopened : s.opened core = .ok ())
    (lines : Array String) :
    (ofCore Machine.hardware core).run ⟨s, lines⟩ = (do
      enable
      pure (⟨core, counterMask (s.info.edx.toNat / 32 % 256)⟩ : CoreCounters) :
        Answer (StateM (Logged Machine)) CoreCounters).run
          ⟨s, lines.push "cpuid 0xa" ++ (s.openLines core).toArray⟩ := by
  have hopen := openCore_apply s core (lines.push "cpuid 0xa")
  rw [hopened] at hopen
  rw [ofCore_of_suits h]
  exact bind_of_ok hopen

/-- If the five steps of enabling do well, there are counters of the width that the processor
announces. -/
theorem ofCore_of_none {core : Nat} (h : Suits s.info) (hopened : s.opened core = .ok ())
    (hturn : Turns s.faultAt s.accesses turn) (hnone : ∀ j < 5, s.faultAt (turn j) = none)
    (lines : Array String) : (ofCore Machine.hardware core).run ⟨s, lines⟩ =
      (.ok ⟨core, counterMask (s.info.edx.toNat / 32 % 256)⟩,
        ⟨(s.enabled 5).numbered (turn 4 + 1),
          lines.push "cpuid 0xa" ++ (s.openLines core).toArray ++
          (attempts s.accesses turn s.enableLines).toArray⟩) := by
  rw [ofCore_of_opened h hopened]
  exact bind_of_ok (enable_of_none hturn hnone _)

/-- If step `j` of enabling is the first one to fail, its error is given out, and the machine is
left as `s.enabled j`. -/
theorem ofCore_of_code {core j : Nat} {k : Int} (h : Suits s.info)
    (hopened : s.opened core = .ok ())
    (hturn : Turns s.faultAt s.accesses turn) (hj : j < 5)
    (hnone : ∀ l < j, s.faultAt (turn l) = none) (hfault : s.faultAt (turn j) = some (.code k))
    (lines : Array String) : (ofCore Machine.hardware core).run ⟨s, lines⟩ =
      (.error (.io (if j = 0 then "msr read" else "msr write") (SystemError.code k).text),
        ⟨(s.enabled j).numbered (turn j + 1),
          lines.push "cpuid 0xa" ++ (s.openLines core).toArray ++
          (attempts s.accesses turn (s.enableLines.take (j + 1))).toArray⟩) := by
  rw [ofCore_of_opened h hopened]
  exact bind_of_error (enable_of_code hturn hj hnone hfault _)

/-- If the processor suits, the error is never `unavailable`. -/
theorem ofCore_ne_unavailable (hs : ∀ f ∈ s.faults, ∃ k, f.2 = .code k) (h : Suits s.info)
    (core : Nat) (lines : Array String) (reason : String) :
    ((ofCore Machine.hardware core).run ⟨s, lines⟩).1 ≠ .error (.unavailable "msr" reason) := by
  cases ho : s.opened core with
  | error e =>
    rw [ofCore_of_not_opened h ho]
    nofun
  | ok =>
    obtain ⟨turn, hturn⟩ := s.exists_turns s.accesses
    rcases hturn.none_or_code hs 5 with hnone | ⟨j, hj, k, -, hnone, hfault⟩
    · rw [ofCore_of_none h ho hturn hnone]
      nofun
    · rw [ofCore_of_code h ho hturn hj hnone hfault]
      nofun

/-- **What opening the counters of a core does.**  A processor that does not suit is the only one
that is said to be of no use, and it is not touched.  If no device can be opened, the error of the
plain one is given out and nothing is read or written.  Otherwise the control register is read and
four registers are written, each access made again as often as it is interrupted.  Either all of
them do well, or one of them fails with another error: then that error is given out, and what was
written before it stays written.  No other register is changed, and of the control register no other
bit. -/
theorem ofCore_effects (s : Machine) (lines : Array String) (core : Nat)
    (hs : ∀ f ∈ s.faults, ∃ k, f.2 = .code k) :
    let run := (ofCore Machine.hardware core).run ⟨s, lines⟩
    let asked := lines.push "cpuid 0xa"
    let tried := asked ++ (s.openLines core).toArray
    ((∃ reason, run.1 = .error (.unavailable "msr" reason)) ↔ ¬ Suits s.info) ∧
    (¬ Suits s.info → run.2 = ⟨s, asked⟩) ∧
    (Suits s.info → ∀ e, s.opened core = .error e →
      run = (.error (.io "open msr device" e.text), ⟨s, tried⟩)) ∧
    (Suits s.info → s.opened core = .ok () → ∃ turn, Turns s.faultAt s.accesses turn ∧
      ((∀ j < 5, s.faultAt (turn j) = none) ∧
        run = (.ok ⟨core, counterMask (s.info.edx.toNat / 32 % 256)⟩,
          ⟨(s.enabled 5).numbered (turn 4 + 1),
            tried ++ (attempts s.accesses turn s.enableLines).toArray⟩) ∨
      ∃ j < 5, ∃ k, k ≠ SystemError.interrupted ∧ (∀ l < j, s.faultAt (turn l) = none) ∧
        s.faultAt (turn j) = some (.code k) ∧
        run = (.error (.io (if j = 0 then "msr read" else "msr write") (SystemError.code k).text),
          ⟨(s.enabled j).numbered (turn j + 1),
            tried ++ (attempts s.accesses turn (s.enableLines.take (j + 1))).toArray⟩))) ∧
    (∀ j ≤ 5, ∀ address, (s.enabled j).registers address =
      if address = controlRegister then
        if 2 ≤ j then s.held controlRegister ||| enableCounter1
        else if j = 1 then s.held controlRegister else s.registers controlRegister
      else if address = cyclesRegister ∧ 3 ≤ j ∨ address = mperfRegister ∧ 4 ≤ j ∨
        address = aperfRegister ∧ 5 ≤ j then 0
      else s.registers address) ∧
    ∀ old : UInt64, ∀ i, (old ||| enableCounter1).toNat.testBit i =
      (old.toNat.testBit i || decide (4 ≤ i ∧ i ≤ 6)) := by
  intro run asked tried
  refine ⟨⟨?only, ?refused⟩, ?untouched, ?closed, ?opened, ?registers, ?bits⟩
  case only =>
    rintro ⟨reason, hr⟩ hsuits
    exact ofCore_ne_unavailable hs hsuits core lines reason hr
  case refused =>
    intro hsuits
    obtain ⟨reason, hrun⟩ := ofCore_of_not_suits hsuits core lines
    exact ⟨reason, congrArg Prod.fst hrun⟩
  case untouched =>
    intro hsuits
    obtain ⟨_, hrun⟩ := ofCore_of_not_suits hsuits core lines
    exact congrArg Prod.snd hrun
  case closed => exact fun hsuits _ ho => ofCore_of_not_opened hsuits ho lines
  case opened =>
    intro hsuits ho
    obtain ⟨turn, hturn⟩ := s.exists_turns s.accesses
    refine ⟨turn, hturn, ?_⟩
    rcases hturn.none_or_code hs 5 with hnone | ⟨j, hj, k, hk, hnone, hfault⟩
    · exact .inl ⟨hnone, ofCore_of_none hsuits ho hturn hnone lines⟩
    · exact .inr ⟨j, hj, k, hk, hnone, hfault,
        ofCore_of_code hsuits ho hturn hj hnone hfault lines⟩
  case registers => exact fun _ => s.registers_enabled
  case bits => exact testBit_or_enableCounter1

/-- Reading the control register and resetting the first counter is interrupted once, and resetting
the second one fails. -/
def failingReset : Machine where
  info := ⟨2, 0x603⟩
  devices path := if path = "/dev/cpu/0/msr" then some (.ok ()) else none
  registers address :=
    if address = controlRegister then 0x1122334455667788
    else if address = mperfRegister then 98 else 7
  faults := [(0, .code 4), (3, .code 4), (5, .code 5)]

theorem turns_failingReset (h : Turns failingReset.faultAt 0 turn) :
    turn 0 = 1 ∧ turn 1 = 2 ∧ turn 2 = 4 ∧ turn 3 = 5 := by
  have hfirst : Decides failingReset.faultAt 0 (turn 0) := h 0
  have hread : turn 0 = 1 := hfirst.unique (.later (by decide) (.here (by decide)))
  have hsecond : Decides failingReset.faultAt (turn 0 + 1) (turn 1) := h 1
  rw [hread] at hsecond
  have hcontrol : turn 1 = 2 := hsecond.unique (.here (by decide))
  have hthird : Decides failingReset.faultAt (turn 1 + 1) (turn 2) := h 2
  rw [hcontrol] at hthird
  have hcycles : turn 2 = 4 := hthird.unique (.later (by decide) (.here (by decide)))
  have hfourth : Decides failingReset.faultAt (turn 2 + 1) (turn 3) := h 3
  rw [hcycles] at hfourth
  exact ⟨hread, hcontrol, hcycles, hfourth.unique (.here (by decide))⟩

/-- Of `failingReset` the control register is enabled and the cycle counter is reset; the two others
keep what they held. -/
theorem ofCore_effects_of_failingReset :
    let run := (ofCore Machine.hardware 0).run ⟨failingReset, #[]⟩
    (∀ f ∈ failingReset.faults, ∃ k, f.2 = .code k) ∧
    run.1 = .error (.io "msr write" "Input/output error (os error 5)") ∧
    run.2.lines = #["cpuid 0xa", "open /dev/cpu/0/rmsr read=true write=true",
      "open /dev/cpu/0/msr read=true write=true", "read 0x38d", "read 0x38d",
      "write 0x38d 0x11223344556677f8", "write 0x30a 0x0", "write 0x30a 0x0", "write 0xe7 0x0"] ∧
    [controlRegister, cyclesRegister, mperfRegister, aperfRegister].map run.2.state.registers =
      [0x11223344556677f8, 0, 98, 7] := by
  intro run
  have hs : ∀ f ∈ failingReset.faults, ∃ k, f.2 = .code k := by
    intro f hf
    simp only [failingReset, List.mem_cons, List.not_mem_nil, or_false] at hf
    rcases hf with rfl | rfl | rfl <;> exact ⟨_, rfl⟩
  obtain ⟨-, -, -, hopened, -, -⟩ := ofCore_effects failingReset #[] 0 hs
  -- The accesses 0 and 3 are interrupted, so the steps are decided by 1, 2, 4 and 5.
  obtain ⟨turn, hturn, hruns⟩ := hopened (by decide) (by decide +kernel)
  obtain ⟨hread, hcontrol, hcycles, hmperf⟩ := turns_failingReset hturn
  have hwell : ∀ j < 3, failingReset.faultAt (turn j) = none := by
    intro j hj
    interval_cases j
    · rw [hread]; decide
    · rw [hcontrol]; decide
    · rw [hcycles]; decide
  have hfails : failingReset.faultAt (turn 3) = some (.code 5) := by
    rw [hmperf]
    decide
  -- The first step to fail is the fourth one: before it all did well, and it fails itself.
  rcases hruns with ⟨hnone, -⟩ | ⟨j, hj, k, -, hnone, hfault, hrun⟩
  · rw [hnone 3 (by decide)] at hfails
    cases hfails
  rcases Nat.lt_trichotomy j 3 with hlt | rfl | hgt
  · rw [hwell j hlt] at hfault
    cases hfault
  · rw [hfails] at hfault
    cases hfault
    have hlines : attempts 0 turn (failingReset.enableLines.take 4) =
        ["read 0x38d", "read 0x38d", "write 0x38d 0x11223344556677f8", "write 0x30a 0x0",
          "write 0x30a 0x0", "write 0xe7 0x0"] := by
      simp only [enableLines, writeLines, enabling, List.map, List.take, attempts, hread, hcontrol,
        hcycles, hmperf, Nat.reduceAdd, Nat.reduceSub]
      decide +kernel
    have hregisters : [controlRegister, cyclesRegister, mperfRegister, aperfRegister].map
        (failingReset.enabled 3).registers = [0x11223344556677f8, 0, 98, 7] := by decide
    have hrun' : run = _ := hrun
    rw [hrun']
    refine ⟨hs, rfl, ?_, hregisters⟩
    show #["cpuid 0xa"] ++ (failingReset.openLines 0).toArray ++
      (attempts 0 turn (failingReset.enableLines.take 4)).toArray = _
    rw [hlines]
    decide +kernel
  · rw [hnone 3 hgt] at hfails
    cases hfails

end CoreCounters

end Stopwatch
