import Stopwatch.Hardware.Machine
import Stopwatch.Proofs.Relation

/-!
# Transfers with the device of a core

Accesses of the device are numbered, and a script says which of them go wrong.  One that is
interrupted is made again, so of the accesses for one transfer the first that is not interrupted
decides (`Machine.Decides`), and there always is one.  What comes before it leaves nothing but lines
in the log (`Machine.Decides.skip`).

What is left are equations for the access that decides.  A register is read whole or written whole
by an access that does not go wrong (`Machine.read_of_whole`, `Machine.write_of_none`), and an
access that fails ends the transfer with its error and leaves every register as it was
(`Machine.read_of_code`, `Machine.write_of_code`).
-/

namespace Stopwatch

/-- `ask call a` answers what the system answers, and names the call in the error. -/
theorem Hardware.ask_apply {σ α : Type} (call : String) (a : StateM σ (Except SystemError α))
    (s : σ) :
    (Hardware.ask call a).run s = ((a s).1.mapError fun e => .io call e.text, (a s).2) := by
  refine (bind_of_answer rfl).trans ?_
  cases (a s).1 <;> rfl

namespace Machine

/-! ### The access that decides -/

/-- What goes wrong with the access of a number. -/
def faultAt (s : Machine) (i : Nat) : Option AccessFault :=
  (s.faults.find? fun f => f.1 == i).map (·.2)

/-- Access `p` decides what comes of access `i`: those from `i` up to `p` are interrupted, and `p`
is not. -/
structure Decides (fault : Nat → Option AccessFault) (i p : Nat) : Prop where
  le : i ≤ p
  interrupted : ∀ q, i ≤ q → q < p → fault q = some (.code SystemError.interrupted)
  decided : fault p ≠ some (.code SystemError.interrupted)

/-- The machine when it comes to the access of a number. -/
def numbered (s : Machine) (i : Nat) : Machine := { s with accesses := i }

variable {s : Machine} {fault : Nat → Option AccessFault} {address : UInt64} {i p : Nat}
  {lines : Array String}

theorem mem_of_faultAt {f : AccessFault} {p : Nat} (h : s.faultAt p = some f) :
    (p, f) ∈ s.faults := by
  obtain ⟨g, hg, rfl⟩ := Option.map_eq_some_iff.1 h
  obtain rfl : g.1 = p := by simpa using List.find?_some hg
  exact List.mem_of_find?_eq_some hg

/-- If all faults of the script are codes, so is the fault of any access. -/
theorem exists_code_of_faultAt {f : AccessFault} {p : Nat} (hs : ∀ f ∈ s.faults, ∃ k, f.2 = .code k)
    (h : s.faultAt p = some f) : ∃ k, f = .code k :=
  hs (p, f) (mem_of_faultAt h)

theorem faultAt_arrive (s : Machine) (address : UInt64) :
    (s.arrive address).faultAt = s.faultAt := by
  unfold arrive
  split <;> rfl

/-- An access that is not interrupted decides what comes of it. -/
theorem Decides.here (h : fault i ≠ some (.code SystemError.interrupted)) : Decides fault i i :=
  ⟨Nat.le_refl i, fun _ hiq hqi => absurd hqi (Nat.not_lt.2 hiq), h⟩

/-- What decides behind an interrupted access decides for this one as well. -/
theorem Decides.later (h : fault i = some (.code SystemError.interrupted))
    (hp : Decides fault (i + 1) p) : Decides fault i p := by
  refine ⟨Nat.le_of_succ_le hp.le, fun q hiq hqp => ?_, hp.decided⟩
  rcases Nat.eq_or_lt_of_le hiq with rfl | hlt
  · exact h
  · exact hp.interrupted q hlt hqp

/-- **There is always an access that decides**, since a script has an end. -/
theorem exists_decides (s : Machine) (i : Nat) : ∃ p, Decides s.faultAt i p := by
  -- An interrupted access uses up a fault, so the induction is on the faults that are left.
  induction hn : (s.numbered i).pending using Nat.strongRecOn generalizing i with
  | ind n ih =>
    by_cases h : s.faultAt i = some (.code SystemError.interrupted)
    · have hlt : (s.numbered (i + 1)).pending < n := hn ▸ pending_counted_lt (s := s.numbered i) h
      obtain ⟨p, hp⟩ := ih _ hlt (i + 1) rfl
      exact ⟨p, .later h hp⟩
    · exact ⟨i, .here h⟩

theorem Decides.unique {p' : Nat} (h : Decides fault i p) (h' : Decides fault i p') : p = p' := by
  rcases Nat.lt_trichotomy p p' with hlt | heq | hlt
  · exact absurd (h'.interrupted p h.le hlt) h.decided
  · exact heq
  · exact absurd (h.interrupted p' h'.le hlt) h'.decided

theorem Decides.succ (h : Decides fault i p) (hlt : i < p) : Decides fault (i + 1) p where
  le := hlt
  interrupted q hq hqp := h.interrupted q (Nat.le_of_succ_le hq) hqp
  decided := h.decided

/-! ### Registers -/

/-- What a register holds when it is read next. -/
def held (s : Machine) (address : UInt64) : UInt64 := (s.arrive address).registers address

theorem held_eq_headD (s : Machine) (address : UInt64) :
    s.held address = (s.coming address).headD (s.registers address) := by
  unfold held arrive
  split
  next h => rw [h]; rfl
  next h => rw [h]; exact if_pos rfl

/-- What arrives at `address` does not change what another register holds. -/
theorem held_arrive_of_ne {other : UInt64} (h : other ≠ address) :
    (s.arrive address).held other = s.held other := by
  simp only [held_eq_headD]
  unfold arrive
  split
  next => rfl
  next => simp only [store, if_neg h]

theorem arrive_numbered (s : Machine) (i : Nat) (address : UInt64) :
    (s.numbered i).arrive address = (s.arrive address).numbered i := by
  have hcoming : (s.numbered i).coming address = s.coming address := rfl
  unfold arrive
  rw [hcoming]
  cases s.coming address <;> rfl

/-- The eight octets of a register are read back as its value. -/
theorem ofOctets_toOctets_eight (value : UInt64) :
    ofOctets (toOctets 8 value.toNat) = value.toNat := by
  rw [ofOctets_toOctets]
  exact Nat.mod_eq_of_lt value.toNat_lt

/-- Eight octets written over a register replace all of it. -/
theorem overlay_toOctets (old value : UInt64) : overlay old (toOctets 8 value.toNat) = value := by
  have hdrop : (toOctets 8 old.toNat).drop 8 = [] :=
    List.drop_eq_nil_of_le (Nat.le_of_eq (length_toOctets 8 old.toNat))
  rw [overlay, length_toOctets, hdrop, List.append_nil, ofOctets_toOctets_eight, UInt64.ofNat_toNat]

/-! ### Lines of the log -/

/-- The lines with `n` more behind them, each of which is `line`. -/
def repeated (lines : Array String) (n : Nat) (line : String) : Array String :=
  lines ++ (List.replicate n line).toArray

theorem repeated_push (lines : Array String) (n : Nat) (line : String) :
    repeated (lines.push line) n line = repeated lines (n + 1) line := by
  refine Array.ext' ?_
  simp only [repeated, Array.toList_append, Array.toList_push, List.replicate_succ,
    List.append_assoc, List.singleton_append]

/-- **Interrupted accesses leave nothing but lines**: if `f` goes from an interrupted access on to
the next one with one line more, then it goes from `i` to the access `p` that decides with `p - i`
lines more. -/
theorem Decides.skip {β : Type} {f : Nat → Array String → β} {line : String}
    (hp : Decides fault i p) (hf : ∀ j lines, fault j = some (.code SystemError.interrupted) →
      f j lines = f (j + 1) (lines.push line)) (lines : Array String) :
    f i lines = f p (repeated lines (p - i) line) := by
  obtain ⟨k, rfl⟩ := Nat.exists_eq_add_of_le hp.le
  -- On the number of interrupted accesses.
  induction k generalizing i lines with
  | zero => rw [Nat.add_zero, Nat.sub_self, repeated, List.replicate_zero, Array.append_empty]
  | succ k ih =>
    have hform : i + (k + 1) = i + 1 + k := by omega
    have hcount : i + 1 + k - i = i + 1 + k - (i + 1) + 1 := by omega
    rw [hf i lines (hp.interrupted i (Nat.le_refl i) (by omega)), hform,
      ih (lines.push line) (hform ▸ hp.succ (by omega)), repeated_push, hcount]

/-- With the line of the access `p` that decides there are `p + 1 - i` lines. -/
theorem Decides.push_repeated (hp : Decides fault i p) (lines : Array String) (line : String) :
    (repeated lines (p - i) line).push line = repeated lines (p + 1 - i) line := by
  refine Array.ext' ?_
  rw [Nat.sub_add_comm hp.le]
  simp only [repeated, Array.toList_append, Array.toList_push, List.replicate_succ',
    List.append_assoc]

/-! ### Reading -/

/-- How an access for reading is logged. -/
def readLine (address : UInt64) : String := "read " ++ hexadecimal address.toNat

theorem readAll_zero (s : Logged Machine) : readAll address 0 s = (.ok [], s) := by
  rw [readAll, if_pos rfl]

/-- `readAll` by its first access: it is made again if it was interrupted, it ends the reading if it
fails or transfers nothing, and else reading goes on behind the octets that it transferred. -/
theorem readAll_step {n : Nat} (hn : n ≠ 0) (s : Machine) (lines : Array String) :
    readAll address n ⟨s, lines⟩ = match s.readOnce address n with
      | (.error k, t) =>
        if k = SystemError.interrupted then readAll address n ⟨t, lines.push (readLine address)⟩
        else (.error (.code k), ⟨t, lines.push (readLine address)⟩)
      | (.ok [], t) => (.error .shortRead, ⟨t, lines.push (readLine address)⟩)
      | (.ok (b :: bs), t) =>
        let next := readAll (address + UInt64.ofNat (bs.length + 1)) (n - (bs.length + 1))
          ⟨t, lines.push (readLine address)⟩
        (next.1.map (b :: bs ++ ·), next.2) := by
  rw [readAll, if_neg hn]
  split
  next h => rw [h]; rfl
  next h => rw [h]; rfl
  next h => rw [h]; rfl

theorem readAll_skip {n : Nat} (hn : n ≠ 0) (hp : Decides s.faultAt i p) (lines : Array String) :
    readAll address n ⟨s.numbered i, lines⟩ =
      readAll address n ⟨s.numbered p, repeated lines (p - i) (readLine address)⟩ := by
  refine hp.skip (f := fun j lines => readAll address n ⟨s.numbered j, lines⟩) (fun j lines h => ?_)
    lines
  have hfault : (s.numbered j).fault? = some (.code SystemError.interrupted) := h
  have honce : (s.numbered j).readOnce address n =
      (.error SystemError.interrupted, s.numbered (j + 1)) := by
    rw [readOnce, hfault]
    rfl
  rw [readAll_step hn, honce]
  exact if_pos rfl

/-- How many of `n` octets an access transfers; an access that fails transfers nothing. -/
def transferred? (n : Nat) : Option AccessFault → Option Nat
  | none => some n
  | some (.short k) => some (min k n)
  | some (.code _) => none

/-- An access that transfers `k` octets reads the `k` lowest octets of what the register holds. -/
theorem readOnce_of_transferred {n k : Nat}
    (h : transferred? n (s.faultAt p) = some k) :
    (s.numbered p).readOnce address n =
      (.ok ((toOctets 8 (s.held address).toNat).take k), (s.arrive address).numbered (p + 1)) := by
  have harrive : (s.numbered p).counted.arrive address = (s.arrive address).numbered (p + 1) :=
    arrive_numbered s (p + 1) address
  have hfault : (s.numbered p).fault? = s.faultAt p := rfl
  unfold readOnce
  rw [hfault]
  cases hf : s.faultAt p with
  | none =>
    rw [hf] at h
    obtain rfl := Option.some.inj h
    dsimp only
    rw [harrive]
    rfl
  | some f =>
    rw [hf] at h
    cases f with
    | code n => cases h
    | short m =>
      obtain rfl := Option.some.inj h
      dsimp only
      rw [harrive]
      rfl

/-- `readAll` behind an access that transfers some octets: these stand in front of what is read from
the address that many further on. -/
theorem readAll_of_octets {n : Nat} {t : Machine} {octets : List UInt8}
    (h : s.readOnce address n = (.ok octets, t)) (hpos : 0 < octets.length) (hn : n ≠ 0) :
    readAll address n ⟨s, lines⟩ =
      ((readAll (address + UInt64.ofNat octets.length) (n - octets.length)
          ⟨t, lines.push (readLine address)⟩).1.map (octets ++ ·),
        (readAll (address + UInt64.ofNat octets.length) (n - octets.length)
          ⟨t, lines.push (readLine address)⟩).2) := by
  rw [readAll_step hn, h]
  cases octets with
  | nil => exact absurd hpos (Nat.lt_irrefl 0)
  | cons b bs => rfl

theorem length_take_toOctets {k : Nat} (hk : k ≤ 8) (n : Nat) :
    ((toOctets 8 n).take k).length = k := by
  rw [List.length_take, length_toOctets, Nat.min_eq_left hk]

/-- **Where the access that decides transfers all eight octets**, the register is read as it is. -/
theorem read_of_whole (hp : Decides s.faultAt i p) (h : transferred? 8 (s.faultAt p) = some 8) :
    read address ⟨s.numbered i, lines⟩ = (.ok (s.held address),
      ⟨(s.arrive address).numbered (p + 1), repeated lines (p + 1 - i) (readLine address)⟩) := by
  have hlen := length_take_toOctets (Nat.le_refl 8) (s.held address).toNat
  have hall : (toOctets 8 (s.held address).toNat).take 8 = toOctets 8 (s.held address).toNat :=
    List.take_of_length_le (Nat.le_of_eq (length_toOctets 8 _))
  unfold read
  rw [readAll_skip (by decide) hp,
    readAll_of_octets (readOnce_of_transferred h) (by omega) (by decide), hlen, Nat.sub_self,
    readAll_zero, hp.push_repeated, hall]
  simp only [Except.map, List.append_nil, ofOctets_toOctets_eight, UInt64.ofNat_toNat]

/-- **Where the access that decides fails**, reading ends with its error. -/
theorem readAll_of_code {n : Nat} {k : Int} (hn : n ≠ 0) (hp : Decides s.faultAt i p)
    (h : s.faultAt p = some (.code k)) :
    readAll address n ⟨s.numbered i, lines⟩ = (.error (.code k),
      ⟨s.numbered (p + 1), repeated lines (p + 1 - i) (readLine address)⟩) := by
  have hfault : (s.numbered p).fault? = some (.code k) := h
  have honce : (s.numbered p).readOnce address n = (.error k, s.numbered (p + 1)) := by
    rw [readOnce, hfault]
    rfl
  -- It is not the interruption, since it decides.
  have hk : k ≠ SystemError.interrupted := by
    rintro rfl
    exact hp.decided h
  rw [readAll_skip hn hp, readAll_step hn, honce, ← hp.push_repeated]
  exact if_neg hk

theorem read_of_code {k : Int} (hp : Decides s.faultAt i p) (h : s.faultAt p = some (.code k)) :
    read address ⟨s.numbered i, lines⟩ = (.error (.code k),
      ⟨s.numbered (p + 1), repeated lines (p + 1 - i) (readLine address)⟩) := by
  rw [read, readAll_of_code (by decide) hp h]

/-! ### Writing -/

/-- How an access for writing a whole register is logged. -/
def writeLine (address value : UInt64) : String :=
  "write " ++ hexadecimal address.toNat ++ " " ++ hexadecimal value.toNat

/-- `write` by its first access, as `readAll_step` for reading. -/
theorem write_step (address value : UInt64) (s : Machine) (lines : Array String) :
    write address value ⟨s, lines⟩ = match s.writeOnce address (toOctets 8 value.toNat) with
      | (.error k, t) =>
        if k = SystemError.interrupted then
          write address value ⟨t, lines.push (writeLine address value)⟩
        else (.error (.code k), ⟨t, lines.push (writeLine address value)⟩)
      | (.ok 0, t) => (.error .shortWrite, ⟨t, lines.push (writeLine address value)⟩)
      | (.ok (n + 1), t) =>
        writeAll (address + UInt64.ofNat (n + 1)) ((toOctets 8 value.toNat).drop (n + 1))
          ⟨t, lines.push (writeLine address value)⟩ := by
  have hline : "write " ++ hexadecimal address.toNat ++ " " ++
      hexadecimal (ofOctets (toOctets 8 value.toNat)) = writeLine address value := by
    rw [ofOctets_toOctets_eight, writeLine]
  have hne : toOctets 8 value.toNat ≠ [] := nofun
  rw [write, writeAll, if_neg hne, hline]
  split
  next h => rw [h]
  next h => rw [h]
  next h => rw [h]

theorem write_skip {value : UInt64} (hp : Decides s.faultAt i p) (lines : Array String) :
    write address value ⟨s.numbered i, lines⟩ = write address value
      ⟨s.numbered p, repeated lines (p - i) (writeLine address value)⟩ := by
  refine hp.skip (f := fun j lines => write address value ⟨s.numbered j, lines⟩)
    (fun j lines h => ?_) lines
  have hfault : (s.numbered j).fault? = some (.code SystemError.interrupted) := h
  have honce : (s.numbered j).writeOnce address (toOctets 8 value.toNat) =
      (.error SystemError.interrupted, s.numbered (j + 1)) := by
    rw [writeOnce, hfault]
    rfl
  rw [write_step, honce]
  exact if_pos rfl

/-- **Where nothing goes wrong with the access that decides**, the register is stored whole. -/
theorem write_of_none {value : UInt64} (hp : Decides s.faultAt i p) (h : s.faultAt p = none) :
    write address value ⟨s.numbered i, lines⟩ = (.ok (),
      ⟨(s.store address value).numbered (p + 1),
        repeated lines (p + 1 - i) (writeLine address value)⟩) := by
  have hfault : (s.numbered p).fault? = none := h
  have honce : (s.numbered p).writeOnce address (toOctets 8 value.toNat) =
      (.ok (7 + 1), (s.store address value).numbered (p + 1)) := by
    rw [writeOnce, hfault]
    dsimp only
    rw [length_toOctets, overlay_toOctets]
    rfl
  have hdrop : (toOctets 8 value.toNat).drop (7 + 1) = [] :=
    List.drop_eq_nil_of_le (Nat.le_of_eq (length_toOctets 8 value.toNat))
  rw [write_skip hp, write_step, honce, ← hp.push_repeated]
  dsimp only
  rw [hdrop, writeAll, if_pos rfl]

/-- **If the access that decides fails**, writing ends with its error and changes no register. -/
theorem write_of_code {value : UInt64} {k : Int} (hp : Decides s.faultAt i p)
    (h : s.faultAt p = some (.code k)) :
    write address value ⟨s.numbered i, lines⟩ = (.error (.code k),
      ⟨s.numbered (p + 1), repeated lines (p + 1 - i) (writeLine address value)⟩) := by
  have hfault : (s.numbered p).fault? = some (.code k) := h
  have honce : (s.numbered p).writeOnce address (toOctets 8 value.toNat) =
      (.error k, s.numbered (p + 1)) := by
    rw [writeOnce, hfault]
    rfl
  have hk : k ≠ SystemError.interrupted := by
    rintro rfl
    exact hp.decided h
  rw [write_skip hp, write_step, honce, ← hp.push_repeated]
  exact if_neg hk

/-! ### Registers of the hardware -/

theorem readRegister_of_none (hp : Decides s.faultAt i p) (h : s.faultAt p = none)
    (address : UInt64) (lines : Array String) :
    (hardware.readRegister address).run ⟨s.numbered i, lines⟩ = (.ok (s.held address),
      ⟨(s.arrive address).numbered (p + 1), repeated lines (p + 1 - i) (readLine address)⟩) := by
  have hwhole : transferred? 8 (s.faultAt p) = some 8 := by rw [h]; rfl
  have hrun := Hardware.ask_apply "msr read" (hardware.read address) ⟨s.numbered i, lines⟩
  rwa [show hardware.read address _ = _ from read_of_whole hp hwhole] at hrun

theorem readRegister_of_code {k : Int} (hp : Decides s.faultAt i p)
    (h : s.faultAt p = some (.code k)) (address : UInt64) (lines : Array String) :
    (hardware.readRegister address).run ⟨s.numbered i, lines⟩ =
      (.error (.io "msr read" (SystemError.code k).text),
        ⟨s.numbered (p + 1), repeated lines (p + 1 - i) (readLine address)⟩) := by
  have hrun := Hardware.ask_apply "msr read" (hardware.read address) ⟨s.numbered i, lines⟩
  rwa [show hardware.read address _ = _ from read_of_code hp h] at hrun

theorem writeRegister_of_none (hp : Decides s.faultAt i p) (h : s.faultAt p = none)
    (address value : UInt64) (lines : Array String) :
    (hardware.writeRegister address value).run ⟨s.numbered i, lines⟩ = (.ok (),
      ⟨(s.store address value).numbered (p + 1),
        repeated lines (p + 1 - i) (writeLine address value)⟩) := by
  have hrun := Hardware.ask_apply "msr write" (hardware.write address value) ⟨s.numbered i, lines⟩
  rwa [show hardware.write address value _ = _ from write_of_none hp h] at hrun

theorem writeRegister_of_code {k : Int} (hp : Decides s.faultAt i p)
    (h : s.faultAt p = some (.code k)) (address value : UInt64) (lines : Array String) :
    (hardware.writeRegister address value).run ⟨s.numbered i, lines⟩ =
      (.error (.io "msr write" (SystemError.code k).text),
        ⟨s.numbered (p + 1), repeated lines (p + 1 - i) (writeLine address value)⟩) := by
  have hrun := Hardware.ask_apply "msr write" (hardware.write address value) ⟨s.numbered i, lines⟩
  rwa [show hardware.write address value _ = _ from write_of_code hp h] at hrun

end Machine

end Stopwatch
