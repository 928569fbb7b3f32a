import Stopwatch.Hardware
import Stopwatch.Part

/-!
# Machines of known behaviour

A `Machine` says beforehand what each part of the hardware will answer: the coming values of the
clock and the time-stamp counter, the registers of the device, and which accesses of the device fail
or fall short.  `Machine.hardware` is the hardware that behaves so; everything that is asked of it
is logged.

A register is read and written octet by octet, the least significant one first; `ofOctets` reads
back what `toOctets` writes, up to the octets that are there (`ofOctets_toOctets`).  An access that
falls short is continued with the octets that are left, at the address that many further on, and an
interrupted access is made again.  Either way less remains, octets or scripted faults, so every
transfer ends.
-/

namespace Stopwatch

/-! ### Octets of a number -/

/-- The `w` lowest octets of a number, the least significant one first. -/
def toOctets : Nat → Nat → List UInt8
  | 0, _ => []
  | w + 1, n => UInt8.ofNat n :: toOctets w (n / 256)

/-- The number with the given octets. -/
def ofOctets : List UInt8 → Nat
  | [] => 0
  | b :: bs => b.toNat + 256 * ofOctets bs

theorem length_toOctets (w n : Nat) : (toOctets w n).length = w := by
  induction w generalizing n with
  | zero => rfl
  | succ w ih => simp [toOctets, ih]

theorem ofOctets_toOctets (w n : Nat) : ofOctets (toOctets w n) = n % Nat.pow 256 w := by
  induction w generalizing n with
  | zero => exact (Nat.mod_one n).symm
  | succ w ih =>
    rw [toOctets, ofOctets, ih, UInt8.toNat_ofNat']
    show n % 256 + 256 * (n / 256 % Nat.pow 256 w) = n % (Nat.pow 256 w * 256)
    rw [Nat.mul_comm (Nat.pow 256 w), Nat.mod_mul]

/-- A number as messages show addresses and register contents. -/
def hexadecimal (n : Nat) : String := "0x" ++ String.ofList (Nat.toDigits 16 n)

/-! ### Machines -/

/-- What goes wrong with one access of the device. -/
inductive AccessFault
  /-- The access fails; nothing is transferred. -/
  | code (number : Int)
  /-- Only so many octets are transferred. -/
  | short (octets : Nat)
  deriving DecidableEq, Repr

/-- A machine whose answers are known. -/
structure Machine where
  core : Except SystemError Nat := .ok 0
  info : CounterInfo := ⟨0, 0⟩
  /-- The devices that there are; the others do not exist. -/
  devices : String → Option (Except SystemError Unit) := fun _ => none
  registers : UInt64 → UInt64 := fun _ => 0
  /-- What registers will hold when they are read next. -/
  coming : UInt64 → List UInt64 := fun _ => []
  /-- The accesses that go wrong, by their number. -/
  faults : List (Nat × AccessFault) := []
  /-- How many accesses there have been. -/
  accesses : Nat := 0
  /-- The coming clock values; zero when there are no more. -/
  clock : List (Except SystemError (Int × Int)) := []
  /-- The coming values of the time-stamp counter; zero when there are no more. -/
  timestamps : List UInt64 := []

namespace Machine

/-- What goes wrong with the next access. -/
def fault? (s : Machine) : Option AccessFault :=
  (s.faults.find? fun f => f.1 == s.accesses).map (·.2)

/-- How many scripted faults are still ahead. -/
def pending (s : Machine) : Nat := s.faults.countP fun f => decide (s.accesses ≤ f.1)

/-- The machine after an access. -/
def counted (s : Machine) : Machine := { s with accesses := s.accesses + 1 }

/-- The machine with a register changed. -/
def store (s : Machine) (address value : UInt64) : Machine :=
  { s with registers := fun a => if a = address then value else s.registers a }

/-- The machine with a register set to what it will hold when it is read next. -/
def arrive (s : Machine) (address : UInt64) : Machine :=
  match s.coming address with
  | [] => s
  | v :: rest =>
    { s.store address v with coming := fun a => if a = address then rest else s.coming a }

/-- Counting an access puts no fault ahead. -/
theorem countP_succ_le (faults : List (Nat × AccessFault)) (n : Nat) :
    faults.countP (fun f => decide (n + 1 ≤ f.1)) ≤ faults.countP (fun f => decide (n ≤ f.1)) := by
  refine List.countP_mono_left fun f _ h => ?_
  have h : n + 1 ≤ f.1 := of_decide_eq_true h
  exact decide_eq_true (Nat.le_of_succ_le h)

theorem pending_counted_le (s : Machine) : s.counted.pending ≤ s.pending :=
  countP_succ_le s.faults s.accesses

/-- A fault that has happened is no longer ahead. -/
theorem pending_counted_lt {s : Machine} {f : AccessFault} (h : s.fault? = some f) :
    s.counted.pending < s.pending := by
  unfold fault? at h
  obtain ⟨g, hg, -⟩ := Option.map_eq_some_iff.1 h
  have hnow : g.1 = s.accesses := by simpa using List.find?_some hg
  obtain ⟨before, after, hsplit⟩ := List.append_of_mem (List.mem_of_find?_eq_some hg)
  have hb := countP_succ_le before s.accesses
  have ha := countP_succ_le after s.accesses
  have hlater : ¬ s.accesses + 1 ≤ s.accesses := Nat.not_succ_le_self _
  simp only [pending, counted, hsplit, List.countP_append, List.countP_cons, hnow,
    decide_eq_true_eq, hlater, Nat.le_refl, if_true, if_false]
  omega

theorem pending_store (s : Machine) (address value : UInt64) :
    (s.store address value).pending = s.pending := rfl

theorem pending_arrive (s : Machine) (address : UInt64) :
    (s.arrive address).pending = s.pending := by
  unfold arrive
  split <;> rfl

/-! ### Transfers -/

/-- One access for reading at most so many octets. -/
def readOnce (address : UInt64) (octets : Nat) (s : Machine) :
    Except Int (List UInt8) × Machine :=
  match s.fault? with
  | some (.code n) => (.error n, s.counted)
  | some (.short n) =>
    let s := s.counted.arrive address
    (.ok ((toOctets 8 (s.registers address).toNat).take (min n octets)), s)
  | none =>
    let s := s.counted.arrive address
    (.ok ((toOctets 8 (s.registers address).toNat).take octets), s)

/-- A register whose lowest octets are replaced. -/
def overlay (old : UInt64) (octets : List UInt8) : UInt64 :=
  UInt64.ofNat (ofOctets (octets ++ (toOctets 8 old.toNat).drop octets.length))

/-- One access for writing octets; the answer is how many were written. -/
def writeOnce (address : UInt64) (octets : List UInt8) (s : Machine) :
    Except Int Nat × Machine :=
  match s.fault? with
  | some (.code n) => (.error n, s.counted)
  | some (.short n) =>
    let taken := octets.take n
    (.ok taken.length, s.counted.store address (overlay (s.registers address) taken))
  | none =>
    (.ok octets.length, s.counted.store address (overlay (s.registers address) octets))

/-- A read that was interrupted had a fault behind it. -/
theorem pending_readOnce_lt {address : UInt64} {octets : Nat} {n : Int} {s t : Machine}
    (h : s.readOnce address octets = (.error n, t)) : t.pending < s.pending := by
  unfold readOnce at h
  split at h
  next hf => cases h; exact pending_counted_lt hf
  next => cases h
  next => cases h

theorem pending_readOnce_le {address : UInt64} {octets : Nat} {s t : Machine} {bs : List UInt8}
    (h : s.readOnce address octets = (.ok bs, t)) : t.pending ≤ s.pending := by
  unfold readOnce at h
  split at h
  next => cases h
  next => cases h; rw [pending_arrive]; exact pending_counted_le s
  next => cases h; rw [pending_arrive]; exact pending_counted_le s

theorem pending_writeOnce_lt {address : UInt64} {octets : List UInt8} {n : Int} {s t : Machine}
    (h : s.writeOnce address octets = (.error n, t)) : t.pending < s.pending := by
  unfold writeOnce at h
  split at h
  next hf => cases h; exact pending_counted_lt hf
  next => cases h
  next => cases h

theorem pending_writeOnce_le {address : UInt64} {octets : List UInt8} {n : Nat} {s t : Machine}
    (h : s.writeOnce address octets = (.ok n, t)) : t.pending ≤ s.pending := by
  unfold writeOnce at h
  split at h
  next => cases h
  next => cases h; rw [pending_store]; exact pending_counted_le s
  next => cases h; rw [pending_store]; exact pending_counted_le s

/-- Read so many octets, in as many accesses as it takes. -/
def readAll (address : UInt64) (octets : Nat) (s : Logged Machine) :
    Except SystemError (List UInt8) × Logged Machine :=
  if octets = 0 then (.ok [], s)
  else
    let lines := s.lines.push ("read " ++ hexadecimal address.toNat)
    match _ : s.state.readOnce address octets with
    | (.error n, t) =>
      if n = SystemError.interrupted then readAll address octets ⟨t, lines⟩
      else (.error (.code n), ⟨t, lines⟩)
    | (.ok [], t) => (.error .shortRead, ⟨t, lines⟩)
    | (.ok (b :: bs), t) =>
      let n := bs.length + 1
      let (rest, u) := readAll (address + UInt64.ofNat n) (octets - n) ⟨t, lines⟩
      (rest.map (b :: bs ++ ·), u)
termination_by octets + s.state.pending
decreasing_by
  · have := pending_readOnce_lt ‹s.state.readOnce _ _ = _›; simp; omega
  · have := pending_readOnce_le ‹s.state.readOnce _ _ = _›; simp; omega

/-- Write octets, in as many accesses as it takes. -/
def writeAll (address : UInt64) (octets : List UInt8) (s : Logged Machine) :
    Except SystemError Unit × Logged Machine :=
  if octets = [] then (.ok (), s)
  else
    let lines := s.lines.push
      ("write " ++ hexadecimal address.toNat ++ " " ++ hexadecimal (ofOctets octets))
    match h : s.state.writeOnce address octets with
    | (.error n, t) =>
      if n = SystemError.interrupted then writeAll address octets ⟨t, lines⟩
      else (.error (.code n), ⟨t, lines⟩)
    | (.ok 0, t) => (.error .shortWrite, ⟨t, lines⟩)
    | (.ok (n + 1), t) =>
      writeAll (address + UInt64.ofNat (n + 1)) (octets.drop (n + 1)) ⟨t, lines⟩
termination_by octets.length + s.state.pending
decreasing_by
  · have := pending_writeOnce_lt h; simp; omega
  · have := pending_writeOnce_le h
    have : octets.length ≠ 0 := by simpa using ‹¬ octets = []›
    simp; omega

/-- Read a whole register. -/
def read (address : UInt64) : StateM (Logged Machine) (Except SystemError UInt64) := fun s =>
  match readAll address 8 s with
  | (.ok octets, t) => (.ok (UInt64.ofNat (ofOctets octets)), t)
  | (.error e, t) => (.error e, t)

/-- Write a whole register. -/
def write (address value : UInt64) : StateM (Logged Machine) (Except SystemError Unit) :=
  writeAll address (toOctets 8 value.toNat)

/-! ### The hardware -/

/-- Log a line, then answer. -/
def answer {α : Type} (line : String) (a : StateM Machine α) : StateM (Logged Machine) α := do
  Logged.note line
  Logged.inner.run a

/-- The hardware that behaves as scripted. -/
def hardware : Hardware (StateM (Logged Machine)) where
  clock := answer "clock_gettime 4" fun s =>
    match s.clock with
    | [] => (.ok (0, 0), s)
    | v :: rest => (v, { s with clock := rest })
  timestamp := .ok <| answer "rdtscp" fun s =>
    match s.timestamps with
    | [] => (0, s)
    | v :: rest => (v, { s with timestamps := rest })
  currentCore := answer "sched_getcpu" fun s => (s.core, s)
  counterInfo := answer "cpuid 0xa" fun s => (s.info, s)
  openDevice path := answer s!"open {path} read=true write=true" fun s =>
    ((s.devices path).getD (.error (.code 2)), s)
  read := read
  write := write

end Machine

end Stopwatch
