import Stopwatch.Proofs.Opening

/-!
# Readings in pieces

An access for reading may transfer fewer octets than are asked for, and then the rest is asked for
at the address so many further on.  The addresses of the device are numbers of registers, so the
rest is taken from another register.

`Machine.Transfers` says of a sequence of accesses which pieces they transfer and how they end, and
something always comes of them (`Machine.exists_transfers`).  What is read is put together from
these pieces (`Machine.readAll_of_transfers`): an induction on the pieces, in which what arrives at
one register does not concern those behind it.  `CoreCounters.readings_in_pieces` says what that
means for the three readings of a core, and `CoreCounters.cycles_of_fallingShort` is a reading that
no register has ever held.
-/

namespace Stopwatch

/-! ### Octets of several numbers -/

theorem take_toOctets {k w : Nat} (h : k ≤ w) (n : Nat) : (toOctets w n).take k = toOctets k n := by
  induction w generalizing k n with
  | zero =>
    obtain rfl := Nat.le_zero.1 h
    rfl
  | succ w ih =>
    cases k with
    | zero => rfl
    | succ k => exact congrArg (_ :: ·) (ih (Nat.le_of_succ_le_succ h) (n / 256))

theorem ofOctets_append (xs ys : List UInt8) :
    ofOctets (xs ++ ys) = ofOctets xs + 256 ^ xs.length * ofOctets ys := by
  induction xs with
  | nil =>
    rw [List.nil_append, ofOctets, List.length_nil, Nat.pow_zero, Nat.zero_add, Nat.one_mul]
  | cons x xs ih =>
    rw [List.cons_append, ofOctets, ofOctets, ih, List.length_cons, Nat.pow_succ, Nat.mul_add,
      Nat.add_assoc, Nat.mul_comm _ 256, Nat.mul_assoc]

theorem ofOctets_lt (xs : List UInt8) : ofOctets xs < 256 ^ xs.length := by
  induction xs with
  | nil => exact Nat.one_pos
  | cons x xs ih =>
    have hx : x.toNat < 256 := x.toNat_lt
    rw [ofOctets, List.length_cons, Nat.pow_succ]
    omega

namespace Machine

variable {s : Machine} {fault : Nat → Option AccessFault} {i n : Nat} {turn : Nat → Nat}
  {ns : List Nat} {e : Option SystemError}

/-! ### Transfers of several pieces -/

theorem le_of_transferred {f : Option AccessFault} {k : Nat} (h : transferred? n f = some k) :
    k ≤ n := by
  match f with
  | none => exact Nat.le_of_eq (Option.some.inj h).symm
  | some (.short m) => exact Option.some.inj h ▸ Nat.min_le_right m n

theorem exists_code_of_transferred {f : Option AccessFault} (h : transferred? n f = none) :
    ∃ k, f = some (.code k) := by
  match f with
  | some (.code k) => exact ⟨k, rfl⟩

/-- What comes of transferring so many octets: the sizes of the pieces that are transferred, one
after the other, and the error that there is if octets are left. -/
inductive Transfers (fault : Nat → Option AccessFault) :
    (Nat → Nat) → Nat → List Nat → Option SystemError → Prop
  | done {turn : Nat → Nat} : Transfers fault turn 0 [] none
  | failed {turn : Nat → Nat} {n : Nat} {k : Int} (left : 0 < n)
      (fails : fault (turn 0) = some (.code k)) : Transfers fault turn n [] (some (.code k))
  | nothing {turn : Nat → Nat} {n : Nat} (left : 0 < n)
      (stops : transferred? n (fault (turn 0)) = some 0) :
      Transfers fault turn n [] (some .shortRead)
  | piece {turn : Nat → Nat} {n k : Nat} {ns : List Nat} {e : Option SystemError} (left : 0 < n)
      (moves : 0 < k) (goes : transferred? n (fault (turn 0)) = some k)
      (rest : Transfers fault (fun j => turn (j + 1)) (n - k) ns e) :
      Transfers fault turn n (k :: ns) e

/-- Something comes of every transfer. -/
theorem exists_transfers (fault : Nat → Option AccessFault) (turn : Nat → Nat) (n : Nat) :
    ∃ ns e, Transfers fault turn n ns e := by
  -- A piece is not empty, so fewer octets are left, while the turns go on by one.
  induction n using Nat.strongRecOn generalizing turn with
  | ind n ih =>
    rcases Nat.eq_zero_or_pos n with rfl | hn
    · exact ⟨_, _, .done⟩
    match h : transferred? n (fault (turn 0)) with
    | none =>
      obtain ⟨k, hk⟩ := exists_code_of_transferred h
      exact ⟨_, _, .failed hn hk⟩
    | some 0 => exact ⟨_, _, .nothing hn h⟩
    | some (k + 1) =>
      obtain ⟨ns, e, hrest⟩ := ih (n - (k + 1)) (by omega) fun j => turn (j + 1)
      exact ⟨_, _, .piece hn (Nat.succ_pos k) h hrest⟩

/-- The pieces `ns` have at most the `n` octets that are asked for. -/
theorem Transfers.sum_le (h : Transfers fault turn n ns e) : ns.sum ≤ n := by
  induction h with
  | done => exact Nat.le_refl 0
  | failed => exact Nat.zero_le _
  | nothing => exact Nat.zero_le _
  | piece _ _ hk _ ih =>
    have hle := le_of_transferred hk
    rw [List.sum_cons]
    omega

/-- Without an error the pieces `ns` have all of the `n` octets. -/
theorem Transfers.sum_eq (h : Transfers fault turn n ns none) : ns.sum = n := by
  -- The end is named, for the induction is on transfers that end in any way.
  generalize he : (none : Option SystemError) = e at h
  induction h with
  | done => rfl
  | failed => cases he
  | nothing => cases he
  | piece _ _ hk _ ih =>
    have hle := le_of_transferred hk
    rw [List.sum_cons, ih he]
    omega

/-- A transfer of no octets has no pieces and no error. -/
theorem Transfers.of_zero (h : Transfers fault turn 0 ns e) : ns = [] ∧ e = none := by
  cases h with
  | done => exact ⟨rfl, rfl⟩
  | failed hleft => exact absurd hleft (Nat.lt_irrefl 0)
  | nothing hleft => exact absurd hleft (Nat.lt_irrefl 0)
  | piece hleft => exact absurd hleft (Nat.lt_irrefl 0)

/-- If the first access transfers `k` octets, then `k` is the first piece and the other pieces are
those of the remaining `n - k`. -/
theorem Transfers.of_some {k : Nat} (h : Transfers fault turn n ns e) (hk : 0 < k)
    (hgoes : transferred? n (fault (turn 0)) = some k) :
    ∃ ks, ns = k :: ks ∧ Transfers fault (fun j => turn (j + 1)) (n - k) ks e := by
  cases h with
  | done => exact absurd (le_of_transferred hgoes) (Nat.not_le_of_lt hk)
  | failed _ hfails =>
    rw [hfails] at hgoes
    cases hgoes
  | nothing _ hstops =>
    obtain rfl := Option.some.inj (hstops.symm.trans hgoes)
    exact absurd hk (Nat.lt_irrefl 0)
  | piece _ _ hgoes' hrest =>
    obtain rfl := Option.some.inj (hgoes'.symm.trans hgoes)
    exact ⟨_, rfl, hrest⟩

/-- If the first access transfers all `n` octets, they are the only piece. -/
theorem Transfers.of_whole (h : Transfers fault turn n ns e) (hn : 0 < n)
    (hgoes : transferred? n (fault (turn 0)) = some n) : ns = [n] ∧ e = none := by
  obtain ⟨ks, rfl, hrest⟩ := h.of_some hn hgoes
  rw [Nat.sub_self] at hrest
  obtain ⟨rfl, rfl⟩ := hrest.of_zero
  exact ⟨rfl, rfl⟩

/-- If the first access transfers nothing, there is no piece, and the error is a short read. -/
theorem Transfers.of_nothing (h : Transfers fault turn n ns e) (hn : 0 < n)
    (hstops : transferred? n (fault (turn 0)) = some 0) : ns = [] ∧ e = some .shortRead := by
  cases h with
  | done => exact absurd hn (Nat.lt_irrefl 0)
  | failed _ hfails =>
    rw [hfails] at hstops
    cases hstops
  | nothing => exact ⟨rfl, rfl⟩
  | piece _ hk hgoes =>
    obtain rfl := Option.some.inj (hgoes.symm.trans hstops)
    exact absurd hk (Nat.lt_irrefl 0)

/-- If the first access fails with the code `k`, there is no piece, and the error is that code. -/
theorem Transfers.of_code {k : Int} (h : Transfers fault turn n ns e) (hn : 0 < n)
    (hfails : fault (turn 0) = some (.code k)) : ns = [] ∧ e = some (.code k) := by
  cases h with
  | done => exact absurd hn (Nat.lt_irrefl 0)
  | failed _ hfails' =>
    rw [hfails] at hfails'
    cases hfails'
    exact ⟨rfl, rfl⟩
  | nothing _ hstops =>
    rw [hfails] at hstops
    cases hstops
  | piece _ _ hgoes =>
    rw [hfails] at hgoes
    cases hgoes

/-! ### What is gathered -/

/-- The octets of pieces.  A piece is the lowest octets of a register, and the next piece is taken
from the register whose address is so many octets further on. -/
def gathered (s : Machine) (address : UInt64) : List Nat → List UInt8
  | [] => []
  | k :: ks => toOctets k (s.held address).toNat ++ s.gathered (address + UInt64.ofNat k) ks

theorem length_gathered (s : Machine) (address : UInt64) (ns : List Nat) :
    (s.gathered address ns).length = ns.sum := by
  induction ns generalizing address with
  | nil => rfl
  | cons k ks ih => rw [gathered, List.length_append, length_toOctets, ih, List.sum_cons]

/-- What arrives at `address` leaves pieces alone that are taken from other registers. -/
theorem gathered_arrive {address other : UInt64}
    (h : ∀ m < ns.sum, other + UInt64.ofNat m ≠ address) :
    (s.arrive address).gathered other ns = s.gathered other ns := by
  induction ns generalizing other with
  | nil => rfl
  | cons k ks ih =>
    rw [List.sum_cons] at h
    have hfirst : toOctets k ((s.arrive address).held other).toNat =
        toOctets k (s.held other).toNat := by
      -- An empty piece takes nothing even from the register of `address`.
      rcases Nat.eq_zero_or_pos k with rfl | hk
      · rfl
      · have hother := h 0 (by omega)
        rw [show other + UInt64.ofNat 0 = other from UInt64.add_zero other] at hother
        rw [held_arrive_of_ne hother]
    have hrest : ∀ m < ks.sum, other + UInt64.ofNat k + UInt64.ofNat m ≠ address := by
      intro m hm
      rw [UInt64.add_assoc, ← UInt64.ofNat_add]
      exact h (k + m) (by omega)
    rw [gathered, gathered, hfirst, ih hrest]

/-- Up to eight addresses behind `address` there are other registers, also where the addresses begin
again at zero. -/
theorem add_ofNat_ne {k : Nat} (address : UInt64) (hpos : 0 < k) (hk : k ≤ 8) :
    address + UInt64.ofNat k ≠ address := by
  have hsmall : k < 2 ^ 64 := by omega
  intro h
  have hzero : UInt64.ofNat k = 0 := UInt64.add_eq_left.1 h
  have hnat := congrArg UInt64.toNat hzero
  rw [UInt64.toNat_ofNat_of_lt' hsmall] at hnat
  exact absurd hnat (Nat.ne_of_gt hpos)

/-- **What is read** in the pieces `ns` are their octets, unless the transfer ends in an error `e`,
which is then the answer. -/
theorem readAll_of_transfers (h : Transfers fault turn n ns e) (hn : n ≤ 8) (hs : s.faultAt = fault)
    (hturn : Turns s.faultAt i turn) (address : UInt64) (lines : Array String) :
    (readAll address n ⟨s.numbered i, lines⟩).1 = e.elim (.ok (s.gathered address ns)) .error := by
  induction h generalizing s i address lines with
  | done => rw [readAll_zero]; rfl
  | failed hleft hfails =>
    subst hs
    rw [readAll_of_code (Nat.ne_of_gt hleft) hturn.first hfails]
    rfl
  | nothing hleft hstops =>
    subst hs
    rw [readAll_skip (Nat.ne_of_gt hleft) hturn.first, readAll_step (Nat.ne_of_gt hleft),
      readOnce_of_transferred hstops]
    rfl
  | @piece turn n k ns e hleft hsome hgoes hrest ih =>
    subst hs
    have hk := le_of_transferred hgoes
    have hsum := hrest.sum_le
    -- The piece is taken from what `address` holds now; the rest is read where more has arrived.
    have hlen := length_take_toOctets (Nat.le_trans hk hn) (s.held address).toNat
    have hnext := ih (s := s.arrive address) (i := turn 0 + 1) (by omega) (faultAt_arrive s address)
      (faultAt_arrive s address ▸ hturn.tail) (address + UInt64.ofNat k)
    have harrive : (s.arrive address).gathered (address + UInt64.ofNat k) ns =
        s.gathered (address + UInt64.ofNat k) ns := by
      refine gathered_arrive fun m hm => ?_
      rw [UInt64.add_assoc, ← UInt64.ofNat_add]
      exact add_ofNat_ne address (by omega) (by omega)
    rw [readAll_skip (Nat.ne_of_gt hleft) hturn.first,
      readAll_of_octets (readOnce_of_transferred hgoes) (by omega) (Nat.ne_of_gt hleft), hlen,
      hnext, harrive, take_toOctets (Nat.le_trans hk hn)]
    cases e <;> rfl

/-- The number that pieces make up. -/
def assembled (s : Machine) (address : UInt64) (ns : List Nat) : UInt64 :=
  UInt64.ofNat (ofOctets (s.gathered address ns))

/-- One piece of eight octets makes up the register itself. -/
theorem assembled_whole (s : Machine) (address : UInt64) :
    s.assembled address [8] = s.held address := by
  rw [assembled, gathered, gathered, List.append_nil, ofOctets_toOctets_eight, UInt64.ofNat_toNat]

/-- **Behind the first piece stand octets of other registers**: of the register at `address` there
are only the lowest `k` octets. -/
theorem toNat_assembled {k : Nat} {ks : List Nat} (h : (k :: ks).sum = 8) (s : Machine)
    (address : UInt64) : (s.assembled address (k :: ks)).toNat =
      (s.held address).toNat % 256 ^ k +
        256 ^ k * ofOctets (s.gathered (address + UInt64.ofNat k) ks) := by
  have hlt := ofOctets_lt (s.gathered address (k :: ks))
  rw [length_gathered, h] at hlt
  rw [assembled, UInt64.toNat_ofNat_of_lt' hlt, gathered, ofOctets_append, length_toOctets,
    ofOctets_toOctets]
  rfl

/-- The answer to a reading whose transfer has the pieces `ns` and ends in `e`. -/
def reading (s : Machine) (address : UInt64) (ns : List Nat) (e : Option SystemError) :
    Except BackendError UInt64 :=
  e.elim (.ok (s.assembled address ns)) fun e => .error (.io "msr read" e.text)

theorem fst_read (address : UInt64) (s : Logged Machine) :
    (read address s).1 =
      (readAll address 8 s).1.map fun octets => UInt64.ofNat (ofOctets octets) := by
  unfold read
  rcases readAll address 8 s with ⟨e | octets, t⟩ <;> rfl

/-- A register is answered as `Machine.reading` puts it together, and `ns` and `e` do not depend on
its address. -/
theorem readRegister_of_transfers (h : Transfers s.faultAt turn 8 ns e)
    (hturn : Turns s.faultAt i turn) (address : UInt64) (lines : Array String) :
    ((hardware.readRegister address).run ⟨s.numbered i, lines⟩).1 = s.reading address ns e := by
  have hread : (hardware.read address ⟨s.numbered i, lines⟩).1 = _ := fst_read address _
  rw [readAll_of_transfers h (Nat.le_refl 8) rfl hturn] at hread
  have hrun : (hardware.readRegister address).run ⟨s.numbered i, lines⟩ = _ :=
    Hardware.ask_apply "msr read" _ _
  rw [hrun, hread]
  cases e <;> rfl

end Machine

namespace CoreCounters

open Hardware Machine

/-- The cycles are what `cyclesRegister` is read as, cut to `c.mask`. -/
theorem cycles_eq_map {σ : Type} (c : CoreCounters) (h : Hardware (StateM σ)) (s : σ) :
    ((c.counters h).cycles.run s).1 =
      ((h.readRegister cyclesRegister).run s).1.map (· &&& c.mask) := by
  have hread : (h.readRegister cyclesRegister).run s = _ := ask_apply "msr read" _ s
  rw [cycles_apply, hread]
  rcases h.read cyclesRegister s with ⟨e | r, t⟩ <;> rfl

/-- **What the readings of a core are made of.**  The access that decides tells which of four cases
it is, and it is the same for every register.  A register that is read at once is answered as it is
held, a failing access is answered with its error, and so is one that transfers nothing.  But an
access that falls short is continued at the register so many octets further on: then the answer has
only its lowest octets from the register that is asked for, and the others are octets of other
registers. -/
theorem readings_in_pieces (c : CoreCounters) (s : Machine) (lines : Array String) :
    ∃ turn ns e, Turns s.faultAt s.accesses turn ∧ Transfers s.faultAt turn 8 ns e ∧
      ((c.counters Machine.hardware).aperf.run ⟨s, lines⟩).1 = s.reading aperfRegister ns e ∧
      ((c.counters Machine.hardware).mperf.run ⟨s, lines⟩).1 = s.reading mperfRegister ns e ∧
      ((c.counters Machine.hardware).cycles.run ⟨s, lines⟩).1 =
        (s.reading cyclesRegister ns e).map (· &&& c.mask) ∧
      ∀ address,
        (transferred? 8 (s.faultAt (turn 0)) = some 8 →
          s.reading address ns e = .ok (s.held address)) ∧
        (∀ k, s.faultAt (turn 0) = some (.code k) →
          s.reading address ns e = .error (.io "msr read" (SystemError.code k).text)) ∧
        (s.faultAt (turn 0) = some (.short 0) →
          s.reading address ns e = .error (.io "msr read" SystemError.shortRead.text)) ∧
        ∀ k, 0 < k → k < 8 → s.faultAt (turn 0) = some (.short k) →
          ∃ ks, ns = k :: ks ∧ ∀ v, s.reading address ns e = .ok v →
            v.toNat = (s.held address).toNat % 256 ^ k +
              256 ^ k * ofOctets (s.gathered (address + UInt64.ofNat k) ks) := by
  obtain ⟨turn, hturn⟩ := s.exists_turns s.accesses
  obtain ⟨ns, e, h⟩ := exists_transfers s.faultAt turn 8
  have hreads := fun address => readRegister_of_transfers h hturn address lines
  have hcycles := cycles_eq_map c Machine.hardware ⟨s, lines⟩
  rw [show ((Machine.hardware.readRegister cyclesRegister).run ⟨s, lines⟩).1 = _ from hreads _]
    at hcycles
  refine ⟨turn, ns, e, hturn, h, hreads _, hreads _, hcycles,
    fun address => ⟨?whole, ?fails, ?nothing, ?short⟩⟩
  case whole =>
    intro hgoes
    obtain ⟨rfl, rfl⟩ := h.of_whole (by decide) hgoes
    exact congrArg Except.ok (s.assembled_whole address)
  case fails =>
    intro k hfails
    obtain ⟨rfl, rfl⟩ := h.of_code (by decide) hfails
    rfl
  -- A transfer of no octets is not continued: the standard library reports it as an error.
  case nothing =>
    intro hshort
    obtain ⟨rfl, rfl⟩ := h.of_nothing (by decide) (by rw [hshort]; rfl)
    rfl
  case short =>
    intro k hpos hk hshort
    have hgoes : transferred? 8 (s.faultAt (turn 0)) = some k := by
      rw [hshort, transferred?, Nat.min_eq_left (Nat.le_of_lt hk)]
    obtain ⟨ks, rfl, -⟩ := h.of_some hpos hgoes
    refine ⟨ks, rfl, fun v hv => ?_⟩
    cases e with
    | some e => cases hv
    | none =>
      cases hv
      exact toNat_assembled h.sum_eq s address

/-- The first access behind the opening falls short after three octets. -/
def fallingShort : Machine where
  info := ⟨2, 0x603⟩
  devices path := if path = "/dev/cpu/0/msr" then some (.ok ()) else none
  registers address := if address = 0x30d then 153 else 0
  coming address := if address = cyclesRegister then [1000000] else []
  faults := [(5, .short 3)]

/-- **A torn reading**: the cycle counter holds a million, and what is read of it is more than two
and a half thousand million. -/
theorem cycles_of_fallingShort :
    let opening := (ofCore Machine.hardware 0).run ⟨fallingShort, #[]⟩
    let c : CoreCounters := ⟨0, counterMask 48⟩
    opening.1 = .ok c ∧ opening.2.state.held cyclesRegister &&& c.mask = 1000000 ∧
      ((c.counters Machine.hardware).cycles.run opening.2).1 = .ok 2567914048 := by
  intro opening c
  have hturn := turns_of_uninterrupted (s := fallingShort) (by decide)
  have hopening : (ofCore Machine.hardware 0).run ⟨fallingShort, #[]⟩ = _ :=
    ofCore_of_none (by decide) (by decide +kernel) (hturn 0) (by decide) #[]
  have hstate : opening.2 = ⟨(fallingShort.enabled 5).numbered 5, opening.2.lines⟩ := by
    simp only [opening, hopening]
  have hpieces : Transfers (fallingShort.enabled 5).faultAt (5 + ·) 8 [3, 5] none :=
    .piece (by decide) (by decide) (by decide)
      (.piece (by decide) (by decide) (by decide) .done)
  have hread := readRegister_of_transfers hpieces (hturn 5) cyclesRegister opening.2.lines
  have hcycles := cycles_eq_map c Machine.hardware opening.2
  rw [hstate, hread] at hcycles
  refine ⟨congrArg Prod.fst hopening, ?_, ?_⟩
  · rw [hstate]
    decide
  · rw [hstate, hcycles]
    decide

end CoreCounters

end Stopwatch
