import Stopwatch.Proofs.Conduct
import Stopwatch.Proofs.Scripted

/-!
# Scripted counters in a run

Counters with a script of pairs give their values out of four queues, in one order before the
benchmark call and in another one behind it, and count their readings together.  The scripts of the
metrics may be of different lengths, so in some iteration one of them may be empty, and the readings
before it have already been taken.

Whatever kind of single-core backend the counters make (`SingleCore`), a mark takes the readings of
its metrics one after the other (`SingleCore.mark_eq_take`).  If every queue has a value, each loses
its first one (`CounterScript.take_of_left`), and otherwise the first empty queue in the order of
the side is the one that fails (`CounterScript.take_of_empty`).  The invariant of a run says exactly
what is left in each queue that is read, and how many readings were taken (`PairScript.conductOf`).
-/

namespace Stopwatch

variable {σ ρ : Type}

/-! ### Kinds of single-core backend -/

/-- The kinds of backend that file their readings. -/
inductive SingleCore
  | clock
  | cycles
  | perf

namespace SingleCore

/-- The kind among all kinds of backend. -/
def kind : SingleCore → Kind
  | clock => .clock
  | cycles => .cycles
  | perf => .perf

/-- The metrics that are read, in the order of their rows. -/
def metrics (k : SingleCore) : List Metric := k.kind.framed

/-- The order in which the readings of a side are taken. -/
def order : SingleCore → Slot → List Metric
  | clock, _ => [.wallclock]
  | cycles, .before => [.coreCycles, .wallclock]
  | cycles, .after => [.wallclock, .coreCycles]
  | perf, .before => [.aperf, .mperf, .coreCycles, .wallclock]
  | perf, .after => [.wallclock, .coreCycles, .aperf, .mperf]

/-- The backend of the kind that some counters make. -/
def backend {m : Type → Type} : SingleCore → PerfCounters m → Backend m
  | clock, c => .clock c.toClock
  | cycles, c => .cycles c.toCycleCounter
  | perf, c => .perf c

theorem perm_order (k : SingleCore) (slot : Slot) : (k.order slot).Perm k.metrics := by
  cases k <;> cases slot <;> decide

theorem nodup_order (k : SingleCore) (slot : Slot) : (k.order slot).Nodup := by
  cases k <;> cases slot <;> decide

theorem kind_backend {m : Type → Type} (k : SingleCore) (c : PerfCounters m) :
    (k.backend c).kind = k.kind := by
  cases k <;> rfl

end SingleCore

/-! ### Taking readings -/

namespace PerfCounters

/-- Read a metric. -/
def read (c : PerfCounters (StateM σ)) : Metric → Answer (StateM σ) Reading
  | .wallclock => do
    let v ← c.now
    pure (.seconds v)
  | .coreCycles => do
    let n ← c.cycles
    pure (.count n)
  | .aperf => do
    let n ← c.aperf
    pure (.count n)
  | .mperf => do
    let n ← c.mperf
    pure (.count n)

/-- Read metrics one after the other, and file what is read. -/
def take (c : PerfCounters (StateM σ)) (slot : Slot) : List Metric → Frame → Answer (StateM σ) Frame
  | [], f => pure f
  | m :: ms, f => do
    let r ← c.read m
    c.take slot ms (f.set slot m r)

end PerfCounters

/-- **A mark takes the readings of its side** in their order. -/
theorem SingleCore.mark_eq_take (k : SingleCore) (c : PerfCounters (StateM σ)) (slot : Slot)
    (f : Frame) : (k.backend c).mark slot f = c.take slot (k.order slot) f := by
  cases k <;> cases slot <;>
    simp only [backend, order, Backend.mark, PerfCounters.take, PerfCounters.read, bind_assoc,
      pure_bind]

namespace CounterScript

/-- What is left to be read for a metric. -/
def left (s : CounterScript) : Metric → List Reading
  | .wallclock => s.wallclock.map .seconds
  | .coreCycles => s.cycles.map .count
  | .aperf => s.aperf.map .count
  | .mperf => s.mperf.map .count

/-- Counters with a script beside the state of the other parties. -/
def inUse : PerfCounters (StateM (CounterScript × ρ)) := counters.change Part.left.run

variable {s : CounterScript} {r : ρ} {m : Metric}

/-- Reading from an empty queue fails, tells how many readings were taken, and changes nothing. -/
theorem read_of_nil (h : s.left m = []) :
    inUse.read m (s, r) = (.error (.exhausted s.reads), s, r) := by
  obtain ⟨wallclock, cycles, aperf, mperf, reads⟩ := s
  cases m <;> obtain rfl := List.map_eq_nil_iff.1 h <;> rfl

/-- Reading from a queue takes its first value off, counts one more reading, and leaves the other
queues as they are. -/
theorem read_of_cons {v : Reading} {rest : List Reading} (h : s.left m = v :: rest) :
    ∃ s', inUse.read m (s, r) = (.ok v, s', r) ∧ s'.left m = rest ∧
      (∀ m' ≠ m, s'.left m' = s.left m') ∧ s'.reads = s.reads + 1 := by
  obtain ⟨wallclock, cycles, aperf, mperf, reads⟩ := s
  cases m <;> obtain ⟨x, xs, rfl, rfl, rfl⟩ := List.map_eq_cons_iff.1 h <;>
    refine ⟨_, rfl, rfl, fun m' hm' => ?_, rfl⟩ <;> cases m' <;> first | rfl | exact absurd rfl hm'

/-- **If every queue has a value**, each loses its first one, and these are filed. -/
theorem take_of_left (slot : Slot) (f : Frame) (r : ρ) {ms : List Metric} (hnodup : ms.Nodup)
    {value : Metric → Reading} {rest : Metric → List Reading}
    (hleft : ∀ m ∈ ms, s.left m = value m :: rest m) :
    ∃ f' s', inUse.take slot ms f (s, r) = (.ok f', s', r) ∧
      (∀ m, f'.get slot m = if m ∈ ms then value m else f.get slot m) ∧
      (∀ m, s'.left m = if m ∈ ms then rest m else s.left m) ∧
      s'.reads = s.reads + ms.length := by
  induction ms generalizing f s with
  | nil => exact ⟨f, s, rfl, fun m => rfl, fun m => rfl, rfl⟩
  | cons m ms ih =>
    obtain ⟨hm, hms⟩ := List.nodup_cons.1 hnodup
    obtain ⟨s₁, hread, hhead, hothers, hreads⟩ := read_of_cons (r := r) (hleft m List.mem_cons_self)
    -- No metric is read twice, so the queues of the others are still whole.
    have hne : ∀ m' ∈ ms, m' ≠ m := fun m' hm' h => hm (h ▸ hm')
    have hleft₁ : ∀ m' ∈ ms, s₁.left m' = value m' :: rest m' := fun m' hm' => by
      rw [hothers m' (hne m' hm'), hleft m' (List.mem_cons_of_mem m hm')]
    obtain ⟨f', s', htake, hget, hleft', hreads'⟩ := ih (f.set slot m (value m)) hms hleft₁
    refine ⟨f', s', (bind_of_ok hread).trans htake, fun m' => ?_, fun m' => ?_, ?_⟩
    · rw [hget m', Frame.get_set]
      rcases eq_or_ne m' m with rfl | hm'
      · simp [hm]
      · simp [hm']
    · rw [hleft' m']
      rcases eq_or_ne m' m with rfl | hm'
      · simp [hm, hhead]
      · simp [hm', hothers m' hm']
    · rw [hreads', hreads, List.length_cons]
      omega

/-- If every queue of `k.metrics` has a value, a mark files the first values and takes them off. -/
theorem mark_of_left {k : SingleCore} (slot : Slot) (f : Frame) (r : ρ) {value : Metric → Reading}
    {rest : Metric → List Reading} (hleft : ∀ m ∈ k.metrics, s.left m = value m :: rest m) :
    ∃ f' s', (k.backend inUse).mark slot f (s, r) = (.ok f', s', r) ∧
      (∀ m ∈ k.metrics, f'.get slot m = value m) ∧ (∀ m ∈ k.metrics, s'.left m = rest m) ∧
      s'.reads = s.reads + k.metrics.length := by
  have horder : ∀ m, m ∈ k.order slot ↔ m ∈ k.metrics := fun m => (k.perm_order slot).mem_iff
  obtain ⟨f', s', htake, hget, hleft', hreads⟩ := take_of_left slot f r (k.nodup_order slot)
    fun m hm => hleft m ((horder m).1 hm)
  rw [k.mark_eq_take]
  refine ⟨f', s', htake, fun m hm => ?_, fun m hm => ?_, ?_⟩
  · rw [hget, if_pos ((horder m).2 hm)]
  · rw [hleft', if_pos ((horder m).2 hm)]
  · rw [hreads, (k.perm_order slot).length_eq]

/-- **If the queue of `m` is empty** and those of the `earlier` metrics are not, taking fails, and
the readings of the earlier ones are counted. -/
theorem take_of_empty (slot : Slot) (f : Frame) {earlier later : List Metric}
    (hnodup : (earlier ++ m :: later).Nodup) (hearlier : ∀ m' ∈ earlier, s.left m' ≠ [])
    (hm : s.left m = []) :
    (inUse.take slot (earlier ++ m :: later) f (s, r)).1 =
      .error (.exhausted (s.reads + earlier.length)) := by
  induction earlier generalizing f s with
  | nil => exact congrArg Prod.fst (bind_of_error (read_of_nil hm))
  | cons m' earlier ih =>
    obtain ⟨hm', hrest⟩ := List.nodup_cons.1 hnodup
    obtain ⟨v, rest, hv⟩ := List.exists_cons_of_ne_nil (hearlier m' List.mem_cons_self)
    obtain ⟨s₁, hread, -, hothers, hreads⟩ := read_of_cons (r := r) hv
    have hne : ∀ m'' ∈ earlier ++ m :: later, m'' ≠ m' := fun m'' hm'' h => hm' (h ▸ hm'')
    have hearlier₁ : ∀ m'' ∈ earlier, s₁.left m'' ≠ [] := fun m'' hm'' => by
      rw [hothers m'' (hne m'' (List.mem_append_left _ hm''))]
      exact hearlier m'' (List.mem_cons_of_mem m' hm'')
    have hm₁ : s₁.left m = [] := by rw [hothers m (hne m (by simp)), hm]
    have htake := ih (f.set slot m' v) hrest hearlier₁ hm₁
    rw [hreads] at htake
    refine (congrArg Prod.fst (bind_of_ok hread)).trans (htake.trans ?_)
    rw [List.length_cons, Nat.add_right_comm, Nat.add_assoc]

end CounterScript

/-! ### Scripts of different lengths -/

namespace PairScript

variable (p : PairScript) (k : SingleCore)

/-- The number of pairs of a metric. -/
def size : Metric → Nat
  | .wallclock => p.wallclock.length
  | .coreCycles => p.cycles.length
  | .aperf => p.aperf.length
  | .mperf => p.mperf.length

/-- How many of the metrics are read before the first one that has no pair in an iteration, in the
order in which they are read before the benchmark call. -/
def lacking (i : Nat) : Option Nat := (k.order .before).findIdx? fun m => decide (p.size m ≤ i)

/-- The queues that are left before iteration `i`. -/
def queues (i reads : Nat) : CounterScript where
  wallclock := CounterScript.queue (p.wallclock.drop i)
  cycles := CounterScript.queue (p.cycles.drop i)
  aperf := CounterScript.queue (p.aperf.drop i)
  mperf := CounterScript.queue (p.mperf.drop i)
  reads := reads

/-- What is left for a metric before an iteration. -/
def remaining (i : Nat) : Metric → List Reading := (p.queues i 0).left

variable {p k} {i : Nat} {m : Metric}

theorem queue_drop {α : Type} {pairs : List (α × α)} {i : Nat} (hi : i < pairs.length)
    (idle : α × α) :
    CounterScript.queue (pairs.drop i) = (pairs[i]?.getD idle).1 :: (pairs[i]?.getD idle).2 ::
      CounterScript.queue (pairs.drop (i + 1)) := by
  rw [List.drop_eq_getElem_cons hi, List.getElem?_eq_getElem hi]
  rfl

theorem remaining_of_lt (hi : i < p.size m) : p.remaining i m =
    p.reading i .before m :: p.reading i .after m :: p.remaining (i + 1) m := by
  cases m with
  | wallclock => exact congrArg (List.map Reading.seconds) (queue_drop hi (.zero, .zero))
  | coreCycles => exact congrArg (List.map Reading.count) (queue_drop hi (0, 0))
  | aperf => exact congrArg (List.map Reading.count) (queue_drop hi (0, 0))
  | mperf => exact congrArg (List.map Reading.count) (queue_drop hi (0, 0))

theorem remaining_of_le (hi : p.size m ≤ i) : p.remaining i m = [] := by
  have hdrop : ∀ {α : Type} (pairs : List (α × α)), pairs.length ≤ i →
      CounterScript.queue (pairs.drop i) = [] := by
    intro α pairs hle
    rw [List.drop_of_length_le hle]
    rfl
  cases m <;> exact List.map_eq_nil_iff.2 (hdrop _ hi)

theorem lacking_eq_none : p.lacking k i = none ↔ ∀ m ∈ k.metrics, i < p.size m := by
  rw [lacking, List.findIdx?_eq_none_iff]
  simp only [decide_eq_false_iff_not, Nat.not_le, (k.perm_order .before).mem_iff]

/-- If the script covers `n` iterations, no metric lacks a pair in one of them. -/
theorem Covers.lacking_eq_none {n : Nat} (hp : p.Covers n) (hi : i < n) (k : SingleCore) :
    p.lacking k i = none := by
  refine PairScript.lacking_eq_none.2 fun m _ => ?_
  cases m with
  | wallclock => exact Nat.lt_of_lt_of_le hi hp.wallclock
  | coreCycles => exact Nat.lt_of_lt_of_le hi hp.cycles
  | aperf => exact Nat.lt_of_lt_of_le hi hp.aperf
  | mperf => exact Nat.lt_of_lt_of_le hi hp.mperf

/-- If `lacking` is `j`, the metric at place `j` of the order has no pair in iteration `i`, and
those before it have one. -/
theorem exists_of_lacking {j : Nat} (h : p.lacking k i = some j) :
    ∃ earlier m later, k.order .before = earlier ++ m :: later ∧ earlier.length = j ∧
      (∀ m' ∈ earlier, i < p.size m') ∧ p.size m ≤ i := by
  obtain ⟨hj, hlacks, hearlier⟩ := List.findIdx?_eq_some_iff_getElem.1 h
  refine ⟨(k.order .before).take j, (k.order .before)[j], (k.order .before).drop (j + 1), ?_, ?_,
    fun m' hm' => ?_, of_decide_eq_true hlacks⟩
  · rw [← List.drop_eq_getElem_cons hj, List.take_append_drop]
  · exact List.length_take_of_le (Nat.le_of_lt hj)
  · obtain ⟨l, hl, rfl⟩ := List.mem_take_iff_getElem.1 hm'
    have hhas := hearlier l (Nat.lt_of_lt_of_le hl (Nat.min_le_left ..))
    exact Nat.lt_of_not_le fun hle => hhas (decide_eq_true hle)

/-! ### What a run reads -/

variable (p k)

/-- The side of an iteration holds the values of the script if there is one for every metric.  If
not, the first failure before the benchmark call says so. -/
structure IsSide (i : Nat) (slot : Slot) (t : Side) : Prop where
  whole : p.lacking k i = none → (∀ e ∈ t.calls k.kind slot, e.failure = none) ∧
    ∀ m ∈ k.metrics, t.read m = .ok (p.reading i slot m)
  short : slot = .before → ∀ j, p.lacking k i = some j →
    firstFailure ((t.calls k.kind slot).map .call) =
      some (.backend (.exhausted (2 * k.metrics.length * i + j)))

/-- The conduct of counters whose scripts may be too short.  Before iteration `i` what is left of
each queue is `remaining i`, and all readings of the iterations before were taken. -/
def conductOf : Conduct (CounterScript × ρ) where
  fresh w := w.1 = p.toCounters
  ready i w := (∀ m ∈ k.metrics, w.1.left m = p.remaining i m) ∧
    w.1.reads = 2 * k.metrics.length * i
  half i w := p.lacking k i = none ∧
    (∀ m ∈ k.metrics, w.1.left m = p.reading i .after m :: p.remaining (i + 1) m) ∧
    w.1.reads = 2 * k.metrics.length * i + k.metrics.length
  full i w := (∀ m ∈ k.metrics, w.1.left m = p.remaining (i + 1) m) ∧
    w.1.reads = 2 * k.metrics.length * (i + 1)
  begun a := a = .ok (.singleCore k.metrics)
  side := p.IsSide k
  reading _ _ _ _ := True
  ended a := a = .ok ()

variable {p k} {f : Frame} {w : CounterScript × ρ}

/-- **Before the benchmark call** the first values of the pairs are read, if there is one for every
metric. -/
theorem mark_before (h : (p.conductOf k).ready i w) (hwhole : p.lacking k i = none) :
    ∃ f' w', (k.backend CounterScript.inUse).mark .before f w = (.ok f', w') ∧
      (∀ m ∈ k.metrics, f'.get .before m = p.reading i .before m) ∧ (p.conductOf k).half i w' := by
  obtain ⟨s, r⟩ := w
  obtain ⟨hleft, hreads⟩ := h
  obtain ⟨f', s', hmark, hget, hleft', hreads'⟩ :=
    CounterScript.mark_of_left .before f r fun m hm =>
    (hleft m hm).trans (remaining_of_lt (lacking_eq_none.1 hwhole m hm))
  exact ⟨f', (s', r), hmark, hget, hwhole, hleft', hreads'.trans (congrArg (· + _) hreads)⟩

/-- If the metric at place `j` of the order has no pair, the mark before the benchmark call fails
with the number of readings taken until then. -/
theorem mark_before_of_lacking (h : (p.conductOf k).ready i w) {j : Nat}
    (hj : p.lacking k i = some j) : ((k.backend CounterScript.inUse).mark .before f w).1 =
      .error (.exhausted (2 * k.metrics.length * i + j)) := by
  obtain ⟨s, r⟩ := w
  obtain ⟨hleft, hreads⟩ := h
  obtain ⟨earlier, m, later, horder, rfl, hearlier, hm⟩ := exists_of_lacking hj
  have hmem : ∀ m' ∈ earlier ++ m :: later, m' ∈ k.metrics := fun m' hm' =>
    (k.perm_order .before).mem_iff.1 (horder ▸ hm')
  have hnodup : (earlier ++ m :: later).Nodup := horder ▸ k.nodup_order .before
  rw [k.mark_eq_take, horder, ← hreads]
  refine CounterScript.take_of_empty _ _ hnodup (fun m' hm' => ?_) ?_
  · rw [hleft m' (hmem m' (List.mem_append_left _ hm')), remaining_of_lt (hearlier m' hm')]
    exact List.cons_ne_nil _ _
  · rw [hleft m (hmem m (by simp)), remaining_of_le hm]

/-- **Behind the benchmark call** the second values of the pairs are read. -/
theorem mark_after (h : (p.conductOf k).half i w) :
    ∃ f' w', (k.backend CounterScript.inUse).mark .after f w = (.ok f', w') ∧
      (∀ m ∈ k.metrics, f'.get .after m = p.reading i .after m) ∧ (p.conductOf k).full i w' := by
  obtain ⟨s, r⟩ := w
  obtain ⟨-, hleft, hreads⟩ := h
  obtain ⟨f', s', hmark, hget, hleft', hreads'⟩ := CounterScript.mark_of_left .after f r hleft
  refine ⟨f', (s', r), hmark, hget, hleft', hreads'.trans ?_⟩
  have hthis : s.reads = 2 * k.metrics.length * i + k.metrics.length := hreads
  rw [hthis, Nat.mul_succ]
  omega

theorem tells_before : Tells ((p.conductOf k : Conduct (CounterScript × ρ)).ready i)
    (Session.ask ((k.backend CounterScript.inUse).watched.mark .before f)).run
    (Marks k.kind .before f (p.IsSide k i .before) ((p.conductOf k).half i)) := by
  have hkind := k.kind_backend (CounterScript.inUse (ρ := ρ))
  rw [← hkind]
  cases hlacking : p.lacking k i with
  | none =>
    refine tells_mark_of_answer _ (fun w hw => ?_) fun t hcalls hread =>
      ⟨fun _ => ⟨hkind ▸ hcalls, fun m hm => hread m (hkind.symm ▸ hm)⟩, fun _ j hj => ?_⟩
    · obtain ⟨f', w', hrun, hget, hhalf⟩ := mark_before (f := f) hw hlacking
      rw [hrun]
      exact ⟨f', rfl, fun m hm => hget m (show m ∈ k.kind.framed from hkind ▸ hm), hhalf⟩
    · cases hlacking.symm.trans hj
  | some j =>
    refine tells_mark_of_run _ (fun w f' hw hmark => ?_) fun w e hw hmark t hfirst => ?_
    · rw [mark_before_of_lacking hw hlacking] at hmark
      cases hmark
    · rw [mark_before_of_lacking hw hlacking] at hmark
      obtain rfl := Except.error.inj hmark
      refine ⟨fun hwhole => ?_, fun _ j' hj' => ?_⟩
      · cases hlacking.symm.trans hwhole
      · obtain rfl := Option.some.inj (hlacking.symm.trans hj')
        exact hkind ▸ hfirst

theorem tells_after : Tells ((p.conductOf k : Conduct (CounterScript × ρ)).half i)
    (Session.ask ((k.backend CounterScript.inUse).watched.mark .after f)).run
    (Marks k.kind .after f (p.IsSide k i .after) ((p.conductOf k).full i)) := by
  have hkind := k.kind_backend (CounterScript.inUse (ρ := ρ))
  rw [← hkind]
  refine tells_mark_of_answer _ (fun w hw => ?_) fun t hcalls hread =>
    ⟨fun _ => ⟨hkind ▸ hcalls, fun m hm => hread m (hkind.symm ▸ hm)⟩, fun h => nomatch h⟩
  obtain ⟨f', w', hrun, hget, hfull⟩ := mark_after (f := f) hw
  rw [hrun]
  exact ⟨f', rfl, fun m hm => hget m (show m ∈ k.kind.framed from hkind ▸ hm), hfull⟩

/-- The side on which the script is read. -/
def side (p : PairScript) (i : Nat) (slot : Slot) : Side where
  now := .ok (slot.pick (p.wallclock[i]?.getD (.zero, .zero)))
  cycles := .ok (slot.pick (p.cycles[i]?.getD (0, 0)))
  aperf := .ok (slot.pick (p.aperf[i]?.getD (0, 0)))
  mperf := .ok (slot.pick (p.mperf[i]?.getD (0, 0)))
  mark := .ok ()

theorem read_side (p : PairScript) (i : Nat) (slot : Slot) (m : Metric) :
    (p.side i slot).read m = .ok (p.reading i slot m) := by
  cases m <;> rfl

/-- Some side is as `IsSide` asks, whether the script lacks a pair in iteration `i` or not. -/
theorem exists_isSide (p : PairScript) (k : SingleCore) (i : Nat) (slot : Slot) :
    ∃ t, p.IsSide k i slot t := by
  cases hlacking : p.lacking k i with
  | none =>
    refine ⟨p.side i slot, fun _ => ⟨?_, fun m _ => p.read_side i slot m⟩, fun _ j hj => ?_⟩
    · cases k <;> cases slot <;> simp [SingleCore.kind, Side.calls, side, Event.failure, failureOf]
    · cases hlacking.symm.trans hj
  | some j =>
    -- Every counter of the side fails with the same error, so the first one does.
    let e : BackendError := .exhausted (2 * k.metrics.length * i + j)
    refine ⟨⟨.error e, .error e, .error e, .error e, .ok ()⟩, fun hwhole => ?_, fun _ j' hj' => ?_⟩
    · cases hlacking.symm.trans hwhole
    · obtain rfl := Option.some.inj (hlacking.symm.trans hj')
      cases k <;> cases slot <;> rfl

/-- **Scripted counters in a run** follow `conductOf`, whatever the lengths of their scripts. -/
theorem follows_conductOf (p : PairScript) (k : SingleCore) (c : Config)
    (benchmark : Int32 → StateM ρ Unit) (notify : Progress → StateM ρ Unit) :
    (Session.beside c (k.backend CounterScript.counters) benchmark notify).Follows
      (p.conductOf k) where
  begun _ _ := by cases k <;> rfl
  runStart w layout hw _ := by
    have hready : (p.conductOf k).ready 0 w := by
      have hw : w.1 = p.queues 0 0 := hw
      refine ⟨fun m _ => ?_, ?_⟩
      · rw [hw, remaining]
      · rw [hw]
        rfl
    cases k <;> exact hready
  iterationStart _ _ _ hw := hw
  before i _ f := by cases k <;> exact tells_before
  benchmark _ _ _ hw := hw
  after i _ f := by cases k <;> exact tells_after
  handsOut _ _ := by cases k <;> exact trivial
  iterationEnd _ _ _ hw := hw
  ended _ := by cases k <;> rfl
  allows i _ := by
    obtain ⟨before, hbefore⟩ := p.exists_isSide k i .before
    obtain ⟨after, hafter⟩ := p.exists_isSide k i .after
    refine ⟨⟨before, after, fun _ _ => .ok (.count 0)⟩, fun slot => ?_, fun _ _ => trivial⟩
    cases slot with
    | before => exact hbefore
    | after => exact hafter

end PairScript

end Stopwatch
