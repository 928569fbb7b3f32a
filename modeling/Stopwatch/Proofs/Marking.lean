import Stopwatch.Proofs.Telling

/-!
# Marking and sampling, call by call

What a watched backend tells when a side is marked and when a row is sampled, and what is then in
the frame.  A mark makes the calls of `Side.calls` until one fails; if none does, every reading that
the kind of backend files has been filed on that side, over whatever stood there (`Filed`), and the
other side is as it was.  So what the frame holds after both marks is of this iteration and of no
other, although the frame is never cleared.
-/

namespace Stopwatch

open Session (ask)

variable {σ α β : Type}

/-! ### Asking -/

theorem ask_apply (x : Answer (StateM σ) α) (w : σ) :
    ask x w = ((x w).1.mapError .backend, (x w).2) :=
  rfl

theorem ask_bind (x : Answer (StateM σ) α) (f : α → Answer (StateM σ) β) :
    ask (x >>= f) = ask x >>= fun a => ask (f a) := by
  funext w
  simp only [ask_apply, Bind.bind, ExceptT.bind, ExceptT.mk, StateT.bind]
  rcases x w with ⟨e | v, w'⟩ <;> rfl

/-- `R` holds of the answer of a call and of the state that it leaves, and `f` is done behind it. -/
theorem tells_ask_call {P : σ → Prop} {R : Except BackendError α → σ → Prop}
    {event : Except BackendError α → Event} {x : Answer (StateM σ) α}
    {f : α → Answer (StateM (Watched σ)) β} {Q : List Event → Except RunError β → σ → Prop}
    (hx : ∀ w, P w → R (x w).1 (x w).2)
    (hok : ∀ v, Tells (R (.ok v)) (ask (f v)).run fun es b w => Q (event (.ok v) :: es) b w)
    (herror : ∀ e w, R (.error e) w → Q [event (.error e)] (.error (.backend e)) w) :
    Tells P (ask (x.watched event >>= f)).run Q := by
  have hcall : Tells P (ask (x.watched event)).run fun es a w =>
      ∃ answer, R answer w ∧ es = [event answer] ∧ a = answer.mapError .backend :=
    fun w hw => ⟨_, rfl, _, hx _ hw, rfl, rfl⟩
  rw [ask_bind]
  -- What is known of the answer is carried over to the call that is watched, in either case.
  refine hcall.step (fun es v w hw => ?_) (fun es e w h => ?_)
  · obtain ⟨answer, hR, rfl, hanswer⟩ := hw
    cases answer with
    | error e => cases hanswer
    | ok u =>
      obtain rfl := Except.ok.inj hanswer
      exact hok v w hR
  · obtain ⟨answer, hR, rfl, hanswer⟩ := h
    cases answer with
    | ok u => cases hanswer
    | error e' =>
      obtain rfl := Except.error.inj hanswer
      exact herror e' w hR

theorem performed_failed_call {e : BackendError} {event : Event}
    (h : event.failure = some (.backend e)) (ys : List Item) (Q : β → Prop) :
    Performed (.call event :: ys) [event] (.error (.backend e)) Q := by
  have hsome : firstFailure [Item.call event] = some (.backend e) := by
    rw [firstFailure, List.findSome?_cons, Item.failure, h]
  have hcall : Performed [.call event] [event] (.error (.backend e) : Except RunError β)
      fun _ => True := by
    refine .of_error ?_ hsome
    rw [told, untilFailure, Item.failure, h]
    rfl
  exact hcall.append_error ys

/-- One call of which nothing is known, and what is done after it. -/
theorem tells_ask_bind {ι : Type} {event : Except BackendError α → Event}
    (hevent : ∀ a, (event a).failure = failureOf a) (x : Answer (StateM σ) α)
    {f : α → Answer (StateM (Watched σ)) β} {ys : ι → List Item} {Q : α → ι → β → Prop} (rest : ι)
    (hf : ∀ v, Tells (fun _ => True) (ask (f v)).run fun es b _ =>
      ∃ t, Performed (ys t) es b (Q v t)) :
    Tells (fun _ => True) (ask (x.watched event >>= f)).run fun es b _ =>
      ∃ t : Except BackendError α × ι, Performed (.call (event t.1) :: ys t.2) es b fun v =>
        ∃ u, t.1 = .ok u ∧ Q u t.2 v := by
  refine tells_ask_call (R := fun _ _ => True) (fun _ _ => trivial) (fun v => ?_) (fun e w _ => ?_)
  · refine (hf v).weaken ?_
    rintro es b - ⟨t, ht⟩
    exact ⟨(.ok v, t), (ht.imp fun b hb => ⟨v, rfl, hb⟩).call (hevent (.ok v))⟩
  · exact ⟨(.error e, rest), performed_failed_call (hevent (.error e)) (ys rest) _⟩

theorem tells_ask_pure {P : σ → Prop} (b : β) :
    Tells P (ask (pure b : Answer (StateM (Watched σ)) β)).run fun es a _ =>
      ∃ _ : Unit, Performed [] es a fun v => v = b :=
  fun _ _ => ⟨[], (List.append_nil _).symm, (), Performed.nil rfl⟩

/-! ### Marks -/

/-- The readings of a kind were filed on a side, and the other side was left alone. -/
structure Filed (k : Kind) (slot : Slot) (t : Side) (f f' : Frame) : Prop where
  filed : ∀ m ∈ k.framed, t.read m = .ok (f'.get slot m)
  kept : ∀ side, side ≠ slot → ∀ m, f'.get side m = f.get side m

/-- A mark was made with answers as in `S`; if it went well, the state is as in `K`. -/
def Marks (k : Kind) (slot : Slot) (f : Frame) (S : Side → Prop) (K : σ → Prop)
    (es : List Event) (a : Except RunError Frame) (w : σ) : Prop :=
  ∃ t, S t ∧ Performed ((t.calls k slot).map .call) es a fun f' => Filed k slot t f f' ∧ K w

theorem Frame.get_set_of_ne {side slot : Slot} (hne : side ≠ slot) (f : Frame) (m m' : Metric)
    (r : Reading) : (f.set slot m r).get side m' = f.get side m' := by
  rw [Frame.get_set, if_neg fun h => hne h.1]

theorem tells_mark_clock (c : Clock (StateM σ)) (slot : Slot) (f : Frame) :
    Tells (fun _ => True) (ask ((Backend.clock c).watched.mark slot f)).run
      (Marks .clock slot f (fun _ => True) fun _ => True) := by
  refine (tells_ask_bind (fun _ => rfl) c.now () fun v => tells_ask_pure _).weaken ?_
  rintro es a w ⟨⟨v, _⟩, h⟩
  refine ⟨⟨v, .ok 0, .ok 0, .ok 0, .ok ()⟩, trivial, h.imp ?_⟩
  rintro f' ⟨v, rfl, rfl⟩
  refine ⟨⟨?_, fun side hne m => ?_⟩, trivial⟩
  · simp [Kind.framed, Side.read, Except.map, Frame.get_set]
  · rw [Frame.get_set_of_ne hne]

theorem tells_mark_cycles (c : CycleCounter (StateM σ)) (slot : Slot) (f : Frame) :
    Tells (fun _ => True) (ask ((Backend.cycles c).watched.mark slot f)).run
      (Marks .cycles slot f (fun _ => True) fun _ => True) := by
  -- The two sides read in opposite orders.
  cases slot with
  | before =>
    refine (tells_ask_bind (fun _ => rfl) c.cycles (.ok .zero, ()) fun n =>
      tells_ask_bind (fun _ => rfl) c.now () fun v => tells_ask_pure _).weaken ?_
    rintro es a w ⟨⟨n, v, _⟩, h⟩
    refine ⟨⟨v, n, .ok 0, .ok 0, .ok ()⟩, trivial, h.imp ?_⟩
    rintro f' ⟨n, rfl, v, rfl, rfl⟩
    refine ⟨⟨?_, fun side hne m => ?_⟩, trivial⟩
    · simp [Kind.framed, Side.read, Except.map, Frame.get_set]
    · rw [Frame.get_set_of_ne hne, Frame.get_set_of_ne hne]
  | after =>
    refine (tells_ask_bind (fun _ => rfl) c.now (.ok 0, ()) fun v =>
      tells_ask_bind (fun _ => rfl) c.cycles () fun n => tells_ask_pure _).weaken ?_
    rintro es a w ⟨⟨v, n, _⟩, h⟩
    refine ⟨⟨v, n, .ok 0, .ok 0, .ok ()⟩, trivial, h.imp ?_⟩
    rintro f' ⟨v, rfl, n, rfl, rfl⟩
    refine ⟨⟨?_, fun side hne m => ?_⟩, trivial⟩
    · simp [Kind.framed, Side.read, Except.map, Frame.get_set]
    · rw [Frame.get_set_of_ne hne, Frame.get_set_of_ne hne]

theorem tells_mark_perf (c : PerfCounters (StateM σ)) (slot : Slot) (f : Frame) :
    Tells (fun _ => True) (ask ((Backend.perf c).watched.mark slot f)).run
      (Marks .perf slot f (fun _ => True) fun _ => True) := by
  -- The clock and the cycles change places, the performance counters keep their order.
  cases slot with
  | before =>
    refine (tells_ask_bind (fun _ => rfl) c.aperf (.ok 0, .ok 0, .ok .zero, ()) fun p =>
      tells_ask_bind (fun _ => rfl) c.mperf (.ok 0, .ok .zero, ()) fun q =>
      tells_ask_bind (fun _ => rfl) c.cycles (.ok .zero, ()) fun n =>
      tells_ask_bind (fun _ => rfl) c.now () fun v => tells_ask_pure _).weaken ?_
    rintro es a w ⟨⟨p, q, n, v, _⟩, h⟩
    refine ⟨⟨v, n, p, q, .ok ()⟩, trivial, h.imp ?_⟩
    rintro f' ⟨p, rfl, q, rfl, n, rfl, v, rfl, rfl⟩
    refine ⟨⟨?_, fun side hne m => ?_⟩, trivial⟩
    · simp [Kind.framed, Metric.all, Side.read, Except.map, Frame.get_set]
    · rw [Frame.get_set_of_ne hne, Frame.get_set_of_ne hne, Frame.get_set_of_ne hne,
        Frame.get_set_of_ne hne]
  | after =>
    refine (tells_ask_bind (fun _ => rfl) c.now (.ok 0, .ok 0, .ok 0, ()) fun v =>
      tells_ask_bind (fun _ => rfl) c.cycles (.ok 0, .ok 0, ()) fun n =>
      tells_ask_bind (fun _ => rfl) c.aperf (.ok 0, ()) fun p =>
      tells_ask_bind (fun _ => rfl) c.mperf () fun q => tells_ask_pure _).weaken ?_
    rintro es a w ⟨⟨v, n, p, q, _⟩, h⟩
    refine ⟨⟨v, n, p, q, .ok ()⟩, trivial, h.imp ?_⟩
    rintro f' ⟨v, rfl, n, rfl, p, rfl, q, rfl, rfl⟩
    refine ⟨⟨?_, fun side hne m => ?_⟩, trivial⟩
    · simp [Kind.framed, Metric.all, Side.read, Except.map, Frame.get_set]
    · rw [Frame.get_set_of_ne hne, Frame.get_set_of_ne hne, Frame.get_set_of_ne hne,
        Frame.get_set_of_ne hne]

/-- A snapshot backend files nothing, so of its mark there is only the answer to know. -/
theorem tells_mark_snapshot_of {s : Snapshot (StateM σ)} {P K : σ → Prop} {slot : Slot}
    {A : Except BackendError Unit → Prop}
    (h : ∀ w, P w → A (s.mark slot w).1 ∧ ((s.mark slot w).1 = .ok () → K (s.mark slot w).2))
    (f : Frame) :
    Tells P (ask ((Backend.snapshot s).watched.mark slot f)).run
      (Marks .snapshot slot f (fun t => A t.mark) K) := by
  refine tells_ask_call (R := fun a w => A a ∧ (a = .ok () → K w)) h (fun v => ?_) fun e w he => ?_
  · refine .of_pure fun w ⟨hA, hK⟩ => ⟨{ Side.idle with mark := .ok v }, hA, ?_⟩
    have hcall : Performed [.call (.mark slot (.ok v))] [.mark slot (.ok v)] (.ok f) fun f' =>
        Filed .snapshot slot { Side.idle with mark := .ok v } f f' ∧ K w :=
      (Performed.nil ⟨⟨fun m hm => absurd hm List.not_mem_nil, fun _ _ _ => rfl⟩, hK rfl⟩).call rfl
    cases slot <;> exact hcall
  · refine ⟨{ Side.idle with mark := .error e }, he.1, ?_⟩
    cases slot <;> exact performed_failed_call rfl [] _

theorem tells_mark_snapshot (s : Snapshot (StateM σ)) (slot : Slot) (f : Frame) :
    Tells (fun _ => True) (ask ((Backend.snapshot s).watched.mark slot f)).run
      (Marks .snapshot slot f (fun _ => True) fun _ => True) :=
  tells_mark_snapshot_of (A := fun _ => True) (fun _ _ => ⟨trivial, fun _ => trivial⟩) f

/-- **A mark makes the calls of its side** until one fails, and files what they answer. -/
theorem tells_mark (b : Backend (StateM σ)) (slot : Slot) (f : Frame) :
    Tells (fun _ => True) (ask (b.watched.mark slot f)).run
      (Marks b.kind slot f (fun _ => True) fun _ => True) := by
  cases b with
  | clock c => exact tells_mark_clock c slot f
  | cycles c => exact tells_mark_cycles c slot f
  | perf c => exact tells_mark_perf c slot f
  | snapshot s => exact tells_mark_snapshot s slot f

/-- A mark whose answer is known beforehand: the side that is told of is one that gives it. -/
theorem tells_mark_of_run (b : Backend (StateM σ)) {P K : σ → Prop} {slot : Slot} {f : Frame}
    {S : Side → Prop}
    (hok : ∀ w f', P w → (b.mark slot f w).1 = .ok f' → K (b.mark slot f w).2 ∧
      ∀ t : Side, (∀ e ∈ t.calls b.kind slot, e.failure = none) →
        (∀ m ∈ b.kind.framed, t.read m = .ok (f'.get slot m)) → S t)
    (herror : ∀ w e, P w → (b.mark slot f w).1 = .error e →
      ∀ t : Side, firstFailure ((t.calls b.kind slot).map .call) = some (.backend e) → S t) :
    Tells P (ask (b.watched.mark slot f)).run (Marks b.kind slot f S K) := by
  intro w hw
  obtain ⟨es, hes, t, -, hperformed⟩ := tells_mark b slot f w trivial
  -- Watching does not change the answer.
  obtain ⟨hanswer, hstate, -⟩ :=
    MonadRelation.relExcept_ask ((related_watched b).mark slot f) w
  have hanswer' : ((ask (b.watched.mark slot f)).run w).1 =
      (b.mark slot f w.state).1.mapError .backend := hanswer
  have hstate' : ((ask (b.watched.mark slot f)).run w).2.state = (b.mark slot f w.state).2 := hstate
  refine ⟨es, hes, t, ?_⟩
  cases hmark : (b.mark slot f w.state).1 with
  | ok f' =>
    have hvalue : ((ask (b.watched.mark slot f)).run w).1 = .ok f' :=
      hanswer'.trans (congrArg (Except.mapError RunError.backend) hmark)
    obtain ⟨hK, hS⟩ := hok w.state f' hw hmark
    rw [hvalue] at hperformed ⊢
    obtain ⟨hfiled, -⟩ := hperformed.post
    have hnone := hperformed.firstFailure_of_ok
    exact ⟨hS t (firstFailure_calls.1 hnone) hfiled.filed,
      .of_ok hperformed.1 hnone ⟨hfiled, hstate' ▸ hK⟩⟩
  | error e =>
    have hvalue : ((ask (b.watched.mark slot f)).run w).1 = .error (.backend e) :=
      hanswer'.trans (congrArg (Except.mapError RunError.backend) hmark)
    rw [hvalue] at hperformed ⊢
    have hsome := hperformed.firstFailure_of_error
    exact ⟨herror w.state e hw hmark t hsome, .of_error hperformed.1 hsome⟩

/-- If marking a side never fails and files `value`, `S` need only hold of the sides read as
`value`. -/
theorem tells_mark_of_answer (b : Backend (StateM σ)) {P K : σ → Prop} {S : Side → Prop}
    {slot : Slot} {f : Frame} {value : Metric → Reading}
    (h : ∀ w, P w → ∃ f', (b.mark slot f w).1 = .ok f' ∧
      (∀ m ∈ b.kind.framed, f'.get slot m = value m) ∧ K (b.mark slot f w).2)
    (hS : ∀ t : Side, (∀ e ∈ t.calls b.kind slot, e.failure = none) →
      (∀ m ∈ b.kind.framed, t.read m = .ok (value m)) → S t) :
    Tells P (ask (b.watched.mark slot f)).run (Marks b.kind slot f S K) := by
  refine tells_mark_of_run b (fun w f' hw hmark => ?_) fun w e hw hmark => ?_
  · obtain ⟨f'', hok, hvalue, hK⟩ := h w hw
    obtain rfl := Except.ok.inj (hmark.symm.trans hok)
    refine ⟨hK, fun t hcalls hread => hS t hcalls fun m hm => ?_⟩
    rw [hread m hm, hvalue m hm]
  · obtain ⟨f'', hok, -⟩ := h w hw
    cases hmark.symm.trans hok

/-! ### Samples -/

/-- The same turn but for the readings that are handed out for the given rows. -/
structure Turn.Dealt (keys : List RowKey) (t t' : Turn) : Prop where
  side : ∀ slot, t'.side slot = t.side slot
  reading : ∀ slot key, key ∉ keys → t'.reading slot key = t.reading slot key

/-- The frame holds what was read on both sides. -/
def Turn.Framed (k : Kind) (t : Turn) (f : Frame) : Prop :=
  ∀ slot, ∀ m ∈ k.framed, (t.side slot).read m = .ok (f.get slot m)

/-- If the backend hands out readings, they are as in `S`, and the state stays one with `P`. -/
def Backend.HandsOut (P : σ → Prop) (S : Slot → RowKey → Except BackendError Reading → Prop) :
    Backend (StateM σ) → Prop
  | .snapshot s => ∀ slot key w, P w →
    S slot key (s.reading slot (key.2.getD 0) key.1 w).1 ∧
      P (s.reading slot (key.2.getD 0) key.1 w).2
  | _ => True

namespace Turn

theorem Dealt.refl (keys : List RowKey) (t : Turn) : t.Dealt keys t :=
  ⟨fun _ => rfl, fun _ _ _ => rfl⟩

theorem Dealt.framed {keys : List RowKey} {k : Kind} {t t' : Turn} {f : Frame}
    (h : t.Dealt keys t') (hf : t.Framed k f) : t'.Framed k f := by
  intro slot m hm
  rw [h.side]
  exact hf slot m hm

theorem Dealt.append_right {keys : List RowKey} {t t' : Turn} (h : t.Dealt keys t')
    (keys' : List RowKey) : t.Dealt (keys ++ keys') t' := by
  refine ⟨h.side, fun slot key hkey => h.reading slot key fun hmem => hkey ?_⟩
  exact List.mem_append_left _ hmem

theorem Dealt.trans {keys keys' : List RowKey} {t t' t'' : Turn} (h : t.Dealt keys t')
    (h' : t'.Dealt keys' t'') : t.Dealt (keys ++ keys') t'' := by
  refine ⟨fun slot => by rw [h'.side, h.side], fun slot key hkey => ?_⟩
  rw [List.mem_append, not_or] at hkey
  rw [h'.reading slot key hkey.2, h.reading slot key hkey.1]

theorem Dealt.taken {keys : List RowKey} {t t' : Turn} {key : RowKey} (h : t.Dealt keys t')
    (hkey : key ∉ keys) (k : Kind) (slot : Slot) : t'.taken k slot key = t.taken k slot key := by
  have hside := h.side slot
  have hreading := h.reading slot key hkey
  cases k <;> simp only [Turn.taken, hside, hreading]

theorem Dealt.delta {keys : List RowKey} {t t' : Turn} {key : RowKey} (h : t.Dealt keys t')
    (hkey : key ∉ keys) (k : Kind) : t'.delta k key = t.delta k key := by
  rw [Turn.delta, Turn.delta, h.taken hkey, h.taken hkey]

theorem Dealt.rowItems {keys : List RowKey} {t t' : Turn} {key : RowKey} (h : t.Dealt keys t')
    (hkey : key ∉ keys) (k : Kind) : t'.rowItems k key = t.rowItems k key := by
  have hreading := fun slot => h.reading slot key hkey
  have hdelta := h.delta hkey k
  cases k <;> simp only [Turn.rowItems, Turn.readings, hreading, hdelta]

theorem Dealt.bracketItems {keys : List RowKey} {t t' : Turn} (h : t.Dealt keys t') (k : Kind)
    (c : Config) (i : Nat) : t'.bracketItems k c i = t.bracketItems k c i := by
  have hbefore : t'.before = t.before := h.side .before
  have hafter : t'.after = t.after := h.side .after
  rw [Turn.bracketItems, Turn.bracketItems, hbefore, hafter]

/-- The delta of a row whose readings are known. -/
theorem delta_of_taken {k : Kind} {t : Turn} {key : RowKey} {start stop : Reading}
    (hstart : t.taken k .before key = .ok start) (hstop : t.taken k .after key = .ok stop) :
    t.delta k key = (Sample.mk key.1 key.2 start stop).delta.mapError .measure := by
  rw [delta, hstart, hstop]
  rfl

/-- The turn in which the readings of one row are these. -/
def deal (t : Turn) (key : RowKey) (readings : Slot → Except BackendError Reading) : Turn :=
  { t with
    reading := fun slot other => if other = key then readings slot else t.reading slot other }

theorem reading_deal (t : Turn) (key : RowKey) (readings : Slot → Except BackendError Reading)
    (slot : Slot) : (t.deal key readings).reading slot key = readings slot := if_pos rfl

theorem dealt_deal (t : Turn) (key : RowKey) (readings : Slot → Except BackendError Reading) :
    t.Dealt [key] (t.deal key readings) := by
  refine ⟨fun slot => ?_, fun slot other hother => ?_⟩
  · cases slot <;> rfl
  · exact if_neg fun h => hother (List.mem_singleton.2 h)

end Turn

/-- A row was sampled; what is handed out for it is as in `S`. -/
def Samples (k : Kind) (t : Turn) (key : RowKey)
    (S : Slot → RowKey → Except BackendError Reading → Prop) (P : σ → Prop)
    (es : List Event) (a : Except RunError Sample) (w : σ) : Prop :=
  ∃ t', t.Dealt [key] t' ∧ (∀ slot other, S slot other (t'.reading slot other)) ∧
    Performed ((t'.readings k key).map .call) es a fun sample =>
      (∃ start stop, t'.taken k .before key = .ok start ∧ t'.taken k .after key = .ok stop ∧
        sample = ⟨key.1, key.2, start, stop⟩) ∧ P w

/-- What two answers make of a row. -/
theorem samples_of_readings {t : Turn} {key : RowKey}
    {S : Slot → RowKey → Except BackendError Reading → Prop} {P : σ → Prop} {es : List Event}
    {a : Except RunError Sample} {w : σ} (ht : ∀ slot other, S slot other (t.reading slot other))
    (readings : Except BackendError Reading × Except BackendError Reading)
    (hreadings : ∀ slot : Slot, S slot key (slot.pick readings))
    (h : Performed [.call (.reading .before (key.2.getD 0) key.1 readings.1),
        .call (.reading .after (key.2.getD 0) key.1 readings.2)] es a fun sample =>
      (∃ start stop, readings.1 = .ok start ∧ readings.2 = .ok stop ∧
        sample = ⟨key.1, key.2, start, stop⟩) ∧ P w) :
    Samples .snapshot t key S P es a w := by
  have hdealt := t.dealt_deal key fun slot => slot.pick readings
  have hpick := t.reading_deal key fun slot => slot.pick readings
  -- The two answers become those of the turn for this row; for the other rows they stay.
  refine ⟨_, hdealt, fun slot other => ?_, ?_⟩
  · by_cases hother : other = key
    · rw [hother, hpick]
      exact hreadings slot
    · rw [hdealt.reading slot other fun h => hother (List.mem_singleton.1 h)]
      exact ht slot other
  · simp only [Turn.readings, Turn.taken, hpick]
    exact h

theorem tells_sample_snapshot (s : Snapshot (StateM σ)) {P : σ → Prop}
    {S : Slot → RowKey → Except BackendError Reading → Prop}
    (hs : (Backend.snapshot s).HandsOut P S) {t : Turn}
    (ht : ∀ slot other, S slot other (t.reading slot other)) (f : Frame) (key : RowKey) :
    Tells P (ask ((Backend.snapshot s).watched.sample f key)).run
      (Samples .snapshot t key S P) := by
  refine tells_ask_call (R := fun a w => S .before key a ∧ P w) (hs .before key)
    (fun start => .from_each ?_) fun e w ⟨he, _⟩ => ?_
  · rintro w ⟨hstart, hw⟩
    refine ⟨P, hw, tells_ask_call (R := fun a w => S .after key a ∧ P w) (hs .after key)
      (fun stop => ?_) fun e w ⟨he, _⟩ => ?_⟩
    · refine fun w ⟨hstop, hw⟩ => ⟨[], (List.append_nil _).symm,
        samples_of_readings ht (.ok start, .ok stop) ?_ ?_⟩
      · rintro (_ | _)
        · exact hstart
        · exact hstop
      · exact ((Performed.nil ⟨⟨start, stop, rfl, rfl, rfl⟩, hw⟩).call rfl).call rfl
    · refine samples_of_readings ht (.ok start, .error e) ?_ ?_
      · rintro (_ | _)
        · exact hstart
        · exact he
      · exact (performed_failed_call rfl [] _).call rfl
  -- The second reading is not asked for, and the turn may say of it what it said before.
  · refine samples_of_readings ht (.error e, t.reading .after key) ?_ ?_
    · rintro (_ | _)
      · exact he
      · exact ht .after key
    · exact performed_failed_call rfl _ _

/-- **A row is sampled from the readings that were taken for it**: those in the frame, or those that
a snapshot backend hands out when it is asked for both. -/
theorem tells_sample (b : Backend (StateM σ)) {P : σ → Prop}
    {S : Slot → RowKey → Except BackendError Reading → Prop} (hb : b.HandsOut P S) {t : Turn}
    (ht : ∀ slot other, S slot other (t.reading slot other)) {f : Frame}
    (hf : t.Framed b.kind f) (key : RowKey) (hkey : b.kind ≠ .snapshot → key.1 ∈ b.kind.framed) :
    Tells P (ask (b.watched.sample f key)).run (Samples b.kind t key S P) := by
  have hframe : b.kind ≠ .snapshot → ∀ slot, t.taken b.kind slot key = .ok (f.get slot key.1) := by
    intro hb' slot
    have hread := hf slot key.1 (hkey hb')
    rw [← hread]
    cases b with
    | snapshot s => exact absurd rfl hb'
    | _ => rfl
  cases b with
  | snapshot s => exact tells_sample_snapshot s hb ht f key
  | _ =>
    -- Nothing is asked for: both readings are in the frame.
    refine fun w hw => ⟨[], (List.append_nil _).symm, t, .refl _ _, ht, Performed.nil ⟨?_, hw⟩⟩
    exact ⟨_, _, hframe nofun .before, hframe nofun .after, rfl⟩

end Stopwatch
