import Stopwatch.Proofs.Reference

/-!
# The protocol of a run

What can be seen of a run, in its order.  A whole iteration shows `Turn.events`: listeners are told
that it starts, one side is read, the benchmark is called once, the other side is read, a snapshot
backend hands out its readings row by row, and listeners are told that it ends.  An iteration in
which something fails is cut behind the failure (`Turn.Cut`).

`Session.run_events` says that every run shows one of three sequences: the beginning alone, if the
backend refuses; all iterations, the end, and the word that the run ended if the end went well; or
some whole iterations, one that is cut, and the end.
-/

namespace Stopwatch

variable {σ : Type}

/-! ### The events of an iteration -/

namespace Turn

/-- What an iteration shows in which nothing fails. -/
def events (t : Turn) (k : Kind) (c : Config) (layout : Layout) (i : Nat) : List Event :=
  [.progress (.iterationStart i c.iterations)] ++ t.before.calls k .before ++
    [.benchmark c.param] ++ t.after.calls k .after ++ layout.rowKeys.flatMap (t.readings k) ++
    [.progress (.iterationEnd i c.iterations)]

/-- What an iteration shows in which something fails: of what there is to do, all up to the first
failure.  A call that fails is seen; of a rejected delta, the readings of its row are seen last. -/
def Cut (t : Turn) (k : Kind) (c : Config) (layout : Layout) (i : Nat) (cut : List Event) : Prop :=
  ∃ done failed left, t.items k c layout i = done ++ failed :: left ∧
    (∀ x ∈ done, x.failure = none) ∧ failed.failure.isSome ∧ cut = eventsOf (done ++ [failed])

theorem eventsOf_calls (es : List Event) : eventsOf (es.map .call) = es := by
  rw [eventsOf, List.filterMap_map]
  exact List.filterMap_some

theorem eventsOf_cons (e : Event) (xs : List Item) :
    eventsOf (.call e :: xs) = e :: eventsOf xs := rfl

theorem eventsOf_rowItems (t : Turn) (k : Kind) (key : RowKey) :
    eventsOf (t.rowItems k key) = t.readings k key := by
  have hdelta : eventsOf [.delta key (t.delta k key)] = [] := rfl
  rw [rowItems, eventsOf_append, eventsOf_calls, hdelta, List.append_nil]

/-- The events of what there is to do in an iteration. -/
theorem eventsOf_items (t : Turn) (k : Kind) (c : Config) (layout : Layout) (i : Nat) :
    eventsOf (t.items k c layout i) = t.events k c layout i := by
  have hbracket : eventsOf (t.bracketItems k c i) =
      [.progress (.iterationStart i c.iterations)] ++ t.before.calls k .before ++
        [.benchmark c.param] ++ t.after.calls k .after := by
    rw [bracketItems, eventsOf_cons, eventsOf_append, eventsOf_cons, eventsOf_calls,
      eventsOf_calls]
    simp only [List.append_assoc, List.cons_append, List.nil_append]
  have hrows : eventsOf (layout.rowKeys.flatMap (t.rowItems k)) =
      layout.rowKeys.flatMap (t.readings k) := by
    rw [eventsOf, List.filterMap_flatMap]
    exact congrArg layout.rowKeys.flatMap (funext (t.eventsOf_rowItems k))
  rw [items, eventsOf_append, eventsOf_append, hbracket, hrows]
  rfl

end Turn

/-! ### Cuts -/

/-- Where something fails, what is told ends with the failure. -/
theorem told_of_some {items : List Item} {e : RunError} (h : firstFailure items = some e) :
    ∃ done failed left, items = done ++ failed :: left ∧ (∀ x ∈ done, x.failure = none) ∧
      failed.failure = some e ∧ told items = eventsOf (done ++ [failed]) := by
  obtain ⟨done, failed, left, rfl, hfailed, hdone⟩ := List.findSome?_eq_some_iff.1 h
  refine ⟨done, failed, left, rfl, hdone, hfailed, ?_⟩
  rw [told_append_of_none (firstFailure_eq_none.2 hdone), eventsOf_append, told, untilFailure,
    hfailed]
  rfl

/-- What is told comes first in the list. -/
theorem told_isPrefix (items : List Item) : told items <+: eventsOf items := by
  cases hf : firstFailure items with
  | none => exact told_of_none hf ▸ List.prefix_rfl
  | some f =>
    obtain ⟨done, failed, left, rfl, -, -, htold⟩ := told_of_some hf
    have hsplit : done ++ failed :: left = done ++ [failed] ++ left := List.append_cons ..
    rw [htold, hsplit, eventsOf_append _ left]
    exact List.prefix_append _ _

/-- What is told of the iterations is told by a turn. -/
theorem Answers.exists_turn_of_mem_told {h : Answers} {k : Kind} {c : Config} {layout : Layout}
    {e : Event} (hmem : e ∈ told (h.items k c layout)) :
    ∃ i < c.iterations, e ∈ (h.turn i).events k c layout i := by
  have hevents := (told_isPrefix _).subset hmem
  rw [items, eventsOf, List.filterMap_flatMap, List.mem_flatMap] at hevents
  obtain ⟨i, hi, hevents⟩ := hevents
  rw [← eventsOf, Turn.eventsOf_items] at hevents
  exact ⟨i, List.mem_range.1 hi, hevents⟩

/-- A call that cannot fail is told. -/
theorem told_cons {e : Event} (he : e.failure = none) (items : List Item) :
    told (.call e :: items) = e :: told items := by
  have hnone : firstFailure [.call e] = none := firstFailure_cons he []
  exact told_append_of_none hnone items

/-- Of many lists one after the other, those before the first failure are told whole. -/
theorem exists_first_failing {f : Nat → List Item} {n : Nat} {e : RunError}
    (h : firstFailure ((List.range n).flatMap f) = some e) :
    ∃ i < n, (∀ j < i, firstFailure (f j) = none) ∧ firstFailure (f i) = some e ∧
      told ((List.range n).flatMap f) =
        (List.range i).flatMap (fun j => eventsOf (f j)) ++ told (f i) := by
  induction n with
  | zero => cases h
  | succ n ih =>
    have hlast : (List.range (n + 1)).flatMap f = (List.range n).flatMap f ++ f n := by
      rw [List.range_succ, List.flatMap_append, List.flatMap_singleton]
    rw [hlast] at h ⊢
    -- Either something fails before the last list, or it is the last list that fails.
    cases hn : firstFailure ((List.range n).flatMap f) with
    | some e' =>
      rw [firstFailure_append, hn, Option.some_or] at h
      obtain ⟨i, hi, hbefore, hfails, htold⟩ := ih (hn.trans h)
      refine ⟨i, Nat.lt_succ_of_lt hi, hbefore, hfails, ?_⟩
      rw [told_append_of_some hn, htold]
    | none =>
      rw [firstFailure_append, hn, Option.none_or] at h
      refine ⟨n, Nat.lt_succ_self n, fun j hj => ?_, h, ?_⟩
      · rw [firstFailure_flatMap, List.findSome?_eq_none_iff] at hn
        exact hn j (List.mem_range.2 hj)
      · rw [told_append_of_none hn, eventsOf, List.filterMap_flatMap]
        rfl

/-! ### Counting events -/

namespace Event

def isIterationStart : Event → Bool
  | progress (.iterationStart ..) => true
  | _ => false

def isIterationEnd : Event → Bool
  | progress (.iterationEnd ..) => true
  | _ => false

def isBenchmark : Event → Bool
  | benchmark _ => true
  | _ => false

/-- Whether an event is a call of the backend. -/
def isCall : Event → Bool
  | benchmark _ => false
  | progress _ => false
  | _ => true

theorem isIterationStart_of_isCall {e : Event} (h : e.isCall) : e.isIterationStart = false := by
  cases e <;> first | rfl | cases h

theorem isIterationEnd_of_isCall {e : Event} (h : e.isCall) : e.isIterationEnd = false := by
  cases e <;> first | rfl | cases h

theorem isBenchmark_of_isCall {e : Event} (h : e.isCall) : e.isBenchmark = false := by
  cases e <;> first | rfl | cases h

end Event

theorem Side.isCall_calls (t : Side) (k : Kind) (slot : Slot) : ∀ e ∈ t.calls k slot, e.isCall := by
  cases k <;> cases slot <;> simp [Side.calls, Event.isCall]

theorem Turn.isCall_readings (t : Turn) (k : Kind) (key : RowKey) :
    ∀ e ∈ t.readings k key, e.isCall := by
  cases k <;> simp [Turn.readings, Event.isCall]

/-- Calls of the backend are not counted. -/
theorem countP_calls {p : Event → Bool} (hp : ∀ e, e.isCall → p e = false) {es : List Event}
    (hes : ∀ e ∈ es, e.isCall) : es.countP p = 0 := by
  rw [List.countP_eq_zero]
  intro e he
  rw [hp e (hes e he)]
  exact Bool.false_ne_true

/-- Nor are they where only the first ones are told. -/
theorem countP_told_calls {p : Event → Bool} (hp : ∀ e, e.isCall → p e = false)
    {items : List Item} (hitems : ∀ e ∈ eventsOf items, e.isCall) : (told items).countP p = 0 :=
  countP_calls hp fun e he => hitems e ((told_isPrefix items).subset he)

/-- Of calls one after the other, one fails first if any does. -/
theorem exists_firstFailure_calls {es : List Event} (h : es.any (·.failure.isSome) = true) :
    ∃ e, firstFailure (es.map .call) = some e := by
  rw [← Option.ne_none_iff_exists']
  intro hnone
  obtain ⟨e, he, hsome⟩ := List.any_eq_true.1 h
  rw [firstFailure_calls.1 hnone e he] at hsome
  cases hsome

theorem firstFailure_calls_of_any {es : List Event} (h : es.any (·.failure.isSome) = false) :
    firstFailure (es.map .call) = none := by
  rw [firstFailure_calls]
  intro e he
  exact Option.not_isSome_iff_eq_none.1 (List.any_eq_false.1 h e he)

theorem countP_flatMap_range {p : Event → Bool} {f : Nat → List Event} (i : Nat)
    (hf : ∀ j < i, (f j).countP p = 1) : ((List.range i).flatMap f).countP p = i := by
  induction i with
  | zero => rfl
  | succ i ih =>
    rw [List.range_succ, List.flatMap_append, List.flatMap_singleton, List.countP_append,
      ih fun j hj => hf j (Nat.lt_succ_of_lt hj), hf i (Nat.lt_succ_self i)]

/-- What there is to do between the start and the end of an iteration. -/
def Turn.inner (t : Turn) (k : Kind) (c : Config) (layout : Layout) : List Item :=
  (t.before.calls k .before).map .call ++
    .call (.benchmark c.param) ::
      ((t.after.calls k .after).map .call ++ layout.rowKeys.flatMap (t.rowItems k))

namespace Turn

variable (t : Turn) (k : Kind) (c : Config) (layout : Layout) (i : Nat)

theorem items_eq : t.items k c layout i = .call (.progress (.iterationStart i c.iterations)) ::
    (t.inner k c layout ++ [.call (.progress (.iterationEnd i c.iterations))]) := by
  simp only [items, bracketItems, inner, List.append_assoc, List.cons_append]

/-- Behind the benchmark call there are only calls of the backend. -/
theorem isCall_behind : ∀ e ∈ eventsOf ((t.after.calls k .after).map .call ++
    layout.rowKeys.flatMap (t.rowItems k)), e.isCall := by
  intro e he
  rw [eventsOf_append, eventsOf_calls, List.mem_append] at he
  rcases he with he | he
  · exact t.after.isCall_calls k .after e he
  · rw [eventsOf, List.filterMap_flatMap, List.mem_flatMap] at he
    obtain ⟨key, -, he⟩ := he
    rw [← eventsOf, eventsOf_rowItems] at he
    exact t.isCall_readings k key e he

/-- The events between the start and the end: calls of the backend, and one of the benchmark. -/
theorem countP_inner {p : Event → Bool} (hp : ∀ e, e.isCall → p e = false) :
    (eventsOf (t.inner k c layout)).countP p = [Event.benchmark c.param].countP p := by
  rw [inner, eventsOf_append, eventsOf_cons, eventsOf_calls, List.countP_append, List.countP_cons,
    countP_calls hp (t.before.isCall_calls k .before), countP_calls hp (t.isCall_behind k layout),
    List.countP_singleton]
  omega

/-- A whole iteration has one start, one benchmark call and one end. -/
theorem countP_events :
    (t.events k c layout i).countP Event.isIterationStart = 1 ∧
      (t.events k c layout i).countP Event.isIterationEnd = 1 ∧
      (t.events k c layout i).countP Event.isBenchmark = 1 := by
  have hevents : t.events k c layout i = .progress (.iterationStart i c.iterations) ::
      (eventsOf (t.inner k c layout) ++ [.progress (.iterationEnd i c.iterations)]) := by
    rw [← eventsOf_items, items_eq, eventsOf_cons, eventsOf_append]
    rfl
  rw [hevents]
  simp only [List.countP_cons, List.countP_append,
    t.countP_inner k c layout fun e => Event.isIterationStart_of_isCall,
    t.countP_inner k c layout fun e => Event.isIterationEnd_of_isCall,
    t.countP_inner k c layout fun e => Event.isBenchmark_of_isCall]
  exact ⟨rfl, rfl, rfl⟩

/-- Up to a failure the benchmark is called once, unless a reading before it failed. -/
theorem countP_benchmark_told : (told (t.inner k c layout)).countP Event.isBenchmark =
    if (t.before.calls k .before).any (·.failure.isSome) then 0 else 1 := by
  have hcalls : ∀ e ∈ eventsOf ((t.before.calls k .before).map .call), e.isCall := by
    rw [eventsOf_calls]
    exact t.before.isCall_calls k .before
  cases hany : (t.before.calls k .before).any (·.failure.isSome) with
  | true =>
    -- Of this side only a part is told, and there is no benchmark call in it.
    obtain ⟨e, he⟩ := exists_firstFailure_calls hany
    rw [if_pos rfl, inner, told_append_of_some he]
    exact countP_told_calls (fun e => Event.isBenchmark_of_isCall) hcalls
  | false =>
    have hnone := firstFailure_calls_of_any hany
    rw [if_neg Bool.false_ne_true, inner, told_append_of_none hnone, told_cons rfl,
      List.countP_append, List.countP_cons,
      countP_calls (fun e => Event.isBenchmark_of_isCall) hcalls,
      countP_told_calls (fun e => Event.isBenchmark_of_isCall) (t.isCall_behind k layout)]
    rfl

/-- An iteration that is cut has a start and no end, and a benchmark call unless it failed
before. -/
theorem countP_told {e : RunError} (h : firstFailure (t.items k c layout i) = some e) :
    (told (t.items k c layout i)).countP Event.isIterationStart = 1 ∧
      (told (t.items k c layout i)).countP Event.isIterationEnd = 0 ∧
      (told (t.items k c layout i)).countP Event.isBenchmark =
        if (t.before.calls k .before).any (·.failure.isSome) then 0 else 1 := by
  have hinner : ∃ e, firstFailure (t.inner k c layout) = some e := by
    rw [items_eq, firstFailure_cons rfl, firstFailure_append] at h
    cases hf : firstFailure (t.inner k c layout) with
    | some e => exact ⟨e, rfl⟩
    | none => rw [hf] at h; cases h
  obtain ⟨e', he'⟩ := hinner
  have htold : told (t.items k c layout i) =
      .progress (.iterationStart i c.iterations) :: told (t.inner k c layout) := by
    rw [items_eq, told_cons rfl, told_append_of_some he']
  -- What is told of the inside is a part of it, so nothing is counted that is not there.
  have hle : ∀ {p : Event → Bool}, (∀ e, e.isCall → p e = false) →
      (told (t.inner k c layout)).countP p ≤ [Event.benchmark c.param].countP p := fun hp =>
    t.countP_inner k c layout hp ▸ (told_isPrefix (t.inner k c layout)).sublist.countP_le
  have hstart := hle fun e => Event.isIterationStart_of_isCall
  have hend := hle fun e => Event.isIterationEnd_of_isCall
  rw [htold, List.countP_cons, List.countP_cons, List.countP_cons, Nat.le_zero.1 hstart,
    Nat.le_zero.1 hend, countP_benchmark_told]
  exact ⟨rfl, rfl, rfl⟩

end Turn

/-! ### The events of a run -/

theorem Kind.isCall_opening (k : Kind) (answer : Except BackendError Unit) :
    ∀ e ∈ k.opening answer, e.isCall := by
  cases k <;> simp [Kind.opening, Event.isCall]

theorem Kind.isCall_closing (k : Kind) (answer : Except BackendError Unit) :
    ∀ e ∈ k.closing answer, e.isCall := by
  cases k <;> simp [Kind.closing, Event.isCall]

namespace Answers

variable {h : Answers} {k : Kind} {c : Config} {layout : Layout}

/-- If the backend refuses, there is nothing else. -/
theorem trace_of_refused {e : BackendError} (hb : h.begun k = .error e) :
    h.trace k c = [.init (.error e)] := by
  rw [trace, hb, List.append_nil]
  cases k with
  | snapshot =>
    rw [begun, Kind.begun] at hb
    cases hinit : h.init with
    | ok _ => rw [hinit] at hb; cases hb
    | error e' =>
      rw [hinit] at hb
      rw [opening, Kind.opening, hinit, Except.error.inj hb]
  | _ => cases hb

/-- If nothing fails in the iterations, they show all of their events. -/
theorem trace_of_succeeds (hb : h.begun k = .ok layout)
    (hturns : ∀ i < c.iterations, (h.turn i).Succeeds k layout) :
    h.trace k c = h.opening k ++ .progress (.runStart c layout) ::
      ((List.range c.iterations).flatMap (fun i => (h.turn i).events k c layout i) ++
        (h.closing k ++ match h.ended k with
          | .ok () => [.progress (.runEnd layout c.iterations (h.recording k layout c.iterations))]
          | .error _ => [])) := by
  have hnone := firstFailure_items.2 hturns
  have htold : told (h.items k c layout) =
      (List.range c.iterations).flatMap fun i => (h.turn i).events k c layout i := by
    rw [told_of_none hnone, items, eventsOf, List.filterMap_flatMap]
    exact congrArg (List.range c.iterations).flatMap
      (funext fun i => (h.turn i).eventsOf_items k c layout i)
  simp only [trace, hb, htold, measured, hnone]
  cases h.ended k <;> rfl

/-- If something fails in an iteration, it is cut there. -/
theorem trace_of_fails {e : RunError} (hb : h.begun k = .ok layout)
    (hf : firstFailure (h.items k c layout) = some e) :
    ∃ i < c.iterations, (∀ j < i, (h.turn j).Succeeds k layout) ∧
      firstFailure ((h.turn i).items k c layout i) = some e ∧
      h.trace k c = h.opening k ++ .progress (.runStart c layout) ::
        ((List.range i).flatMap (fun j => (h.turn j).events k c layout j) ++
          (told ((h.turn i).items k c layout i) ++ h.closing k)) := by
  obtain ⟨i, hi, hbefore, hfails, htold⟩ := exists_first_failing hf
  refine ⟨i, hi, fun j hj => (Turn.firstFailure_eq_none c j).1 (hbefore j hj), hfails, ?_⟩
  rw [funext fun j => (h.turn j).eventsOf_items k c layout j] at htold
  simp only [trace, hb, measured, hf]
  rw [items, htold, epilogue, List.append_nil, List.append_assoc]
  intro r h
  cases h

/-- The events of a run that is cut, counted iteration by iteration. -/
theorem countP_of_cut {p : Event → Bool} {i : Nat} {cut : List Event}
    (htrace : h.trace k c = h.opening k ++ .progress (.runStart c layout) ::
      ((List.range i).flatMap (fun j => (h.turn j).events k c layout j) ++ (cut ++ h.closing k)))
    (hp : ∀ e, e.isCall → p e = false) (hrunStart : p (.progress (.runStart c layout)) = false)
    (hone : ∀ j, ((h.turn j).events k c layout j).countP p = 1) :
    (h.trace k c).countP p = i + cut.countP p := by
  rw [htrace, opening, closing, List.countP_append, List.countP_cons, List.countP_append,
    List.countP_append, hrunStart, countP_flatMap_range i fun j _ => hone j,
    countP_calls hp (k.isCall_opening h.init), countP_calls hp (k.isCall_closing h.shutdown)]
  simp

/-- A run that is cut in an iteration announces this one, does not report it done, and calls the
benchmark in it unless it failed before. -/
theorem counts_of_cut {e : RunError} {i : Nat}
    (hfails : firstFailure ((h.turn i).items k c layout i) = some e)
    (htrace : h.trace k c = h.opening k ++ .progress (.runStart c layout) ::
      ((List.range i).flatMap (fun j => (h.turn j).events k c layout j) ++
        (told ((h.turn i).items k c layout i) ++ h.closing k))) :
    (h.trace k c).countP Event.isIterationStart = i + 1 ∧
      (h.trace k c).countP Event.isIterationEnd = i ∧
      (h.trace k c).countP Event.isBenchmark = i +
        if ((h.turn i).before.calls k .before).any (·.failure.isSome) then 0 else 1 := by
  have hwhole := fun j => (h.turn j).countP_events k c layout j
  obtain ⟨hstart, hend, hbenchmark⟩ := Turn.countP_told _ _ _ _ _ hfails
  refine ⟨?_, ?_, ?_⟩
  · rw [countP_of_cut htrace (fun e => Event.isIterationStart_of_isCall) rfl
      fun j => (hwhole j).1, hstart]
  · rw [countP_of_cut htrace (fun e => Event.isIterationEnd_of_isCall) rfl
      fun j => (hwhole j).2.1, hend]
    rfl
  · rw [countP_of_cut htrace (fun e => Event.isBenchmark_of_isCall) rfl
      fun j => (hwhole j).2.2, hbenchmark]

/-- **A run is broken off** in the first iteration in which something fails, by what fails there. -/
theorem broken_off {e : RunError} {i : Nat} (hb : h.begun k = .ok layout) (hi : i < c.iterations)
    (hfails : firstFailure ((h.turn i).items k c layout i) = some e)
    (hbefore : ∀ j < i, firstFailure ((h.turn j).items k c layout j) = none) :
    (h.outcome k c).result = .error e ∧
      (h.trace k c).countP Event.isIterationStart = i + 1 ∧
      (h.trace k c).countP Event.isBenchmark = i +
        if ((h.turn i).before.calls k .before).any (·.failure.isSome) then 0 else 1 := by
  cases hf : firstFailure (h.items k c layout) with
  | none =>
    have hnone := (Turn.firstFailure_eq_none c i).2 (firstFailure_items.1 hf i hi)
    rw [hfails] at hnone
    cases hnone
  | some e' =>
    obtain ⟨i', hi', hwhole, hfails', htrace⟩ := trace_of_fails hb hf
    -- Before this iteration nothing fails, and behind it nothing is done.
    have hii' : i' = i := by
      rcases Nat.lt_trichotomy i' i with hlt | heq | hgt
      · rw [hbefore i' hlt] at hfails'
        cases hfails'
      · exact heq
      · have hnone := (Turn.firstFailure_eq_none c i).2 (hwhole i hgt)
        rw [hfails] at hnone
        cases hnone
    subst hii'
    obtain rfl : e' = e := Option.some.inj (hfails'.symm.trans hfails)
    obtain ⟨hstart, -, hbenchmark⟩ := counts_of_cut hfails htrace
    refine ⟨?_, hstart, hbenchmark⟩
    rw [result_eq_error, firstFailure_schedule, hb]
    show ((none : Option RunError).or (firstFailure (h.items k c layout))).or _ = some e'
    rw [hf]
    rfl

end Answers

/-- **The protocol of a run.**  Whatever the parties do, the events of a run are those of a table of
answers in one of three ways.

* The backend refuses to begin, and there is nothing else.
* After the beginning listeners are told that the run starts, every iteration shows all of its
  events, the backend is shut down once, and listeners are told of the end if that went well.
* Something fails in iteration `i`.  The iterations before it show all of their events, this one is
  cut behind the failure, and the backend is shut down once.  So `i + 1` iterations were announced
  and `i` were reported done, and the benchmark was called in each of them but for one whose first
  readings failed. -/
theorem Session.run_events (s : Session (StateM σ)) (w : σ) :
    ∃ h : Answers, h.begun s.backend.kind = (s.backend.init w).1 ∧
      ((∃ e, (s.backend.init w).1 = .error e ∧ s.eventsFrom w = [.init (.error e)]) ∨
        ∃ layout, (s.backend.init w).1 = .ok layout ∧
          (((∀ i < s.total, (h.turn i).Succeeds s.backend.kind layout) ∧
              s.eventsFrom w = h.opening s.backend.kind ++ .progress (.runStart s.config layout) ::
                ((List.range s.total).flatMap
                    (fun i => (h.turn i).events s.backend.kind s.config layout i) ++
                  (h.closing s.backend.kind ++ match h.ended s.backend.kind with
                    | .ok () => [.progress (.runEnd layout s.total
                        (h.recording s.backend.kind layout s.total))]
                    | .error _ => []))) ∨
            ∃ i < s.total, ∃ cut, (∀ j < i, (h.turn j).Succeeds s.backend.kind layout) ∧
              (h.turn i).Cut s.backend.kind s.config layout i cut ∧
              s.eventsFrom w = h.opening s.backend.kind ++ .progress (.runStart s.config layout) ::
                ((List.range i).flatMap
                    (fun j => (h.turn j).events s.backend.kind s.config layout j) ++
                  (cut ++ h.closing s.backend.kind)) ∧
              (s.eventsFrom w).countP Event.isIterationStart = i + 1 ∧
              (s.eventsFrom w).countP Event.isIterationEnd = i ∧
              (s.eventsFrom w).countP Event.isBenchmark = i +
                if ((h.turn i).before.calls s.backend.kind .before).any (·.failure.isSome) then 0
                else 1)) := by
  obtain ⟨h, hbegun, -, -, htrace, -⟩ := s.follows_arbitrary.exists_answers (w := w) trivial
  refine ⟨h, hbegun, ?_⟩
  rw [← hbegun, htrace]
  cases hb : h.begun s.backend.kind with
  | error e => exact .inl ⟨e, rfl, Answers.trace_of_refused hb⟩
  | ok layout =>
    refine .inr ⟨layout, rfl, ?_⟩
    cases hf : firstFailure (h.items s.backend.kind s.config layout) with
    | none =>
      have hturns := Answers.firstFailure_items.1 hf
      exact .inl ⟨hturns, Answers.trace_of_succeeds hb hturns⟩
    | some e =>
      obtain ⟨i, hi, hbefore, hfails, htrace⟩ := Answers.trace_of_fails hb hf
      refine .inr ⟨i, hi, told ((h.turn i).items s.backend.kind s.config layout i), hbefore, ?_,
        htrace, Answers.counts_of_cut hfails htrace⟩
      obtain ⟨done, failed, left, hitems, hdone, hfailed, htold⟩ := told_of_some hfails
      exact ⟨done, failed, left, hitems, hdone, Option.isSome_of_eq_some hfailed, htold⟩

end Stopwatch
