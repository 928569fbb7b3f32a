import Stopwatch.Proofs.Answers

/-!
# Telling what happens

`Tells P x Q` is a triple for computations that are watched: from a state with `P`, the computation
`x` adds events to the log, and `Q` holds of the events added, of the answer, and of the state at
the end.  `Performed` ties the events and the answer of a step to a list of things to do: the events
are those of the list up to its first failure, and that failure, if there is one, is the answer.

The rules follow the ways in which a run is put together.
-/

namespace Stopwatch

variable {σ α β : Type}

/-- From every state with `P`, `x` adds some events to the log, and `Q` holds of these, of the
answer and of the state at the end. -/
def Tells (P : σ → Prop) (x : StateM (Watched σ) α) (Q : List Event → α → σ → Prop) : Prop :=
  ∀ w, P w.state → ∃ es, (x w).2.events = w.events ++ es ∧ Q es (x w).1 (x w).2.state

/-- The events `es` are those of `items` up to the first failure.  That failure is the answer `a`,
or there is none and `Q` holds of the answer. -/
def Performed (items : List Item) (es : List Event) (a : Except RunError α) (Q : α → Prop) : Prop :=
  es = told items ∧
    match firstFailure items with
    | some e => a = .error e
    | none => ∃ v, a = .ok v ∧ Q v

/-! ### Rules for `Tells` -/

namespace Tells

variable {P : σ → Prop} {Q : List Event → α → σ → Prop}

theorem weaken {Q' : List Event → α → σ → Prop} {x : StateM (Watched σ) α} (h : Tells P x Q)
    (hQ : ∀ es a w, Q es a w → Q' es a w) : Tells P x Q' := by
  intro w hw
  obtain ⟨es, hes, h⟩ := h w hw
  exact ⟨es, hes, hQ _ _ _ h⟩

/-- If for each state with `P` there is some `P'` of it from which `x` tells `Q`, `x` tells it from
`P`. -/
theorem from_each {x : StateM (Watched σ) α}
    (h : ∀ w, P w → ∃ P' : σ → Prop, P' w ∧ Tells P' x Q) : Tells P x Q := by
  intro w hw
  obtain ⟨P', hw', hx⟩ := h w.state hw
  exact hx w hw'

theorem of_pure {a : α} (h : ∀ w, P w → Q [] a w) : Tells P (pure a) Q := by
  intro w hw
  exact ⟨[], (List.append_nil _).symm, h _ hw⟩

theorem of_watch {event : α → Event} {x : StateM σ α}
    (h : ∀ w, P w → Q [event (x w).1] (x w).1 (x w).2) : Tells P (watch event x) Q := by
  intro w hw
  exact ⟨_, rfl, h _ hw⟩

theorem bind {R : List Event → β → σ → Prop} {x : StateM (Watched σ) β}
    {f : β → StateM (Watched σ) α} (hx : Tells P x R)
    (hf : ∀ es b, Tells (R es b) (f b) fun es' a w => Q (es ++ es') a w) : Tells P (x >>= f) Q := by
  intro w hw
  obtain ⟨es, hes, hR⟩ := hx w hw
  obtain ⟨es', hes', hQ⟩ := hf es _ _ hR
  refine ⟨es ++ es', ?_, hQ⟩
  show (f (x w).1 (x w).2).2.events = w.events ++ (es ++ es')
  rw [hes', hes, List.append_assoc]

/-- A step `x` with `R` is followed by `f` after an answer, and by nothing after a failure. -/
theorem step {Q : List Event → Except RunError α → σ → Prop}
    {R : List Event → Except RunError β → σ → Prop}
    {x : Session.Step (StateM (Watched σ)) β} {f : β → Session.Step (StateM (Watched σ)) α}
    (hx : Tells P x.run R)
    (hok : ∀ es b, Tells (R es (.ok b)) (f b).run fun es' a w => Q (es ++ es') a w)
    (herror : ∀ es e w, R es (.error e) w → Q es (.error e) w) : Tells P (x >>= f).run Q := by
  show Tells P (x.run >>= ExceptT.bindCont f) Q
  refine Tells.bind hx fun es b => ?_
  cases b with
  | ok b => exact hok es b
  | error e =>
    -- What comes behind is skipped, so no events are added.
    refine Tells.of_pure fun w hw => ?_
    rw [List.append_nil]
    exact herror es e w hw

/-- A watched `x` adds its event in front of those of `f`. -/
theorem bind_watch (event : β → Event) {x : StateM σ β} {f : β → StateM (Watched σ) α}
    {R : β → σ → Prop} (hx : ∀ w, P w → R (x w).1 (x w).2)
    (hf : ∀ b, Tells (R b) (f b) fun es a w => Q (event b :: es) a w) :
    Tells P (watch event x >>= f) Q := by
  intro w hw
  obtain ⟨es, hes, hQ⟩ :=
    hf (x w.state).1 ⟨(x w.state).2, w.events ++ [event (x w.state).1]⟩ (hx _ hw)
  refine ⟨event (x w.state).1 :: es, ?_, hQ⟩
  rw [List.append_assoc, List.singleton_append] at hes
  exact hes

/-- `bind_watch` for a step that cannot fail. -/
theorem step_watch {Q : List Event → Except RunError α → σ → Prop} (event : β → Event)
    {x : StateM σ β} {f : β → Session.Step (StateM (Watched σ)) α} {R : β → σ → Prop}
    (hx : ∀ w, P w → R (x w).1 (x w).2)
    (hf : ∀ b, Tells (R b) (f b).run fun es a w => Q (event b :: es) a w) :
    Tells P (ExceptT.lift (watch event x) >>= f).run Q :=
  bind_watch event hx hf

/-- A step whose answer `v` is known beforehand adds nothing and goes on. -/
theorem of_answer {Q : List Event → Except RunError α → σ → Prop} {x : Except RunError β}
    {f : β → Session.Step (StateM (Watched σ)) α} {v : β} (hx : x = .ok v)
    (hf : Tells P (f v).run Q) : Tells P (ExceptT.mk (pure x) >>= f).run Q := by
  rw [hx]
  exact hf

/-- A step whose failure `e` is known beforehand adds nothing and ends there. -/
theorem of_failure {Q : List Event → Except RunError α → σ → Prop} {x : Except RunError β}
    {f : β → Session.Step (StateM (Watched σ)) α} {e : RunError} (hx : x = .error e)
    (he : ∀ w, P w → Q [] (.error e) w) : Tells P (ExceptT.mk (pure x) >>= f).run Q := by
  rw [hx]
  exact Tells.of_pure he

end Tells

/-! ### Rules for `Performed` -/

namespace Performed

variable {xs ys : List Item} {es es' : List Event} {Q : α → Prop} {R : β → Prop} {v : α}

theorem nil (h : Q v) : Performed [] [] (.ok v) Q := ⟨rfl, v, rfl, h⟩

theorem firstFailure_of_error {e : RunError}
    (h : Performed xs es (.error e : Except RunError α) Q) : firstFailure xs = some e := by
  obtain ⟨-, h⟩ := h
  cases hxs : firstFailure xs with
  | some e' =>
    rw [hxs] at h
    exact congrArg some (Except.error.inj h).symm
  | none =>
    rw [hxs] at h
    obtain ⟨v, hv, -⟩ := h
    cases hv

theorem firstFailure_of_ok (h : Performed xs es (.ok v) Q) : firstFailure xs = none := by
  obtain ⟨-, h⟩ := h
  cases hxs : firstFailure xs with
  | some e => rw [hxs] at h; cases h
  | none => rfl

theorem post (h : Performed xs es (.ok v) Q) : Q v := by
  have hnone := h.firstFailure_of_ok
  obtain ⟨-, h⟩ := h
  rw [hnone] at h
  obtain ⟨v', hv, hQ⟩ := h
  cases hv
  exact hQ

theorem of_error {e : RunError} (hes : es = told xs) (h : firstFailure xs = some e) :
    Performed xs es (.error e) Q := by
  refine ⟨hes, ?_⟩
  rw [h]

theorem of_ok (hes : es = told xs) (h : firstFailure xs = none) (hQ : Q v) :
    Performed xs es (.ok v) Q := by
  refine ⟨hes, ?_⟩
  rw [h]
  exact ⟨v, rfl, hQ⟩

theorem imp {Q' : α → Prop} {a : Except RunError α} (h : Performed xs es a Q)
    (hQ : ∀ v, Q v → Q' v) : Performed xs es a Q' := by
  refine ⟨h.1, ?_⟩
  obtain ⟨-, h⟩ := h
  cases hxs : firstFailure xs with
  | some e => rw [hxs] at h; exact h
  | none =>
    rw [hxs] at h
    obtain ⟨v, hv, hq⟩ := h
    exact ⟨v, hv, hQ v hq⟩

/-- If `xs` failed, `xs ++ ys` failed with the same events and the same error. -/
theorem append_error {e : RunError} (h : Performed xs es (.error e : Except RunError α) Q)
    (ys : List Item) : Performed (xs ++ ys) es (.error e : Except RunError β) R := by
  have hsome := h.firstFailure_of_error
  refine of_error ?_ ?_
  · rw [told_append_of_some hsome, h.1]
  · rw [firstFailure_append, hsome, Option.some_or]

/-- If `xs` went well and then `ys` was done, `xs ++ ys` was done. -/
theorem append_ok {a : Except RunError β} (h : Performed xs es (.ok v) Q)
    (h' : Performed ys es' a R) : Performed (xs ++ ys) (es ++ es') a R := by
  have hnone := h.firstFailure_of_ok
  refine ⟨?_, ?_⟩
  · rw [told_append_of_none hnone, h.1, h'.1, told_of_none hnone]
  · rw [firstFailure_append, hnone, Option.none_or]
    exact h'.2

/-- A call without a failure may be put in front. -/
theorem call {a : Except RunError β} {e : Event} (he : e.failure = none)
    (h : Performed ys es a R) : Performed (.call e :: ys) (e :: es) a R := by
  have hnone : firstFailure [Item.call e] = none := firstFailure_cons he []
  have hfirst : Performed [Item.call e] [e] (.ok ()) fun _ => True :=
    of_ok (told_of_none hnone).symm hnone trivial
  exact hfirst.append_ok h

/-- A delta that is rejected is a failure without events. -/
theorem delta_error (key : RowKey) (e : RunError) :
    Performed [.delta key (.error e)] [] (.error e : Except RunError Unit) fun _ => True :=
  ⟨rfl, rfl⟩

/-- A delta that is accepted has no events. -/
theorem delta_ok (key : RowKey) (d : Double) :
    Performed [.delta key (.ok d)] [] (.ok ()) fun _ => True := ⟨rfl, (), rfl, trivial⟩

end Performed

end Stopwatch
