import Stopwatch.Proofs.Sending
import Stopwatch.Proofs.RoundTrip

/-!
# What a writer gets of the results

Results are given out to whatever writer there is, which takes as little as it likes at a time and
may refuse at any octet.  What it has received is the front of the rendered text in every case, and
how far it came is told by the result: `Recording.Ends.answer_eq` computes the result from the
refusal that came last and from how much was received before it, and `Recording.Ends.countP_isFlush`
says when the writer is flushed.  `Recording.writeTo_any_writer` puts this together.
-/

namespace Stopwatch

open Exchange (received)

namespace Exchange

/-- The refusal that exchanges ended with. -/
def ending? (xs : List Exchange) : Option String := xs.getLast?.bind refusal?

theorem ending?_concat (xs : List Exchange) (x : Exchange) : ending? (xs ++ [x]) = x.refusal? := by
  rw [ending?, List.getLast?_concat, Option.bind_some]

end Exchange

open Exchange (ending?)

/-! ### Octets that are sent -/

namespace Sends

variable {bytes : List UInt8} {xs : List Exchange} {a : Except String Unit}

theorem received_prefix (h : Sends bytes xs a) : received xs <+: bytes := by
  cases h with
  | all hall => exact hall ▸ List.prefix_rfl
  | refused hpart _ _ htaken =>
    rw [Exchange.received_append, received, received, List.flatMap_singleton, htaken,
      List.append_nil]
    exact hpart

theorem refusal?_eq_none (h : Sends bytes xs (.ok ())) : ∀ x ∈ xs, x.refusal? = none := by
  cases h with
  | all _ hnone => exact hnone

/-- Only the last exchange is a refusal. -/
theorem refusal?_dropLast (h : Sends bytes xs a) : ∀ x ∈ xs.dropLast, x.refusal? = none := by
  cases h with
  | all _ hnone => exact fun x hx => hnone x (List.dropLast_subset _ hx)
  | refused _ hnone =>
    rw [List.dropLast_concat]
    exact hnone

theorem ending?_eq_some {e : String} (h : Sends bytes xs (.error e)) : ending? xs = some e := by
  obtain ⟨done, last, rfl, hlast⟩ := h.exists_last
  rw [Exchange.ending?_concat, hlast]

end Sends

theorem Writes.countP_isFlush {bytes : List UInt8} {xs : List Exchange} {a : Except String Unit}
    (h : Writes bytes xs a) : xs.countP Exchange.isFlush = 0 :=
  List.countP_eq_zero.2 fun x hx => Bool.not_eq_true _ ▸ h.isFlush x hx

/-! ### A document and its newline -/

namespace Recording

namespace Ends

variable {document : List UInt8} {xs : List Exchange} {a : Except OutputError Unit}

/-- The text was refused, within the document or behind it, or it was sent in full before the writer
was asked to flush. -/
theorem writes (h : Ends document xs a) :
    (∃ e, Writes (document ++ octets "\n") xs (.error e) ∧ a ≠ .ok ()) ∨
    ∃ ys b, xs = ys ++ [.flush b] ∧ Writes (document ++ octets "\n") ys (.ok ()) ∧
      a = b.mapError .closing := by
  cases h with
  | within h => exact .inl ⟨_, h.stop, nofun⟩
  | behind h h' => exact .inl ⟨_, h.append h', nofun⟩
  | flushed h => exact .inr ⟨_, _, rfl, h, rfl⟩

theorem received_flush (ys : List Exchange) (b : Except String Unit) :
    received (ys ++ [.flush b]) = received ys := by
  rw [Exchange.received_append]
  exact List.append_nil _

/-- What a writer has received is the front of the document and its newline. -/
theorem received_prefix (h : Ends document xs a) : received xs <+: document ++ octets "\n" := by
  obtain ⟨e, hwrites, -⟩ | ⟨ys, b, rfl, hwrites, -⟩ := h.writes
  · exact hwrites.sends.received_prefix
  · rw [received_flush]
    exact hwrites.sends.received_prefix

/-- Nothing goes on after a refusal. -/
theorem refusal?_dropLast (h : Ends document xs a) : ∀ x ∈ xs.dropLast, x.refusal? = none := by
  obtain ⟨e, hwrites, -⟩ | ⟨ys, b, rfl, hwrites, -⟩ := h.writes
  · exact hwrites.sends.refusal?_dropLast
  · rw [List.dropLast_concat]
    exact hwrites.sends.refusal?_eq_none

/-- **The result tells how far the writer came.**  It is the refusal that came last, told apart by
whether the document had been taken by then. -/
theorem answer_eq (h : Ends document xs a) :
    a = match ending? xs with
      | none => .ok ()
      | some e =>
        .error (if (received xs).length < document.length then .document e else .closing e) := by
  cases h with
  -- A refusal within the document comes before all of it is received, a later one behind that.
  | within h => simp only [h.sends.ending?_eq_some, if_pos (h.length_lt _ rfl)]
  | @behind xs ys e h h' =>
    have hfar : ¬ (received (xs ++ ys)).length < document.length := by
      rw [Exchange.received_append, h.sends.received_eq, List.length_append]
      exact Nat.not_lt.2 (Nat.le_add_right _ _)
    simp only [(h.append h').sends.ending?_eq_some, if_neg hfar]
  | @flushed xs a h =>
    have hfar : ¬ (received (xs ++ [.flush a])).length < document.length := by
      rw [received_flush, h.sends.received_eq, List.length_append]
      exact Nat.not_lt.2 (Nat.le_add_right _ _)
    simp only [Exchange.ending?_concat, if_neg hfar]
    cases a <;> rfl

/-- **A writer is flushed once**, when it has taken the whole text, and else not at all. -/
theorem countP_isFlush (h : Ends document xs a) :
    xs.countP Exchange.isFlush = if received xs = document ++ octets "\n" then 1 else 0 := by
  obtain ⟨e, hwrites, -⟩ | ⟨ys, b, rfl, hwrites, -⟩ := h.writes
  -- A refusal before the flush leaves some of the text unsent, the newline at least.
  · have hpart : received xs ≠ document ++ octets "\n" := fun hall =>
      absurd (hwrites.length_lt e rfl) (hall ▸ Nat.lt_irrefl _)
    rw [if_neg hpart, hwrites.countP_isFlush]
  · rw [received_flush, if_pos hwrites.sends.received_eq, List.countP_append,
      hwrites.countP_isFlush]
    rfl

theorem ok_iff (h : Ends document xs a) :
    a = .ok () ↔ received xs = document ++ octets "\n" ∧ .flush (.ok ()) ∈ xs := by
  obtain ⟨e, hwrites, ha⟩ | ⟨ys, b, rfl, hwrites, rfl⟩ := h.writes
  · refine ⟨fun hok => absurd hok ha, fun ⟨_, hflush⟩ => ?_⟩
    exact absurd (hwrites.isFlush _ hflush) (Bool.false_ne_true ∘ Eq.symm)
  · rw [received_flush, and_iff_right hwrites.sends.received_eq]
    have hflush : .flush (.ok ()) ∈ ys ++ [.flush b] ↔ b = .ok () := by
      refine ⟨fun hmem => ?_, fun hb => List.mem_append_right _ (hb ▸ List.mem_cons_self)⟩
      rcases List.mem_append.1 hmem with hmem | hmem
      · exact absurd (hwrites.isFlush _ hmem) (Bool.false_ne_true ∘ Eq.symm)
      · exact (Exchange.flush.inj (List.mem_singleton.1 hmem)).symm
    rw [hflush]
    cases b with
    | ok => exact iff_of_true rfl rfl
    | error => exact iff_of_false nofun nofun

theorem ok_iff_ending? (h : Ends document xs a) : a = .ok () ↔ ending? xs = none := by
  rw [h.answer_eq]
  cases ending? xs with
  | none => exact iff_of_true rfl rfl
  | some e => exact iff_of_false nofun nofun

theorem document_iff (h : Ends document xs a) (e : String) :
    a = .error (.document e) ↔ ending? xs = some e ∧ (received xs).length < document.length := by
  rw [h.answer_eq]
  cases ending? xs with
  | none => simp
  | some e' => by_cases hwithin : (received xs).length < document.length <;> simp [hwithin]

theorem closing_iff (h : Ends document xs a) (e : String) :
    a = .error (.closing e) ↔ ending? xs = some e ∧ document <+: received xs := by
  have hfar : document <+: received xs ↔ ¬ (received xs).length < document.length := by
    rw [Nat.not_lt]
    exact ⟨List.IsPrefix.length_le,
      List.prefix_of_prefix_length_le (List.prefix_append _ _) h.received_prefix⟩
  rw [hfar, h.answer_eq]
  cases ending? xs with
  | none => simp
  | some e' => by_cases hwithin : (received xs).length < document.length <;> simp [hwithin]

end Ends

variable {σ : Type} {layout : Layout} {n : Nat}

/-- **Whatever the writer, it gets the front of the text, and the result tells how far it came**, in
whatever pieces the serializer `z` hands the document over.  Let `xs` be the exchanges with the
writer, and `a` the answer of `writeTo`; noting the exchanges changes neither `a` nor the state.

* If the shape does not fit, `xs` is empty and `a` says that it is unrepresentable.
* If it fits, the writer has received a front of the rendered text, and only the last exchange is a
  refusal.
* `a` is `.ok ()` if and only if `xs` does not end with a refusal, and if and only if the whole text
  was received and the flush went well.
* `a` is `.document e` if and only if `xs` ends with the refusal `e` before all of the document was
  received, and `.closing e` if and only if it ends with `e` behind that.
* The writer is flushed once if it has received the whole text, and else not at all. -/
theorem writeTo_any_writer (z : Serializer) (w : Writer (StateM σ)) (r : Recording layout n)
    (shape : Shape) (s : σ) :
    let noted := r.writeTo shape (w.noted id) z ⟨s, []⟩
    let xs := noted.2.notes
    let a := (r.writeTo shape w z s).1
    noted.1 = a ∧ noted.2.state = (r.writeTo shape w z s).2 ∧
    (¬ shape.Fits layout → xs = [] ∧
      ∃ reason, r.writeTo shape w z s = (.error (.unrepresentable shape.name reason), s)) ∧
    (shape.Fits layout → ∃ d, Document.ofRecording r shape = .ok d ∧
      r.render shape z = .ok (z.text d ++ "\n") ∧
      received xs <+: octets (z.text d ++ "\n") ∧
      (∀ x ∈ xs.dropLast, x.refusal? = none) ∧
      (a = .ok () ↔ ending? xs = none) ∧
      (a = .ok () ↔ received xs = octets (z.text d ++ "\n") ∧ .flush (.ok ()) ∈ xs) ∧
      (∀ e, a = .error (.document e) ↔
        ending? xs = some e ∧ (received xs).length < (octets (z.text d)).length) ∧
      (∀ e, a = .error (.closing e) ↔ ending? xs = some e ∧ octets (z.text d) <+: received xs) ∧
      xs.countP Exchange.isFlush = if received xs = octets (z.text d ++ "\n") then 1 else 0) := by
  intro noted xs a
  obtain ⟨hanswer, hstate⟩ := (related_noted (ε := Exchange) id w).writeTo r shape z ⟨s, []⟩
  refine ⟨hanswer, hstate, fun hfits => ?_, fun hfits => ?_⟩
  · obtain ⟨reason, hrender⟩ := r.render_of_not_fits hfits z
    refine ⟨?_, reason, ?_⟩
    · show (r.writeTo shape (w.noted id) z ⟨s, []⟩).2.notes = []
      rw [r.writeTo_of_error shape _ hrender]
      rfl
    · rw [r.writeTo_of_error shape w hrender]
      rfl
  · obtain ⟨text, hrender⟩ := r.exists_render_of_fits hfits z
    obtain ⟨d, hd, rfl⟩ := exists_document_of_render hrender
    obtain ⟨ys, hys, hends⟩ := notes_writeTo_of_document w hd z ⟨s, []⟩
    -- There are no notes before `writeTo`, so its exchanges are all of them.
    have hxs : xs = ys := hys.trans ((List.nil_append _).trans (List.map_id _))
    rw [← hxs, hanswer] at hends
    refine ⟨d, hd, hrender, ?_⟩
    rw [octets_append]
    exact ⟨hends.received_prefix, hends.refusal?_dropLast, hends.ok_iff_ending?,
      hends.ok_iff, hends.document_iff, hends.closing_iff, hends.countP_isFlush⟩

end Recording

end Stopwatch
