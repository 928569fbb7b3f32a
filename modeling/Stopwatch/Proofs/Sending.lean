import Stopwatch.Document
import Stopwatch.Proofs.Relation

/-!
# What is sent to a writer

An `Exchange` is one thing that passes between a program and a writer, with the writer's answer.
The octets that a writer has received are those that it said it took (`Exchange.received`).

Whatever the writer does, sending octets to it comes to one of two ends (`Sends`): it has received
all of them and refused nothing, or it has received those in front, and the last exchange is its
refusal.  It is sent octets by writes alone, and there are some left when it refuses (`Writes`).
This is preserved by sending more (`Writes.append`), so that it holds of a whole text
(`notes_writePieces`); with the newline and the flush behind the text, the results are given out in
one of three ways (`Recording.Ends`).

The exchanges are noted beside the state of the writer, among whatever else is noted there.  Writing
respects every relation between monads, and so is not influenced by the notes.
-/

namespace Stopwatch

/-- What passes between a program and a writer, with the answer. -/
inductive Exchange
  | write (offered : List UInt8) (answer : Except String Nat)
  | flush (answer : Except String Unit)

namespace Exchange

/-- The octets that the writer took. -/
def taken : Exchange → List UInt8
  | write offered (.ok k) => offered.take k
  | _ => []

/-- Why the writer went no further.  To take nothing of what is offered is a refusal as well. -/
def refusal? : Exchange → Option String
  | write _ (.error e) => some e
  | write _ (.ok 0) => some "failed to write whole buffer"
  | write _ (.ok (_ + 1)) => none
  | flush (.error e) => some e
  | flush (.ok ()) => none

def isFlush : Exchange → Bool
  | write .. => false
  | flush _ => true

/-- The octets that a writer has received in some exchanges. -/
def received (xs : List Exchange) : List UInt8 := xs.flatMap taken

theorem received_append (xs ys : List Exchange) :
    received (xs ++ ys) = received xs ++ received ys :=
  List.flatMap_append

end Exchange

open Exchange (received)

/-! ### Sending octets -/

/-- The exchanges of sending `bytes`: the writer has received all of them and refused nothing, or it
has received those in front, and the last exchange is its refusal. -/
inductive Sends (bytes : List UInt8) : List Exchange → Except String Unit → Prop
  | all {xs : List Exchange} (hall : received xs = bytes) (hnone : ∀ x ∈ xs, x.refusal? = none) :
    Sends bytes xs (.ok ())
  | refused {xs : List Exchange} {last : Exchange} {e : String} (hpart : received xs <+: bytes)
    (hnone : ∀ x ∈ xs, x.refusal? = none) (hlast : last.refusal? = some e)
    (htaken : last.taken = []) : Sends bytes (xs ++ [last]) (.error e)

namespace Sends

variable {bytes more : List UInt8} {xs ys : List Exchange} {a : Except String Unit}

theorem refused_at_once {x : Exchange} {e : String} (h : x.refusal? = some e)
    (htaken : x.taken = []) : Sends bytes [x] (.error e) := by
  have hsends : Sends bytes ([] ++ [x]) (.error e) :=
    .refused List.nil_prefix (fun _ h => absurd h List.not_mem_nil) h htaken
  exact hsends

theorem nothing : Sends [] [] (.ok ()) := .all rfl fun _ h => absurd h List.not_mem_nil

theorem received_eq (h : Sends bytes xs (.ok ())) : received xs = bytes := by
  cases h with
  | all hall => exact hall

theorem exists_last {e : String} (h : Sends bytes xs (.error e)) :
    ∃ done last, xs = done ++ [last] ∧ last.refusal? = some e := by
  cases h with
  | @refused xs last _ _ _ hlast => exact ⟨xs, last, rfl, hlast⟩

/-- Behind `bytes` that were all taken, the exchanges of sending `more` are added. -/
theorem append (h : Sends bytes xs (.ok ())) (h' : Sends more ys a) :
    Sends (bytes ++ more) (xs ++ ys) a := by
  cases h with
  | all hall hnone =>
    have hboth : ∀ {zs : List Exchange}, (∀ x ∈ zs, x.refusal? = none) →
        ∀ x ∈ xs ++ zs, x.refusal? = none := fun hzs x hx =>
      (List.mem_append.1 hx).elim (hnone x) (hzs x)
    cases h' with
    | all hall' hnone' =>
      exact .all (by rw [Exchange.received_append, hall, hall']) (hboth hnone')
    | refused hpart hnone' hlast htaken =>
      rw [← List.append_assoc]
      refine .refused ?_ (hboth hnone') hlast htaken
      rw [Exchange.received_append, hall]
      exact (List.prefix_append_right_inj bytes).2 hpart

/-- A refusal of `bytes` is one of `bytes ++ more`, of which nothing more is sent. -/
theorem stop {e : String} (h : Sends bytes xs (.error e)) :
    Sends (bytes ++ more) xs (.error e) := by
  cases h with
  | refused hpart hnone hlast htaken =>
    exact .refused (hpart.trans (List.prefix_append bytes more)) hnone hlast htaken

end Sends

/-- The exchanges `Sends` allows, if they are writes only, and a refusal leaves some octets. -/
structure Writes (bytes : List UInt8) (xs : List Exchange) (a : Except String Unit) : Prop where
  sends : Sends bytes xs a
  isFlush : ∀ x ∈ xs, x.isFlush = false
  length_lt : ∀ e, a = .error e → (received xs).length < bytes.length

namespace Writes

variable {bytes more : List UInt8} {xs ys : List Exchange} {a : Except String Unit}

theorem nothing : Writes [] [] (.ok ()) :=
  ⟨.nothing, fun _ h => absurd h List.not_mem_nil, fun _ h => nomatch h⟩

/-- A first write that is refused leaves at least one octet. -/
theorem refused_at_once {b : UInt8} {offered : List UInt8} {answer : Except String Nat} {e : String}
    (h : (Exchange.write offered answer).refusal? = some e)
    (htaken : (Exchange.write offered answer).taken = []) :
    Writes (b :: bytes) [.write offered answer] (.error e) := by
  refine ⟨.refused_at_once h htaken, fun x hx => List.mem_singleton.1 hx ▸ rfl, fun _ _ => ?_⟩
  rw [received, List.flatMap_singleton, htaken]
  exact Nat.succ_pos _

/-- `Sends.append` for writes. -/
theorem append (h : Writes bytes xs (.ok ())) (h' : Writes more ys a) :
    Writes (bytes ++ more) (xs ++ ys) a := by
  refine ⟨h.sends.append h'.sends, fun x hx => ?_, fun e he => ?_⟩
  · exact (List.mem_append.1 hx).elim (h.isFlush x) (h'.isFlush x)
  · rw [Exchange.received_append, h.sends.received_eq, List.length_append, List.length_append]
    exact Nat.add_lt_add_left (h'.length_lt e he) _

/-- `Sends.stop` for writes. -/
theorem stop {e : String} (h : Writes bytes xs (.error e)) :
    Writes (bytes ++ more) xs (.error e) := by
  refine ⟨h.sends.stop, h.isFlush, fun e' he' => ?_⟩
  rw [List.length_append]
  exact Nat.lt_add_right _ (h.length_lt e' he')

end Writes

/-! ### Noting the exchanges -/

/-- A state, and what was noted beside it. -/
structure Noted (σ ε : Type) where
  state : σ
  notes : List ε := []

variable {σ ε α β : Type}

/-- Do `x` and note its answer. -/
def noting (note : α → ε) (x : StateM σ α) : StateM (Noted σ ε) α := fun o =>
  ((x o.state).1, ⟨(x o.state).2, o.notes ++ [note (x o.state).1]⟩)

/-- Do `x` without a note. -/
def unnoted (x : StateM σ α) : StateM (Noted σ ε) α := fun o =>
  ((x o.state).1, ⟨(x o.state).2, o.notes⟩)

/-- A writer whose exchanges are noted. -/
def Writer.noted (note : Exchange → ε) (w : Writer (StateM σ)) : Writer (StateM (Noted σ ε)) where
  write bytes := noting (fun a => note (.write bytes a)) (w.write bytes)
  flush := noting (fun a => note (.flush a)) w.flush

/-- Whatever is noted before, `x` adds the notes of some exchanges, and `Q` holds of these and of
the answer. -/
def Notes (note : Exchange → ε) (x : StateM (Noted σ ε) α) (Q : List Exchange → α → Prop) : Prop :=
  ∀ o, ∃ xs : List Exchange, (x o).2.notes = o.notes ++ xs.map note ∧ Q xs (x o).1

namespace Notes

variable {note : Exchange → ε} {Q : List Exchange → α → Prop}

theorem of_pure {a : α} (h : Q [] a) : Notes note (pure a : StateM (Noted σ ε) α) Q :=
  fun _ => ⟨[], (List.append_nil _).symm, h⟩

theorem of_noting {f : α → Exchange} {x : StateM σ α} (h : ∀ a, Q [f a] a) :
    Notes note (noting (fun a => note (f a)) x) Q :=
  fun o => ⟨[f (x o.state).1], rfl, h _⟩

theorem bind {R : List Exchange → β → Prop} {x : StateM (Noted σ ε) β}
    {f : β → StateM (Noted σ ε) α} (hx : Notes note x R)
    (hf : ∀ xs b, R xs b → Notes note (f b) fun ys a => Q (xs ++ ys) a) :
    Notes note (x >>= f) Q := by
  intro o
  obtain ⟨xs, hxs, hR⟩ := hx o
  obtain ⟨ys, hys, hQ⟩ := hf xs _ hR (x o).2
  refine ⟨xs ++ ys, ?_, hQ⟩
  show (f (x o).1 (x o).2).2.notes = o.notes ++ (xs ++ ys).map note
  rw [hys, hxs, List.map_append, List.append_assoc]

theorem imp {Q' : List Exchange → α → Prop} {x : StateM (Noted σ ε) α} (h : Notes note x Q)
    (hQ : ∀ xs a, Q xs a → Q' xs a) : Notes note x Q' := by
  intro o
  obtain ⟨xs, hxs, h⟩ := h o
  exact ⟨xs, hxs, hQ xs _ h⟩

end Notes

section Writer

variable {note : Exchange → ε} (w : Writer (StateM σ))

/-- **Octets are sent until all are taken**, or up to a refusal: the notes of `writeAll` are
`Writes`. -/
theorem notes_writeAll (bytes : List UInt8) :
    Notes note ((w.noted note).writeAll bytes) (Writes bytes) := by
  -- Each write offers all octets that are left, and the rest goes on behind those that it took.
  fun_induction Writer.writeAll (w.noted note) bytes with
  | case1 => exact .of_pure .nothing
  | case2 b bytes ih =>
    refine Notes.bind (R := fun xs a => xs = [.write (b :: bytes) a]) (.of_noting fun _ => rfl) ?_
    rintro xs a rfl
    cases a with
    | error e => exact .of_pure (.refused_at_once rfl rfl)
    | ok k =>
      cases k with
      | zero => exact .of_pure (.refused_at_once rfl rfl)
      | succ k =>
        have hfirst : Writes (b :: bytes.take k) [.write (b :: bytes) (.ok (k + 1))] (.ok ()) :=
          ⟨.all (by simp [received, Exchange.taken]) fun x hx => List.mem_singleton.1 hx ▸ rfl,
            fun x hx => List.mem_singleton.1 hx ▸ rfl, fun _ h => nomatch h⟩
        refine (ih k).imp fun ys a hys => ?_
        have hboth := hfirst.append hys
        rwa [List.cons_append, List.take_append_drop] at hboth

/-- **Texts are sent one after the other**: the notes of `writePieces` are `Writes` of the octets of
all pieces. -/
theorem notes_writePieces (pieces : List String) :
    Notes note ((w.noted note).writePieces pieces) (Writes (pieces.flatMap octets)) := by
  induction pieces with
  | nil => exact .of_pure .nothing
  | cons s pieces ih =>
    rw [Writer.writePieces, List.flatMap_cons]
    refine Notes.bind (notes_writeAll w (octets s)) fun xs a hxs => ?_
    cases a with
    | error e =>
      refine .of_pure ?_
      rw [List.append_nil]
      exact hxs.stop
    | ok => exact ih.imp fun ys a hys => hxs.append hys

end Writer

/-! ### Giving out results -/

theorem octets_append (s t : String) : octets (s ++ t) = octets s ++ octets t := by
  simp [octets]

theorem octets_join (pieces : List String) :
    octets (String.join pieces) = pieces.flatMap octets := by
  induction pieces with
  | nil => rfl
  | cons s pieces ih => rw [String.join_cons, octets_append, ih, List.flatMap_cons]

namespace Recording

variable {layout : Layout} {n : Nat}

/-- The text is sent, and then the writer is flushed; a refusal is passed on as that of the document
or of its end. -/
inductive Delivers (text : String) : List Exchange → Except OutputError Unit → Prop
  | all {xs : List Exchange} (h : Sends (octets text) xs (.ok ())) :
    Delivers text (xs ++ [.flush (.ok ())]) (.ok ())
  | refused {xs : List Exchange} {e : String} {error : OutputError}
    (h : Sends (octets text) xs (.error e)) (herror : error = .document e ∨ error = .closing e) :
    Delivers text xs (.error error)

/-- How a document and the newline behind it are given out: up to a refusal within the document, up
to a refusal of the newline, or in full, with the writer asked to flush. -/
inductive Ends (document : List UInt8) : List Exchange → Except OutputError Unit → Prop
  | within {xs : List Exchange} {e : String} (h : Writes document xs (.error e)) :
    Ends document xs (.error (.document e))
  | behind {xs ys : List Exchange} {e : String} (h : Writes document xs (.ok ()))
    (h' : Writes (octets "\n") ys (.error e)) : Ends document (xs ++ ys) (.error (.closing e))
  | flushed {xs : List Exchange} {a : Except String Unit}
    (h : Writes (document ++ octets "\n") xs (.ok ())) :
    Ends document (xs ++ [.flush a]) (a.mapError .closing)

theorem Ends.delivers {text : String} {xs : List Exchange} {a : Except OutputError Unit}
    (h : Ends (octets text) xs a) : Delivers (text ++ "\n") xs a := by
  cases h with
  | within h =>
    refine .refused ?_ (.inl rfl)
    rw [octets_append]
    exact h.sends.stop
  | behind h h' =>
    refine .refused ?_ (.inr rfl)
    rw [octets_append]
    exact h.sends.append h'.sends
  | @flushed xs a h =>
    rw [← octets_append] at h
    cases a with
    | ok => exact .all h.sends
    | error e =>
      -- All octets are taken, and then the flush is refused.
      have hflush : Sends [] [.flush (.error e)] (.error e) := .refused_at_once rfl rfl
      have hrefused := h.sends.append hflush
      rw [List.append_nil] at hrefused
      exact .refused hrefused (.inr rfl)

theorem exists_document_of_render {r : Recording layout n} {shape : Shape} {z : Serializer}
    {text : String} (h : r.render shape z = .ok text) :
    ∃ d, Document.ofRecording r shape = .ok d ∧ text = z.text d ++ "\n" := by
  unfold render at h
  cases hd : Document.ofRecording r shape with
  | error e => rw [hd] at h; cases h
  | ok d =>
    rw [hd] at h
    exact ⟨d, rfl, (Except.ok.inj h).symm⟩

/-- **A document is given out in one of three ways**, with a newline behind it. -/
theorem notes_writeTo_of_document {σ ε : Type} {note : Exchange → ε} (w : Writer (StateM σ))
    {r : Recording layout n} {shape : Shape} {d : Document}
    (hd : Document.ofRecording r shape = .ok d) (z : Serializer) :
    Notes note (r.writeTo shape (w.noted note) z) (Ends (octets (z.text d))) := by
  have htext : octets (z.text d) = (z.pieces d).flatMap octets := by
    rw [Serializer.text, ← z.join_pieces, octets_join]
  rw [writeTo, hd, htext]
  -- The three constructors of `Ends` say at which of the three steps there is a refusal, if any.
  refine Notes.bind (notes_writePieces w (z.pieces d)) fun xs a hxs => ?_
  cases a with
  | error e =>
    refine .of_pure ?_
    rw [List.append_nil]
    exact .within hxs
  | ok =>
    refine Notes.bind (notes_writeAll w (octets "\n")) fun ys a hys => ?_
    cases a with
    | error e =>
      refine .of_pure ?_
      rw [List.append_nil]
      exact .behind hxs hys
    | ok =>
      refine Notes.bind (R := fun zs a => zs = [.flush a]) (.of_noting fun _ => rfl) ?_
      rintro zs a rfl
      have hflushed := Ends.flushed (a := a) (hxs.append hys)
      rw [List.append_assoc] at hflushed
      cases a <;> exact .of_pure hflushed

/-- **Results are given out in full** and flushed, or up to a refusal: the notes of `writeTo` are as
`Delivers` says of the rendered text. -/
theorem notes_writeTo {σ ε : Type} {note : Exchange → ε} (w : Writer (StateM σ))
    (r : Recording layout n) (shape : Shape) {z : Serializer} {text : String}
    (h : r.render shape z = .ok text) :
    Notes note (r.writeTo shape (w.noted note) z) (Delivers text) := by
  obtain ⟨d, hd, rfl⟩ := exists_document_of_render h
  exact (notes_writeTo_of_document w hd z).imp fun _ _ => Ends.delivers

/-- If there is no rendering, its error is the answer, and the writer is not touched. -/
theorem writeTo_of_error {m : Type → Type} [Monad m] (r : Recording layout n) (shape : Shape)
    (w : Writer m) {z : Serializer} {e : OutputError} (h : r.render shape z = .error e) :
    r.writeTo shape w z = pure (.error e) := by
  unfold render at h
  cases hd : Document.ofRecording r shape with
  | ok d => rw [hd] at h; cases h
  | error e' =>
    rw [hd] at h
    obtain rfl : e' = e := Except.error.inj h
    rw [writeTo, hd]

end Recording

/-! ### Related writers -/

section Related

variable {m n : Type → Type} [Monad m] [Monad n] {R : MonadRelation m n} {w : Writer m}
  {v : Writer n}

/-- Two writers, related exchange by exchange. -/
structure Writer.Related (R : MonadRelation m n) (w : Writer m) (v : Writer n) : Prop where
  write : ∀ bytes, R.rel (w.write bytes) (v.write bytes)
  flush : R.rel w.flush v.flush

namespace Writer.Related

theorem writeAll (h : Writer.Related R w v) (bytes : List UInt8) :
    R.rel (w.writeAll bytes) (v.writeAll bytes) := by
  fun_induction Writer.writeAll w bytes with
  | case1 =>
    rw [Writer.writeAll]
    exact R.rel_pure _
  | case2 b bytes ih =>
    rw [Writer.writeAll]
    refine R.rel_bind (h.write _) fun a => ?_
    cases a with
    | error e => exact R.rel_pure _
    | ok k =>
      cases k with
      | zero => exact R.rel_pure _
      | succ k => exact ih k

theorem writePieces (h : Writer.Related R w v) (pieces : List String) :
    R.rel (w.writePieces pieces) (v.writePieces pieces) := by
  induction pieces with
  | nil => exact R.rel_pure _
  | cons s pieces ih =>
    refine R.rel_bind (h.writeAll _) fun a => ?_
    cases a with
    | error e => exact R.rel_pure _
    | ok => exact ih

theorem writeTo (h : Writer.Related R w v) {layout : Layout} {k : Nat}
    (r : Recording layout k) (shape : Shape) (z : Serializer) :
    R.rel (r.writeTo shape w z) (r.writeTo shape v z) := by
  unfold Recording.writeTo
  cases Document.ofRecording r shape with
  | error e => exact R.rel_pure _
  | ok d =>
    refine R.rel_bind (h.writePieces _) fun a => ?_
    cases a with
    | error e => exact R.rel_pure _
    | ok =>
      refine R.rel_bind (h.writeAll _) fun a => ?_
      cases a with
      | error e => exact R.rel_pure _
      | ok =>
        refine R.rel_bind h.flush fun a => ?_
        cases a with
        | error e => exact R.rel_pure _
        | ok => exact R.rel_pure _

end Writer.Related

end Related

/-- Answer and state of `x` beside notes are those of `y` without, whatever is noted. -/
def besideNotes (σ ε : Type) : MonadRelation (StateM (Noted σ ε)) (StateM σ) where
  rel x y := ∀ o, (x o).1 = (y o.state).1 ∧ (x o).2.state = (y o.state).2
  rel_pure _ _ := ⟨rfl, rfl⟩
  rel_bind {α β x y f g} h hf o := by
    obtain ⟨hanswer, hstate⟩ := h o
    have hx : (x >>= f) o = f (x o).1 (x o).2 := bind_of_eq rfl
    have hy : (y >>= g) o.state = g (x o).1 (x o).2.state :=
      bind_of_eq (Prod.ext hanswer.symm hstate.symm)
    rw [hx, hy]
    exact hf _ _

/-- A noted writer answers as the writer does and leaves the same state. -/
theorem related_noted (note : Exchange → ε) (w : Writer (StateM σ)) :
    Writer.Related (besideNotes σ ε) (w.noted note) w :=
  ⟨fun _ _ => ⟨rfl, rfl⟩, fun _ => ⟨rfl, rfl⟩⟩

end Stopwatch
