import Stopwatch.Document
import Stopwatch.Proofs.Numerals

/-!
# Reading a document

`Json.read` reads one compact JSON text of numbers, lists and objects, one character at a time.  It
is strict: there is no room for a blank or a line break (`Json.read_compact`), for a comma too many
or for anything behind the value, and a number is a numeral as `Double.ofNumeral?` has it.

What a document is written as is read as its value, if its numbers are finite
(`Document.read_text`).  Lists and objects are read by one argument, `Container.advance_enclosed`:
what a container has to say is only how its states follow each other.
-/

namespace Stopwatch

/-- The values of a document. -/
inductive Json
  | number (value : Double)
  | array (items : List Json)
  | object (entries : List (String × Json))

namespace Json

open Double (isNumeral)

/-! ### A strict reader -/

/-- A list or an object around the place that is read. -/
inductive Level
  /-- A list, and its items so far. -/
  | array (done : List Json)
  /-- An object, its entries so far, and the key of the next one. -/
  | object (done : List (String × Json)) (key : String)

/-- What has been read last, and so what may come next. -/
inductive Phase
  /-- A value must follow. -/
  | value
  /-- A list has been opened: an item follows, or its end. -/
  | items
  /-- An object has been opened: an entry follows, or its end. -/
  | entries
  /-- An entry must follow. -/
  | entry (done : List (String × Json))
  /-- Part of a key. -/
  | key (done : List (String × Json)) (chars : List Char)
  /-- A key; a colon must follow. -/
  | colon (done : List (String × Json)) (key : String)
  /-- Part of a number, or all of it. -/
  | number (chars : List Char)
  /-- A list or an object, to its end. -/
  | behind (v : Json)

/-- A reader in the middle of a text. -/
structure Reader where
  stack : List Level
  phase : Phase

/-- The first character of a value. -/
def begin (stack : List Level) (c : Char) : Option Reader :=
  if c = '[' then some ⟨stack, .items⟩
  else if c = '{' then some ⟨stack, .entries⟩
  else if isNumeral c then some ⟨stack, .number [c]⟩
  else none

/-- The character behind a value: a comma, or the end of what is around it. -/
def follow (v : Json) (c : Char) : List Level → Option Reader
  | [] => none
  | .array done :: stack =>
    if c = ',' then some ⟨.array (done ++ [v]) :: stack, .value⟩
    else if c = ']' then some ⟨stack, .behind (.array (done ++ [v]))⟩
    else none
  | .object done key :: stack =>
    if c = ',' then some ⟨stack, .entry (done ++ [(key, v)])⟩
    else if c = '}' then some ⟨stack, .behind (.object (done ++ [(key, v)]))⟩
    else none

/-- Read one character. -/
def step (r : Reader) (c : Char) : Option Reader :=
  match r.phase with
  | .value => begin r.stack c
  | .items =>
    if c = ']' then some ⟨r.stack, .behind (.array [])⟩ else begin (.array [] :: r.stack) c
  | .entries =>
    if c = '}' then some ⟨r.stack, .behind (.object [])⟩
    else if c = '"' then some ⟨r.stack, .key [] []⟩
    else none
  | .entry done => if c = '"' then some ⟨r.stack, .key done []⟩ else none
  | .key done chars =>
    if c = '"' then some ⟨r.stack, .colon done (String.ofList chars)⟩
    -- The keys of a document have no blanks and need no escapes, so neither are read.
    else if c = '\\' ∨ c ≤ ' ' then none
    else some ⟨r.stack, .key done (chars ++ [c])⟩
  | .colon done key => if c = ':' then some ⟨.object done key :: r.stack, .value⟩ else none
  | .number chars =>
    if isNumeral c then some ⟨r.stack, .number (chars ++ [c])⟩
    else (Double.ofNumeral? chars).bind fun x => follow (.number x) c r.stack
  | .behind v => follow v c r.stack

/-- The value that has been read, if nothing is missing. -/
def Reader.finish (r : Reader) : Option Json :=
  match r.stack, r.phase with
  | [], .number chars => (Double.ofNumeral? chars).map .number
  | [], .behind v => some v
  | _, _ => none

/-- Read characters one after the other. -/
def advance (r : Reader) (text : List Char) : Option Reader := text.foldlM step r

/-- Read a text. -/
def read (text : List Char) : Option Json :=
  (advance ⟨[], .value⟩ text).bind Reader.finish

theorem advance_nil (r : Reader) : advance r [] = some r := rfl

theorem advance_cons {r r' : Reader} {c : Char} (h : step r c = some r') (text : List Char) :
    advance r (c :: text) = advance r' text := by
  rw [advance, List.foldlM_cons, h]
  rfl

theorem advance_append {r r' : Reader} {text : List Char} (h : advance r text = some r')
    (rest : List Char) : advance r (text ++ rest) = advance r' rest := by
  rw [advance, List.foldlM_append, ← advance, h]
  rfl

/-- Two readers that step alike at the first character of a text advance alike through it. -/
theorem advance_congr {r r' : Reader} {c : Char} (h : step r c = step r' c) (text : List Char) :
    advance r (c :: text) = advance r' (c :: text) := by
  rw [advance, advance, List.foldlM_cons, List.foldlM_cons, h]

/-! ### No blanks -/

theorem isNumeral_of_le {c : Char} (h : c ≤ ' ') : isNumeral c = false := by
  rw [← Bool.not_eq_true]
  intro hc
  have hval : c.val.toNat ≤ 32 := h
  simp only [isNumeral, Char.isDigit, Bool.or_eq_true, Bool.and_eq_true, decide_eq_true_eq,
    beq_iff_eq] at hc
  rcases hc with ((((hc | rfl) | rfl) | rfl) | rfl) | rfl
  · have hdigit : 48 ≤ c.val.toNat := hc.1
    omega
  all_goals exact absurd h (by decide)

theorem ne_of_le_blank {c d : Char} (h : c ≤ ' ') (hd : ¬ d ≤ ' ') : c ≠ d :=
  fun heq => hd (heq ▸ h)

theorem begin_blank (stack : List Level) {c : Char} (h : c ≤ ' ') : begin stack c = none := by
  rw [begin, if_neg (ne_of_le_blank h (by decide)), if_neg (ne_of_le_blank h (by decide)),
    isNumeral_of_le h, if_neg Bool.false_ne_true]

theorem follow_blank (v : Json) {c : Char} (h : c ≤ ' ') (stack : List Level) :
    follow v c stack = none := by
  rcases stack with _ | ⟨_ | _, stack⟩
  · rfl
  all_goals
    rw [follow, if_neg (ne_of_le_blank h (by decide)), if_neg (ne_of_le_blank h (by decide))]

/-- **No blank is read**, nor any other character before it, wherever it stands. -/
theorem step_blank (r : Reader) {c : Char} (h : c ≤ ' ') : step r c = none := by
  obtain ⟨stack, phase⟩ := r
  have hne : ∀ d : Char, ¬ d ≤ ' ' → c ≠ d := fun d => ne_of_le_blank h
  cases phase with
  | value => exact begin_blank stack h
  | items => exact (if_neg (hne ']' (by decide))).trans (begin_blank _ h)
  | entries => exact (if_neg (hne '}' (by decide))).trans (if_neg (hne '"' (by decide)))
  | entry done => exact if_neg (hne '"' (by decide))
  | key done chars => exact (if_neg (hne '"' (by decide))).trans (if_pos (Or.inr h))
  | colon done key => exact if_neg (hne ':' (by decide))
  | number chars =>
    show (if isNumeral c then _ else _) = _
    rw [isNumeral_of_le h, if_neg Bool.false_ne_true, Option.bind_eq_none_iff]
    exact fun x _ => follow_blank (.number x) h stack
  | behind v => exact follow_blank v h stack

theorem blank_lt_of_advance {text : List Char} :
    ∀ {r r' : Reader}, advance r text = some r' → ∀ c ∈ text, ' ' < c := by
  -- The induction is for all readers: where the text goes on, another one has taken over.
  induction text with
  | nil => exact fun _ c hc => absurd hc List.not_mem_nil
  | cons c text ih =>
    intro r r' h
    rw [advance, List.foldlM_cons] at h
    obtain ⟨next, hnext, hrest⟩ := Option.bind_eq_some_iff.1 h
    refine List.forall_mem_cons.2 ⟨?_, ih hrest⟩
    by_contra hc
    rw [step_blank r (Char.not_lt.1 hc)] at hnext
    cases hnext

/-- **What is read is compact**: it has no blanks, line breaks or control characters. -/
theorem read_compact {text : List Char} {v : Json} (h : read text = some v) :
    ∀ c ∈ text, ' ' < c := by
  obtain ⟨r, hr, -⟩ := Option.bind_eq_some_iff.1 h
  exact blank_lt_of_advance hr

/-! ### Values -/

/-- The value has been read, whatever is around it. -/
structure Reader.Holds (stack : List Level) (v : Json) (r : Reader) : Prop where
  step_eq : ∀ c, isNumeral c = false → step r c = follow v c stack
  finish_eq : stack = [] → r.finish = some v

/-- The text is read as the value, wherever a value must follow. -/
def Reads (text : List Char) (v : Json) : Prop :=
  ∀ stack, ∃ r, advance ⟨stack, .value⟩ text = some r ∧ r.Holds stack v

theorem Reads.read_eq {text : List Char} {v : Json} (h : Reads text v) : read text = some v := by
  obtain ⟨r, hr, hholds⟩ := h []
  rw [read, hr]
  exact hholds.finish_eq rfl

theorem holds_behind (stack : List Level) (v : Json) :
    Reader.Holds stack v ⟨stack, .behind v⟩ where
  step_eq _ _ := rfl
  finish_eq h := by rw [h]; rfl

/-- In the middle of a number, characters of a numeral are added to it. -/
theorem advance_number (stack : List Level) {more : List Char}
    (h : ∀ c ∈ more, isNumeral c = true) :
    ∀ cs, advance ⟨stack, .number cs⟩ more = some ⟨stack, .number (cs ++ more)⟩ := by
  induction more with
  | nil => exact fun cs => by rw [advance_nil, List.append_nil]
  | cons c more ih =>
    intro cs
    have hc : step ⟨stack, .number cs⟩ c = some ⟨stack, .number (cs ++ [c])⟩ :=
      if_pos (h c List.mem_cons_self)
    rw [advance_cons hc, ih fun c hc => h c (List.mem_cons_of_mem _ hc), List.append_assoc]
    rfl

/-- **A numeral is read as its number**, wherever a value must follow. -/
theorem reads_number {text : List Char} {x : Double} (hx : Double.ofNumeral? text = some x)
    (h : ∀ c ∈ text, isNumeral c = true) : Reads text (.number x) := by
  intro stack
  cases text with
  | nil => cases hx
  | cons c text =>
    have hc : isNumeral c = true := h c List.mem_cons_self
    -- A number has no end of its own: what comes behind it is read as behind a value.
    have hbegin : step ⟨stack, .value⟩ c = some ⟨stack, .number [c]⟩ := by
      have hlist : c ≠ '[' := by rintro rfl; exact absurd hc (by decide)
      have hobject : c ≠ '{' := by rintro rfl; exact absurd hc (by decide)
      show begin stack c = _
      rw [begin, if_neg hlist, if_neg hobject, if_pos hc]
    refine ⟨⟨stack, .number (c :: text)⟩, ?_, fun c' hc' => ?_, ?_⟩
    · rw [advance_cons hbegin]
      exact advance_number stack (fun c hc => h c (List.mem_cons_of_mem _ hc)) [c]
    · show (if isNumeral c' then _ else _) = _
      rw [hc', if_neg Bool.false_ne_true, hx]
      rfl
    · rintro rfl
      show (Double.ofNumeral? (c :: text)).map _ = _
      rw [hx]
      rfl

/-! ### Lists and objects -/

/-- The characters of a text in pieces. -/
def chars (pieces : List String) : List Char := pieces.flatMap String.toList

/-- How a list or an object of `β` is read: its states, and how they follow each other.  The end may
stand right behind the opening, but neither it nor a comma where an item is awaited. -/
structure Container (β : Type) where
  opening : Char
  closing : Char
  before : Reader
  opened : Reader
  /-- An item must follow those that are there. -/
  awaiting : List β → Reader
  closed : List β → Reader
  step_opening : step before opening = some opened
  step_closing : step opened closing = some (closed [])
  step_opened : ∀ c, c ≠ closing → step opened c = step (awaiting []) c
  step_awaiting_closing : step (awaiting []) closing = none
  step_awaiting_comma : step (awaiting []) ',' = none

namespace Container

variable {β : Type} (C : Container β)

/-- The text is read as an item. -/
def Item (text : List Char) (b : β) : Prop :=
  ∀ done, ∃ r, advance (C.awaiting done) text = some r ∧
    step r ',' = some (C.awaiting (done ++ [b])) ∧
    step r C.closing = some (C.closed (done ++ [b]))

variable {C}

/-- Right behind the opening an item is read as where an item must follow. -/
theorem Item.advance_opened {text : List Char} {b : β} (h : C.Item text b) (rest : List Char) :
    advance C.opened (text ++ rest) = advance (C.awaiting []) (text ++ rest) := by
  obtain ⟨r, hr, hcomma, -⟩ := h []
  -- An item is not the empty text and does not begin with the closing character.
  cases text with
  | nil =>
    obtain rfl : C.awaiting [] = r := Option.some.inj hr
    rw [C.step_awaiting_comma] at hcomma
    cases hcomma
  | cons c text =>
    have hc : c ≠ C.closing := by
      rintro rfl
      rw [advance, List.foldlM_cons, C.step_awaiting_closing] at hr
      cases hr
    exact advance_congr (C.step_opened c hc) (text ++ rest)

/-- Items with commas between them are read up to the closing character. -/
theorem advance_items {texts : List (List String)} {bs : List β}
    (h : List.Forall₂ (fun text b => C.Item (chars text) b) texts bs) (hne : texts ≠ []) :
    ∀ done, advance (C.awaiting done) (chars (texts.intersperse [","]).flatten ++ [C.closing]) =
      some (C.closed (done ++ bs)) := by
  induction h with
  | nil => exact absurd rfl hne
  | @cons text b texts bs hitem hrest ih =>
    intro done
    obtain ⟨r, hr, hcomma, hclosing⟩ := hitem done
    cases hrest with
    | nil =>
      have hsplit : chars ([text].intersperse [","]).flatten = chars text := by simp
      rw [hsplit, advance_append hr, advance_cons hclosing, advance_nil]
    | @cons text' b' texts bs hitem' hrest =>
      have hsplit : chars ((text :: text' :: texts).intersperse [","]).flatten ++ [C.closing] =
          chars text ++ ',' :: (chars ((text' :: texts).intersperse [","]).flatten ++
            [C.closing]) := by simp [chars]
      rw [hsplit, advance_append hr, advance_cons hcomma, ih (List.cons_ne_nil _ _),
        List.append_assoc]
      rfl

/-- **A list or an object is read to its end**, if each of `texts` is read as an item. -/
theorem advance_enclosed (C : Container β) {opening closing : String}
    (hopening : opening.toList = [C.opening]) (hclosing : closing.toList = [C.closing])
    {texts : List (List String)} {bs : List β}
    (h : List.Forall₂ (fun text b => C.Item (chars text) b) texts bs) :
    advance C.before (chars (Document.enclosed opening closing texts)) = some (C.closed bs) := by
  have hsplit : chars (Document.enclosed opening closing texts) =
      C.opening :: (chars (texts.intersperse [","]).flatten ++ [C.closing]) := by
    simp [chars, Document.enclosed, hopening, hclosing]
  rw [hsplit, advance_cons C.step_opening]
  cases h with
  | nil => exact advance_cons C.step_closing []
  | @cons text b texts bs hitem hrest =>
    -- Behind the opening the first item is read as it is where an item is awaited.
    have hfirst : ∃ rest, chars ((text :: texts).intersperse [","]).flatten ++ [C.closing] =
        chars text ++ rest := by
      cases texts with
      | nil => exact ⟨[C.closing], by simp⟩
      | cons text' texts => exact ⟨_, by simp [chars]; rfl⟩
    obtain ⟨rest, hrest'⟩ := hfirst
    rw [hrest', hitem.advance_opened, ← hrest']
    exact advance_items (List.Forall₂.cons hitem hrest) (List.cons_ne_nil _ _) []

end Container

/-- A list, wherever a value must follow. -/
def arrayContainer (stack : List Level) : Container Json where
  opening := '['
  closing := ']'
  before := ⟨stack, .value⟩
  opened := ⟨stack, .items⟩
  awaiting done := ⟨.array done :: stack, .value⟩
  closed items := ⟨stack, .behind (.array items)⟩
  step_opening := rfl
  step_closing := rfl
  step_opened _ h := if_neg h
  step_awaiting_closing := rfl
  step_awaiting_comma := rfl

/-- An object, wherever a value must follow. -/
def objectContainer (stack : List Level) : Container (String × Json) where
  opening := '{'
  closing := '}'
  before := ⟨stack, .value⟩
  opened := ⟨stack, .entries⟩
  awaiting done := ⟨stack, .entry done⟩
  closed entries := ⟨stack, .behind (.object entries)⟩
  step_opening := rfl
  step_closing := rfl
  step_opened _ h := if_neg h
  step_awaiting_closing := rfl
  step_awaiting_comma := rfl

/-- What is read as a value is read as an item of a list. -/
theorem Reads.item {text : List Char} {v : Json} (h : Reads text v) (stack : List Level) :
    (arrayContainer stack).Item text v := by
  intro done
  obtain ⟨r, hr, hholds⟩ := h (.array done :: stack)
  exact ⟨r, hr, hholds.step_eq ',' rfl, hholds.step_eq ']' rfl⟩

/-- **A list is read** if all of its items are. -/
theorem reads_array {texts : List (List String)} {items : List Json}
    (h : List.Forall₂ (fun text v => Reads (chars text) v) texts items) :
    Reads (chars (Document.enclosed "[" "]" texts)) (.array items) := by
  intro stack
  refine ⟨_, (arrayContainer stack).advance_enclosed rfl rfl ?_, holds_behind stack _⟩
  exact h.imp fun text v hread => hread.item stack

/-- A key without blanks that needs no escapes. -/
def Plain (key : String) : Prop := ∀ c ∈ key.toList, c ≠ '"' ∧ c ≠ '\\' ∧ ¬ c ≤ ' '

/-- In the middle of a key, plain characters and the quote behind them complete it. -/
theorem advance_key (stack : List Level) (done : List (String × Json)) {cs : List Char}
    (h : ∀ c ∈ cs, c ≠ '"' ∧ c ≠ '\\' ∧ ¬ c ≤ ' ') :
    ∀ before, advance ⟨stack, .key done before⟩ (cs ++ ['"']) =
      some ⟨stack, .colon done (String.ofList (before ++ cs))⟩ := by
  induction cs with
  | nil =>
    intro before
    rw [List.append_nil]
    rfl
  | cons c cs ih =>
    intro before
    obtain ⟨hquote, hescape, hcontrol⟩ := h c List.mem_cons_self
    have hc : step ⟨stack, .key done before⟩ c = some ⟨stack, .key done (before ++ [c])⟩ := by
      show (if c = '"' then _ else _) = _
      rw [if_neg hquote, if_neg (not_or_intro hescape hcontrol)]
    rw [List.cons_append, advance_cons hc, ih fun c hc => h c (List.mem_cons_of_mem _ hc),
      List.append_assoc]
    rfl

/-- A plain key, a colon and what is read as a value are read as an entry of an object. -/
theorem Reads.entry {key : String} {pieces : List String} {v : Json} (h : Reads (chars pieces) v)
    (hkey : Plain key) (stack : List Level) :
    (objectContainer stack).Item (chars (["\"", key, "\"", ":"] ++ pieces)) (key, v) := by
  intro done
  obtain ⟨r, hr, hholds⟩ := h (.object done key :: stack)
  refine ⟨r, ?_, hholds.step_eq ',' rfl, hholds.step_eq '}' rfl⟩
  have hsplit : chars (["\"", key, "\"", ":"] ++ pieces) =
      '"' :: ((key.toList ++ ['"']) ++ (':' :: chars pieces)) := by simp [chars]
  have hquote : step ((objectContainer stack).awaiting done) '"' = some ⟨stack, .key done []⟩ := rfl
  have hcolon : step ⟨stack, .colon done key⟩ ':' = some ⟨.object done key :: stack, .value⟩ := rfl
  have hname := advance_key stack done hkey []
  rw [List.nil_append, String.ofList_toList] at hname
  rw [hsplit, advance_cons hquote, advance_append hname, advance_cons hcolon, hr]

/-- **An object is read** if its keys are plain and all of its values are read. -/
theorem reads_object {texts : List (List String)} {entries : List (String × Json)}
    (h : List.Forall₂ (fun text e => Plain e.1 ∧ ∃ pieces, text = ["\"", e.1, "\"", ":"] ++ pieces ∧
      Reads (chars pieces) e.2) texts entries) :
    Reads (chars (Document.enclosed "\x7b" "\x7d" texts)) (.object entries) := by
  intro stack
  refine ⟨_, (objectContainer stack).advance_enclosed rfl rfl ?_, holds_behind stack _⟩
  refine h.imp fun text e he => ?_
  obtain ⟨hkey, pieces, rfl, hread⟩ := he
  exact hread.entry hkey stack

/-! ### The values of documents -/

/-- A list of numbers. -/
def row (values : List Double) : Json := .array (values.map .number)

/-- A list of lists of numbers. -/
def table (rows : List (List Double)) : Json := .array (rows.map row)

theorem row_injective {values values' : List Double} (h : row values = row values') :
    values = values' :=
  (List.map_injective_iff.2 fun _ _ => number.inj) (array.inj h)

theorem table_injective {rows rows' : List (List Double)} (h : table rows = table rows') :
    rows = rows' :=
  (List.map_injective_iff.2 fun _ _ => row_injective) (array.inj h)

/-- Finite numbers are written as numerals that are read as the same numbers. -/
def Lossless (number : Double → String) : Prop :=
  ∀ x : Double, x.isFinite = true →
    Double.ofNumeral? (number x).toList = some x ∧ ∀ c ∈ (number x).toList, isNumeral c = true

variable {number : Double → String}

theorem reads_row (hnumber : Lossless number) {values : List Double}
    (h : ∀ x ∈ values, x.isFinite = true) :
    Reads (chars (Document.rowPieces number values)) (row values) := by
  refine reads_array (List.forall₂_map_left_iff.2 (List.forall₂_map_right_iff.2
    (List.forall₂_same.2 fun x hx => ?_)))
  have hchars : chars [number x] = (number x).toList := by simp [chars]
  obtain ⟨hread, hnumeral⟩ := hnumber x (h x hx)
  rw [hchars]
  exact reads_number hread hnumeral

theorem reads_table (hnumber : Lossless number) {rows : List (List Double)}
    (h : ∀ row ∈ rows, ∀ x ∈ row, x.isFinite = true) :
    Reads (chars (Document.tablePieces number rows)) (table rows) :=
  reads_array (List.forall₂_map_left_iff.2 (List.forall₂_map_right_iff.2
    (List.forall₂_same.2 fun row hrow => reads_row hnumber (h row hrow))))

end Json

/-- The texts that `Serializer.compact` gives to numbers are read as these numbers. -/
theorem Serializer.lossless_compact : Json.Lossless compact.number := fun _ hx =>
  ⟨Double.ofNumeral?_text numberStyle hx, Double.isNumeral_text numberStyle hx⟩

/-- The value of the deltas of a metric. -/
def Series.json : Series → Json
  | flat values => .row values
  | perCore rows => .table rows

/-- The rows of the deltas of a metric. -/
def Series.rows : Series → List (List Double)
  | flat values => [values]
  | perCore rows => rows

theorem Series.reads {number : Double → String} (hnumber : Json.Lossless number) {s : Series}
    (h : ∀ row ∈ s.rows, ∀ x ∈ row, x.isFinite = true) :
    Json.Reads (Json.chars (Document.seriesPieces number s)) s.json := by
  cases s with
  | flat values => exact Json.reads_row hnumber (h values List.mem_cons_self)
  | perCore rows => exact Json.reads_table hnumber h

namespace Document

/-- The value of a document. -/
def json : Document → Json
  | row values => .row values
  | table rows => .table rows
  | keyed entries => .object (entries.map fun (key, series) => (key, series.json))

/-- The rows of a document. -/
def rows : Document → List (List Double)
  | row values => [values]
  | table rows => rows
  | keyed entries => entries.flatMap fun (_, series) => series.rows

/-- The keys of a document. -/
def keys : Document → List String
  | row _ | table _ => []
  | keyed entries => entries.map (·.1)

/-- **A document is read as its value**, if its numbers are finite and nothing is lost of them. -/
theorem read_text {number : Double → String} (hnumber : Json.Lossless number) {d : Document}
    (hfinite : ∀ row ∈ d.rows, ∀ x ∈ row, x.isFinite = true)
    (hkeys : ∀ key ∈ d.keys, Json.Plain key) : Json.read (d.text number).toList = some d.json := by
  rw [text, String.toList_join]
  refine Json.Reads.read_eq ?_
  show Json.Reads (Json.chars (d.pieces number)) d.json
  cases d with
  | row values => exact Json.reads_row hnumber (hfinite values List.mem_cons_self)
  | table rows => exact Json.reads_table hnumber hfinite
  | keyed entries =>
    refine Json.reads_object (List.forall₂_map_left_iff.2 (List.forall₂_map_right_iff.2
      (List.forall₂_same.2 fun e he => ?_)))
    refine ⟨hkeys e.1 (List.mem_map_of_mem he), _, rfl, Series.reads hnumber fun row hrow => ?_⟩
    exact hfinite row (List.mem_flatMap.2 ⟨e, he, hrow⟩)

end Document

end Stopwatch
