import Stopwatch.Recording
import Stopwatch.Writer
import Stopwatch.Double.Text

/-!
# Result documents

A recording is given out as one compact JSON document in one of three shapes: a list of numbers
(`flat`), a list of such lists, one per metric (`nested`), or an object with one entry per metric
(`keyed`).  Only a keyed document has room for per-core metrics, and a flat one holds exactly one
metric; `Document.ofRecording` refuses what has no place.  `Shape.natural` picks the plainest shape
that fits, for every layout.

The text of a document (`Document.text`) is settled but for how numbers are written.  A `Serializer`
says that, and in which pieces it hands the text to a writer; `Serializer.compact` is the one in
use.

`Recording.writeTo` writes the document of a recording, a newline, and flushes.  A recording that
does not fit in the shape is refused before the writer is touched.  A failure within the document
and one after it are told apart.  `Recording.render` is the text that a writer without limits would
get.
-/

namespace Stopwatch

/-- The shape of a result document. -/
inductive Shape
  | flat
  | nested
  | keyed
  deriving DecidableEq, Repr

namespace Shape

def name : Shape → String
  | flat => "flat"
  | nested => "nested"
  | keyed => "keyed"

/-- The plainest shape that a layout fits in. -/
def natural (l : Layout) : Shape :=
  if !l.perCore.isEmpty then keyed
  else if l.flat.length = 1 then flat
  else nested

end Shape

/-- Why no document was given out. -/
inductive OutputError
  /-- The recording does not fit in the shape. -/
  | unrepresentable (shape reason : String)
  /-- The document could not be written in full. -/
  | document (source : String)
  /-- The document was written, but not its end. -/
  | closing (source : String)
  deriving DecidableEq, Repr

/-- The wording of an output error. -/
def OutputError.message : OutputError → String
  | unrepresentable shape reason => s!"cannot render {shape} output: {reason}"
  | document source => s!"failed to serialise results: {source}"
  | closing source => s!"failed to write results: {source}"

/-- A result document. -/
inductive Document
  | row (values : List Double)
  | table (rows : List (List Double))
  | keyed (entries : List (String × Series))
  deriving DecidableEq, Repr

namespace Document

/-! ### From a recording -/

/-- The rows of the flat metrics, in canonical order, of a recording that has no others. -/
def flatRows {layout : Layout} {n : Nat} (r : Recording layout n) (shape : Shape) :
    Except OutputError (List (List Double)) :=
  if !layout.perCore.isEmpty then
    .error (.unrepresentable shape.name "per-core metrics need keyed output")
  else
    .ok <| layout.flat.filterMap fun m =>
      match r.series? m with
      | some (.flat values) => some values
      | _ => none

/-- The document of a recording in a shape, if it fits. -/
def ofRecording {layout : Layout} {n : Nat} (r : Recording layout n) :
    Shape → Except OutputError Document
  | .flat =>
    match flatRows r .flat with
    | .error e => .error e
    | .ok [values] => .ok (row values)
    | .ok _ => .error (.unrepresentable Shape.flat.name "flat output holds exactly one metric")
  | .nested =>
    match flatRows r .nested with
    | .error e => .error e
    | .ok values => .ok (table values)
  | .keyed => .ok <| keyed <| layout.metrics.filterMap fun m => (r.series? m).map (m.key, ·)

/-! ### Text -/

/-- Items between brackets, with commas between them. -/
def enclosed (opening closing : String) (items : List (List String)) : List String :=
  opening :: (items.intersperse [","]).flatten ++ [closing]

section Text

variable (number : Double → String)

/-- The pieces of a list of numbers. -/
def rowPieces (values : List Double) : List String :=
  enclosed "[" "]" (values.map fun x => [number x])

/-- The pieces of a list of lists of numbers. -/
def tablePieces (rows : List (List Double)) : List String :=
  enclosed "[" "]" (rows.map (rowPieces number))

/-- The pieces of the deltas of one metric. -/
def seriesPieces : Series → List String
  | .flat values => rowPieces number values
  | .perCore rows => tablePieces number rows

/-- The brackets, commas, keys and numbers of a document. -/
def pieces : Document → List String
  | row values => rowPieces number values
  | table rows => tablePieces number rows
  | keyed entries =>
    enclosed "\x7b" "\x7d" (entries.map fun (key, series) =>
      ["\"", key, "\"", ":"] ++ seriesPieces number series)

/-- The text of a document. -/
def text (d : Document) : String := String.join (d.pieces number)

end Text

end Document

/-- How documents are written. -/
structure Serializer where
  /-- The text of a number. -/
  number : Double → String
  /-- The texts that a document is handed to a writer in. -/
  pieces : Document → List String
  /-- Together they are the text of the document. -/
  join_pieces : ∀ d, String.join (pieces d) = d.text number

namespace Serializer

/-- Numbers in a document keep a fractional part, take an exponent outside `10^-5` to `10^16`, and
write its sign.  What is not a number is `null`. -/
def numberStyle : Double.Style where
  positional e := decide (-5 ≤ e ∧ e < 16)
  pointZero := true
  plusSign := true
  tie := .even
  nan := "null"
  infinity := "null"
  negativeInfinity := "null"

/-- Brackets, commas, keys and numbers are handed over one by one. -/
def compact : Serializer where
  number x := x.text numberStyle
  pieces d := d.pieces fun x => x.text numberStyle
  join_pieces _ := rfl

/-- The text of a document. -/
def text (s : Serializer) (d : Document) : String := d.text s.number

end Serializer

/-! ### Giving out results -/

namespace Recording

variable {layout : Layout} {n : Nat}

/-- The text of a recording in a shape, newline included. -/
def render (r : Recording layout n) (shape : Shape) (s : Serializer := .compact) :
    Except OutputError String :=
  (Document.ofRecording r shape).map fun d => s.text d ++ "\n"

/-- Write a recording in a shape. -/
def writeTo {m : Type → Type} [Monad m] (r : Recording layout n) (shape : Shape) (w : Writer m)
    (s : Serializer := .compact) : m (Except OutputError Unit) := do
  match Document.ofRecording r shape with
  | .error e => pure (.error e)
  | .ok d =>
    match ← w.writePieces (s.pieces d) with
    | .error e => pure (.error (.document e))
    | .ok () =>
      match ← w.writeAll (octets "\n") with
      | .error e => pure (.error (.closing e))
      | .ok () =>
        match ← w.flush with
        | .error e => pure (.error (.closing e))
        | .ok () => pure (.ok ())

end Recording

end Stopwatch
