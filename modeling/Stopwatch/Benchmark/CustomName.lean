/-!
# Names of benchmarks

A function is registered as a benchmark under its own name or under one that is given to it, written
as `name = "…"` (`registeredName`).  The given name is looked for from left to right: the word
`name`, after it an equals sign, after that a quote, and everything up to the next quote.  Nothing
is unescaped.

A registered benchmark answers to its name and to its name in full, the path of its module before it
(`Entry.answersTo`).
-/

namespace Stopwatch

/-! ### Taking texts apart -/

/-- What follows the first occurrence of a text. -/
def after? (pattern : List Char) : List Char → Option (List Char)
  | [] => if pattern.isEmpty then some [] else none
  | c :: cs =>
    if pattern.isPrefixOf (c :: cs) then some ((c :: cs).drop pattern.length)
    else after? pattern cs

/-- What stands before the first occurrence of a character. -/
def before? (mark : Char) : List Char → Option (List Char)
  | [] => none
  | c :: cs => if c = mark then some [] else (before? mark cs).map (c :: ·)

/-- What is left of a text behind its front. -/
def behind? : (front text : List Char) → Option (List Char)
  | [], text => some text
  | _ :: _, [] => none
  | c :: front, d :: text => if c = d then behind? front text else none

theorem behind?_eq_some_iff {front text rest : List Char} :
    behind? front text = some rest ↔ text = front ++ rest := by
  fun_induction behind? front text with
  | case1 text => simp
  | case2 c front => simp
  | case3 front c text ih => simp [ih]
  | case4 c front d text hne => simp [Ne.symm hne]

/-! ### Custom names -/

/-- The name that an attribute gives to a benchmark. -/
def customName? (text : String) : Option String := do
  let rest ← after? "name".toList text.toList
  let rest ← after? ['='] rest
  let rest ← after? ['"'] rest
  let name ← before? '"' rest
  pure (String.ofList name)

/-- The name under which a function is registered: the one that its attribute gives, or else its
own. -/
def registeredName (text function : String) : String := (customName? text).getD function

/-! ### Registered benchmarks -/

/-- A registered benchmark. -/
structure Entry (m : Type → Type) where
  name : String
  /-- The path of the module that registers it. -/
  modulePath : String
  run : Int32 → m Unit

namespace Entry

variable {m : Type → Type}

/-- Whether a text means this benchmark: it is the name, or the name is left of it behind the path
and two colons. -/
def answersTo (e : Entry m) (text : String) : Bool :=
  e.name == text ||
    (behind? e.modulePath.toList text.toList).bind (behind? "::".toList) == some e.name.toList

/-- The first benchmark that a text means. -/
def find? (entries : List (Entry m)) (text : String) : Option (Entry m) :=
  entries.find? (·.answersTo text)

/-- The names of all benchmarks, sorted. -/
def names (entries : List (Entry m)) : List String :=
  (entries.map (·.name)).mergeSort fun a b => decide (a ≤ b)

end Entry

end Stopwatch
