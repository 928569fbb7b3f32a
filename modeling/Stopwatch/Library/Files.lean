import Stopwatch.Library.Measurement

/-!
# Trees of files

A loader over a known tree of files.  Paths are read as usual: from the root if they begin with a
slash, else from the working directory, one name after the other, where a dot stays and two dots go
up.  Every name but the last must be that of a directory, and so must the last if a slash follows
it.

A loader takes a text for a path only if there is a slash in it.  Any other text names a library of
the system, whatever the working directory holds; the empty text names the program itself, which
exports nothing.  A NUL at the end of the text ends it and is no part of it; no other NUL is
accepted, and a path accepts none at all.
-/

namespace Stopwatch

/-- What stands at a path. -/
inductive File (m : Type → Type)
  | directory
  /-- A file that is no library. -/
  | plain
  | library (l : SharedLibrary m)

/-- A tree of files, and a place in it. -/
structure Files (m : Type → Type) where
  /-- The names from the root to the working directory, which exist as directories. -/
  workingDirectory : List String
  /-- What stands at a sequence of names from the root. -/
  entries : List (List String × File m)
  /-- The libraries of the system. -/
  system : List (String × SharedLibrary m) := []

namespace Files

variable {m : Type → Type}

/-- What stands at a sequence of names from the root. -/
def at? (t : Files m) (names : List String) : Option (File m) :=
  if names.isPrefixOf t.workingDirectory then some .directory
  else (t.entries.find? (·.1 == names)).map (·.2)

/-- Follow names from a place. -/
def follow (t : Files m) : List String → List String → Option (File m)
  | place, [] => t.at? place
  | place, name :: names =>
    match t.at? place with
    | some .directory =>
      if name = "" ∨ name = "." then follow t place names
      else if name = ".." then follow t place.dropLast names
      else follow t (place ++ [name]) names
    | _ => none

/-- How many octets a path may have, with the NUL after it. -/
def pathLimit : Nat := 4096

/-- What stands at a path. -/
def lookup (t : Files m) (path : String) : Option (File m) :=
  if path.isEmpty || path.toList.contains '\x00' || pathLimit ≤ path.utf8ByteSize then none
  else
    t.follow (if path.toList.head? = some '/' then [] else t.workingDirectory)
      (path.splitOn "/")

/-- A text without the NUL that ends it. -/
def terminated (text : String) : String :=
  match text.toList.reverse with
  | '\x00' :: cs => String.ofList cs.reverse
  | _ => text

/-- Open a library by a text that is not ended by a NUL. -/
def loadTerminated (t : Files m) (text : String) : Except String (SharedLibrary m) :=
  if text.isEmpty then .ok {}
  else if text.toList.contains '/' then
    match t.lookup text with
    | some (.library l) => .ok l
    | some _ => .error "not a library"
    | none => .error "no such file"
  else
    match t.system.find? (·.1 == text) with
    | some (_, l) => .ok l
    | none => .error "no such library"

/-- Open a library. -/
def load (t : Files m) (text : String) : Except String (SharedLibrary m) :=
  t.loadTerminated (terminated text)

/-- The loader over a tree. -/
def loader [Monad m] (t : Files m) : Loader m where
  leads path := pure (t.lookup path).isSome
  load text := pure (t.load text)

end Files

end Stopwatch
