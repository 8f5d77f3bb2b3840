import FlagSearch.Text.Pieces

/-!
# Paths

A path is a text whose names are separated by slashes.  Empty names and names `.` are passed over,
except that a relative path may start with `.`.  The functions here look at the text alone and
never at a file tree.  Paths and names are texts throughout: names of other bytes, which a file
system may have as well, are outside of the model.

* `Path.isAbsolute`, `Path.components` — where a path starts, and how many steps it has.
* `Path.fileName?`, `Path.fileStem?` — the last name, and the same without its extension.
* `Path.parent?`, `Path.join` — the path above another one, and a path below it.
-/

namespace FlagSearch.Path

open Text (pieces joined)

def names (path : String) : List (List Char) := pieces '/' path.toList

def here : List Char := ['.']

def up : List Char := ['.', '.']

def isAbsolute (path : String) : Bool := path.toList.head? == some '/'

def isStep (i : Nat) (name : List Char) : Bool := name ≠ [] && (name ≠ here || i == 0)

def steps (names : List (List Char)) : List (List Char × Nat) :=
  names.zipIdx.filter fun (name, i) => isStep i name

/-- The number of steps of a path; the root counts as one. -/
def components (path : String) : Nat :=
  (if isAbsolute path then 1 else 0) + (steps (names path)).length

def leadsDown (path : String) : Bool := !isAbsolute path && 1 < components path

/-- The name of the file that a path leads to; `.` and `..` name no file. -/
def fileName? (path : String) : Option String :=
  match (steps (names path)).getLast? with
  | some (name, _) => if name = here ∨ name = up then none else some (String.ofList name)
  | none => none

/-- A file name without its extension, which starts at the last point.  A point in front of
everything else starts no extension. -/
def stem (name : List Char) : List Char :=
  match (pieces '.' name).dropLast with
  | [] | [[]] => name
  | before => joined '.' before

def fileStem? (path : String) : Option String :=
  (fileName? path).map fun name => String.ofList (stem name.toList)

def parent? (path : String) : Option String :=
  match (steps (names path)).reverse with
  | [] => none
  | [_] => some (if isAbsolute path then "/" else "")
  | _ :: (_, previous) :: _ =>
      some (String.ofList (joined '/' ((names path).take (previous + 1))))

/-- The path `below` as seen from `base`; an absolute path is seen the same from everywhere. -/
def join (base below : String) : String :=
  if isAbsolute below ∨ base = "" then below
  else if base.toList.getLast? = some '/' then base ++ below
  else base ++ "/" ++ below

end FlagSearch.Path
