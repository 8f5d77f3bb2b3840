import FlagSearch.Machine
import FlagSearch.Text.Octets
import FlagSearch.Text.Pieces

/-!
# Files

`Files` is a file system in memory.  Everything in it has a number; directories give names to
numbers, so a thing can have several names, lose its name while it is in use, and move without
anyone who holds its number noticing.  Names, paths and contents are texts of octets or bytes.

* `Content`, `FileNode`, `Files` — what there is.
* `Files.walk`, `Files.locate`, `Files.find` — where a path leads, links included.
* `Files.create`, `Files.makeDirectory`, `Files.unlink`, `Files.rename`, … — the changes.
* `Files.path?` — the path of a directory from the root.
-/

namespace FlagSearch.Sandbox

open Text (pieces)

abbrev FileId := Nat

inductive Content where
  | bytes (bytes : ByteArray)
  | directory (items : List (String × FileId)) (parent : FileId)
  | link (target : String)
  | tool (name : String)
  | device (name : String)
  | fifo (pipe : Nat)

structure FileNode where
  content : Content
  mode : Nat
  modified : Nat

/-- A file system; the root has the number zero. -/
structure Files where
  nodes : Array FileNode

namespace Files

def root : FileId := 0

def empty : Files := ⟨#[⟨.directory [] root, 0o755, 0⟩]⟩

/-! ## Looking -/

def content? (files : Files) (id : FileId) : Option Content :=
  (files.nodes[id]?).map FileNode.content

def items (files : Files) (id : FileId) : List (String × FileId) :=
  match files.content? id with
  | some (.directory items _) => items
  | _ => []

def isDirectory (files : Files) (id : FileId) : Bool :=
  match files.content? id with
  | some (.directory _ _) => true
  | _ => false

def isFile (files : Files) (id : FileId) : Bool :=
  match files.content? id with
  | some (.bytes _) | some (.tool _) => true
  | _ => false

def parentOf (files : Files) (id : FileId) : FileId :=
  match files.content? id with
  | some (.directory _ parent) => parent
  | _ => root

def mode (files : Files) (id : FileId) : Nat := ((files.nodes[id]?).map FileNode.mode).getD 0

def isAlive (files : Files) (id : FileId) : Bool :=
  id == root || (files.items (files.parentOf id)).any fun item => item.2 == id

def isExecutable (files : Files) (id : FileId) : Bool := files.mode id &&& 0o111 != 0

def programMark : String := "\x7fELF\x02\x01\x01\x00"

/-- The bytes of a file; a program known by its name shows the mark of programs and the name. -/
def bytesOf (files : Files) (id : FileId) : ByteArray :=
  match files.content? id with
  | some (.bytes bytes) => bytes
  | some (.tool name) => Octets.bytes (programMark ++ name)
  | _ => ByteArray.empty

/-! ## Paths -/

def longestName : Nat := 255

def pathLimit : Nat := 4096

def linkLimit : Nat := 40

def names (path : String) : List String := (pieces '/' path.toList).map String.ofList

def isAbsolute (path : String) : Bool := path.toList.head? == some '/'

def isSlashed (path : String) : Bool := path.toList.getLast? == some '/'

/-- Where a path leads: the directory in which its last name is looked up. -/
structure Spot where
  directory : FileId
  name : String
  found? : Option FileId

/-- Follow names from a directory.  Where a name is followed there has to be a directory; what the
last name leads to may be missing.  A link at the end is followed if `follow` says so, or if a slash
follows it. -/
def walk (files : Files) (follow : Bool) :
    (links : Nat) → FileId → List String → Except OsError Spot
  | _, place, [] => .ok ⟨place, ".", some place⟩
  | links, place, name :: rest =>
      match files.content? place with
      | some (.directory items parent) =>
          if name = "" ∨ name = "." then walk files follow links place rest
          else if name = ".." then walk files follow links parent rest
          else if longestName < name.length then .error .nameTooLong
          else
            let isLast := rest.all fun name => name == ""
            match items.lookup name with
            | none => if isLast then .ok ⟨place, name, none⟩ else .error .notFound
            | some id =>
                match files.content? id with
                | some (.link target) =>
                    if rest = [] ∧ ¬follow then .ok ⟨place, name, some id⟩
                    else
                      match links with
                      | 0 => .error .tooManyLinks
                      | links + 1 =>
                          walk files follow links (if isAbsolute target then root else place)
                            (names target ++ rest)
                | some (.directory _ _) =>
                    if isLast then .ok ⟨place, name, some id⟩
                    else walk files follow links id rest
                | _ => if rest = [] then .ok ⟨place, name, some id⟩ else .error .notADirectory
      | _ => .error .notADirectory
  termination_by links _ names => (links, names.length)

def locate (files : Files) (here : FileId) (follow : Bool) (path : String) : Except OsError Spot :=
  if path = "" then .error .notFound
  else if pathLimit ≤ path.length then .error .nameTooLong
  else walk files follow linkLimit (if isAbsolute path then root else here) (names path)

def find (files : Files) (here : FileId) (follow : Bool) (path : String) :
    Except OsError FileId := do
  match (← files.locate here follow path).found? with
  | some id => pure id
  | none => throw .notFound

def findDirectory (files : Files) (here : FileId) (path : String) : Except OsError FileId := do
  let id ← files.find here true path
  if files.isDirectory id then pure id else throw .notADirectory

/-- The names that lead from the root to a directory; `fuel` bounds the directories above it. -/
def climb (files : Files) : (fuel : Nat) → FileId → List String → Option (List String)
  | 0, _, _ => none
  | fuel + 1, id, below =>
      if id = root then some below
      else
        let parent := files.parentOf id
        match (files.items parent).find? fun item => item.2 = id with
        | some (name, _) => climb files fuel parent (name :: below)
        | none => none

/-- The path of a directory from the root; one that has been removed has none. -/
def path? (files : Files) (id : FileId) : Option String :=
  (files.climb (files.nodes.size + 1) id []).map fun names => "/" ++ String.intercalate "/" names

/-! ## Changing -/

def modify (files : Files) (id : FileId) (change : FileNode → FileNode) : Files :=
  ⟨files.nodes.modify id change⟩

def changeItems (files : Files) (now : Nat) (id : FileId)
    (change : List (String × FileId) → List (String × FileId)) : Files :=
  files.modify id fun node =>
    match node.content with
    | .directory items parent =>
        { node with content := .directory (change items) parent, modified := now }
    | _ => node

def setItem (files : Files) (now : Nat) (directory : FileId) (name : String) (id : FileId) :
    Files :=
  files.changeItems now directory fun items =>
    items.filter (fun item => item.1 ≠ name) ++ [(name, id)]

def dropItem (files : Files) (now : Nat) (directory : FileId) (name : String) : Files :=
  files.changeItems now directory fun items => items.filter fun item => item.1 ≠ name

def create (files : Files) (now : Nat) (spot : Spot) (content : Content) (mode : Nat) :
    Except OsError (Files × FileId) :=
  if !files.isAlive spot.directory then .error .notFound
  else
    let id := files.nodes.size
    let files : Files := ⟨files.nodes.push ⟨content, mode, now⟩⟩
    .ok (files.setItem now spot.directory spot.name id, id)

def createAt (files : Files) (now : Nat) (here : FileId) (path : String)
    (content : FileId → Content) (mode : Nat) : Except OsError Files := do
  let spot ← files.locate here false path
  if spot.found?.isSome then throw .alreadyExists
  let (files, _) ← files.create now spot (content spot.directory) mode
  pure files

def makeDirectory (files : Files) (now : Nat) (here : FileId) (path : String) (mode : Nat) :
    Except OsError Files :=
  files.createAt now here path (fun parent => .directory [] parent) mode

def makeLink (files : Files) (now : Nat) (here : FileId) (target path : String) :
    Except OsError Files :=
  if target = "" then .error .notFound
  else if isSlashed path then do
    let spot ← files.locate here false path
    throw (if spot.found?.isSome then .alreadyExists else .notFound)
  else files.createAt now here path (fun _ => .link target) 0o777

def addName (files : Files) (now : Nat) (here : FileId) (old new : String) :
    Except OsError Files := do
  let id ← files.find here false old
  let spot ← files.locate here false new
  if spot.found?.isSome then throw .alreadyExists
  if files.isDirectory id then throw .notPermitted
  if isSlashed new ∨ !files.isAlive spot.directory then throw .notFound
  pure (files.setItem now spot.directory spot.name id)

def unlink (files : Files) (now : Nat) (here : FileId) (path : String) : Except OsError Files := do
  let spot ← files.locate here false path
  match spot.found? with
  | none => throw .notFound
  | some id =>
      if files.isDirectory id then throw .isADirectory
      else pure (files.dropItem now spot.directory spot.name)

def removeDirectory (files : Files) (now : Nat) (here : FileId) (path : String) :
    Except OsError Files := do
  let spot ← files.locate here false path
  match spot.found? with
  | none => throw .notFound
  | some id =>
      if !files.isDirectory id then throw .notADirectory
      else if spot.name = "." then throw .invalid
      else if files.items id ≠ [] then throw .notEmpty
      else pure (files.dropItem now spot.directory spot.name)

/-- Is a directory the same as another one, or below it?  `fuel` bounds the directories above. -/
def isBelow (files : Files) (top : FileId) : (fuel : Nat) → FileId → Bool
  | 0, _ => false
  | fuel + 1, id => id == top || (id != root && isBelow files top fuel (files.parentOf id))

def rename (files : Files) (now : Nat) (here : FileId) (old new : String) :
    Except OsError Files := do
  let source ← files.locate here false old
  let target ← files.locate here false new
  let some id := source.found? | throw .notFound
  if source.name = "." ∨ target.name = "." then throw (.other "Device or resource busy")
  let moves := files.isDirectory id
  if moves ∧ files.isBelow id (files.nodes.size + 1) target.directory then throw .invalid
  if isSlashed new ∧ !moves then throw .notADirectory
  if !files.isAlive target.directory then throw .notFound
  match target.found? with
  | some other =>
      if other = id then return files
      if files.isDirectory other then
        if !moves then throw .isADirectory
        if files.items other ≠ [] then throw .notEmpty
      else if moves then throw .notADirectory
  | none => pure ()
  let files := files.dropItem now source.directory source.name
  let files := files.setItem now target.directory target.name id
  pure (files.modify id fun node =>
    match node.content with
    | .directory items _ => { node with content := .directory items target.directory }
    | _ => node)

/-- Remove a directory's items, and theirs, until nothing is left; `fuel` bounds the levels. -/
def clear (now : Nat) : (fuel : Nat) → FileId → Files → Files
  | 0, _, files => files
  | fuel + 1, id, files =>
      let files := (files.items id).foldl (fun files item => clear now fuel item.2 files) files
      if files.isDirectory id then files.changeItems now id fun _ => [] else files

def removeAll (files : Files) (now : Nat) (spot : Spot) (id : FileId) : Files :=
  (clear now (files.nodes.size + 1) id files).dropItem now spot.directory spot.name

def changeBytes (files : Files) (now : Nat) (id : FileId) (change : ByteArray → ByteArray) :
    Files :=
  files.modify id fun node =>
    match node with
    | ⟨.bytes bytes, mode, _⟩ => ⟨.bytes (change bytes), mode, now⟩
    | node => node

def setBytes (files : Files) (now : Nat) (id : FileId) (bytes : ByteArray) : Files :=
  files.changeBytes now id fun _ => bytes

def setMode (files : Files) (id : FileId) (mode : Nat) : Files :=
  files.modify id fun node => { node with mode }

def setModified (files : Files) (id : FileId) (modified : Nat) : Files :=
  files.modify id fun node => { node with modified }

/-! ## Opening -/

structure OpenMode where
  reads : Bool := false
  writes : Bool := false
  appends : Bool := false
  creates : Bool := false
  exclusive : Bool := false
  empties : Bool := false
  deriving DecidableEq

def OpenMode.read : OpenMode := { reads := true }

def OpenMode.rewrite : OpenMode := { writes := true, creates := true, empties := true }

def OpenMode.append : OpenMode := { writes := true, creates := true, appends := true }

def openFile (files : Files) (now : Nat) (here : FileId) (path : String) (mode : OpenMode)
    (permissions : Nat) : Except OsError (Files × FileId) := do
  let spot ← files.locate here (!mode.exclusive) path
  match spot.found? with
  | none =>
      if !mode.creates then throw .notFound
      -- A slash at the end asks for a directory, which is not made by opening it.
      else if isSlashed path then throw .isADirectory
      else files.create now spot (.bytes ByteArray.empty) permissions
  | some id =>
      if mode.creates ∧ mode.exclusive then throw .alreadyExists
      if mode.writes ∧ files.isDirectory id then throw .isADirectory
      if mode.empties then
        pure (files.setBytes now id ByteArray.empty, id)
      else pure (files, id)

def «open» (files : Files) (now : Nat) (here : FileId) (path : String) (mode : OpenMode)
    (permissions : Nat) : Except OsError (Files × FileId) :=
  match files.openFile now here path mode permissions with
  | .error .notADirectory =>
      -- With a slash at its end, the path of a file cannot be one where a file is made.
      let bare := String.ofList ((path.toList.reverse.dropWhile (· == '/')).reverse)
      if mode.creates ∧ isSlashed path ∧ (files.locate here true bare).toBool then
        .error .isADirectory
      else .error .notADirectory
  | result => result

end Files

end FlagSearch.Sandbox
