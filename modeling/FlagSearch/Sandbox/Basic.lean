import FlagSearch.Sandbox.Kernel

/-!
# The sandbox

A `Sandbox` is a machine in memory: a system, the programs that still run on it, a directory to
start from, and a clock that only work moves.  A request to stop can be tied to a path: it is made
as soon as something is there.

* `Sandbox.ofFiles` — a sandbox at rest.
* `Sandbox.add`, `Sandbox.addBelow`, `Sandbox.enter` — filling it before it is used.
* `Sandbox.below`, `Sandbox.pathsBelow` — looking at it afterwards.
* `Sandbox.stopAsked` — has anyone asked to stop?
-/

namespace FlagSearch

structure Sandbox where
  system : Sandbox.System
  threads : List Sandbox.Thread
  serial : Nat
  stopPath? : Option String
  stopped : Bool

namespace Sandbox

def host : Pid := 100

def firstPid : Pid := 1000

def usualMask : Nat := 0o022

/-- A sandbox at rest, with the given files; `now` is in nanoseconds since the start of 1970. -/
def ofFiles (files : Files) (now : Nat) : Sandbox where
  system := {
    files, now
    openings := #[]
    pipes := #[]
    processes := [{
      pid := host
      parent := 0
      streams := []
      here := Files.root
      mask := usualMask
      ignored := []
      caught := []
      pending := []
      ended? := none }]
    nextPid := firstPid }
  threads := []
  serial := 0
  stopPath? := none
  stopped := false

def here (sandbox : Sandbox) : FileId := sandbox.system.here host

def files (sandbox : Sandbox) : Files := sandbox.system.files

def withFiles (sandbox : Sandbox) (files : Files) : Sandbox :=
  { sandbox with system := { sandbox.system with files } }

def stopAsked (sandbox : Sandbox) : Bool :=
  sandbox.stopped || sandbox.stopPath?.any fun path =>
    (sandbox.files.find Files.root true path).toBool

/-! ## Filling -/

/-- Put something at the end of some names, with directories above it where there is nothing yet;
a directory that is there stays what it is. -/
def deliver (now : Nat) (content : FileId → Content) (mode : Nat) :
    FileId → List String → Files → Files
  | _, [], files => files
  | place, name :: rest, files =>
      let known? := (files.items place).lookup name
      let isDirectory : Bool := match content place with
        | .directory _ _ => true
        | _ => !rest.isEmpty
      let stays := isDirectory && known?.any files.isDirectory
      let (files, id) : Files × FileId :=
        match stays, known? with
        | true, some id => (files, id)
        | _, _ =>
            let new : FileNode :=
              if rest.isEmpty then ⟨content place, mode, now⟩
              else ⟨.directory [] place, 0o755, now⟩
            let id := files.nodes.size
            (Files.setItem ⟨files.nodes.push new⟩ now place name id, id)
      deliver now content mode id rest files

def steps (path : String) : List String := (Files.names path).filter (· ≠ "")

def add (path : String) (content : FileId → Content) (mode : Nat) (sandbox : Sandbox) : Sandbox :=
  sandbox.withFiles
    (deliver sandbox.system.now content mode Files.root (steps (Octets.ofText path)) sandbox.files)

def addDirectory (path : String) (mode : Nat) (sandbox : Sandbox) : Sandbox :=
  sandbox.add path (fun parent => .directory [] parent) mode

def addText (path text : String) (mode : Nat) (sandbox : Sandbox) : Sandbox :=
  sandbox.add path (fun _ => .bytes text.toUTF8) mode

/-- Add a file or directory below a directory; the name of a directory ends in a slash, and a text
that names its program can be run. -/
def addBelow (top path text : String) (sandbox : Sandbox) : Sandbox :=
  let full := s!"{top}/{path}"
  if path.endsWith "/" then sandbox.addDirectory full 0o755
  else sandbox.addText full text (if text.startsWith "#!" then 0o755 else 0o644)

def enter (path : String) (sandbox : Sandbox) : Sandbox :=
  { sandbox with system := (sandbox.system.enter (Octets.ofText path) host).2 }

/-! ## Looking -/

def find (sandbox : Sandbox) (path : String) : Except OsError FileId :=
  if path.toList.contains '\x00' then .error .zeroInPath
  else sandbox.files.find sandbox.here true (Octets.ofText path)

def readText (path : String) (sandbox : Sandbox) : Except OsError String := do
  let id ← sandbox.find path
  if sandbox.files.isDirectory id then throw .isADirectory
  match String.fromUTF8? (sandbox.files.bytesOf id) with
  | some text => pure text
  | none => throw .notAText

/-- Everything below a directory with the names that lead there from it; `fuel` bounds the
levels. -/
def itemsBelow (files : Files) : (fuel : Nat) → String → FileId → List (String × FileId)
  | 0, _, _ => []
  | fuel + 1, above, id =>
      (files.items id).flatMap fun (name, id) =>
        let path := above ++ name
        if files.isDirectory id then (path ++ "/", id) :: itemsBelow files fuel (path ++ "/") id
        else [(path, id)]

/-- Everything below a directory, by the names that lead there from it; directories end in a
slash. -/
def below (path : String) (sandbox : Sandbox) : List (String × FileId) :=
  match sandbox.find path with
  | .ok id =>
      (itemsBelow sandbox.files (sandbox.files.nodes.size + 1) "" id).map
        fun (path, id) => (Octets.toText path, id)
  | .error _ => []

def pathsBelow (path : String) (sandbox : Sandbox) : List String :=
  ((sandbox.below path).map Prod.fst).mergeSort fun a b => decide (a ≤ b)

end Sandbox

end FlagSearch
