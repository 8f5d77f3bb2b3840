import FlagSearch.Sandbox.System

/-!
# Programs

A `Program` is its next request to the system together with what it does after each answer.  So a
program is plain data to the system that runs it: it can be stopped between two requests, copied
for a child, and dropped.

* `Program` — the requests.
* `Routine` — a part of a program that comes to a value.
* `Routine.ask`, `Routine.await` — requests that are answered at once, and ones that may have to
  wait.
* `Routine.spend`, `Routine.fork`, `Routine.exec`, `Routine.program` — time, children, other
  programs, and a routine as a whole program.
-/

namespace FlagSearch.Sandbox

/-- What a process is going to do. -/
inductive Program where
  | exit (status : Nat)
  | idle
  | request (act : Pid → System → Option Program × System)
  | spend (nanos : Nat) (next : Unit → Program)
  | fork (child : Unit → Program) (next : Pid → Program)
  | exec (path : String) (arguments : List String) (environment : List (String × String))
      (refused : OsError → Program)

/-- A part of a program that comes to a value: given what happens with the value, a program. -/
def Routine (α : Type) : Type := (α → Program) → Program

namespace Routine

instance : Monad Routine where
  pure value := fun next => next value
  bind routine after := fun next => routine fun value => after value next

/-- The program that carries out a routine and ends with the status that the routine comes to. -/
def program (routine : Routine Nat) : Program := routine fun status => .exit status

def ask {α : Type} (act : Pid → System → α × System) : Routine α := fun next =>
  .request fun pid system =>
    let (answer, system) := act pid system
    (some (next answer), system)

def await {α : Type} (act : Pid → System → Option α × System) : Routine α := fun next =>
  .request fun pid system =>
    let (answer?, system) := act pid system
    (answer?.map next, system)

def spend (nanos : Nat) : Routine Unit := fun next => .spend nanos next

def exit {α : Type} (status : Nat) : Routine α := fun _ => .exit status

def idle {α : Type} : Routine α := fun _ => .idle

def fork (child : Routine Nat) : Routine Pid := fun next => .fork (fun _ => program child) next

def exec (path : String) (arguments : List String) (environment : List (String × String)) :
    Routine OsError := fun next => .exec path arguments environment next

/-! ## Requests -/

def self : Routine Pid := ask fun pid system => (pid, system)

def now : Routine Nat := ask fun _ system => (system.now, system)

def read (stream count : Nat) : Routine (Except OsError String) := await (System.read stream count)

def write (stream : Nat) (text : String) : Routine (Except OsError Unit) :=
  if text = "" then pure (.ok ()) else await (System.write stream text)

def openFile (path : String) (mode : Files.OpenMode) : Routine (Except OsError Nat) :=
  ask (System.openFile path mode)

def close (stream : Nat) : Routine Unit := ask (System.close stream)

def facts (path : String) (follow : Bool) : Routine (Except OsError System.Facts) :=
  ask (System.facts path follow)

def change (act : Files → Nat → FileId → Except OsError Files) :
    Routine (Except OsError Unit) :=
  ask (System.change act)

def blockSize : Nat := 65536

/-- The rest of a stream; `fuel` bounds the requests.  A stream that goes on after them is taken for
one that never ends. -/
def readRest (stream : Nat) (text : String) : (fuel : Nat) → Routine (Except OsError String)
  | 0 => idle
  | fuel + 1 => do
      match ← read stream blockSize with
      | .error e => pure (.error e)
      | .ok "" => pure (.ok text)
      | .ok more => readRest stream (text ++ more) fuel

def manyReads : Nat := 20000

def readAll (stream : Nat) : Routine (Except OsError String) := readRest stream "" manyReads

def readFile (path : String) : Routine (Except OsError String) := do
  match ← openFile path .read with
  | .error e => pure (.error e)
  | .ok stream => do
      let text ← readAll stream
      close stream
      pure text

def writeFile (path text : String) : Routine (Except OsError Unit) := do
  match ← openFile path .rewrite with
  | .error e => pure (.error e)
  | .ok stream => do
      let result ← write stream text
      close stream
      pure result

end Routine

end FlagSearch.Sandbox
