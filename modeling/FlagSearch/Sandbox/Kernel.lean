import FlagSearch.Sandbox.Program

/-!
# Running programs side by side

A `Kernel` is a system with the programs that run on it.  Every program has a time of its own, and
the one that is furthest behind takes the next step, so the processes of a kernel run side by side
although only one of them moves at a time.  What happens depends on nothing but the state.

* `interpreter?`, `toolName?`, `load` — from a program file to the tool that runs it.
* `Thread`, `Kernel` — the state.
* `Kernel.step` — one step of one process.
* `Kernel.run` — steps until a process has ended, is out of time, or someone wants it to stop.
-/

namespace FlagSearch.Sandbox

/-! ## Program files -/

def interpreter? (text : String) : Option (String × List String) :=
  match text.toList with
  | '#' :: '!' :: rest =>
      let isBlank (c : Char) : Bool := c == ' ' || c == '\t'
      let line := (rest.takeWhile (· ≠ '\n')).dropWhile isBlank
      let name := line.takeWhile fun c => !isBlank c
      let argument := ((line.drop name.length).dropWhile isBlank).reverse.dropWhile isBlank
      if name = [] then none
      else
        some (String.ofList name,
          if argument = [] then [] else [String.ofList argument.reverse])
  | _ => none

def toolName? (text : String) : Option String :=
  if text.startsWith Files.programMark then
    some (text.drop Files.programMark.length).toString
  else none

def interpreterLimit : Nat := 5

/-- The tool that runs the program at a path, and the arguments that it is given, the name of the
program first; `fuel` bounds the scripts on the way. -/
def load (files : Files) (here : FileId) :
    (fuel : Nat) → (path : String) → List String → Except OsError (String × List String)
  | 0, _, _ => .error .tooManyLinks
  | fuel + 1, path, arguments => do
      let id ← files.find here true path
      match files.content? id with
      | some (.tool name) => pure (name, arguments)
      | some (.bytes bytes) =>
          if !files.isExecutable id then throw .permissionDenied
          let text := Octets.ofBytes bytes
          match toolName? text, interpreter? text with
          | some name, _ => pure (name, arguments)
          | none, none => throw .badFormat
          | none, some (program, extra) =>
              load files here fuel program (program :: extra ++ path :: arguments.drop 1)
      | _ => throw .permissionDenied

/-- The tools of a sandbox: by name, with their arguments, the name of the program first, and their
environment. -/
abbrev Toolbox := String → List String → List (String × String) → Program

/-! ## State -/

/-- A process with what it is going to do. -/
structure Thread where
  pid : Pid
  program : Program
  time : Nat
  waits : Bool

/-- A system with the programs that run on it. -/
structure Kernel where
  system : System
  threads : List Thread

/-! ## Steps -/

def forkNanos : Nat := 150000

def wakeNanos : Nat := 250000

def execNanos : Nat := 600000

namespace Kernel

def rouse (now : Nat) (threads : List Thread) : List Thread :=
  threads.map fun thread =>
    if thread.waits then { thread with waits := false, time := max thread.time now } else thread

def isRunning (system : System) (pid : Pid) : Bool :=
  (system.process? pid).any fun process => process.ended?.isNone

def settle (system : System) (threads : List Thread) : Kernel :=
  ⟨system, threads.filter fun thread => isRunning system thread.pid⟩

/-- Nanoseconds that a step takes in addition, after so many steps of all processes.  Whoever
takes very many steps most likely never ends, and then the time may as well pass quickly. -/
def drag (steps : Nat) : Nat :=
  if steps < 150000 then 0
  else if steps < 350000 then 5000
  else if steps < 450000 then 100000
  else 10000000

/-- One step of a thread, which takes so much longer; `others` are all the other threads. -/
def step (tools : Toolbox) (system : System) (longer : Nat) (thread : Thread)
    (others : List Thread) : Kernel :=
  let time := thread.time + longer
  let thread := { thread with time }
  let system := { system with now := max system.now time }
  match thread.program with
  | .exit status =>
      settle (system.finish thread.pid (.exited (status % 256))) (rouse time others)
  | .idle => ⟨system, others ++ [{ thread with waits := true }]⟩
  | .request act =>
      match act thread.pid system with
      | (none, system) => ⟨system, others ++ [{ thread with waits := true }]⟩
      | (some program, system) =>
          settle system ({ thread with program } :: rouse time others)
  | .spend nanos next =>
      ⟨system, { thread with program := next (), time := time + nanos } :: others⟩
  | .fork child next =>
      let (pid, system) := system.spawn thread.pid
      ⟨system, { thread with program := next pid, time := time + forkNanos }
        :: others ++ [⟨pid, child (), time + wakeNanos, false⟩]⟩
  | .exec path arguments environment refused =>
      match load system.files (system.here thread.pid) interpreterLimit path arguments with
      | .error e => ⟨system, { thread with program := refused e } :: others⟩
      | .ok (tool, arguments) =>
          ⟨system.renew thread.pid,
            { thread with program := tools tool arguments environment, time := time + execNanos }
              :: others⟩

def earlier (best? : Option Thread) (thread : Thread) : Option Thread :=
  if thread.waits then best?
  else
    match best? with
    | none => some thread
    | some best => if thread.time < best.time then some thread else best?

def next? (threads : List Thread) : Option Thread := threads.foldl earlier none

/-! ## Runs -/

inductive Halt where
  | ended (ended : Ended)
  | timedOut
  | interrupted

/-- Nanoseconds that pass until someone who wants a process to stop is heard. -/
def hearingNanos : Nat := 15000000

/-- What ends a run early. -/
structure Limits where
  deadline? : Option Nat
  stopPath? : Option String

def stop (pid : Pid) (now : Nat) (kernel : Kernel) : Kernel :=
  let system := kernel.system.killFamily pid
  let processes := system.processes.filter fun process => process.pid ≠ pid
  settle { system with processes, now := max system.now now } (rouse now kernel.threads)

def isAsked (limits : Limits) (system : System) : Bool :=
  limits.stopPath?.any fun path => (system.files.find Files.root true path).toBool

/-- Run until a process is over; `steps` is the number of steps so far, `asked?` is the time at which
someone asked to stop, and `fuel` bounds the steps.  A process that is still running when they are
used up is taken for one that never ends. -/
def run (tools : Toolbox) (limits : Limits) (pid : Pid) :
    (fuel steps : Nat) → (asked? : Option Nat) → Kernel → Halt × Kernel
  | 0, _, _, kernel =>
      let now := limits.deadline?.getD kernel.system.now
      (.timedOut, kernel.stop pid now)
  | fuel + 1, steps, asked?, kernel =>
      match (kernel.system.process? pid).bind Process.ended? with
      | some ended =>
          let processes := kernel.system.processes.filter fun process => process.pid ≠ pid
          (.ended ended, { kernel with system := { kernel.system with processes } })
      | none =>
          let asked? := asked? <|>
            if isAsked limits kernel.system then some kernel.system.now else none
          let heard? := asked?.map (· + hearingNanos)
          match next? kernel.threads with
          | none =>
              -- Everyone waits, and so nothing but the end of the time can come.
              match heard?, limits.deadline? with
              | some heard, none => (.interrupted, kernel.stop pid heard)
              | some heard, some deadline =>
                  if heard ≤ deadline then (.interrupted, kernel.stop pid heard)
                  else (.timedOut, kernel.stop pid deadline)
              | none, deadline? =>
                  (.timedOut, kernel.stop pid (deadline?.getD kernel.system.now))
          | some thread =>
              if heard?.any (· ≤ thread.time) then
                (.interrupted, kernel.stop pid (heard?.getD thread.time))
              else if limits.deadline?.any (· ≤ thread.time) then
                (.timedOut, kernel.stop pid (limits.deadline?.getD thread.time))
              else
                let others := kernel.threads.filter fun other => other.pid ≠ thread.pid
                run tools limits pid fuel (steps + 1) asked?
                  (step tools kernel.system (drag steps) thread others)

end Kernel

end FlagSearch.Sandbox
