import FlagSearch.Shell.Builtins.Options

/-!
# Jobs and signals

* `Jobs.start`, `Jobs.finish` — children that are started, and waited for.
* `Builtins.wait`, `Builtins.kill` — children that no one waits for.
* `Builtins.trap` — what is done when a signal comes.
-/

namespace FlagSearch.Shell

open Running Sandbox

/-! ## Jobs -/

namespace Jobs

def status : Ended → Nat
  | .exited status => status
  | .killed signal => 128 + signal

def note (ended : List (Pid × Ended)) : Running Unit :=
  modify fun shell => { shell with
    jobs := shell.jobs.map fun job => { job with
      parts := job.parts.map fun (pid, known?) => (pid, known? <|> ended.lookup pid) } }

def collect : Running Unit := do
  note (← lift (Routine.ask System.collect))

/-- The first number that no job has; jobs whose end is known to all are forgotten for it. -/
def freeNumber (jobs : List Job) : Nat :=
  let isTaken (number : Nat) : Bool := jobs.any fun job =>
    job.number == number && !(job.isDone && job.isWaited)
  ((List.range (jobs.length + 1)).find? fun number => !isTaken (number + 1)).getD jobs.length + 1

def start (pids : List Pid) : Running Unit :=
  modify fun shell =>
    let number := freeNumber shell.jobs
    { shell with
      jobs := ⟨number, pids.map fun pid => (pid, none), false⟩
        :: shell.jobs.filter fun job => job.number ≠ number }

def signalText? : Ended → Option String
  | .exited _ => none
  | .killed signal =>
      if signal = Signal.int ∨ signal = Signal.pipe then none
      else
        some (([(1, "Hangup"), (3, "Quit"), (4, "Illegal instruction"),
          (5, "Trace/breakpoint trap"), (6, "Aborted"), (7, "Bus error"),
          (8, "Floating point exception"), (9, "Killed"), (10, "User defined signal 1"),
          (11, "Segmentation fault"), (12, "User defined signal 2"), (14, "Alarm clock"),
          (15, "Terminated")] : List (Signal × String)).lookup signal |>.getD
            s!"Unknown signal {signal}")

def waitFor (pid : Pid) : Running Ended := do
  match ← lift (Routine.await (System.wait (some pid) false)) with
  | .child _ ended => return ended
  | .nothing | .interrupted => return .exited 127

def tell (ended : Ended) : Running Unit := do
  if let some text := signalText? ended then
    if !(← isRich) then writeTo 2 s!"{text}\n"

/-- Wait until children that were started together have ended; their statuses are the answer. -/
def finish (pids : List Pid) : Running (List Nat) := do
  let ends ← pids.mapM waitFor
  ends.forM tell
  collect
  return ends.map status

def jobStatus (job : Job) : Nat :=
  ((job.parts.getLast?.bind Prod.snd).map status).getD 0

/-- What happened while someone waited. -/
inductive Waited where
  | over
  | signal (signal : Signal)

def waitForParts : List (Pid × Option Ended) → Running Waited
  | [] => return .over
  | (_, some _) :: rest => waitForParts rest
  | (pid, none) :: rest => do
      match ← lift (Routine.await (System.wait (some pid) true)) with
      | .child pid ended =>
          note [(pid, ended)]
          tell ended
          waitForParts rest
      | .nothing =>
          note [(pid, .exited 127)]
          waitForParts rest
      | .interrupted =>
          let pending ← lift (Routine.ask fun self system =>
            (((system.process? self).map Process.pending).getD [], system))
          return .signal (pending.headD 0)

def named? (text : String) : Running (Option Job) := do
  let pid ← Builtins.number text
  return (← get).jobs.find? fun job => (job.parts.getLast?.map Prod.fst) == some pid

def markWaited (number : Nat) : Running Unit :=
  modify fun shell => { shell with
    jobs := shell.jobs.map fun job =>
      if job.number = number then { job with isWaited := true } else job }

end Jobs

namespace Builtins

def wait (arguments : List String) : Running Nat := do
  let (_, rest) ← letters "" arguments
  if rest.isEmpty then
    for job in (← get).jobs do
      match ← Jobs.waitForParts job.parts with
      | .over => Jobs.markWaited job.number
      | .signal signal => return 128 + signal
    return 0
  else
    let mut status := 127
    for text in rest do
      match ← Jobs.named? text with
      | none => status := 127
      | some job =>
          match ← Jobs.waitForParts job.parts with
          | .signal signal => return 128 + signal
          | .over =>
              Jobs.markWaited job.number
              let job? := (← get).jobs.find? fun other => other.number == job.number
              status := (job?.map Jobs.jobStatus).getD 127
    return status

/-! ## Signals -/

def signal? (text : String) (isRich : Bool) (least : Nat) : Option Signal :=
  if text ≠ "" ∧ text.toList.all Char.isDigit then
    let number := Text.ofDigits 10 text.toList
    if number ≤ 64 then some number else none
  else
    let name := text.toUpper
    let name := if isRich && name.startsWith "SIG" then String.ofList (name.toList.drop 3)
      else name
    if least = 0 ∧ name = "EXIT" then some 0
    else (Signal.names.idxOf? name).map (· + 1)

def signalName (signal : Signal) : String :=
  if signal = 0 then "EXIT" else (Signal.names[signal - 1]?).getD (toString signal)

def killUsage : String :=
  "Usage: kill [-s sigspec | -signum | -sigspec] [pid | job]... or\nkill -l [exitstatus]"

def sendTo (signal : Signal) (text : String) : Running Nat := do
  let refuse : Running Nat := do
    warn "No such process\n"
    return 1
  let send (pid : Pid) : Running Nat := do
    if ← lift (Routine.ask fun _ system => system.signal pid signal) then return 0 else refuse
  match text.toList with
  | '-' :: rest => send (← number (String.ofList rest))
  | _ =>
      let pid ← number text
      if pid = 0 then
        lift (Routine.ask fun _ system =>
          ((), system.processes.foldl
            (fun system process => (system.signal process.pid signal).2) system))
        return 0
      else send pid

def sendToAll (signal : Signal) (texts : List String) : Running Nat := do
  let statuses ← texts.mapM (sendTo signal)
  return if statuses.all (· == 0) then 0 else 1

def kill (arguments : List String) : Running Nat := do
  let isRich ← isRich
  match arguments with
  | [] => fail killUsage
  | first :: rest =>
      let dashed? := match first.toList with
        | '-' :: name => signal? (String.ofList name) isRich 1
        | _ => none
      match dashed? with
      | some signal =>
          let rest := if rest.head? = some "--" then rest.drop 1 else rest
          if rest.isEmpty then fail killUsage else sendToAll signal rest
      | none =>
          let (letters, rest) ← letters "s:" arguments
          match (letters.getLast?).bind Prod.snd with
          | some name =>
              match signal? name isRich 1 with
              | some signal => if rest.isEmpty then fail killUsage else sendToAll signal rest
              | none => fail s!"invalid signal number or name: {name}"
          | none => if rest.isEmpty then fail killUsage else sendToAll Signal.term rest

def dispose (signal : Signal) (action? : Option String) : Running Unit := do
  if signal ≠ 0 then
    let disposition : System.Disposition := match action? with
      | none => .usual
      | some "" => .ignore
      | some _ => .tell
    lift (Routine.ask (System.dispose signal disposition))

def setTraps (action? : Option String) : List String → Running Nat
  | [] => return 0
  | text :: rest => do
      match signal? text (← isRich) 0 with
      | none =>
          writeTo 2 s!"trap: {text}: bad trap\n"
          return 1
      | some signal =>
          modify fun shell =>
            let others := shell.traps.filter fun other => other.1 ≠ signal
            { shell with traps := match action? with
              | some action => (signal, action) :: others
              | none => others }
          dispose signal action?
          setTraps action? rest

def trap (arguments : List String) : Running Nat := do
  let (_, rest) ← letters "" arguments
  match rest with
  | [] =>
      for (signal, action) in (← get).traps.mergeSort fun first second => first.1 ≤ second.1 do
        put s!"trap -- {quoted action} {signalName signal}\n"
      return 0
  | first :: others =>
      let isNumber := first ≠ "" ∧ first.toList.all Char.isDigit
      if others.isEmpty ∨ isNumber then setTraps none rest
      else setTraps (if first = "-" then none else some first) others

end Builtins

end FlagSearch.Shell
