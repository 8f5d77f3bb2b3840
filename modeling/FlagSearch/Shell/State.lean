import FlagSearch.Shell.Fields
import FlagSearch.Shell.Source
import FlagSearch.Sandbox.Program

/-!
# Shells

An `Interpreter` is what a shell knows while it runs a script, and `Running` is the monad of what it does.

* `Variable`, `Job`, `Interpreter` — the state.
* `Ending`, `Running` — computations that can leave loops, functions and the whole script.
* `Running.value?`, `Running.assign`, … — variables.
* `Running.put`, `Running.warn`, `Running.fail` — what a shell writes.
-/

namespace FlagSearch.Shell

open Sandbox

structure Variable where
  value? : Option String
  isExported : Bool
  isReadonly : Bool

def Variable.unset : Variable := ⟨none, false, false⟩

structure Function where
  line : Nat
  body : Command

/-- Children that were started together. -/
structure Job where
  number : Nat
  parts : List (Pid × Option Ended)
  isWaited : Bool

def Job.isDone (job : Job) : Bool := job.parts.all fun part => part.2.isSome

abbrev Frame := List (String × Option Variable)

structure Interpreter where
  name : String
  arguments : List String
  dialect : Dialect
  bindings : List (String × Variable)
  functions : List (String × Function)
  documents : List (Nat × Word)
  nextKey : Nat
  options : List String
  status : Nat
  savedStatus? : Option Nat
  outputStatus : Nat
  rootPid : Pid
  lastChild? : Option Pid
  jobs : List Job
  line : Nat
  lineRead : Nat
  loops : Nat
  depth : Nat
  traps : List (Signal × String)
  frames : List Frame
  command? : Option String
  buffer : String
  hasLost : Bool
  letterPlace : Nat × Option Nat
  here : String

/-- Why a computation does not go on. -/
inductive Ending where
  | exited
  | failed
  | returned
  | broken (count : Nat)
  | continued (count : Nat)

abbrev Running := ExceptT Ending (StateT Interpreter Routine)

namespace Running

def lift {α : Type} (routine : Routine α) : Running α :=
  ExceptT.lift (StateT.lift routine)

/-- The computation that goes on whatever happens in another one, and learns of it. -/
def attempt {α : Type} (running : Running α) : Running (Except Ending α) :=
  ExceptT.mk do
    let result ← running.run
    return .ok result

def resume {α : Type} : Except Ending α → Running α
  | .ok value => pure value
  | .error ending => throw ending

def always {α : Type} (running : Running α) (after : Running Unit) : Running α := do
  let result ← attempt running
  after
  resume result

def hasOption (option : String) : Running Bool := return (← get).options.contains option

def isRich : Running Bool := return (← get).dialect == .rich

/-! ## Output -/

def writeTo (stream : Nat) (text : String) : Running Unit := do
  let _ ← lift (Routine.write stream text)

def put (text : String) : Running Unit :=
  modify fun shell => { shell with buffer := shell.buffer ++ text }

def flush : Running Unit := do
  let text := (← get).buffer
  if text ≠ "" then
    modify fun shell => { shell with buffer := "" }
    if let .error _ ← lift (Routine.write 1 text) then
      modify fun shell => { shell with hasLost := true }

def messageStart (shell : Interpreter) : String :=
  let place :=
    if shell.dialect == .rich then s!"{shell.name}: line {shell.line}: "
    else s!"{shell.name}: {shell.line}: "
  match shell.command? with
  | some command => s!"{place}{command}: "
  | none => place

def warn (text : String) : Running Unit := do
  writeTo 2 s!"{messageStart (← get)}{text}\n"

def misuse : Nat := 2

def failure : Running Nat := return if ← isRich then 1 else misuse

def fail {α : Type} (text : String) : Running α := do
  warn text
  let status ← failure
  modify fun shell => { shell with status }
  throw .failed

def failMisused {α : Type} (text : String) : Running α := do
  warn text
  modify fun shell => { shell with status := misuse }
  throw .failed

def failWholly {α : Type} (text : String) : Running α := do
  warn text
  let status ← failure
  modify fun shell => { shell with status }
  throw (if ← isRich then .exited else .failed)

def setStatus (status : Nat) : Running Unit := modify fun shell => { shell with status }

/-! ## Variables -/

def binding? (name : String) : Running (Option Variable) := return (← get).bindings.lookup name

def value? (name : String) : Running (Option String) := do
  return (← binding? name).bind Variable.value?

def setBinding (name : String) (new? : Option Variable) : Running Unit :=
  modify fun shell => { shell with
    bindings :=
      match new? with
      | none => shell.bindings.filter fun other => other.1 ≠ name
      | some new =>
          if (shell.bindings.lookup name).isSome then
            shell.bindings.map fun other => if other.1 = name then (name, new) else other
          else shell.bindings ++ [(name, new)] }

def demandWritable (name : String) : Running (Option Variable) := do
  let old? ← binding? name
  if old?.any Variable.isReadonly then
    if ← isRich then fail s!"{name}: readonly variable" else fail s!"{name}: is read only"
  return old?

def assign (name value : String) (exports : Bool) : Running Unit := do
  let old := (← demandWritable name).getD Variable.unset
  let exports := exports || (← hasOption "allexport")
  setBinding name (some { old with
    value? := some value
    isExported := old.isExported || exports })
  if name = "OPTIND" then
    modify fun shell => { shell with letterPlace := (max 1 (value.toNat?.getD 1), none) }

def unset (name : String) : Running Unit := do
  if (← demandWritable name).isSome then setBinding name none

def separators : Running String := return (← value? "IFS").getD Fields.usualSeparators

def joint : Running String := do
  match ← value? "IFS" with
  | none => return " "
  | some separators => return String.ofList (separators.toList.take 1)

def environment : Running (List (String × String)) := do
  return (← get).bindings.filterMap fun (name, binding) =>
    if binding.isExported then binding.value?.map fun value => (name, value) else none

/-- Remember what a variable is, to make it so again at the end of the current frame. -/
def remember (name : String) : Running Unit := do
  let old? ← binding? name
  modify fun shell =>
    match shell.frames with
    | frame :: frames =>
        if (frame.lookup name).isSome then shell
        else { shell with frames := ((name, old?) :: frame) :: frames }
    | [] => shell

/-- Carry something out with a frame of its own, at whose end variables are as they were.  At the
end of the whole script they stay as they are. -/
def framed {α : Type} (running : Running α) : Running α := do
  modify fun shell => { shell with frames := [] :: shell.frames }
  let result ← attempt running
  match result with
  | .error .exited | .error .failed => resume result
  | _ =>
      let shell ← get
      set { shell with frames := shell.frames.drop 1 }
      for (name, old?) in shell.frames.headD [] do
        setBinding name old?
      resume result

def named {α : Type} (command? : Option String) (running : Running α) : Running α := do
  let saved := (← get).command?
  modify fun shell => { shell with command? }
  always running (modify fun shell => { shell with command? := saved })

/-! ## Sources -/

def source (text : String) : Running Source := do
  let shell ← get
  return { Source.ofText shell.dialect text with
    documents := shell.documents
    nextKey := shell.nextKey }

end Running

end FlagSearch.Shell
