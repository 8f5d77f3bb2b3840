import FlagSearch.Shell.Evaluation

/-!
# The start of a shell

* `Shell.program` — a shell as a program: its options, its script, and its end.
-/

namespace FlagSearch.Shell

open Sandbox Running

/-- The rounds and levels of commands that a shell carries out before it is taken for one that
never ends. -/
def manySteps : Nat := 100000000

def usualBindings : List (String × Variable) :=
  [("IFS", Fields.usualSeparators), ("OPTIND", "1"), ("PS1", "# "), ("PS2", "> "),
    ("PS4", "+ ")].map fun (name, value) => (name, { Variable.unset with value? := some value })

def givenBindings (environment : List (String × String)) : List (String × Variable) :=
  (environment.filter fun (name, _) => isName name ∧ name ≠ "IFS" ∧ name ≠ "OPTIND").map
    fun (name, value) => (name, { Variable.unset with value? := some value, isExported := true })

def start (dialect : Dialect) (name : String) (environment : List (String × String)) :
    Interpreter where
  name := name
  arguments := []
  dialect := dialect
  bindings :=
    let given := givenBindings environment
    given ++ usualBindings.filter fun (name, _) => (given.lookup name).isNone
  functions := []
  documents := []
  nextKey := 0
  options := []
  status := 0
  savedStatus? := none
  outputStatus := 0
  rootPid := 0
  lastChild? := none
  jobs := []
  line := 0
  lineRead := 1
  loops := 0
  depth := 0
  traps := []
  frames := []
  command? := none
  buffer := ""
  hasLost := false
  letterPlace := (1, none)
  here := "/"

def orient : Running Unit := do
  let pid ← lift Routine.self
  let parent ← lift (Routine.ask fun pid system =>
    (((system.process? pid).map Process.parent).getD 1, system))
  modify fun shell => { shell with rootPid := pid }
  assign "PPID" (toString parent) false
  if (← value? "PATH").isNone then assign "PATH" Lookup.usualPath false
  let real ← Builtins.physical
  let given? ← value? "PWD"
  let sameAs (path : String) : Running Bool :=
    lift (Routine.ask fun pid system =>
      ((system.files.find Files.root true path).toOption == some (system.here pid), system))
  let isTrue ← match given? with
    | some given => if Files.isAbsolute given then sameAs given else pure false
    | none => pure false
  match if isTrue then given? else real with
  | some here =>
      modify fun shell => { shell with here }
      assign "PWD" here true
  | none =>
      warn "getcwd() failed: No such file or directory"
      modify fun shell => { shell with here := "" }

def begin (given : Builtins.Given) : Running Unit := do
  let runText (content : String) (isLast : Bool) : Running Unit := do
    let status ← Evaluation.text manySteps ⟨false, isLast⟩ content
    setStatus status
  match given.isCommand, given.rest with
  | true, [] => fail "-c requires an argument"
  | true, command :: rest =>
      modify fun shell => { shell with
        name := rest.headD shell.name
        arguments := rest.drop 1 }
      runText command true
  | false, rest =>
      match rest, ← hasOption "stdin" with
      | path :: rest, false =>
          match ← lift (Routine.openFile path .read) with
          | .error e =>
              warn s!"cannot open {path}: {Redirects.openReason e false}"
              setStatus (if ← isRich then 127 else 2)
              throw .exited
          | .ok stream =>
              let content ← Evaluation.readPipe stream
              lift (Routine.close stream)
              modify fun shell => { shell with name := path, arguments := rest }
              runText content false
      | rest, _ =>
          modify fun shell => { shell with arguments := rest }
          runText (← Evaluation.readPipe 0) false

def program (dialect : Dialect) (arguments : List String) (environment : List (String × String)) :
    Program :=
  let name := arguments.headD "sh"
  let whole : Running Unit := do
    orient
    let rest := arguments.drop 1
    let given ← Builtins.options true (rest.length + 1) ⟨rest, false, false⟩
    begin given
  (Evaluation.finish manySteps (whole.run.run (start dialect name environment))).program

end FlagSearch.Shell
