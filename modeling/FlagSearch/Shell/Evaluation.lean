import FlagSearch.Shell.Builtins.Jobs
import FlagSearch.Shell.Builtins.Output
import FlagSearch.Shell.Builtins.Places
import FlagSearch.Shell.Builtins.Read
import FlagSearch.Shell.Lookup
import FlagSearch.Shell.Redirects

/-!
# Carrying out commands

How a shell carries out the commands of a script.  Every function has fuel for the loops and the
commands in commands; a shell without fuel does nothing any more, like one that never ends.

* `Evaluation.run` — a command.
* `Evaluation.script` — the commands of a source, one line after the other.
* `Evaluation.finish` — the end of a shell.
-/

namespace FlagSearch.Shell

open Sandbox

namespace Evaluation

open Running

/-- How a command is carried out. -/
structure Way where
  isTested : Bool
  isLast : Bool

def Way.usual : Way := ⟨false, false⟩

def Way.tested : Way := ⟨true, false⟩

def Way.inside (way : Way) : Way := { way with isLast := false }

def commandNanos : Nat := 700

def depthLimit : Nat := 1000

def stuck {α : Type} : Running α := lift Routine.idle

def check (way : Way) : Running Unit := do
  if (← get).status ≠ 0 && !way.isTested && (← hasOption "errexit") then throw .exited

def conclude (way : Way) (status : Nat) : Running Unit := do
  setStatus status
  check way

def hasTraps : Running Bool := return !(← get).traps.isEmpty

/-! ## Traces -/

def trace (stream : Nat) (texts : List String) : Running Unit := do
  if (← hasOption "xtrace") && !texts.isEmpty then
    let start := (← value? "PS4").getD ""
    writeTo stream (start ++ String.intercalate " " texts ++ "\n")

/-! ## Loops -/

inductive AfterBody where
  | next
  | over

/-- What a loop does after an ending in its body; one that is not its own goes on. -/
def afterBody (result : Except Ending Unit) : Running AfterBody := do
  match result with
  | .ok () => return .next
  | .error (.broken count) => if count ≤ 1 then return .over else throw (.broken (count - 1))
  | .error (.continued count) =>
      if count ≤ 1 then return .next else throw (.continued (count - 1))
  | .error ending => throw ending

def inLoop {α : Type} (running : Running α) : Running α := do
  modify fun shell => { shell with loops := shell.loops + 1 }
  always running (modify fun shell => { shell with loops := shell.loops - 1 })

def leave (isBreak : Bool) (arguments : List String) : Running Nat := do
  let count ← match arguments with
    | [] => pure 1
    | text :: _ =>
        let count ← Builtins.number text
        if count = 0 then fail s!"Illegal number: {text}"
        pure count
  let count := min count (← get).loops
  if count = 0 then return 0
  setStatus 0
  throw (if isBreak then .broken count else .continued count)

/-! ## Children -/

def forgetChildren : Running Unit := do
  let traps := (← get).traps
  for (signal, action) in traps do
    if action ≠ "" then Builtins.dispose signal none
  modify fun shell => { shell with
    traps := traps.filter fun (signal, action) => action == "" && signal ≠ 0
    jobs := [] }

def undisturbed (forked : Routine Pid) : Routine Pid := do
  let old? ← Routine.ask fun pid system =>
    (system.process? pid, system.modifyProcess pid fun process =>
      { process with ignored := Signal.int :: 3 :: process.ignored })
  let child ← forked
  Routine.ask fun pid system =>
    ((), system.modifyProcess pid fun process =>
      { process with ignored := (old?.map Process.ignored).getD [] })
  return child

/-- A child that no one waits for does not read what others read, and is not disturbed. -/
def settleBackground (readsNothing : Bool) : Running Unit := do
  Builtins.dispose Signal.int (some "")
  Builtins.dispose 3 (some "")
  if readsNothing then
    lift (Routine.close 0)
    let _ ← lift (Routine.openFile "/dev/null" .read)

def readPipe (stream : Nat) : Running String := do
  match ← lift (Routine.readAll stream) with
  | .ok text => return text
  | .error _ => return ""

/-! ## Programs -/

def refuseProgram {α : Type} (name : String) (e : OsError) : Running α := do
  warn s!"{name}: {Lookup.reason e}"
  let status := match e with
    | .notFound | .notADirectory | .nameTooLong | .tooManyLinks => 127
    | _ => 126
  setStatus status
  throw .exited

def usualShell : String := "/bin/sh"

def become (path : String) (arguments : List String) : Running OsError := do
  let environment ← environment
  match ← lift (Routine.exec path arguments environment) with
  | .badFormat =>
      lift (Routine.exec usualShell (usualShell :: path :: arguments.drop 1) environment)
  | e => return e

/-- Become the first of some programs that can be run; the answer is why none can. -/
def becomeFirst (arguments : List String) : OsError → List String → Running OsError
  | e, [] => return e
  | e, path :: rest => do
      match ← become path arguments with
      | .notFound | .notADirectory => becomeFirst arguments e rest
      | other => becomeFirst arguments other rest

def replace {α : Type} (usesUsual : Bool) (arguments : List String) : Running α := do
  flush
  let name := arguments.headD ""
  if name.toList.contains '/' then refuseProgram name (← become name arguments)
  else
    refuseProgram name
      (← becomeFirst arguments .notFound (← Lookup.candidates name usesUsual))

/-! ## Conditions in double brackets -/

def ask (words : List String) : Running Bool := do
  match ← lift (Question.ask .rich words) with
  | .ok answer => return answer
  | .error reason => fail reason

def askTwo (operator first second : String) : Running Bool := do
  if ["-eq", "-ne", "-lt", "-le", "-gt", "-ge"].contains operator then
    let a ← Expression.evalText first
    let b ← Expression.evalText second
    ask [toString a, operator, toString b]
  else ask [first, operator, second]

/-! ## Assignments -/

structure Assignment where
  name : String
  value : Word

def assignmentOf (word : Word) : Option Assignment :=
  match word with
  | .text chars false :: rest =>
      (assignment? chars).map fun (name, value) =>
        ⟨name, if value.isEmpty then rest else .text value false :: rest⟩
  | _ => none

def assignWord (inner : Expansion.Inner) (isLocal exports : Bool) (word : Word) :
    Running String := do
  match assignmentOf word with
  | none => return ""
  | some assignment =>
      let name := assignment.name
      let text ← Expansion.value inner assignment.value
      if isLocal then remember name
      assign name text exports
      return s!"{name}={text}"

/-- The argument that an assignment word stands for after a command that assigns. -/
def assignmentArgument (inner : Expansion.Inner) (word : Word) : Running String := do
  match assignmentOf word with
  | some assignment =>
      return s!"{assignment.name}={← Expansion.value inner assignment.value}"
  | none => Expansion.text inner word

def argumentsOf (inner : Expansion.Inner) (assigns : Bool) (words : List Word) :
    Running (List String) := do
  if assigns then
    let parts ← words.mapM fun word => do
      if word.isAssignment then return [← assignmentArgument inner word]
      else Expansion.fields inner [word]
    return parts.flatten
  else Expansion.fields inner words

/-- The fields of the first word that stands for any, and the words after it. -/
def firstFields (inner : Expansion.Inner) : List Word → Running (List String × List Word)
  | [] => return ([], [])
  | word :: rest => do
      match ← Expansion.fields inner [word] with
      | [] => firstFields inner rest
      | fields => return (fields, rest)

def assignsAfter (fields : List String) (rest : List Word) : Running Bool := do
  let name := fields.headD ""
  let name :=
    if name ≠ "command" then name
    else
      let others := fields.drop 1 ++ rest.filterMap Word.plain?
      (others.find? fun text => !text.startsWith "-").getD ""
  let shell ← get
  return (shell.functions.lookup name).isNone
    && (Lookup.builtin? shell.dialect name).any Lookup.Builtin.assigns

/-! ## Commands with an own meaning -/

/-- What `command` is asked to do. -/
inductive Commanded where
  | run (usesUsual : Bool) (arguments : List String)
  | describe (isVerbose usesUsual : Bool) (names : List String)

def commanded (arguments : List String) : Running Commanded := do
  let (letters, rest) ← Builtins.letters "pvV" arguments
  let usesUsual := Builtins.hasLetter letters 'p'
  if Builtins.hasLetter letters 'v' || Builtins.hasLetter letters 'V' then
    return .describe (Builtins.hasLetter letters 'V') usesUsual
      (if ← isRich then rest else rest.take 1)
  else return .run usesUsual rest

def plainBuiltin (name : String) (arguments : List String) : Running Nat := do
  match name with
  | ":" | "true" => return 0
  | "false" => return 1
  | "echo" => Builtins.echo arguments
  | "printf" => Builtins.printf arguments
  | "test" => Builtins.test false arguments
  | "[" => Builtins.test true arguments
  | "read" => Builtins.read arguments
  | "cd" | "chdir" => Builtins.cd arguments
  | "pwd" => Builtins.pwd arguments
  | "umask" => Builtins.umask arguments
  | "export" => Builtins.exportNames arguments
  | "readonly" => Builtins.readonlyNames arguments
  | "local" => Builtins.localNames arguments
  | "unset" => Builtins.unset arguments
  | "set" => Builtins.set arguments
  | "shift" => Builtins.shift arguments
  | "getopts" => Builtins.getopts arguments
  | "wait" => Builtins.wait arguments
  | "kill" => Builtins.kill arguments
  | "trap" => Builtins.trap arguments
  | "break" => leave true arguments
  | "continue" => leave false arguments
  | "return" =>
      if let some text := arguments.head? then setStatus (← Builtins.number text)
      throw .returned
  | "exit" =>
      match arguments.head?, (← get).savedStatus? with
      | some text, _ => setStatus (← Builtins.number text)
      | none, some status => setStatus status
      | none, none => pure ()
      throw .exited
  | "type" =>
      let mut status := 0
      for name in arguments do
        let one ← Lookup.describe name true false
        if one ≠ 0 then status := one
      return status
  | _ => return 0

mutual

def run (fuel : Nat) (way : Way) (command : Command) : Running Unit := do
  match fuel with
  | 0 => stuck
  | fuel + 1 =>
    let inner : Expansion.Inner := output fuel
    if ← hasTraps then handleSignals fuel
    if ← hasOption "noexec" then return
    match command with
    | .empty => setStatus 0
    | .simple line assignments words redirects =>
        simple fuel way line assignments words redirects
        check way
    | .not command =>
        run fuel .tested command
        setStatus (if (← get).status = 0 then 1 else 0)
    | .and first second =>
        run fuel .tested first
        if (← get).status = 0 then run fuel way second
    | .or first second =>
        run fuel .tested first
        if (← get).status ≠ 0 then run fuel way second
    | .sequence first second =>
        run fuel way.inside first
        run fuel way second
    | .redirected line body redirects =>
        modify fun shell => { shell with line }
        let prepared ← Redirects.prepareAll inner redirects
        around fuel prepared (do conclude way (← failure)) fun _ => run fuel way.inside body
    | .subshell line body redirects =>
        modify fun shell => { shell with line }
        subshell fuel way body redirects
        check way
    | .background line command =>
        modify fun shell => { shell with line }
        background fuel command
        setStatus 0
    | .pipeline commands =>
        pipeline fuel way commands
        check way
    | .branch condition yes no =>
        run fuel .tested condition
        if (← get).status = 0 then run fuel way yes else run fuel way no
    | .loop wanted condition body =>
        inLoop (loop fuel way.inside wanted condition body 0)
    | .each line name words body =>
        modify fun shell => { shell with line }
        let fields ← Expansion.fields inner words
        setStatus 0
        inLoop (each fuel way.inside name body fields)
    | .choice line subject arms =>
        modify fun shell => { shell with line }
        let text ← Expansion.text inner subject
        choice fuel way text.toList arms
    | .function line name body =>
        modify fun shell => { shell with
          functions := (name, ⟨line, body⟩)
            :: shell.functions.filter fun other => other.1 ≠ name }
        setStatus 0
    | .condition line condition =>
        modify fun shell => { shell with line }
        let answer ← decideCondition fuel condition
        conclude way (if answer then 0 else 1)
    if ← hasTraps then handleSignals fuel

/-- A command whose streams go elsewhere, and what is done if they cannot.  The command gets the
stream where errors went before. -/
def around (fuel : Nat) (prepared : List Redirects.Prepared) (refused : Running Unit)
    (body : Nat → Running Unit) : Running Unit := do
  match fuel with
  | 0 => stuck
  | fuel + 1 =>
    let (saved, ending?) ← Redirects.applyAll (output fuel) [] prepared
    match ending? with
    | some .failed =>
        Redirects.restore saved
        refused
    | some ending =>
        Redirects.restore saved
        throw ending
    | none =>
        always (body (Redirects.errorsBefore saved)) do
          flush
          Redirects.restore saved

def output (fuel : Nat) (command : Command) : Running String := do
  match fuel with
  | 0 => stuck
  | fuel + 1 =>
    let (reading, writing) ← lift (Routine.ask System.makePipe)
    let pid ← child fuel false do
      lift (Routine.close reading)
      if writing ≠ 1 then
        let _ ← lift (Routine.ask (System.duplicate writing 1))
        lift (Routine.close writing)
      run fuel ⟨false, true⟩ command
    lift (Routine.close writing)
    let text ← readPipe reading
    lift (Routine.close reading)
    let statuses ← Jobs.finish [pid]
    modify fun shell => { shell with outputStatus := statuses.getLastD 0 }
    return text

def child (fuel : Nat) (isBackground : Bool) (body : Running Unit) : Running Pid := do
  match fuel with
  | 0 => stuck
  | fuel + 1 =>
    flush
    let shell ← get
    let whole : Running Unit := do
      forgetChildren
      if isBackground then settleBackground true
      body
    let forked := Routine.fork (finish fuel (whole.run.run { shell with buffer := "" }))
    lift (if isBackground then undisturbed forked else forked)

def finish (fuel : Nat) (body : Routine (Except Ending Unit × Interpreter)) : Routine Nat := do
  match fuel with
  | 0 => Routine.idle
  | fuel + 1 =>
    let (_, shell) ← body
    let last : Running Unit := do
      flush
      let shell ← get
      match shell.traps.lookup 0 with
      | none => return
      | some action =>
          let status := shell.status
          set { shell with
            traps := shell.traps.filter fun other => other.1 ≠ 0
            savedStatus? := some status
            loops := 0 }
          match ← attempt (text fuel .usual action) with
          | .error .exited | .error .failed => pure ()
          | _ => setStatus status
          flush
    let (_, shell) ← last.run.run shell
    return shell.status

def handleSignals (fuel : Nat) : Running Unit := do
  match fuel with
  | 0 => stuck
  | fuel + 1 =>
    let signals ← lift (Routine.ask System.pendingSignals)
    for signal in signals do
      match (← get).traps.lookup signal with
      | none => pure ()
      | some action =>
          let shell ← get
          let status := shell.savedStatus?.getD shell.status
          set { shell with savedStatus? := some status }
          let _ ← text fuel .usual action
          modify fun after => { after with status, savedStatus? := shell.savedStatus? }

def subshell (fuel : Nat) (way : Way) (body : Command) (redirects : List Redirect) :
    Running Unit := do
  match fuel with
  | 0 => stuck
  | fuel + 1 =>
    let prepared ← Redirects.prepareAll (output fuel) redirects
    let inside : Running Unit := do
      let (_, ending?) ← Redirects.applyAll (output fuel) [] prepared
      if let some ending := ending? then throw ending
      run fuel { way with isLast := true } body
    let pid ← child fuel false inside
    let statuses ← Jobs.finish [pid]
    setStatus (statuses.getLastD 0)

def background (fuel : Nat) (command : Command) : Running Unit := do
  match fuel with
  | 0 => stuck
  | fuel + 1 =>
    match command with
    | .pipeline commands =>
        let pids ← stages fuel true Way.usual none commands
        Jobs.start pids
        modify fun shell => { shell with lastChild? := pids.getLast? }
    | .subshell _ body redirects =>
        let prepared ← Redirects.prepareAll (output fuel) redirects
        let inside : Running Unit := do
          let (_, ending?) ← Redirects.applyAll (output fuel) [] prepared
          if let some ending := ending? then throw ending
          run fuel ⟨false, true⟩ body
        let pid ← child fuel true inside
        Jobs.start [pid]
        modify fun shell => { shell with lastChild? := some pid }
    | command =>
        let pid ← child fuel true (run fuel ⟨false, true⟩ command)
        Jobs.start [pid]
        modify fun shell => { shell with lastChild? := some pid }

/-- Start commands that run side by side; `before?` is where the first one reads. -/
def stages (fuel : Nat) (isBackground : Bool) (way : Way) (before? : Option Nat)
    (commands : List Command) : Running (List Pid) := do
  match fuel with
  | 0 => stuck
  | fuel + 1 =>
    match commands with
    | [] => return []
    | command :: rest =>
        let pipe? ← if rest.isEmpty then pure none
          else some <$> lift (Routine.ask System.makePipe)
        let pid ← child fuel (isBackground && before?.isNone) do
          if isBackground && before?.isSome then settleBackground false
          if let some (reading, _) := pipe? then lift (Routine.close reading)
          if let some before := before? then
            if before ≠ 0 then
              let _ ← lift (Routine.ask (System.duplicate before 0))
              lift (Routine.close before)
          if let some (_, writing) := pipe? then
            if writing ≠ 1 then
              let _ ← lift (Routine.ask (System.duplicate writing 1))
              lift (Routine.close writing)
          run fuel { way with isLast := true } command
        if let some before := before? then lift (Routine.close before)
        if let some (_, writing) := pipe? then lift (Routine.close writing)
        let others ← stages fuel isBackground way (pipe?.map Prod.fst) rest
        return pid :: others

def pipeline (fuel : Nat) (way : Way) (commands : List Command) : Running Unit := do
  match fuel with
  | 0 => stuck
  | fuel + 1 =>
    let pids ← stages fuel false way none commands
    let statuses ← Jobs.finish pids
    let status :=
      if ← hasOption "pipefail" then
        (statuses.reverse.find? (· ≠ 0)).getD 0
      else statuses.getLastD 0
    setStatus status

/-- Carry out a command as long as a condition has the wanted success; `status` is the one of the
last round. -/
def loop (fuel : Nat) (way : Way) (wanted : Bool) (condition body : Command) (status : Nat) :
    Running Unit := do
  match fuel with
  | 0 => stuck
  | fuel + 1 =>
    lift (Routine.spend commandNanos)
    match ← attempt (run fuel .tested condition) with
    | .error ending =>
        match ← afterBody (.error ending) with
        | .over => setStatus status
        | .next => loop fuel way wanted condition body status
    | .ok () =>
        if ((← get).status == 0) == wanted then
          match ← afterBody (← attempt (run fuel way body)) with
          | .over => return
          | .next => loop fuel way wanted condition body (← get).status
        else setStatus status

def each (fuel : Nat) (way : Way) (name : String) (body : Command) (texts : List String) :
    Running Unit := do
  match fuel with
  | 0 => stuck
  | fuel + 1 =>
    match texts with
    | [] => return
    | first :: rest =>
        lift (Routine.spend commandNanos)
        assign name first false
        match ← afterBody (← attempt (run fuel way body)) with
        | .over => return
        | .next => each fuel way name body rest

def choice (fuel : Nat) (way : Way) (subject : List Char) (arms : List (List Word × Command)) :
    Running Unit := do
  match fuel with
  | 0 => stuck
  | fuel + 1 =>
    match arms with
    | [] => setStatus 0
    | (patterns, body) :: rest =>
        if ← matchesAny fuel subject patterns then run fuel way body
        else choice fuel way subject rest

def matchesAny (fuel : Nat) (subject : List Char) (patterns : List Word) : Running Bool := do
  match fuel with
  | 0 => stuck
  | fuel + 1 =>
    match patterns with
    | [] => return false
    | first :: rest =>
        let pattern ← Expansion.pattern (output fuel) first
        if pattern.matches subject then return true else matchesAny fuel subject rest

def decideCondition (fuel : Nat) (condition : Condition) : Running Bool := do
  match fuel with
  | 0 => stuck
  | fuel + 1 =>
    let inner : Expansion.Inner := output fuel
    match condition with
    | .word word => return (← Expansion.text inner word) ≠ ""
    | .not condition => return !(← decideCondition fuel condition)
    | .and left right =>
        if ← decideCondition fuel left then decideCondition fuel right else return false
    | .or left right =>
        if ← decideCondition fuel left then return true else decideCondition fuel right
    | .unary operator word => ask [operator, ← Expansion.text inner word]
    | .binary operator left right =>
        let first ← Expansion.text inner left
        match operator with
        | "=" | "==" | "!=" =>
            let pattern ← Expansion.pattern inner right
            return pattern.matches first.toList == (operator ≠ "!=")
        | _ => askTwo operator first (← Expansion.text inner right)

def simple (fuel : Nat) (way : Way) (line : Nat) (assignments words : List Word)
    (redirects : List Redirect) : Running Unit := do
  match fuel with
  | 0 => stuck
  | fuel + 1 =>
    let inner : Expansion.Inner := output fuel
    lift (Routine.spend commandNanos)
    modify fun shell => { shell with line, outputStatus := 0 }
    let (start, rest) ← firstFields inner words
    let arguments := start ++ (← argumentsOf inner (← assignsAfter start rest) rest)
    match arguments with
    | [] =>
        let prepared ← Redirects.prepareAll inner redirects
        around fuel prepared (do setStatus (← failure)) fun errors => do
          trace errors (← assignments.mapM (assignWord inner false false))
          setStatus (← get).outputStatus
    | name :: arguments =>
        let meaning ← Lookup.find name false false
        meant fuel way meaning assignments redirects name arguments

def meant (fuel : Nat) (way : Way) (meaning : Lookup.Meaning) (assignments : List Word)
    (redirects : List Redirect) (name : String) (arguments : List String) : Running Unit := do
  match fuel with
  | 0 => stuck
  | fuel + 1 =>
    let inner : Expansion.Inner := output fuel
    let prepared ← Redirects.prepareAll inner redirects
    let isSpecial : Bool := match meaning with
      | .builtin builtin => builtin.isSpecial
      | _ => false
    let prefixes (isLocal exports : Bool) (errors : Nat) : Running Unit := do
      let texts ← assignments.mapM (assignWord inner isLocal exports)
      trace errors (texts ++ name :: arguments)
    match meaning with
    | .builtin builtin =>
        if builtin.name = "exec" then
          execute fuel prepared (prefixes false true) arguments
        else if isSpecial then
          let (saved, ending?) ← Redirects.applyAll inner [] prepared
          if let some ending := ending? then
            Redirects.restore saved
            throw ending
          always
            (do
              prefixes false false (Redirects.errorsBefore saved)
              builtinCommand fuel way builtin name arguments)
            (do
              flush
              Redirects.restore saved)
        else
          let whole := around fuel prepared (do setStatus (← failure)) fun errors => do
            prefixes true true errors
            builtinCommand fuel way builtin name arguments
          -- Without assignments of its own, a command may change variables for good.
          if assignments.isEmpty then whole else framed whole
    | .function function =>
        framed (around fuel prepared (do setStatus (← failure)) fun errors => do
          prefixes true true errors
          call fuel way function arguments)
    | .program _ | .nothing _ =>
        framed (around fuel prepared (do setStatus (← failure)) fun errors => do
          prefixes true true errors
          -- The search path may be among what has been assigned.
          match ← Lookup.find name false false with
          | .program path =>
              program fuel (way.isLast && !(← hasTraps)) path name arguments
          | .nothing e =>
              warn s!"{name}: {Lookup.reason e}"
              setStatus 127
          | _ => return)

def execute (fuel : Nat) (prepared : List Redirects.Prepared) (prefixes : Nat → Running Unit)
    (arguments : List String) : Running Unit := do
  match fuel with
  | 0 => stuck
  | fuel + 1 =>
    let (saved, ending?) ← Redirects.applyAll (output fuel) [] prepared
    if let some ending := ending? then
      Redirects.restore saved
      throw ending
    prefixes (Redirects.errorsBefore saved)
    let (_, rest) ← named (some "exec") (Builtins.letters "" arguments)
    match rest with
    | [] =>
        for (_, kept?) in saved do
          if let some kept := kept? then lift (Routine.close kept)
        setStatus 0
    | rest => named (some "exec") (replace false rest)

def program (fuel : Nat) (isDirect : Bool) (path name : String) (arguments : List String) :
    Running Unit := do
  match fuel with
  | 0 => stuck
  | fuel + 1 =>
    let body : Running Unit := do
      let others := (← Lookup.candidates name false).dropWhile (· ≠ path)
      let paths := if path = name then [path] else path :: others.drop 1
      refuseProgram name (← becomeFirst (name :: arguments) .notFound paths)
    if isDirect then
      flush
      body
    else
      let pid ← child fuel false body
      let statuses ← Jobs.finish [pid]
      setStatus (statuses.getLastD 0)

def call (fuel : Nat) (way : Way) (function : Function) (arguments : List String) :
    Running Unit := do
  match fuel with
  | 0 => stuck
  | fuel + 1 =>
    let saved ← get
    if depthLimit ≤ saved.depth then
      fail s!"Maximum function recursion depth ({depthLimit}) reached"
    set { saved with arguments, letterPlace := (1, none), loops := 0, depth := saved.depth + 1 }
    let result ← attempt (run fuel way.inside function.body)
    modify fun shell => { shell with
      arguments := saved.arguments
      letterPlace := saved.letterPlace
      loops := saved.loops
      depth := saved.depth }
    match result with
    | .ok () | .error .returned => return
    | .error ending => throw ending

def builtinCommand (fuel : Nat) (way : Way) (builtin : Lookup.Builtin) (name : String)
    (arguments : List String) : Running Unit := do
  match fuel with
  | 0 => stuck
  | fuel + 1 =>
    let act : Running Nat := do
      match builtin.name with
      | "eval" =>
          let words := if arguments.head? = some "--" then arguments.drop 1 else arguments
          text fuel way.inside (String.intercalate " " words)
      | "." => sourceFile fuel arguments
      | "command" =>
          match ← commanded arguments with
          | .describe isVerbose usesUsual names =>
              let statuses ← names.mapM fun name => Lookup.describe name isVerbose usesUsual
              return if statuses.any (· == 0) then 0 else statuses.headD 0
          | .run _ [] => return 0
          | .run usesUsual (name :: arguments) =>
              let saved := (← get).command?
              modify fun shell => { shell with command? := none }
              let meaning ← Lookup.find name true usesUsual
              let running : Running Unit := match meaning with
                | .builtin builtin =>
                    if builtin.name = "exec" then execute fuel [] (fun _ => pure ()) arguments
                    else builtinCommand fuel way { builtin with isSpecial := false } name arguments
                | .program path => program fuel false path name arguments
                | .function function => call fuel way function arguments
                | .nothing e => do
                    warn s!"{name}: {Lookup.reason e}"
                    setStatus 127
              always running (modify fun shell => { shell with command? := saved })
              return (← get).status
      | name => plainBuiltin name arguments
    let result ← named (some name) (attempt do
      let status ← act
      flush
      if (← get).hasLost then
        warn s!"{name}: I/O error"
        modify fun shell => { shell with hasLost := false }
        setStatus (status ||| 1)
      else setStatus status)
    flush
    match result with
    | .error .failed => if builtin.isSpecial then throw .failed
    | result => resume result

def sourceFile (fuel : Nat) (arguments : List String) : Running Nat := do
  match fuel with
  | 0 => stuck
  | fuel + 1 =>
    match arguments with
    | [] => return 0
    | name :: _ =>
        let path ←
          if name.toList.contains '/' then pure name
          else
            let candidates ← Lookup.candidates name false
            let candidates := if ← isRich then candidates ++ [name] else candidates
            let isFile (path : String) : Running Bool := do
              match ← lift (Routine.facts path true) with
              | .ok facts => return match facts.content with
                  | .bytes _ | .tool _ => true
                  | _ => false
              | .error _ => return false
            match ← candidates.findM? isFile with
            | some path => pure path
            | none => fail s!"{name}: not found"
        match ← lift (Routine.readFile path) with
        | .error e => fail s!"cannot open {path}: {Redirects.openReason e false}"
        | .ok text =>
            match ← named (some path) (do attempt (script fuel .usual 0 (← source text))) with
            | .ok status => return status
            | .error .returned => return (← get).status
            | .error ending => throw ending

def text (fuel : Nat) (way : Way) (content : String) : Running Nat := do
  match fuel with
  | 0 => stuck
  | fuel + 1 => script fuel way 0 (← source content)

/-- Carry out what is left of a script, one line after the other; `last` is the status of what came
before. -/
def script (fuel : Nat) (way : Way) (last : Nat) (source : Source) : Running Nat := do
  match fuel with
  | 0 => stuck
  | fuel + 1 =>
    match Source.next?.run source with
    | .error mistake =>
        modify fun shell => { shell with line := mistake.line }
        failMisused s!"Syntax error: {mistake.reason}"
    | .ok (none, _) => return last
    | .ok (some command, source) =>
        modify fun shell => { shell with
          documents := source.documents
          nextKey := source.nextKey
          lineRead := source.line }
        let isOver := source.rest.isEmpty
        match command with
        | .empty => script fuel way last source
        | command =>
            if ← hasOption "noexec" then script fuel way last source
            else
              let result ← attempt (run fuel { way with isLast := way.isLast && isOver } command)
              match result, ← isRich with
              | .error .failed, true => pure ()
              | result, _ => resume result
              script fuel way (← get).status source

end

end Evaluation

end FlagSearch.Shell
