import FlagSearch.Tools.Making

/-!
# Tools that run other programs

* `execute` — another program instead of the tool.
* `Tools.env` — a program in a changed environment.
* `Tools.sleep` — time.
-/

namespace FlagSearch.Tools

open Sandbox Work

/-! ## Other programs -/

def usualPath : String := "/bin:/usr/bin"

/-- Run the program at a path instead; what is no program is read by a shell. -/
def executeAt (path : String) (arguments : List String) (environment : List (String × String)) :
    Routine OsError := do
  match ← Routine.exec path arguments environment with
  | .badFormat =>
      Routine.exec "/bin/sh" ("/bin/sh" :: path :: arguments.drop 1) environment
  | e => return e

/-- Run the first program with a name that can be run, of those in some directories. -/
def executeIn (arguments : List String) (environment : List (String × String)) (name : String) :
    List String → (denied : Bool) → Routine OsError
  | [], denied => return if denied then .permissionDenied else .notFound
  | directory :: rest, denied => do
      let path := if directory = "" then name else below directory name
      match ← executeAt path arguments environment with
      | .permissionDenied => executeIn arguments environment name rest true
      | .notFound | .notADirectory => executeIn arguments environment name rest denied
      | e => return e

def execute (arguments : List String) (environment : List (String × String)) : Routine OsError :=
  match arguments with
  | [] => return .notFound
  | name :: _ =>
      if name.toList.contains '/' then executeAt name arguments environment
      else
        let path := (environment.lookup "PATH").getD usualPath
        if name = "" then return .notFound
        else executeIn arguments environment name (path.splitOn ":") false

def refusedStatus (e : OsError) : Nat := if e = .notFound then 127 else 126

def becomes (arguments : List String) (environment : List (String × String)) : Work Unit := do
  flush
  let e ← lift (execute arguments environment)
  let name := quoted (arguments.headD "")
  warn s!"{name}: {e.reason}"
  throw (refusedStatus e)

/-! ## Surroundings -/

def settingsOf : List String → List (String × String) × List String
  | [] => ([], [])
  | first :: rest =>
      match first.splitOn "=" with
      | name :: value :: more =>
          let (settings, rest) := settingsOf rest
          ((name, String.intercalate "=" (value :: more)) :: settings, rest)
      | _ => ([], first :: rest)

def env : Tool := tool 125 fun arguments => do
  let (choices, operands) ← options {
    letters := "iu:"
    words := [("ignore-environment", "i"), ("unset=", "u")]
    isMixed := false } arguments
  let isBare := operands.head? == some "-"
  let operands := if isBare then operands.drop 1 else operands
  let whole := (← get).call.environment
  let start := if has choices "i" || isBare then [] else whole
  let dropped := (choices.filter fun choice => choice.1 == "u").filterMap Prod.snd
  let kept := start.filter fun setting => !dropped.contains setting.1
  let (settings, command) := settingsOf operands
  let environment := settings.foldl
    (fun environment (name, value) =>
      if (environment.lookup name).isSome then
        environment.map fun old => if old.1 = name then (name, value) else old
      else environment ++ [(name, value)]) kept
  if command.isEmpty then
    for (name, value) in environment do
      putLine (name ++ "=" ++ value)
  else becomes command environment

/-! ## Time -/

def nanosOf? (text : String) : Option Nat :=
  let chars := text.toList
  let (number, unit) := match chars.reverse with
    | 's' :: rest => (rest.reverse, 1)
    | 'm' :: rest => (rest.reverse, 60)
    | 'h' :: rest => (rest.reverse, 3600)
    | 'd' :: rest => (rest.reverse, 86400)
    | _ => (chars, 1)
  let second := 1000000000
  let forever := 100 * 365 * 86400 * second
  if ["inf", "infinity"].contains (String.ofList (chars.map Char.toLower)) then some forever
  else
    let whole := number.takeWhile Char.isDigit
    let rest := number.drop whole.length
    let places := match rest with
      | '.' :: rest => rest
      | _ => []
    let isNumber := (rest.isEmpty || rest.head? == some '.') && places.all Char.isDigit
      && !(whole.isEmpty && places.isEmpty)
    if isNumber then
      let size := Text.ofDigits 10 (whole ++ places)
      some (min forever (size * unit * second / Nat.pow 10 places.length))
    else none

def sleep : Tool := tool 1 fun arguments => do
  let (_, operands) ← options {} arguments
  demandOperand operands
  let nanos ← operands.mapM fun text => do
    match nanosOf? text with
    | some nanos => return some nanos
    | none =>
        complain s!"invalid time interval {quoted text}"
        return none
  if nanos.any Option.isNone then pointToHelp
  lift (Routine.spend ((nanos.filterMap id).foldr (· + ·) 0))

end FlagSearch.Tools
