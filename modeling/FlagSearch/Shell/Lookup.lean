import FlagSearch.Shell.Builtins.Variables
import FlagSearch.Shell.Reader

/-!
# What a command name means

* `Lookup.builtin?` — the commands of the shell itself.
* `Lookup.find` — what the name of a command means.
* `Lookup.describe` — the same in words.
-/

namespace FlagSearch.Shell

open Sandbox

namespace Lookup

open Running

/-- What is known about a command of the shell itself. -/
structure Builtin where
  name : String
  isSpecial : Bool
  assigns : Bool

def assigning : List String :=
  ["export", "readonly", "local"]

def ordinary : List String :=
  ["cd", "chdir", "command", "echo", "false", "getopts", "kill", "printf", "pwd", "read", "test",
    "true", "type", "umask", "wait", "["]

def builtin? (dialect : Dialect) (name : String) : Option Builtin :=
  let isRich := dialect == .rich
  let isSpecial := Reader.specialNames.contains name
  if isSpecial || ordinary.contains name || (isRich && name == "source") then
    let name := if name == "source" then "." else name
    some ⟨name, isSpecial && !isRich, assigning.contains name⟩
  else none

/-- What the name of a command means. -/
inductive Meaning where
  | function (function : Function)
  | builtin (builtin : Builtin)
  | program (path : String)
  | nothing (e : OsError)

def usualPath : String := "/usr/local/sbin:/usr/local/bin:/usr/sbin:/usr/bin:/sbin:/bin"

def search (name : String) : (e : OsError) → List String → Running Meaning
  | e, [] => return .nothing e
  | e, path :: rest => do
      match ← lift (Routine.facts path true) with
      | .error .notFound | .error .notADirectory => search name e rest
      | .error other => search name other rest
      | .ok facts =>
          let isFile : Bool := match facts.content with
            | .bytes _ | .tool _ => true
            | _ => false
          if isFile && facts.mode &&& 0o111 ≠ 0 then return .program path
          else search name .permissionDenied rest

def searchPlaces (usesUsual : Bool) : Running (List String) := do
  let path? ← if usesUsual then pure (some usualPath) else value? "PATH"
  return match path? with
    | some path => path.splitOn ":"
    | none => []

def candidates (name : String) (usesUsual : Bool) : Running (List String) := do
  return (← searchPlaces usesUsual).map fun place =>
    if place = "" then name else place ++ "/" ++ name

def find (name : String) (skipsFunctions usesUsual : Bool) : Running Meaning := do
  let shell ← get
  if name.toList.contains '/' then return .program name
  match (if skipsFunctions then none else shell.functions.lookup name) with
  | some function => return .function function
  | none =>
      match builtin? shell.dialect name with
      | some builtin => return .builtin builtin
      | none => search name .notFound (← candidates name usesUsual)

def reason (e : OsError) : String :=
  match e with
  | .notFound | .notADirectory => "not found"
  | e => e.reason

def describe (name : String) (isVerbose usesUsual : Bool) : Running Nat := do
  let say (verbose plain : String) : Running Nat := do
    put ((if isVerbose then name ++ verbose else plain) ++ "\n")
    return 0
  if (Reader.keywords (← get).dialect).contains name then return ← say " is a shell keyword" name
  let notFound : Running Nat := do
    if isVerbose then put s!"{name}: not found\n"
    return if ← isRich then 1 else 127
  match ← find name false usesUsual with
  | .function _ => say " is a shell function" name
  | .builtin builtin =>
      say (if builtin.isSpecial then " is a special shell builtin" else " is a shell builtin") name
  | .program path =>
      if (← lift (Routine.facts path true)).toOption.isSome then say s!" is {path}" path
      else notFound
  | .nothing _ => notFound

end Lookup

end FlagSearch.Shell
