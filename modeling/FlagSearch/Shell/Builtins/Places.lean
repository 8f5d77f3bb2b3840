import FlagSearch.Shell.Builtins.Options
import FlagSearch.Sandbox.Modes

/-!
# Directories and permissions

* `Builtins.cd`, `Builtins.pwd` — the directory of the shell.
* `Builtins.umask` — the permissions that new files do not get.
-/

namespace FlagSearch.Shell

open Sandbox

namespace Builtins

open Running

def umask (arguments : List String) : Running Nat := do
  let (_, rest) ← letters "" arguments
  let mask ← lift (Routine.ask fun pid system =>
    (((system.process? pid).map Process.mask).getD 0, system))
  match rest with
  | [] =>
      put (Modes.octal mask ++ "\n")
      return 0
  | text :: _ =>
      let isNumber := text.toList.head?.any Char.isDigit
      let new? := if isNumber then Modes.change? false 0o777 text 0
        else (Modes.change? false 0o777 text (0o777 ^^^ mask)).map (0o777 ^^^ ·)
      match new? with
      | some new =>
          lift (Routine.ask fun pid system =>
            ((), system.modifyProcess pid fun process => { process with mask := new &&& 0o777 }))
          return 0
      | none =>
          fail (if isNumber then s!"Illegal number: {text}" else s!"Illegal mode: {text}")

/-! ## Directories -/

def startsTwice (path : String) : Bool :=
  (path.toList.takeWhile (· == '/')).length == 2

def logical (here path : String) : String :=
  let isTwice := startsTwice (if Files.isAbsolute path then path else here)
  let start := if Files.isAbsolute path then [] else (here.splitOn "/").filter (· ≠ "")
  let names := (path.splitOn "/").foldl
    (fun names name =>
      if name = "" ∨ name = "." then names
      else if name = ".." then names.dropLast
      else names ++ [name])
    start
  (if isTwice then "//" else "/") ++ String.intercalate "/" names

def physical : Running (Option String) :=
  lift (Routine.ask fun pid system => (system.files.path? (system.here pid), system))

def enter (path : String) (isPhysical : Bool) : Running Bool := do
  let old := (← get).here
  let target := if isPhysical then path else logical old path
  match ← lift (Routine.ask (System.enter target)) with
  | .error _ => return false
  | .ok () =>
      let new ← if isPhysical then pure ((← physical).getD path) else pure target
      assign "OLDPWD" old true
      modify fun shell => { shell with here := new }
      assign "PWD" new true
      return true

def isRooted (path : String) : Bool :=
  match (path.splitOn "/").head? with
  | some first => first == "" || first == "." || first == ".."
  | none => false

def cd (arguments : List String) : Running Nat := do
  let (letters, rest) ← letters "LP" arguments
  let isPhysical := (letters.getLast?.map Prod.fst) == some 'P'
  let isBack := rest.head? == some "-"
  let path ← match rest with
    | [] => value? "HOME"
    | "-" :: _ => value? "OLDPWD"
    | path :: _ => pure (some path)
  let path := path.getD ""
  let places ← if path = "" ∨ isRooted path then pure [] else do
    match ← value? "CDPATH" with
    | none => pure []
    | some places => pure (places.splitOn ":")
  let candidates := places.map fun place =>
    if place = "" then (path, false) else (place ++ "/" ++ path, true)
  let isDirectory (candidate : String × Bool) : Running Bool := do
    match ← lift (Routine.facts candidate.1 true) with
    | .ok facts => return match facts.content with
        | .directory _ _ => true
        | _ => false
    | .error _ => return false
  let found? ← candidates.findM? isDirectory
  let (target, isShown) := found?.getD (if path = "" then "." else path, false)
  if ← enter target isPhysical then
    if isShown || isBack then put ((← get).here ++ "\n")
    return 0
  else fail s!"can't cd to {path}"

def pwd (arguments : List String) : Running Nat := do
  let (letters, _) ← letters "LP" arguments
  if (letters.getLast?.map Prod.fst) == some 'P' then
    match ← physical with
    | some path => put (path ++ "\n")
    | none => put ((← get).here ++ "\n")
  else put ((← get).here ++ "\n")
  return 0

end Builtins

end FlagSearch.Shell
