import FlagSearch.Shell.Builtins.Basic

/-!
# Commands that change variables

* `Builtins.exportNames`, `Builtins.readonlyNames`, `Builtins.localNames`, `Builtins.unset` —
  variables and functions.
-/

namespace FlagSearch.Shell.Builtins

open Running

def sortedLines (lines : List (String × String)) : List String :=
  (lines.mergeSort fun first second => first.1 ≤ second.1).map Prod.snd

def showVariables (start : String) (isShown : Variable → Bool) : Running Unit := do
  let shown := (← get).bindings.filter fun (_, binding) => isShown binding
  let lines := shown.map fun (name, binding) =>
    let value := match binding.value? with
      | some value => "=" ++ quoted value
      | none => ""
    (name, s!"{start}{name}{value}\n")
  (sortedLines lines).forM put

def splitAssignment (argument : String) : String × Option String :=
  let name := argument.toList.takeWhile (· ≠ '=')
  if name.length < argument.length then
    (String.ofList name, some (String.ofList (argument.toList.drop (name.length + 1))))
  else (argument, none)

def demandName (name : String) : Running Unit := do
  if !isName name then fail s!"{name}: bad variable name"

def mark (start : String) (isShown : Variable → Bool) (change : Variable → Variable)
    (arguments : List String) : Running Nat := do
  let (letters, rest) ← letters "p" arguments
  if rest.isEmpty || hasLetter letters 'p' then showVariables start isShown
  else
    for argument in rest do
      let (name, value?) := splitAssignment argument
      demandName name
      if let some value := value? then assign name value false
      let old := (← binding? name).getD Variable.unset
      setBinding name (some (change old))
  return 0

def exportNames (arguments : List String) : Running Nat :=
  mark "export " Variable.isExported
    (fun binding => { binding with isExported := true }) arguments

def readonlyNames (arguments : List String) : Running Nat :=
  mark "readonly " Variable.isReadonly (fun binding => { binding with isReadonly := true })
    arguments

def localNames (arguments : List String) : Running Nat := do
  let shell ← get
  if shell.frames.isEmpty then fail "not in a function"
  for argument in arguments do
    if argument ≠ "-" then
      let (name, value?) := splitAssignment argument
      demandName name
      remember name
      match value? with
      | some value => assign name value false
      | none =>
          if (← binding? name).isNone || (← isRich) then setBinding name (some Variable.unset)
  return 0

def unset (arguments : List String) : Running Nat := do
  let (letters, rest) ← letters "vf" arguments
  for name in rest do
    if (letters.getLast?.map Prod.fst) == some 'f' then
      modify fun shell => { shell with
        functions := shell.functions.filter fun other => other.1 ≠ name }
    else
      let chars := name.toList.takeWhile (· ≠ '=')
      demandName (String.ofList chars)
      Running.unset (String.ofList chars)
  return 0

end FlagSearch.Shell.Builtins
