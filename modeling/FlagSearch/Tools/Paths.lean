import FlagSearch.Tools.Moving

/-!
# Tools about paths

* `Tools.basename`, `Tools.dirname` — parts of paths.
-/

namespace FlagSearch.Tools

open Sandbox Work

def baseName (path ending : String) : String :=
  let name := lastName path
  if ending ≠ "" && name ≠ ending && name.endsWith ending then
    (name.dropEnd ending.length).toString
  else name

def basename : Tool := tool 1 fun arguments => do
  let (choices, operands) ← options {
    letters := "as:z", words := [("multiple", "a"), ("suffix=", "s"), ("zero", "z")]
    isMixed := false } arguments
  demandOperand operands
  let finish := if has choices "z" then "\x00" else "\n"
  if has choices "a" || has choices "s" then
    for path in operands do
      put (baseName path ((valueOf? choices "s").getD "") ++ finish)
  else
    match operands with
    | _ :: _ :: extra :: _ => misuse s!"extra operand {quoted extra}"
    | path :: rest => put (baseName path (rest.headD "") ++ finish)
    | [] => pure ()

def directoryName (path : String) : String :=
  let trimmed := (path.toList.reverse.dropWhile (· == '/')).dropWhile (· ≠ '/')
  let above := (trimmed.dropWhile (· == '/')).reverse
  if !above.isEmpty then String.ofList above
  else if path.startsWith "/" then "/" else "."

def dirname : Tool := tool 1 fun arguments => do
  let (choices, operands) ← options { letters := "z", words := [("zero", "z")] } arguments
  demandOperand operands
  for path in operands do
    put (directoryName path ++ if has choices "z" then "\x00" else "\n")

end FlagSearch.Tools
