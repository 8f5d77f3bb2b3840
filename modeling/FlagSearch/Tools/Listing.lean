import FlagSearch.Tools.Paths

/-!
# Tools that list files

* `Listed` — something in a list, with what can be learned about it.
* `Tools.ls` — what is in directories.
-/

namespace FlagSearch.Tools

open Sandbox Work

structure Listed where
  name : String
  path : String
  facts : System.Facts

def kindMark (choices : List Choice) (facts : System.Facts) : String :=
  match facts.content with
  | .directory _ _ => if has choices "F" || has choices "p" then "/" else ""
  | .link _ => if has choices "F" then "@" else ""
  | .fifo _ => if has choices "F" then "|" else ""
  | _ => if has choices "F" && facts.mode &&& 0o111 ≠ 0 then "*" else ""

def ordered (choices : List Choice) (all : List Listed) : List Listed :=
  let byName (a b : Listed) : Bool := decide (a.name ≤ b.name)
  let sorted := all.mergeSort fun a b =>
    if has choices "t" then
      b.facts.modified < a.facts.modified || (a.facts.modified = b.facts.modified && byName a b)
    else byName a b
  if has choices "r" then sorted.reverse else sorted

def putListed (choices : List Choice) (all : List Listed) : Work Unit :=
  (ordered choices all).forM fun item => putLine (item.name ++ kindMark choices item.facts)

/-- List a directory, and with `R` the ones in it; `fuel` bounds the levels. -/
def listDirectory (choices : List Choice) (showsTitle : Bool) :
    (fuel : Nat) → (isFirst : Bool) → String → Work Unit
  | 0, _, _ => return
  | fuel + 1, isFirst, path => do
      match ← lift (Routine.ask (System.namesIn path)) with
      | .error e => complain s!"cannot open directory {quoted path}: {e.reason}"
      | .ok names =>
          if !isFirst then put "\n"
          if showsTitle then putLine s!"{shellQuoted path}:"
          let showsAll := has choices "a" || has choices "A"
          let dots := if has choices "a" then [".", ".."] else []
          let names := dots ++ names.filter fun name => showsAll || !name.startsWith "."
          let all ← names.filterMapM fun name => do
            let path := below path name
            match ← ownFacts path with
            | .ok facts => return some ⟨name, path, facts⟩
            | .error _ => return none
          putListed choices all
          if has choices "R" then
            for item in ordered choices all do
              if isDirectory item.facts.content && item.name ≠ "." && item.name ≠ ".." then
                listDirectory choices true fuel false item.path

def ls : Tool := tool 2 fun arguments => do
  let (choices, operands) ← options {
    letters := "aAdFpRrt1"
    words := [("all", "a"), ("almost-all", "A"), ("directory", "d"), ("classify", "F"),
      ("recursive", "R"), ("reverse", "r")] } arguments
  let paths := if operands.isEmpty then ["."] else operands
  let staysLink := has choices "d" || has choices "F"
  let items ← paths.filterMapM fun path => do
    let leads := (← facts path).toOption.any fun facts => isDirectory facts.content
    match ← lift (Routine.facts path (leads && !staysLink)) with
    | .ok facts => return some (⟨path, path, facts⟩ : Listed)
    | .error e =>
        complain s!"cannot access {quoted path}: {e.reason}"
        return none
  let isOpened (item : Listed) : Bool := isDirectory item.facts.content && !has choices "d"
  let plain := items.filter fun item => !isOpened item
  let directories := ordered choices (items.filter isOpened)
  putListed choices plain
  let showsTitles := 1 < paths.length || has choices "R"
  let mut isFirst := plain.isEmpty
  for item in directories do
    listDirectory choices showsTitles manyLevels isFirst item.path
    isFirst := false

end FlagSearch.Tools
