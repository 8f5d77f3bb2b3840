import FlagSearch.Text.Regex
import FlagSearch.Tools.Showing

/-!
# Lines that match

* `Tools.grep` — the lines of files that match an expression.
-/

namespace FlagSearch.Tools

open Sandbox Work

structure Search where
  regexes : List Regex
  choices : List Choice
  showsNames : Bool
  most? : Option Nat

/-- The first match in a line from a position on: the leftmost one, and the longest of those. -/
def Search.first? (search : Search) (line : List Char) (position : Nat) : Option Regex.Match :=
  search.regexes.foldl
    (fun best? regex =>
      match best?, regex.search? (has search.choices "i") line position with
      | some best, some found =>
          let isBetter := found.start < best.start
            || (found.start = best.start && best.stop < found.stop)
          some (if isBetter then found else best)
      | none, found? => found?
      | best?, none => best?)
    none

def Search.all (search : Search) (line : List Char) : (fuel : Nat) → Nat → List Regex.Match
  | 0, _ => []
  | fuel + 1, position =>
      match search.first? line position with
      | none => []
      | some found =>
          let next := if found.stop ≤ position then position + 1 else found.stop
          let rest := if line.length < next then [] else search.all line fuel next
          if found.start < found.stop then found :: rest else rest

def Search.wants (search : Search) (line : String) : Bool :=
  (search.first? line.toList 0).isSome != has search.choices "v"

/-- A line of a file with its number, and whether it is wanted. -/
structure Candidate where
  number : Nat
  line : String
  isWanted : Bool

def Search.candidates (search : Search) : (number found : Nat) → List String → List Candidate
  | _, _, [] => []
  | number, found, line :: rest =>
      let isDone := search.most?.any (· ≤ found)
      let isWanted := !isDone && search.wants line
      ⟨number, line, isWanted⟩ ::
        search.candidates (number + 1) (if isWanted then found + 1 else found) rest

def Search.show (search : Search) (name : String) (wanted : List Candidate) : Work Unit := do
  for candidate in wanted do
    let start := (if search.showsNames then name ++ ":" else "")
      ++ (if has search.choices "n" then s!"{candidate.number}:" else "")
    if has search.choices "o" then
      let line := candidate.line.toList
      if !has search.choices "v" then
        for found in search.all line (line.length + 1) 0 do
          putLine (start ++ String.ofList ((line.take found.stop).drop found.start))
    else putLine (start ++ candidate.line)

def Search.searchText (search : Search) (name text : String) : Work Bool := do
  let wanted := (search.candidates 1 0 (linesOf text).1).filter Candidate.isWanted
  let isFound := !wanted.isEmpty
  if has search.choices "q" then return isFound
  if has search.choices "c" then
    putLine ((if search.showsNames then name ++ ":" else "") ++ toString wanted.length)
  match lastOf? search.choices ["l", "L"] with
  | some key => if isFound = (key == "l") then putLine name
  | none => if !has search.choices "c" then search.show name wanted
  return isFound

def Search.searchPath (search : Search) (path : String) : Work Bool := do
  let refuse (e : OsError) : Work Bool := do
    if !has search.choices "s" then complain s!"{path}: {e.reason}"
    fail
    return false
  match ← contents path with
  | .ok text => search.searchText (if path = "-" then "(standard input)" else path) text
  | .error (.reading .isADirectory) =>
      if !has search.choices "s" then warn s!"{path}: {OsError.isADirectory.reason}"
      return false
  | .error (.opening e) | .error (.reading e) => refuse e

def grepGrammar : Grammar where
  letters := "EFGe:f:ivwxcloLqsnHhm:"
  words := [("extended-regexp", "E"), ("fixed-strings", "F"), ("basic-regexp", "G"),
    ("regexp=", "e"), ("file=", "f"), ("ignore-case", "i"), ("invert-match", "v"),
    ("word-regexp", "w"), ("line-regexp", "x"), ("count", "c"), ("files-with-matches", "l"),
    ("only-matching", "o"), ("files-without-match", "L"), ("quiet", "q"), ("silent", "q"),
    ("no-messages", "s"), ("line-number", "n"), ("with-filename", "H"), ("no-filename", "h"),
    ("max-count=", "m")]

def grepUsage {α : Type} : Work α := do
  note "Usage: grep [OPTION]... PATTERNS [FILE]...\n"
  note "Try 'grep --help' for more information.\n"
  throw 2

def grepAs (kind? : Option String) : Tool := fun call =>
  tool 2 (fun arguments => do
    let (choices, operands) ← options grepGrammar arguments
    let given := (choices.filter fun choice => choice.1 == "e").filterMap Prod.snd
    let files := (choices.filter fun choice => choice.1 == "f").filterMap Prod.snd
    let fromFiles ← files.mapM fun path => do
      match ← contents path with
      | .ok text => return (linesOf text).1
      | .error (.opening e) | .error (.reading e) => giveUp (aboutFile path e)
    let (patterns, paths) ←
      if given.isEmpty && files.isEmpty then
        match operands with
        | [] => grepUsage
        | pattern :: paths => pure (pattern.splitOn "\n", paths)
      else pure (given.flatMap (·.splitOn "\n") ++ fromFiles.flatten, operands)
    let kind := ((lastOf? choices ["E", "F", "G"]) <|> kind?).getD "G"
    let regexes ← patterns.mapM fun pattern => do
      let parsed :=
        if kind = "F" then .ok (Regex.ofText pattern.toList)
        else Regex.parse (kind = "E") pattern.toList
      match parsed with
      | .error text => giveUp text
      | .ok regex =>
          if has choices "x" then return regex.asLine
          else if has choices "w" then return regex.asWord else return regex
    let most? ← (valueOf? choices "m").mapM fun text =>
      match text.toNat? with
      | some count => return count
      | none => giveUp "invalid max count"
    let paths := orDash paths
    let showsNames := match lastOf? choices ["H", "h"] with
      | some key => key == "H"
      | none => 1 < paths.length
    let search : Search := { regexes, choices, showsNames, most? }
    let mut isFound := false
    for path in paths do
      if !(isFound && has choices "q") then
        let found ← search.searchPath path
        isFound := isFound || found
    let status := (← get).status
    if isFound && has choices "q" then throw 0
    if status = 0 then throw (if isFound then 0 else 1)) call

end FlagSearch.Tools
