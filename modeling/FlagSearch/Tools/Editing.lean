import FlagSearch.Text.Regex
import FlagSearch.Tools.Showing

/-!
# Editing lines

A script is a list of instructions; each one says which lines it is for and what it does to them.

* `Instruction`, `EditScript.read` — what a script says, from its text.
* `Instruction.selects`, `edited` — what a script does to a line.
* `Tools.sed` — lines edited by a script.
-/

namespace FlagSearch.Tools

open Sandbox Work

inductive LineMark where
  | number (n : Nat)
  | last
  | matching (regex : Regex)

/-- A part of what is written instead of a match. -/
inductive Substitute where
  | one (c : Char)
  | group (number : Nat)

structure Replacement where
  regex : Regex
  ignoresCase : Bool
  substitutes : List Substitute
  isGlobal : Bool
  first : Nat
  prints : Bool

inductive Edit where
  | print
  | delete
  | quit
  | showNumber
  | replace (replacement : Replacement)

structure Instruction where
  first? : Option LineMark
  stop? : Option LineMark
  isNegated : Bool
  edit : Edit

/-! ## Reading -/

namespace EditScript

/-- Reading a script; a mistake is told in words, with the number of characters that are left. -/
abbrev Reading := StateT (List Char) (Except (Nat × String))

def wrong {α : Type} (text : String) : Reading α := do
  throw ((← get).length, text)

def drop (count : Nat) : Reading Unit := modify (List.drop count)

def takeWhile (holds : Char → Bool) : Reading (List Char) :=
  modifyGet (List.span holds)

def number : Reading Nat := return Text.ofDigits 10 (← takeWhile Char.isDigit)

/-- The part of a text up to a delimiter, and what follows it.  A delimiter after a backslash is
part of the text. -/
def delimited? (delimiter : Char) : List Char → Option (List Char × List Char)
  | [] => none
  | '\\' :: c :: rest =>
      (delimited? delimiter rest).map fun (text, rest) =>
        (if c = delimiter then c :: text else '\\' :: c :: text, rest)
  | c :: rest =>
      if c = delimiter then some ([], rest)
      else (delimited? delimiter rest).map fun (text, rest) => (c :: text, rest)

def part (delimiter : Char) (mistake : String) : Reading (List Char) := do
  match delimited? delimiter (← get) with
  | some (text, rest) =>
      set rest
      return text
  | none =>
      set ([] : List Char)
      wrong mistake

def regexOf (isExtended : Bool) (text : List Char) : Reading Regex := do
  match Regex.parse isExtended text with
  | .ok regex => return regex
  | .error mistake => wrong mistake

def lineMark? (isExtended : Bool) : Reading (Option LineMark) := do
  match ← get with
  | '$' :: _ =>
      drop 1
      return some .last
  | '/' :: _ =>
      drop 1
      return some (.matching (← regexOf isExtended (← part '/' "unterminated address regex")))
  | c :: _ => if c.isDigit then return some (.number (← number)) else return none
  | [] => return none

def substitutes : List Char → List Substitute
  | [] => []
  | '\\' :: c :: rest =>
      let part : Substitute := if c.isDigit then .group (Text.digitValue c)
        else .one (([('n', '\n'), ('t', '\t')].lookup c).getD c)
      part :: substitutes rest
  | '&' :: rest => .group 0 :: substitutes rest
  | c :: rest => .one c :: substitutes rest

def replacementFlags (replacement : Replacement) (flags : List Char) : Replacement :=
  let digits := flags.filter Char.isDigit
  { replacement with
    isGlobal := flags.contains 'g'
    prints := flags.contains 'p'
    ignoresCase := flags.contains 'I' || flags.contains 'i'
    first := if digits.isEmpty then 1 else Text.ofDigits 10 digits }

def replacement (isExtended : Bool) : Reading Replacement := do
  let unfinished := "unterminated \x60s' command"
  match ← get with
  | [] => wrong unfinished
  | delimiter :: rest =>
      set rest
      let regex ← regexOf isExtended (← part delimiter unfinished)
      let substitutes := substitutes (← part delimiter unfinished)
      for item in substitutes do
        if let .group number := item then
          if regex.groupCount < number then
            wrong s!"invalid reference \\{number} on \x60s' command's RHS"
      let flags ← takeWhile fun c => c.isDigit || "gpiI".toList.contains c
      return replacementFlags ⟨regex, false, substitutes, false, 1, false⟩ flags

def editOf (isExtended : Bool) : Reading Edit := do
  match ← get with
  | [] => wrong "missing command"
  | name :: rest =>
      set rest
      match name with
      | 'p' => return .print
      | 'd' => return .delete
      | 'q' => return .quit
      | '=' => return .showNumber
      | 's' => return .replace (← replacement isExtended)
      | name => wrong s!"unknown command: \x60{name}'"

def isBetween (c : Char) : Bool := c == ';' || c == '\n' || c == ' '

def instruction (isExtended : Bool) : Reading Instruction := do
  let first? ← lineMark? isExtended
  let stop? ← match first?, ← get with
    | some _, ',' :: rest => do
        set rest
        match ← lineMark? isExtended with
        | some mark => pure (some mark)
        | none => wrong "unexpected \x60,'"
    | _, _ => pure none
  let _ ← takeWhile (· == ' ')
  let marks ← takeWhile fun c => c == '!' || c == ' '
  let edit ← editOf isExtended
  let _ ← takeWhile (· == ' ')
  if !(← get).head?.all isBetween then
    drop 1
    wrong (match edit with
      | .replace _ => "unknown option to \x60s'"
      | _ => "extra characters after command")
  return ⟨first?, stop?, marks.contains '!', edit⟩

def instructions (isExtended : Bool) : (fuel : Nat) → Reading (List Instruction)
  | 0 => return []
  | fuel + 1 => do
      let _ ← takeWhile isBetween
      if (← get).isEmpty then return []
      return (← instruction isExtended) :: (← instructions isExtended fuel)

def read (isExtended : Bool) (text : String) : Except String (List Instruction) :=
  match (instructions isExtended (text.length + 1)).run text.toList with
  | .ok (all, _) => .ok all
  | .error (left, mistake) =>
      .error s!"-e expression #1, char {text.length - left}: {mistake}"

end EditScript

/-! ## Lines -/

structure EditedLine where
  text : String
  ending : String
  number : Nat
  isLast : Bool

def LineMark.isAt (line : EditedLine) : LineMark → Bool
  | .number n => line.number == n
  | .last => line.isLast
  | .matching regex => (regex.search? false line.text.toList 0).isSome

/-- Is an instruction for a line, given that its range is open or not, and is the range open after
it? -/
def Instruction.selects (instruction : Instruction) (line : EditedLine) (isOpen : Bool) :
    Bool × Bool :=
  match instruction.first?, instruction.stop? with
  | none, _ => (true, false)
  | some first, none => (first.isAt line, false)
  | some first, some stop =>
      if isOpen then (true, !stop.isAt line)
      else
        let isPast := match stop with
          | .number n => n ≤ line.number
          | _ => false
        (first.isAt line, first.isAt line && !isPast)

def written (line : List Char) (found : Regex.Match) (substitutes : List Substitute) : List Char :=
  substitutes.flatMap fun
    | .one c => [c]
    | .group number => (found.text? line number).getD []

/-- The line from a position on with matches replaced, and whether any was; `fuel` bounds the
characters.  An empty match right after another one does not count. -/
def replaced (replacement : Replacement) (line : List Char) :
    (fuel count position : Nat) → (last? : Option Nat) → List Char × Bool
  | 0, _, position, _ => (line.drop position, false)
  | fuel + 1, count, position, last? =>
      match replacement.regex.search? replacement.ignoresCase line position with
      | none => (line.drop position, false)
      | some found =>
          let before := (line.take found.start).drop position
          let isEmpty := found.start = found.stop
          let counts := !(isEmpty && last? = some found.start)
          let takes := counts && replacement.first ≤ count
          let text := if takes then written line found replacement.substitutes
            else (line.take found.stop).drop found.start
          if takes && !replacement.isGlobal then (before ++ text ++ line.drop found.stop, true)
          else if isEmpty && line.length ≤ found.stop then (before ++ text, takes)
          else
            let next := if isEmpty then found.stop + 1 else found.stop
            let (rest, others) := replaced replacement line fuel
              (if counts then count + 1 else count) next (some found.stop)
            (before ++ text ++ (line.take next).drop found.stop ++ rest, takes || others)

/-- The output with one more line; a line without an end gets one when another follows it. -/
def addLine (output line : String) : String :=
  if output = "" || output.endsWith "\n" then output ++ line else output ++ "\n" ++ line

inductive RoundEnd where
  | shown
  | forgotten
  | over
  deriving DecidableEq

/-- What comes of a line by the instructions with their ranges: the ranges after it, the line, the
output so far, and how the round ends. -/
def edited : List (Instruction × Bool) → EditedLine → (output : String) →
    List Bool × EditedLine × String × RoundEnd
  | [], line, output => ([], line, output, .shown)
  | (instruction, isOpen) :: rest, line, output =>
      let (isSelected, staysOpen) := instruction.selects line isOpen
      let onward (line : EditedLine) (output : String) :=
        let (opens, whole) := edited rest line output
        (staysOpen :: opens, whole)
      let stop (finish : RoundEnd) := (staysOpen :: rest.map Prod.snd, line, output, finish)
      if isSelected = instruction.isNegated then onward line output
      else
        match instruction.edit with
        | .print => onward line (addLine output (line.text ++ line.ending))
        | .showNumber => onward line (addLine output s!"{line.number}\n")
        | .delete => stop .forgotten
        | .quit => stop .over
        | .replace replacement =>
            let text := line.text.toList
            let (new, isReplaced) := replaced replacement text (text.length + 2) 1 0 none
            let line := { line with text := String.ofList new }
            onward line (if isReplaced && replacement.prints then
              addLine output (line.text ++ line.ending) else output)

/-- The output for some lines, and the lines that are left when the script ends early. -/
def editedAll (program : List Instruction) (isQuiet : Bool) :
    (opens : List Bool) → List EditedLine → (output : String) → String × List EditedLine
  | _, [], output => (output, [])
  | opens, line :: rest, output =>
      let (opens, line, output, finish) := edited (program.zip opens) line output
      let output := if isQuiet || finish = .forgotten then output
        else addLine output (line.text ++ line.ending)
      if finish = .over then (output, rest) else editedAll program isQuiet opens rest output

/-! ## The tool -/

def linesToEdit (text : String) : List EditedLine :=
  let (lines, isEnded) := linesOf text
  lines.zipIdx.map fun (line, i) =>
    let isLast := i + 1 = lines.length
    { text := line, ending := if isLast && !isEnded then "" else "\n", number := i + 1, isLast }

def sed : Tool := tool 1 fun arguments => do
  let (choices, operands) ← options {
    letters := "nrEe:i"
    words := [("expression=", "e"), ("in-place", "i"), ("quiet", "n"), ("silent", "n"),
      ("regexp-extended", "E")] } arguments
  let given := (choices.filter fun choice => choice.1 == "e").filterMap Prod.snd
  let (script, paths) ← match given, operands with
    | [], [] =>
        note "Usage: sed [OPTION]... \x7bscript-only-if-no-other-script\x7d [input-file]...\n"
        throw 1
    | [], script :: paths => pure (script, paths)
    | given, paths => pure (String.intercalate "\n" given, paths)
  let program ← match EditScript.read (has choices "E" || has choices "r") script with
    | .ok program => pure program
    | .error mistake => giveUp mistake
  let run (text : String) : String × List EditedLine :=
    editedAll program (has choices "n") (program.map fun _ => false) (linesToEdit text) ""
  let load (path : String) : Work (Option String) := do
    match ← contents path with
    | .ok text => return some text
    | .error (.opening e) | .error (.reading e) =>
        warn s!"can't read {path}: {e.reason}"
        modify fun desk => { desk with status := 2 }
        return none
  if has choices "i" then
    for path in paths do
      if let some text ← load path then
        let (output, rest) := run text
        let whole := output ++ String.join (rest.map fun line => line.text ++ line.ending)
        demand s!"couldn't edit {path}" (← lift (Routine.writeFile path whole))
  else
    let texts ← (orDash paths).filterMapM load
    put (run (texts.foldl addLine "")).1

end FlagSearch.Tools
