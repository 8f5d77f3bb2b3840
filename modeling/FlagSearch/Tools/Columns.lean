import FlagSearch.Text.Classes
import FlagSearch.Tools.Showing

/-!
# Tools that work on columns and characters

* `Tools.cut` — parts of lines.
* `Tools.tr` — characters for characters.
-/

namespace FlagSearch.Tools

open Sandbox Work

/-! ## Parts of lines -/

/-- A range of positions, counted from one; without an end it goes on for ever. -/
abbrev Range := Nat × Option Nat

def isIn (ranges : List Range) (position : Nat) : Bool :=
  ranges.any fun (first, last?) => first ≤ position && last?.all (position ≤ ·)

def rangesOf (isFields : Bool) (text : String) : Work (List Range) := do
  let zero : Work Range :=
    misuse (if isFields then "fields are numbered from 1"
      else "byte/character positions are numbered from 1")
  let number (digits : List Char) : Work Nat := do
    if digits.all Char.isDigit then return Text.ofDigits 10 digits
    else
      let bad := quoted (String.ofList (digits.dropWhile Char.isDigit))
      misuse (if isFields then s!"invalid field value {bad}"
        else s!"invalid byte/character position {bad}")
  let isBreak (c : Char) : Bool := c == ',' || c == ' ' || c == '\t'
  (Text.pieces ',' (text.toList.map fun c => if isBreak c then ',' else c)).mapM fun item => do
    match Text.pieces '-' item with
    | [only] =>
        let position ← number only
        if position = 0 then zero else return (position, some position)
    | [[], []] => misuse "invalid range with no endpoint: -"
    | [first, last] =>
        let start ← number first
        if start = 0 && !first.isEmpty then zero
        else
          let start := max 1 start
          if last.isEmpty then return (start, none)
          else
            let stop ← number last
            if stop < start then misuse "invalid decreasing range" else return (start, some stop)
    | _ => misuse (if isFields then "invalid field range" else "invalid byte or character range")

def cut : Tool := tool 1 fun arguments => do
  let (choices, paths) ← options {
    letters := "b:c:d:f:s"
    words := [("bytes=", "b"), ("characters=", "c"), ("fields=", "f"), ("delimiter=", "d"),
      ("only-delimited", "s")] } arguments
  let delimiter := match valueOf? choices "d" with
    | none => "\t"
    | some "" => "\x00"
    | some text => text
  if delimiter.length ≠ 1 then misuse "the delimiter must be a single character"
  let lists := choices.filter fun choice => ["b", "c", "f"].contains choice.1
  match lists with
  | [] => misuse "you must specify a list of bytes, characters, or fields"
  | _ :: _ :: _ => misuse "only one list may be specified"
  | [(key, list?)] =>
      let isFields := key == "f"
      if has choices "d" && !isFields then
        misuse "an input delimiter may be specified only when operating on fields"
      if has choices "s" && !isFields then
        misuse "suppressing non-delimited lines makes sense\n\tonly when operating on fields"
      let ranges ← rangesOf isFields (list?.getD "")
      let select {α : Type} (items : List α) : List α :=
        (items.zipIdx.filter fun (_, i) => isIn ranges (i + 1)).map Prod.fst
      for path in orDash paths do
        if let some text ← contents? path then
          for line in (linesOf text).1 do
            if isFields then
              let fields := line.splitOn delimiter
              if fields.length = 1 then
                if !has choices "s" then putLine line
              else putLine (String.intercalate delimiter (select fields))
            else putLine (String.ofList (select line.toList))

/-! ## Characters for characters -/

def everyCharacter : List Char := (List.range 256).map Char.ofNat

/-- The character that a backslash and what follows stand for, and what is left. -/
def unescaped : List Char → Char × List Char
  | [] => ('\\', [])
  | c :: rest =>
      let digits := ((c :: rest).take 3).takeWhile Text.isOctalDigit
      if !digits.isEmpty then
        (Char.ofNat (Text.ofDigits 8 digits % 256), (c :: rest).drop digits.length)
      else
        (([('a', '\x07'), ('b', '\x08'), ('f', '\x0c'), ('n', '\n'), ('r', '\r'), ('t', '\t'),
          ('v', '\x0b')].lookup c).getD c, rest)

def nextCharacter? : List Char → Option (Char × List Char)
  | [] => none
  | '\\' :: rest => some (unescaped rest)
  | c :: rest => some (c, rest)

/-- The name of a class in brackets, at the start of a text, and what is left. -/
def className? : List Char → Option (String × List Char)
  | '[' :: ':' :: rest =>
      let name := rest.takeWhile (· ≠ ':')
      match rest.drop name.length with
      | ':' :: ']' :: rest => some (String.ofList name, rest)
      | _ => none
  | _ => none

def charactersOf : (fuel : Nat) → List Char → Work (List Char)
  | 0, _ => return []
  | fuel + 1, text => do
      match className? text, nextCharacter? text with
      | some (name, rest), _ =>
          if Text.classNames.contains name then
            return everyCharacter.filter (Text.classContains name) ++ (← charactersOf fuel rest)
          else giveUp s!"invalid character class {quoted name}"
      | none, none => return []
      | none, some (first, '-' :: after) =>
          match nextCharacter? after with
          | some (last, rest) =>
              if last < first then
                giveUp (s!"range-endpoints of '{first}-{last}' are in reverse"
                  ++ " collating sequence order")
              else
                let range := everyCharacter.filter fun c => first ≤ c && c ≤ last
                return range ++ (← charactersOf fuel rest)
          | none => return first :: (← charactersOf fuel ['-'])
      | none, some (first, rest) => return first :: (← charactersOf fuel rest)

/-- The characters that stand for others, in both lists; the last one fills up. -/
def pairsOf (isComplement : Bool) (first second : List Char) : List (Char × Char) :=
  let sources := if isComplement then everyCharacter.filter (!first.contains ·) else first
  let missing := sources.length - second.length
  sources.zip (second ++ List.replicate missing (second.getLast?.getD 'x'))

def squeezed (isSqueezed : Char → Bool) : (before? : Option Char) → List Char → List Char
  | _, [] => []
  | before?, c :: rest =>
      if before? = some c && isSqueezed c then squeezed isSqueezed before? rest
      else c :: squeezed isSqueezed (some c) rest

def tr : Tool := tool 1 fun arguments => do
  let (choices, operands) ← options {
    letters := "cCds"
    words := [("complement", "c"), ("delete", "d"), ("squeeze-repeats", "s")]
    isMixed := false } arguments
  let deletes := has choices "d"
  let squeezes := has choices "s"
  let isComplement := has choices "c" || has choices "C"
  let extra (text hint : String) : Work Unit := do
    warn s!"extra operand {quoted text}"
    if hint ≠ "" then note (hint ++ "\n")
    pointToHelp
  let missing (text hint : String) : Work Unit := do
    warn s!"missing operand after {quoted text}"
    note (hint ++ "\n")
    pointToHelp
  match operands with
  | [] => misuse "missing operand"
  | [only] =>
      if !deletes && !squeezes then missing only "Two strings must be given when translating."
      if deletes && squeezes then
        missing only "Two strings must be given when both deleting and squeezing repeats."
  | [_, second] =>
      if deletes && !squeezes then
        extra second "Only one string may be given when deleting without squeezing repeats."
  | _ :: _ :: third :: _ => extra third ""
  let lists ← operands.mapM fun text => charactersOf (text.length + 1) text.toList
  let first := lists.headD []
  let second := (lists.drop 1).headD []
  let isNamed (c : Char) : Bool := first.contains c != isComplement
  let isTranslation := !deletes && operands.length = 2
  if isTranslation && second.isEmpty then
    giveUp "when not truncating set1, string2 must be non-empty"
  match ← lift (Routine.readAll 0) with
  | .error e => complain s!"read error: {e.reason}"
  | .ok text =>
      let pairs := (pairsOf isComplement first second).reverse
      let chars := text.toList
      let chars := if deletes then chars.filter fun c => !isNamed c
        else if isTranslation then chars.map fun c => (pairs.lookup c).getD c else chars
      let isSqueezed (c : Char) : Bool :=
        if operands.length = 2 then second.contains c else isNamed c
      put (String.ofList (if squeezes then squeezed isSqueezed none chars else chars))

end FlagSearch.Tools
