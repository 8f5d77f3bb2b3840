import FlagSearch.Shell.Script
import FlagSearch.Text.Classes

/-!
# Patterns

Shell patterns: stars, question marks and sets in brackets.  A character that was quoted stands for
itself, and so does one after a backslash.

* `Glyph` — a character of an expanded word.
* `Pattern.ofGlyphs` — what a word means as a pattern.
* `Pattern.matches` — does a text match?
* `Pattern.trim` — a text without what matches at one of its ends.
-/

namespace FlagSearch.Shell

open Text (SetPart classNames)

/-- A character of an expanded word. -/
structure Glyph where
  char : Char
  isQuoted : Bool
  deriving DecidableEq

inductive PatternItem where
  | anything
  | anyOne
  | one (c : Char)
  | set (isNegated : Bool) (parts : List SetPart)

abbrev Pattern := List PatternItem

namespace Pattern

def isSign (glyph : Glyph) (c : Char) : Bool := glyph.char == c && !glyph.isQuoted

/-- The class at the start of a text whose opening bracket has been read, and what follows. -/
def className? (glyphs : List Glyph) : Option (String × List Glyph) :=
  match glyphs with
  | colon :: rest =>
      if colon.char == ':' then
        let name := String.ofList ((rest.takeWhile fun glyph => glyph.char ≠ ':').map Glyph.char)
        match rest.drop name.length with
        | last :: bracket :: rest =>
            if last.char == ':' && bracket.char == ']' && classNames.contains name then
              some (name, rest)
            else none
        | _ => none
      else none
  | [] => none

def setCharacter? : List Glyph → Option (Char × List Glyph)
  | [] => none
  | glyph :: rest =>
      if isSign glyph '\\' then
        match rest with
        | next :: rest => some (next.char, rest)
        | [] => none
      else some (glyph.char, rest)

/-- The parts of a set up to the bracket that closes it, and what follows; `fuel` bounds them. -/
def setParts? : (fuel : Nat) → (isFirst : Bool) → List Glyph → Option (List SetPart × List Glyph)
  | 0, _, _ => none
  | _ + 1, _, [] => none
  | fuel + 1, isFirst, glyph :: rest =>
      let add (part : SetPart) (rest : List Glyph) : Option (List SetPart × List Glyph) :=
        (setParts? fuel false rest).map fun (parts, rest) => (part :: parts, rest)
      if isSign glyph ']' && !isFirst then some ([], rest)
      else
        match (if isSign glyph '[' then className? rest else none) with
        | some (name, rest) => add (.named name) rest
        | none => do
            let (first, rest) ← setCharacter? (glyph :: rest)
            match rest with
            | dash :: next :: _ =>
                if isSign dash '-' && !isSign next ']' then
                  let (last, rest) ← setCharacter? (rest.drop 1)
                  add (.range first last) rest
                else add (.range first first) rest
            | rest => add (.range first first) rest

def set? (dialect : Dialect) (glyphs : List Glyph) : Option (PatternItem × List Glyph) :=
  let isNegated := match glyphs with
    | glyph :: _ => isSign glyph '!' || (dialect == .rich && isSign glyph '^')
    | [] => false
  let inside := if isNegated then glyphs.drop 1 else glyphs
  (setParts? (inside.length + 1) true inside).map fun (parts, rest) =>
    (.set isNegated parts, rest)

def read (dialect : Dialect) : (fuel : Nat) → List Glyph → Pattern
  | 0, _ => []
  | _ + 1, [] => []
  | fuel + 1, glyph :: rest =>
      if glyph.isQuoted then .one glyph.char :: read dialect fuel rest
      else
        match glyph.char with
        | '*' => .anything :: read dialect fuel rest
        | '?' => .anyOne :: read dialect fuel rest
        | '\\' =>
            match rest with
            | next :: rest => .one next.char :: read dialect fuel rest
            | [] => [.one '\\']
        | '[' =>
            match set? dialect rest with
            | some (item, rest) => item :: read dialect fuel rest
            | none => .one '[' :: read dialect fuel rest
        | c => .one c :: read dialect fuel rest

def ofGlyphs (dialect : Dialect) (glyphs : List Glyph) : Pattern :=
  read dialect (glyphs.length + 1) glyphs

def isSpecial (pattern : Pattern) : Bool :=
  pattern.any fun item =>
    match item with
    | .one _ => false
    | _ => true

/-- The one text that a pattern without stars, question marks and sets stands for. -/
def literal (pattern : Pattern) : List Char :=
  pattern.filterMap fun item =>
    match item with
    | .one c => some c
    | _ => none

def itemMatches (item : PatternItem) (c : Char) : Bool :=
  match item with
  | .anything | .anyOne => true
  | .one other => other == c
  | .set isNegated parts => parts.any (·.contains c) != isNegated

/-- Does a pattern match the rest of a text after a star?  Every rest of the text is tried. -/
def matchesSome (tail : List Char → Bool) : List Char → Bool
  | [] => tail []
  | c :: rest => tail (c :: rest) || matchesSome tail rest

def «matches» : Pattern → List Char → Bool
  | [], text => text.isEmpty
  | .anything :: [], _ => true
  | .anything :: rest, text => matchesSome (fun text => «matches» rest text) text
  | item :: rest, c :: text => itemMatches item c && «matches» rest text
  | _ :: _, [] => false

/-- The numbers of characters at one end of a text that may match, in the order in which they are
tried. -/
def trials (size : Nat) (longest : Bool) : List Nat :=
  let counts := List.range (size + 1)
  if longest then counts.reverse else counts

def trim (pattern : Pattern) (front longest : Bool) (text : List Char) : List Char :=
  let size := text.length
  if front then
    match (trials size longest).find? fun count => pattern.matches (text.take count) with
    | some count => text.drop count
    | none => text
  else
    match (trials size longest).find? fun count =>
        pattern.matches (text.drop (size - count)) with
    | some count => text.take (size - count)
    | none => text

end Pattern

end FlagSearch.Shell
