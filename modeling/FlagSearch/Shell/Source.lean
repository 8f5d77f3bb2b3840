import FlagSearch.Shell.Script

/-!
# Sources

A `Source` is the text of a script that has not been read yet, together with what its reader has to
remember between two commands.

* `Source`, `Reading` — the text, and functions that read from it.
* `Source.peek?`, `Source.skip`, … — single characters, without the ends of lines that a backslash
  takes away.
* `Draft` — a word that is being read.
-/

namespace FlagSearch.Shell

/-- What separates the words of a script. -/
inductive Token where
  | finish
  | newline
  | sign (text : String)
  | redirect (stream? : Option Nat) (operator : String)
  | word (word : Word) (quoted : Bool)
  | keyword (text : String)
  | condition (condition : Condition)

/-- A text in the script that a command reads, and that starts after the line of the command. -/
structure Pending where
  key : Nat
  finish : List Char
  dropsTabs : Bool
  isLiteral : Bool

/-- A script that is being read. -/
structure Source where
  rest : List Char
  line : Nat
  dialect : Dialect
  pushed? : Option Token
  pending : List Pending
  documents : List (Nat × Word)
  nextKey : Nat

def Source.ofText (dialect : Dialect) (text : String) : Source where
  rest := text.toList
  line := 1
  dialect := dialect
  pushed? := none
  pending := []
  documents := []
  nextKey := 0

/-- Why a script cannot be read. -/
structure SyntaxError where
  line : Nat
  reason : String

abbrev Reading := StateT Source (Except SyntaxError)

namespace Source

def fail {α : Type} (reason : String) : Reading α := do
  throw ⟨(← get).line, reason⟩

def isRich : Reading Bool := return (← get).dialect == .rich

/-! ## Characters -/

def rawPeek? : Reading (Option Char) := return (← get).rest.head?

def skip : Reading Unit :=
  modify fun source =>
    match source.rest with
    | [] => source
    | c :: rest => { source with rest, line := if c = '\n' then source.line + 1 else source.line }

/-- The text after the ends of lines that a backslash takes away, and their number. -/
def joined : List Char → Nat → List Char × Nat
  | '\\' :: '\n' :: rest, count => joined rest (count + 1)
  | rest, count => (rest, count)

def peek? : Reading (Option Char) :=
  modifyGet fun source =>
    match source.rest with
    | '\\' :: '\n' :: _ =>
        let (rest, count) := joined source.rest 0
        (rest.head?, { source with rest, line := source.line + count })
    | rest => (rest.head?, source)

def take? : Reading (Option Char) := do
  let c? ← peek?
  skip
  return c?

def accept (c : Char) : Reading Bool := do
  if (← peek?) == some c then
    skip
    return true
  else return false

def takeWhile (goesOn : Char → Bool) : (fuel : Nat) → Reading (List Char)
  | 0 => return []
  | fuel + 1 => do
      match ← peek? with
      | some c =>
          if goesOn c then
            skip
            return c :: (← takeWhile goesOn fuel)
          else return []
      | none => return []

def size : Reading Nat := return (← get).rest.length

end Source

/-! ## Words that are being read -/

/-- A word that is being read; everything is in reverse order. -/
structure Draft where
  pieces : List Piece := []
  chars : List Char := []
  isQuoted : Bool := false
  hasQuotes : Bool := false

namespace Draft

def settle (draft : Draft) : Draft :=
  if draft.chars = [] then draft
  else
    { draft with
      pieces := .text draft.chars.reverse draft.isQuoted :: draft.pieces
      chars := [] }

def push (draft : Draft) (isQuoted : Bool) (c : Char) : Draft :=
  if draft.isQuoted = isQuoted then { draft with chars := c :: draft.chars }
  else { draft.settle with chars := [c], isQuoted }

def pushAll (draft : Draft) (isQuoted : Bool) (chars : List Char) : Draft :=
  chars.foldl (fun draft c => draft.push isQuoted c) draft

def add (draft : Draft) (piece : Piece) : Draft :=
  let draft := draft.settle
  { draft with pieces := piece :: draft.pieces }

def quote (draft : Draft) : Draft := { draft with hasQuotes := true }

def word (draft : Draft) : Word := draft.settle.pieces.reverse

/-- Add the pieces of quoted text.  All the arguments at once do without a mark, because they may
be none. -/
def addQuotes (draft inner : Draft) : Draft :=
  let pieces := match inner.word with
    | [.parameter "@" .value _] => inner.word
    | word => .mark :: word
  let draft := draft.quote.settle
  { draft with pieces := pieces.reverse ++ draft.pieces }

end Draft

end FlagSearch.Shell
