import FlagSearch.Shell.Source
import FlagSearch.Text.Digits

/-!
# Words

How a word is read: its quotes, and what follows a dollar sign or stands between backquotes.  The
commands in a word are read by a reader that is passed as an argument.

* `Place` — what surrounds the characters that are read.
* `Words.pieces` — the pieces up to the end of a place.
* `Words.word` — a word of a command.
* `Words.document` — a text that a command reads.
-/

namespace FlagSearch.Shell

/-- What surrounds the characters that are read. -/
inductive Place where
  | word
  | quotes
  | braces
  | quotedBraces
  | sum
  | document
  deriving DecidableEq

namespace Place

def isQuoted : Place → Bool
  | quotes | quotedBraces | sum | document => true
  | word | braces => false

def hasQuotes : Place → Bool
  | word | braces => true
  | quotes | quotedBraces | sum | document => false

end Place

namespace Words

open Source

/-- What the reader of words needs to read commands: a command up to the parenthesis that closes
it, or up to the end. -/
abbrev Inner := (closes : Bool) → Reading Command

def endsWord (c : Char) : Bool := " \t\n;&|<>()".toList.contains c

def isSpecial (c : Char) : Bool := "*@#?$!".toList.contains c || c.isDigit

def isEscaped (place : Place) (isToggled : Bool) (c : Char) : Bool :=
  c == '\\' || c == '\x60' || c == '$' || (c == '"' && place != .document)
    || (c == '\x7d' && place == .quotedBraces && !isToggled)

def singleQuoted : (fuel : Nat) → Draft → Reading Draft
  | 0, _ => fail "Unterminated quoted string"
  | fuel + 1, draft => do
      match ← rawPeek? with
      | none => fail "Unterminated quoted string"
      | some c =>
          skip
          if c == '\'' then return draft else singleQuoted fuel (draft.push true c)

/-- The text between backquotes, without the backslashes that only protect it. -/
def backquoted (isQuoted : Bool) : (fuel : Nat) → List Char → Reading (List Char)
  | 0, _ => fail "EOF in backquote substitution"
  | fuel + 1, text => do
      match ← take? with
      | none => fail "EOF in backquote substitution"
      | some '\x60' => return text.reverse
      | some '\\' => do
          match ← rawPeek? with
          | none => fail "EOF in backquote substitution"
          | some c =>
              skip
              if c == '\\' || c == '\x60' || c == '$' || (isQuoted && c == '"') then
                backquoted isQuoted fuel (c :: text)
              else backquoted isQuoted fuel (c :: '\\' :: text)
      | some c => backquoted isQuoted fuel (c :: text)

def within (text : List Char) (line : Nat) (reading : Reading Command) : Reading Command := do
  let saved ← get
  set { saved with rest := text, line, pushed? := none, pending := [] }
  let command ← reading
  modify fun source =>
    { saved with documents := source.documents, nextKey := source.nextKey }
  return command

def ofBackquotes (inner : Inner) (isQuoted : Bool) : Reading Command := do
  let text ← backquoted isQuoted (← size) []
  within text 1 (inner false)

def ofParentheses (inner : Inner) : Reading Command := do
  let saved ← get
  set { saved with pushed? := none, pending := [] }
  let command ← inner true
  modify fun source => { source with
    pushed? := saved.pushed?
    pending := saved.pending ++ source.pending }
  return command

mutual

/-- The pieces up to the end of a place, the sign that ends it included.  `isToggled` says whether
there were quotes in quoted braces that are still open, `depth` counts open parentheses. -/
def pieces (inner : Inner) :
    (fuel : Nat) → Place → (isToggled : Bool) → (depth : Nat) → Draft → Reading Draft
  | 0, _, _, _, draft => return draft
  | fuel + 1, place, isToggled, depth, draft => do
      let goOn (draft : Draft) : Reading Draft := pieces inner fuel place isToggled depth draft
      match ← peek? with
      | none =>
          match place with
          | .word | .document => return draft
          | .quotes | .quotedBraces => fail "Unterminated quoted string"
          | .braces => fail "Missing '\x7d'"
          | .sum => fail "Missing '))'"
      | some c =>
          if place == .word && endsWord c then return draft
          else
            skip
            match c with
            | '\\' =>
                match ← rawPeek? with
                | none => goOn (draft.push true '\\')
                | some c =>
                    skip
                    let draft := draft.quote
                    if place.isQuoted && !isEscaped place isToggled c then
                      goOn ((draft.push true '\\').push true c)
                    else goOn (draft.push true c)
            | '\'' =>
                if place.hasQuotes then
                  let quoted ← singleQuoted (← size) {}
                  goOn (draft.addQuotes quoted)
                else goOn (draft.push place.isQuoted c)
            | '"' =>
                if place.hasQuotes then
                  let quoted ← pieces inner fuel .quotes false 0 {}
                  goOn (draft.addQuotes quoted)
                else
                  match place with
                  | .quotes => return draft
                  | .quotedBraces =>
                      pieces inner fuel place (!isToggled) depth draft.quote
                  | _ => goOn (draft.push true c)
            | '$' => do goOn (← dollar inner fuel place draft)
            | '\x60' =>
                let command ← ofBackquotes inner place.isQuoted
                goOn (draft.add (.output command place.isQuoted))
            | '\x7d' =>
                if place == .braces || (place == .quotedBraces && !isToggled) then return draft
                else goOn (draft.push place.isQuoted c)
            | '(' =>
                if place == .sum then
                  pieces inner fuel place isToggled (depth + 1) (draft.push true c)
                else goOn (draft.push place.isQuoted c)
            | ')' =>
                if place == .sum then
                  if depth ≠ 0 then
                    pieces inner fuel place isToggled (depth - 1) (draft.push true c)
                  else if ← accept ')' then return draft
                  else goOn (draft.push true c)
                else goOn (draft.push place.isQuoted c)
            | c => goOn (draft.push place.isQuoted c)

def dollar (inner : Inner) : (fuel : Nat) → Place → Draft → Reading Draft
  | 0, _, draft => return draft
  | fuel + 1, place, draft => do
      let isQuoted := place.isQuoted
      match ← peek? with
      | none => return draft.push isQuoted '$'
      | some c =>
          if c == '(' then
            skip
            if ← accept '(' then
              let sum ← pieces inner fuel .sum false 0 {}
              return draft.add (.sum sum.word isQuoted)
            else
              return draft.add (.output (← ofParentheses inner) isQuoted)
          else if c == '\x7b' then
            skip
            return draft.add (← braced inner fuel isQuoted)
          else if isNameStart c then
            let name ← takeWhile isNameRest (← size)
            return draft.add (.parameter (String.ofList name) .value isQuoted)
          else if isSpecial c then
            skip
            return draft.add (.parameter (String.singleton c) .value isQuoted)
          else return draft.push isQuoted '$'

/-- The expansion in braces of which only the dollar sign and the first brace have been read. -/
def braced (inner : Inner) : (fuel : Nat) → (isQuoted : Bool) → Reading Piece
  | 0, _ => fail "Bad substitution"
  | fuel + 1, isQuoted => do
      let inside : Place := if isQuoted then .quotedBraces else .braces
      let bad : Reading Piece := do
        let _ ← pieces inner fuel inside false 0 {}
        return .parameter "" .bad isQuoted
      match ← peek? with
      | none => bad
      | some c =>
          if isNameStart c then
            let name ← takeWhile isNameRest (← size)
            use inner fuel isQuoted (String.ofList name)
          else if c.isDigit then
            let name ← takeWhile Char.isDigit (← size)
            use inner fuel isQuoted (String.ofList name)
          else if c == '#' then
            skip
            match ← peek? with
            | none => bad
            | some c =>
                if isNameRest c then
                  let name ← takeWhile isNameRest (← size)
                  let name := String.ofList (if c.isDigit then name.takeWhile Char.isDigit else name)
                  if ← accept '\x7d' then return .parameter name .length isQuoted else bad
                else
                  skip
                  if c ≠ '\x7d' ∧ (← peek?) == some '\x7d' then
                    -- The length of a parameter whose name is no word.
                    if isSpecial c then
                      skip
                      return .parameter (String.singleton c) .length isQuoted
                    else bad
                  else
                    modify fun source => { source with rest := c :: source.rest }
                    use inner fuel isQuoted "#"
          else if isSpecial c then
            skip
            use inner fuel isQuoted (String.singleton c)
          else bad

/-- What is done with a parameter in braces of which the name has been read. -/
def use (inner : Inner) : (fuel : Nat) → (isQuoted : Bool) → (name : String) → Reading Piece
  | 0, _, _ => fail "Bad substitution"
  | fuel + 1, isQuoted, name => do
      let inside : Place := if isQuoted then .quotedBraces else .braces
      let rest (place : Place) : Reading Word :=
        return (← pieces inner fuel place false 0 {}).word
      let bad : Reading Piece := do
        let _ ← rest inside
        return .parameter name .bad isQuoted
      match ← peek? with
      | none => bad
      | some c =>
          let empty := c == ':'
          if empty then skip
          match ← peek? with
          | none => bad
          | some c =>
              if c == '\x7d' && !empty then
                skip
                return .parameter name .value isQuoted
              else if c == '-' then
                skip
                return .parameter name (.fallback empty (← rest inside)) isQuoted
              else if c == '+' then
                skip
                return .parameter name (.replacement empty (← rest inside)) isQuoted
              else if c == '=' then
                skip
                return .parameter name (.assign empty (← rest inside)) isQuoted
              else if c == '?' then
                skip
                return .parameter name (.demand empty (← rest inside)) isQuoted
              else if empty then bad
              else if c == '%' || c == '#' then
                skip
                let longest ← accept c
                return .parameter name (.trim (c == '#') longest (← rest .braces)) isQuoted
              else bad

end

end Words

end FlagSearch.Shell
