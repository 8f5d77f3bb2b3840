import FlagSearch.Text.Classes
import FlagSearch.Text.Digits

/-!
# Regular expressions

Regular expressions of the two usual kinds, plain ones and extended ones.  Of all matches the
leftmost one counts, and of those that start at the same place the longest one.

* `Regex` — the expressions.
* `Regex.parse` — an expression from its text, or what is wrong with it.
* `Regex.search?` — the first match in a text.
-/

namespace FlagSearch

open Text (SetPart)

/-- A place in a text that an expression can ask for. -/
inductive Regex.Edge where
  | start
  | finish
  | noWordBefore
  | noWordAfter
  deriving DecidableEq

inductive Regex where
  | empty
  | any
  | one (c : Char)
  | set (isNegated : Bool) (parts : List SetPart)
  | edge (edge : Regex.Edge)
  | both (first second : Regex)
  | either (first second : Regex)
  | times (least : Nat) (most? : Option Nat) (body : Regex)
  | group (number : Nat) (body : Regex)

namespace Regex

/-! ## Matching -/

/-- A match, as far as it has come. -/
structure Match where
  start : Nat
  stop : Nat
  groups : List (Nat × Nat × Nat)
  deriving DecidableEq

/-- A place in a text, with the match that has led there. -/
structure State where
  before? : Option Char
  rest : List Char
  position : Nat
  groups : List (Nat × Nat × Nat)

def isWordPart (c : Char) : Bool := c.isAlphanum || c == '_'

def Edge.holds (edge : Edge) (state : State) : Bool :=
  match edge with
  | start => state.before?.isNone
  | finish => state.rest.isEmpty
  | noWordBefore => !state.before?.any isWordPart
  | noWordAfter => !state.rest.head?.any isWordPart

def same (ignoresCase : Bool) (a b : Char) : Bool :=
  a == b || (ignoresCase && a.toLower == b.toLower)

def State.skip (state : State) (count : Nat) : State :=
  if count = 0 then state
  else { state with
    before? := state.rest[count - 1]?
    rest := state.rest.drop count
    position := state.position + count }

abbrev After := State → Option State → Option State

def iterate (body : State → After → Option State → Option State) (after : After) :
    (fuel least : Nat) → (most? : Option Nat) → State → Option State → Option State
  | 0, _, _, state, best => after state best
  | fuel + 1, least, most?, state, best =>
      let best :=
        if most? = some 0 then best
        else
          body state
            (fun next best =>
              if next.position = state.position && least = 0 then best
              else iterate body after fuel (least - 1) (most?.map (· - 1)) next best)
            best
      if least = 0 then after state best else best

/-- Match an expression at a state, in all ways; the ones that come first are preferred to others
that are no longer. -/
def run (ignoresCase : Bool) : Regex → State → After → Option State → Option State
  | empty, state, after, best => after state best
  | any, state, after, best => if state.rest.isEmpty then best else after (state.skip 1) best
  | one c, state, after, best =>
      if state.rest.head?.any (same ignoresCase c) then after (state.skip 1) best else best
  | set isNegated parts, state, after, best =>
      match state.rest with
      | [] => best
      | c :: _ =>
          let isInside := parts.any fun part =>
            part.contains c
              || (ignoresCase && (part.contains c.toLower || part.contains c.toUpper))
          if isInside != isNegated then after (state.skip 1) best else best
  | edge place, state, after, best => if place.holds state then after state best else best
  | both first second, state, after, best =>
      run ignoresCase first state (fun state best => run ignoresCase second state after best) best
  | either first second, state, after, best =>
      run ignoresCase second state after (run ignoresCase first state after best)
  | times least most? body, state, after, best =>
      iterate (run ignoresCase body) after (state.rest.length + least + 1) least most? state best
  | group number body, state, after, best =>
      run ignoresCase body state
        (fun next best =>
          after { next with groups := (number, state.position, next.position) :: next.groups } best)
        best

def longer (state : State) (best : Option State) : Option State :=
  match best with
  | some old => if old.position < state.position then some state else best
  | none => some state

def searchFrom (ignoresCase : Bool) (regex : Regex) : (fuel : Nat) → State → Option Match
  | 0, _ => none
  | fuel + 1, state =>
      match run ignoresCase regex state longer none with
      | some best => some ⟨state.position, best.position, best.groups⟩
      | none =>
          if state.rest.isEmpty then none else searchFrom ignoresCase regex fuel (state.skip 1)

def search? (regex : Regex) (ignoresCase : Bool) (text : List Char) (position : Nat) :
    Option Match :=
  let start : State := ⟨none, text, 0, []⟩
  searchFrom ignoresCase regex (text.length + 1) (start.skip position)

def matchStart? (regex : Regex) (text : List Char) : Option Match :=
  (run false regex ⟨none, text, 0, []⟩ longer none).map fun best =>
    ⟨0, best.position, best.groups⟩

def Match.text? (found : Match) (text : List Char) (number : Nat) : Option (List Char) :=
  if number = 0 then some ((text.take found.stop).drop found.start)
  else (found.groups.lookup number).map fun (start, stop) => (text.take stop).drop start

/-! ## Reading -/

def groupCount : Regex → Nat
  | both first second | either first second => groupCount first + groupCount second
  | times _ _ body => groupCount body
  | group _ body => groupCount body + 1
  | _ => 0

/-- What is left to read, and the number of parts so far. -/
structure Draft where
  rest : List Char
  groups : Nat

abbrev Reading := StateT Draft (Except String)

def left : Reading (List Char) := return (← get).rest

def drop (count : Nat) : Reading Unit :=
  modify fun draft => { draft with rest := draft.rest.drop count }

def unclosedSet : String := "Unmatched [, [^, [:, [., or [="

def setItem : Reading (Char ⊕ SetPart) := do
  match ← left with
  | '[' :: ':' :: rest =>
      let name := rest.takeWhile (· ≠ ':')
      match rest.drop name.length with
      | ':' :: ']' :: _ =>
          drop (name.length + 4)
          let name := String.ofList name
          if Text.classNames.contains name then return .inr (.named name)
          else throw "Invalid character class name"
      | _ => throw unclosedSet
  | c :: _ =>
      drop 1
      return .inl c
  | [] => throw unclosedSet

/-- The parts of a set up to the bracket that closes it; `fuel` bounds them. -/
def setParts : (fuel : Nat) → (isFirst : Bool) → Reading (List SetPart)
  | 0, _ => throw unclosedSet
  | fuel + 1, isFirst => do
      match ← left with
      | [] => throw unclosedSet
      | c :: _ =>
          if c = ']' && !isFirst then
            drop 1
            return []
          else
            match ← setItem with
            | .inr part => return part :: (← setParts fuel false)
            | .inl first =>
                match ← left with
                | '-' :: c :: _ =>
                    if c = ']' then return .range first first :: (← setParts fuel false)
                    else
                      drop 1
                      match ← setItem with
                      | .inl last =>
                          if last < first then throw "Invalid range end"
                          return .range first last :: (← setParts fuel false)
                      | .inr _ => throw "Invalid range end"
                | _ => return .range first first :: (← setParts fuel false)

def bracket : Reading Regex := do
  let isNegated := (← left).head? == some '^'
  if isNegated then drop 1
  let parts ← setParts ((← left).length + 1) true
  return .set isNegated parts

/-- The numbers between braces, and how many characters they take with the closing brace. -/
def bounds? (isExtended : Bool) (text : List Char) : Option (Nat × Option Nat × Nat) :=
  let closing := if isExtended then ['\x7d'] else ['\\', '\x7d']
  let least := text.takeWhile Char.isDigit
  let rest := text.drop least.length
  match rest with
  | ',' :: rest =>
      let most := rest.takeWhile Char.isDigit
      if closing.isPrefixOf (rest.drop most.length) then
        some (Text.ofDigits 10 least, if most.isEmpty then none else some (Text.ofDigits 10 most),
          least.length + 1 + most.length + closing.length)
      else none
  | rest =>
      if !least.isEmpty && closing.isPrefixOf rest then
        let count := Text.ofDigits 10 least
        some (count, some count, least.length + closing.length)
      else none

def mostTimes : Nat := 32767

/-- What is said after an expression about the number of times. -/
inductive Suffix where
  | times (least : Nat) (most? : Option Nat) (length : Nat)
  | wrong (text : String)
  | nothing

def suffix (isExtended : Bool) (text : List Char) : Suffix :=
  let braces (opening : Nat) (rest : List Char) : Suffix :=
    match bounds? isExtended rest with
    | some (least, most?, length) =>
        if most?.any (· < least) then .wrong "Invalid content of \\\x7b\\\x7d"
        else if mostTimes < max least (most?.getD 0) then .wrong "Regular expression too big"
        else .times least most? (length + opening)
    | none =>
        if isExtended then .nothing
        else if rest.contains '\x7d' then .wrong "Invalid content of \\\x7b\\\x7d"
        else .wrong "Unmatched \\\x7b"
  match isExtended, text with
  | _, '*' :: _ => .times 0 none 1
  | true, '+' :: _ => .times 1 none 1
  | true, '?' :: _ => .times 0 (some 1) 1
  | true, '\x7b' :: rest => braces 1 rest
  | false, '\\' :: '+' :: _ => .times 1 none 2
  | false, '\\' :: '?' :: _ => .times 0 (some 1) 2
  | false, '\\' :: '\x7b' :: rest => braces 2 rest
  | _, _ => .nothing

/-- An expression with what is said after it about the number of times; `fuel` bounds that. -/
def withSuffixes (isExtended : Bool) : (fuel : Nat) → Regex → Reading Regex
  | 0, regex => return regex
  | fuel + 1, regex => do
      match suffix isExtended (← left) with
      | .times least most? length =>
          drop length
          withSuffixes isExtended fuel (.times least most? regex)
      | .wrong text => throw text
      | .nothing => return regex

def isAtEnd (isExtended isInside : Bool) (text : List Char) : Bool :=
  match isExtended, text with
  | _, [] => true
  | true, '|' :: _ => true
  | true, ')' :: _ => isInside
  | false, '\\' :: '|' :: _ => true
  | false, '\\' :: ')' :: _ => isInside
  | _, _ => false

mutual

def alternatives (isExtended isInside : Bool) : (fuel : Nat) → Reading Regex
  | 0 => throw "Regular expression too big"
  | fuel + 1 => do
      let first ← sequence isExtended isInside true fuel
      let bar := if isExtended then ['|'] else ['\\', '|']
      if bar.isPrefixOf (← left) then
        drop bar.length
        return .either first (← alternatives isExtended isInside fuel)
      else return first

def sequence (isExtended isInside isStart : Bool) : (fuel : Nat) → Reading Regex
  | 0 => throw "Regular expression too big"
  | fuel + 1 => do
      if isAtEnd isExtended isInside (← left) then return .empty
      let (first, isAnchor) ← single isExtended isStart fuel
      let isBare := isAnchor && !isExtended
      let first ← if isBare then pure first
        else withSuffixes isExtended (← left).length first
      return .both first (← sequence isExtended isInside isBare fuel)

def single (isExtended isStart : Bool) : (fuel : Nat) → Reading (Regex × Bool)
  | 0 => throw "Regular expression too big"
  | fuel + 1 => do
      let text ← left
      let part (opening : Nat) : Reading (Regex × Bool) := do
        drop opening
        let number := (← get).groups + 1
        modify fun draft => { draft with groups := number }
        let body ← alternatives isExtended true fuel
        let closing := if isExtended then [')'] else ['\\', ')']
        if closing.isPrefixOf (← left) then
          drop closing.length
          return (.group number body, false)
        else throw "Unmatched ( or \\("
      let plain (c : Char) (length : Nat) : Reading (Regex × Bool) := do
        drop length
        return (.one c, false)
      match isExtended, text with
      | _, [] => return (.empty, false)
      | true, '(' :: _ => part 1
      | false, '\\' :: '(' :: _ => part 2
      | false, '\\' :: ')' :: _ => throw "Unmatched ) or \\)"
      | true, ')' :: _ => throw "Unmatched ) or \\)"
      | _, ['\\'] => throw "Trailing backslash"
      | _, '\\' :: c :: _ =>
          if !isExtended && isStart && (c = '\x7b') then
            throw "Invalid preceding regular expression"
          else plain c 2
      | _, '.' :: _ =>
          drop 1
          return (.any, false)
      | _, '[' :: _ =>
          drop 1
          return (← bracket, false)
      | true, '^' :: _ =>
          drop 1
          return (.edge .start, true)
      | true, '$' :: _ =>
          drop 1
          return (.edge .finish, false)
      | false, '^' :: _ =>
          if isStart then
            drop 1
            return (.edge .start, true)
          else plain '^' 1
      | false, '$' :: rest =>
          let isLast := rest.isEmpty || ['\\', ')'].isPrefixOf rest || ['\\', '|'].isPrefixOf rest
          if isLast then
            drop 1
            return (.edge .finish, false)
          else plain '$' 1
      | true, c :: _ =>
          if isStart && (c = '*' || c = '+' || c = '?') then
            drop 1
            return (.empty, false)
          else plain c 1
      | false, c :: _ => plain c 1

end

def parse (isExtended : Bool) (text : List Char) : Except String Regex := do
  let (regex, draft) ← (alternatives isExtended false (4 * text.length + 4)).run ⟨text, 0⟩
  if draft.rest.isEmpty then pure regex else throw "Unmatched ) or \\)"

def ofText (text : List Char) : Regex := text.foldr (fun c rest => .both (.one c) rest) .empty

def asWord (regex : Regex) : Regex :=
  .both (.edge .noWordBefore) (.both regex (.edge .noWordAfter))

def asLine (regex : Regex) : Regex := .both (.edge .start) (.both regex (.edge .finish))

end Regex

end FlagSearch
