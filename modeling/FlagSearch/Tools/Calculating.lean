import FlagSearch.Text.Regex
import FlagSearch.Tools.Showing

/-!
# Tools that calculate

* `Tools.expr` — the value of an expression.
-/

namespace FlagSearch.Tools

open Sandbox Work

abbrev Expressing := StateT (List String) Work

namespace Expressing

def wrong {α : Type} (text : String) : Expressing α := StateT.lift do
  warn text
  throw 2

def number? (text : String) : Option Int :=
  match text.toList with
  | '-' :: c :: digits =>
      if (c :: digits).all Char.isDigit then some (-(Text.ofDigits 10 (c :: digits) : Int))
      else none
  | digits =>
      if !digits.isEmpty && digits.all Char.isDigit then some (Text.ofDigits 10 digits : Int)
      else none

def isNothing (text : String) : Bool :=
  text = "" || (number? text == some 0)

def number (text : String) : Expressing Int := do
  match number? text with
  | some value => return value
  | none => wrong "non-integer argument"

def accept? (words : List String) : Expressing (Option String) := do
  match ← get with
  | word :: rest =>
      if words.contains word then
        set rest
        return some word
      else return none
  | [] => return none

/-- The part of a text that an expression matches from its start, or the number of characters. -/
def matched (text pattern : String) : Expressing String := do
  match Regex.parse false pattern.toList with
  | .error text => wrong text
  | .ok regex =>
      match regex.matchStart? text.toList with
      | some found =>
          if regex.groupCount = 0 then return toString found.stop
          else return String.ofList ((found.text? text.toList 1).getD [])
      | none => return if regex.groupCount = 0 then "0" else ""

def levels : List (List String) :=
  [["|"], ["&"], ["<", "<=", "=", "==", "!=", ">=", ">"], ["+", "-"], ["*", "/", "%"], [":"]]

def truth (holds : Bool) : String := if holds then "1" else "0"

def combined (sign first second : String) : Expressing String := do
  let order : Ordering := match number? first, number? second with
    | some a, some b => compare a b
    | _, _ => compare first second
  match sign with
  | "|" => return if !isNothing first then first else if isNothing second then "0" else second
  | "&" => return if isNothing first || isNothing second then "0" else first
  | "<" => return truth (order == .lt)
  | "<=" => return truth (order != .gt)
  | "=" | "==" => return truth (order == .eq)
  | "!=" => return truth (order != .eq)
  | ">=" => return truth (order != .lt)
  | ">" => return truth (order == .gt)
  | ":" => matched first second
  | sign =>
      let a ← number first
      let b ← number second
      match sign with
      | "+" => return toString (a + b)
      | "-" => return toString (a - b)
      | "*" => return toString (a * b)
      | sign =>
          if b = 0 then wrong "division by zero"
          else return toString (if sign = "/" then Int.tdiv a b else Int.tmod a b)

def part (text place length : String) : String :=
  match number? place, number? length with
  | some place, some length =>
      if place < 1 ∨ length < 1 then ""
      else String.ofList ((text.toList.drop (place.toNat - 1)).take length.toNat)
  | _, _ => ""

mutual

/-- The value of the words up to a sign of an earlier level, which are after `previous`. -/
def value : (fuel level : Nat) → (previous : String) → Expressing String
  | 0, _, _ => return ""
  | fuel + 1, level, previous => do
      match levels[level]? with
      | none => single fuel previous
      | some signs => more fuel level signs (← value fuel (level + 1) previous)

def more : (fuel level : Nat) → (signs : List String) → String → Expressing String
  | 0, _, _, first => return first
  | fuel + 1, level, signs, first => do
      match ← accept? signs with
      | none => return first
      | some sign =>
          let second ← value fuel (level + 1) sign
          more fuel level signs (← combined sign first second)

def single : (fuel : Nat) → (previous : String) → Expressing String
  | 0, _ => return ""
  | fuel + 1, previous => do
      match ← get with
      | [] => wrong s!"syntax error: missing argument after {quoted previous}"
      | ")" :: _ => wrong "syntax error: unexpected ')'"
      | "(" :: rest =>
          set rest
          let inside ← value fuel 0 "("
          match ← get with
          | ")" :: rest =>
              set rest
              return inside
          | [] => wrong s!"syntax error: expecting ')' after {quoted (← lastWord rest)}"
          | word :: _ => wrong s!"syntax error: expecting ')' instead of {quoted word}"
      | "+" :: word :: rest =>
          set rest
          return word
      | name :: rest =>
          set rest
          let argument : Expressing String := single fuel name
          match name with
          | "length" => return toString (← argument).length
          | "match" =>
              let text ← argument
              matched text (← argument)
          | "index" =>
              let text ← argument
              let wanted ← argument
              return toString ((text.toList.findIdx? wanted.toList.contains).elim 0 (· + 1))
          | "substr" =>
              let text ← argument
              let place ← argument
              return part text place (← argument)
          | word => return word
  where
  lastWord (rest : List String) : Expressing String := return rest.getLast?.getD ""

end

end Expressing

def expr : Tool := tool 2 fun arguments => do
  let words := if arguments.head? == some "--" then arguments.drop 1 else arguments
  if words.isEmpty then misuse "missing operand"
  let (value, rest) ← (Expressing.value (12 * words.length + 12) 0 "").run words
  if let extra :: _ := rest then
    warn s!"syntax error: unexpected argument {quoted extra}"
    throw 2
  putLine value
  if Expressing.isNothing value then throw 1

end FlagSearch.Tools
