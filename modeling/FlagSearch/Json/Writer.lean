import FlagSearch.Binary64.Shortest
import FlagSearch.Json.Value
import FlagSearch.Text.Quoted

/-!
# Writing JSON

* `Numeral.text`, `Json.quoted` — the text of a number and of a string.
* `Json.compact` — a document on one line.
* `Json.pretty` — a document with one member or item on a line, two blanks deeper than what it
  belongs to.
* `Json.ofBinary64` — a number with the fewest digits that read back: positional from `0.00001`
  up to below ten to the sixteenth, with an exponent elsewhere.
-/

namespace FlagSearch

def Exponent.text (exponent : Exponent) : List Char :=
  exponent.mark :: exponent.sign.toList ++ exponent.digits

def Numeral.text (numeral : Numeral) : List Char :=
  (if numeral.negative then ['-'] else []) ++ numeral.whole
    ++ (if numeral.fraction = [] then [] else '.' :: numeral.fraction)
    ++ (match numeral.exponent with
      | some exponent => exponent.text
      | none => [])

namespace Json

/-! ## Numbers -/

def mostWhole : Int := 16

def mostZeros : Int := 4

def exponentOf (value : Int) : Exponent :=
  ⟨'e', some (if value < 0 then '-' else '+'), Nat.toDigits 10 value.natAbs⟩

/-- The number whose digits are `digits` and whose point stands `point` digits from their start. -/
def layout (negative : Bool) (digits : List Char) (point : Int) : Numeral :=
  if point ≤ -mostZeros - 1 ∨ mostWhole < point then
    ⟨negative, digits.take 1, digits.drop 1, some (exponentOf (point - 1))⟩
  else if point ≤ 0 then
    ⟨negative, ['0'], List.replicate point.natAbs '0' ++ digits, none⟩
  else
    let width := point.toNat
    let fraction := digits.drop width
    ⟨negative, digits.take width ++ List.replicate (width - digits.length) '0',
      if fraction = [] then ['0'] else fraction, none⟩

def numeralOf (x : Binary64) : Numeral :=
  let decimal := x.shortest
  if decimal.digits = 0 then ⟨x.sign, ['0'], ['0'], none⟩
  else
    let digits := Nat.toDigits 10 decimal.digits
    layout x.sign digits (digits.length + decimal.exponent)

/-- A number, or `null` for one that is not finite. -/
def ofBinary64 (x : Binary64) : Json := if x.isFinite then number (numeralOf x) else null

/-! ## Strings -/

def hex4 (n : Nat) : List Char :=
  let digits := Text.hex n
  List.replicate (4 - digits.length) '0' ++ digits

def escape (c : Char) : List Char :=
  if c = '"' then ['\\', '"']
  else if c = '\\' then ['\\', '\\']
  else if c = '\x08' then ['\\', 'b']
  else if c = '\t' then ['\\', 't']
  else if c = '\n' then ['\\', 'n']
  else if c = '\x0c' then ['\\', 'f']
  else if c = '\r' then ['\\', 'r']
  else if c.toNat < 0x20 then ['\\', 'u'] ++ hex4 c.toNat
  else [c]

/-- A text between quotes.  A text that is missing is written as half of a surrogate pair, which
reads back as missing. -/
def quoted (text : Option String) : List Char :=
  match text with
  | some text => '"' :: text.toList.flatMap escape ++ ['"']
  | none => "\"\\ud800\"".toList

/-! ## Documents -/

def commaSeparated : List (List Char) → List Char
  | [] => []
  | [item] => item
  | item :: next :: rest => item ++ ',' :: commaSeparated (next :: rest)

/-- The characters between two lines that are `depth` levels deep. -/
def lineBreak (depth : Nat) : List Char := '\n' :: List.replicate (2 * depth) ' '

mutual

def compactChars : Json → List Char
  | null => "null".toList
  | bool true => "true".toList
  | bool false => "false".toList
  | number n => n.text
  | string text => quoted text
  | array items => '[' :: commaSeparated (compactItems items) ++ [']']
  | object members => '\x7b' :: commaSeparated (compactMembers members) ++ ['\x7d']

def compactItems : List Json → List (List Char)
  | [] => []
  | item :: rest => compactChars item :: compactItems rest

def compactMembers : List (Option String × Json) → List (List Char)
  | [] => []
  | (key, value) :: rest => (quoted key ++ ':' :: compactChars value) :: compactMembers rest

end

mutual

def prettyChars (depth : Nat) : Json → List Char
  | null => "null".toList
  | bool true => "true".toList
  | bool false => "false".toList
  | number n => n.text
  | string text => quoted text
  | array [] => "[]".toList
  | array (item :: rest) =>
      '[' :: commaSeparated (prettyItems (depth + 1) (item :: rest)) ++ lineBreak depth ++ [']']
  | object [] => ['\x7b', '\x7d']
  | object (member :: rest) =>
      '\x7b' :: commaSeparated (prettyMembers (depth + 1) (member :: rest)) ++ lineBreak depth
        ++ ['\x7d']

def prettyItems (depth : Nat) : List Json → List (List Char)
  | [] => []
  | item :: rest => (lineBreak depth ++ prettyChars depth item) :: prettyItems depth rest

def prettyMembers (depth : Nat) : List (Option String × Json) → List (List Char)
  | [] => []
  | (key, value) :: rest =>
      (lineBreak depth ++ quoted key ++ ':' :: ' ' :: prettyChars depth value)
        :: prettyMembers depth rest

end

def compact (json : Json) : String := String.ofList json.compactChars

def pretty (json : Json) : String := String.ofList (json.prettyChars 0)

end Json

end FlagSearch
