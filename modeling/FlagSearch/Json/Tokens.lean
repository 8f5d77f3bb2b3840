import FlagSearch.Json.Value

/-!
# JSON tokens

* `Token` — the words of JSON.
* `readText`, `readNumeral` — the two kinds of token with an inside.
* `tokens?` — the tokens of a text; blanks are spaces, tabs and the two line ends.
-/

namespace FlagSearch.Json

inductive Token where
  | openArray
  | closeArray
  | openObject
  | closeObject
  | comma
  | colon
  /-- A word or number that is a document by itself. -/
  | scalar (value : Json)
  | text (text : Option String)

/-! ## Strings -/

def hexValue? (c : Char) : Option Nat :=
  if c.isDigit then some (c.toNat - '0'.toNat)
  else if 'a' ≤ c ∧ c ≤ 'f' then some (c.toNat - 'a'.toNat + 10)
  else if 'A' ≤ c ∧ c ≤ 'F' then some (c.toNat - 'A'.toNat + 10)
  else none

def hexValue4? (a b c d : Char) : Option Nat :=
  match hexValue? a, hexValue? b, hexValue? c, hexValue? d with
  | some a, some b, some c, some d => some (((a * 16 + b) * 16 + c) * 16 + d)
  | _, _, _, _ => none

def letterEscape? (c : Char) : Option Char :=
  if c = '"' ∨ c = '\\' ∨ c = '/' then some c
  else if c = 'b' then some '\x08'
  else if c = 'f' then some '\x0c'
  else if c = 'n' then some '\n'
  else if c = 'r' then some '\r'
  else if c = 't' then some '\t'
  else none

/-- The inside of a string after its opening quote, as code units, and what follows the closing
quote.  The units read so far are kept in reverse. -/
def readUnits (units : List Nat) : List Char → Option (List Nat × List Char)
  | [] => none
  | '\\' :: 'u' :: a :: b :: c :: d :: rest =>
      match hexValue4? a b c d with
      | some unit => readUnits (unit :: units) rest
      | none => none
  | '\\' :: c :: rest =>
      match letterEscape? c with
      | some letter => readUnits (letter.toNat :: units) rest
      | none => none
  | c :: rest =>
      if c = '"' then some (units.reverse, rest)
      else if c.toNat < 0x20 ∨ c = '\\' then none
      else readUnits (c.toNat :: units) rest

def isHighHalf (unit : Nat) : Bool := 0xD800 ≤ unit && unit < 0xDC00

def isLowHalf (unit : Nat) : Bool := 0xDC00 ≤ unit && unit < 0xE000

/-- The characters of code units; there are none if a half stands alone. -/
def joinHalves : List Nat → Option (List Char)
  | [] => some []
  | [unit] => if isHighHalf unit || isLowHalf unit then none else some [Char.ofNat unit]
  | unit :: next :: rest =>
      -- Two halves make one character past the first 65536.
      if isHighHalf unit then
        if isLowHalf next then
          (joinHalves rest).map
            (Char.ofNat (0x10000 + (unit - 0xD800) * 0x400 + (next - 0xDC00)) :: ·)
        else none
      else if isLowHalf unit then none
      else (joinHalves (next :: rest)).map (Char.ofNat unit :: ·)

def readText (cs : List Char) : Option (Option String × List Char) :=
  (readUnits [] cs).map fun (units, rest) => ((joinHalves units).map String.ofList, rest)

/-! ## Numbers -/

def readDigits (cs : List Char) : Option (List Char × List Char) :=
  match cs.takeWhile Char.isDigit with
  | [] => none
  | digits => some (digits, cs.dropWhile Char.isDigit)

/-- The digits before the point: a zero stands alone. -/
def readWhole : List Char → Option (List Char × List Char)
  | '0' :: rest => some (['0'], rest)
  | cs => readDigits cs

def readFraction : List Char → Option (List Char × List Char)
  | '.' :: rest => readDigits rest
  | cs => some ([], cs)

def readExponentDigits (mark : Char) (sign : Option Char) (cs : List Char) :
    Option (Option Exponent × List Char) :=
  (readDigits cs).map fun (digits, rest) => (some ⟨mark, sign, digits⟩, rest)

def readSigned (mark : Char) : List Char → Option (Option Exponent × List Char)
  | '+' :: rest => readExponentDigits mark (some '+') rest
  | '-' :: rest => readExponentDigits mark (some '-') rest
  | cs => readExponentDigits mark none cs

def readExponent : List Char → Option (Option Exponent × List Char)
  | 'e' :: rest => readSigned 'e' rest
  | 'E' :: rest => readSigned 'E' rest
  | cs => some (none, cs)

def readUnsigned (negative : Bool) (cs : List Char) : Option (Numeral × List Char) := do
  let (whole, cs) ← readWhole cs
  let (fraction, cs) ← readFraction cs
  let (exponent, cs) ← readExponent cs
  pure (⟨negative, whole, fraction, exponent⟩, cs)

def readNumeral : List Char → Option (Numeral × List Char)
  | '-' :: rest => readUnsigned true rest
  | cs => readUnsigned false cs

/-! ## Texts -/

def isBlank (c : Char) : Bool := c == ' ' || c == '\t' || c == '\n' || c == '\r'

def readToken : List Char → Option (Token × List Char)
  | '[' :: rest => some (.openArray, rest)
  | ']' :: rest => some (.closeArray, rest)
  | '\x7b' :: rest => some (.openObject, rest)
  | '\x7d' :: rest => some (.closeObject, rest)
  | ',' :: rest => some (.comma, rest)
  | ':' :: rest => some (.colon, rest)
  | '"' :: rest => (readText rest).map fun (text, rest) => (.text text, rest)
  | 'n' :: 'u' :: 'l' :: 'l' :: rest => some (.scalar .null, rest)
  | 't' :: 'r' :: 'u' :: 'e' :: rest => some (.scalar (.bool true), rest)
  | 'f' :: 'a' :: 'l' :: 's' :: 'e' :: rest => some (.scalar (.bool false), rest)
  | cs => (readNumeral cs).map fun (numeral, rest) => (.scalar (.number numeral), rest)

/-- The tokens of a text after the tokens `seen`, which are kept in reverse.  Every round takes at
least one character, and `fuel` is the number of characters. -/
def scan (seen : List Token) : (fuel : Nat) → List Char → Option (List Token)
  | _, [] => some seen.reverse
  | 0, _ :: _ => none
  | fuel + 1, c :: rest =>
      if isBlank c then scan seen fuel rest
      else
        match readToken (c :: rest) with
        | some (token, rest) => scan (token :: seen) fuel rest
        | none => none

def tokens? (text : List Char) : Option (List Token) := scan [] text.length text

end FlagSearch.Json
