import FlagSearch.Binary64.Scaled

/-!
# JSON values

A `Json` is a JSON document with the digits of its numbers as written, so that each reader of a
number decides what range it accepts.

* `Numeral` — a number as written, with its values as a natural number and as a binary64 number.
* `Json` — a document.
* `Json.isPlain` — does a document hold only whole texts and numbers in range, in few levels?
-/

namespace FlagSearch

structure Exponent where
  mark : Char
  sign : Option Char
  digits : List Char
  deriving DecidableEq

structure Numeral where
  negative : Bool
  whole : List Char
  fraction : List Char
  exponent : Option Exponent
  deriving DecidableEq

def Exponent.value (exponent : Exponent) : Int :=
  if exponent.sign = some '-' then -(digitsValue exponent.digits : Int)
  else digitsValue exponent.digits

namespace Numeral

def nat? (numeral : Numeral) : Option Nat :=
  if numeral.negative ∨ numeral.fraction ≠ [] ∨ numeral.exponent.isSome then none
  else
    let value := digitsValue numeral.whole
    if value < wordLimit then some value else none

def binary64? (numeral : Numeral) : Option Binary64 :=
  Binary64.ofDigits? numeral.negative numeral.whole numeral.fraction
    ((numeral.exponent.map Exponent.value).getD 0)

def ofNat (n : Nat) : Numeral := ⟨false, Nat.toDigits 10 n, [], none⟩

end Numeral

/-- A JSON document.  A text is missing where an escape names half of a surrogate pair. -/
inductive Json where
  | null
  | bool (b : Bool)
  | number (n : Numeral)
  | string (text : Option String)
  | array (items : List Json)
  | object (members : List (Option String × Json))

namespace Json

/-- Does the document hold only whole texts, numbers within the range of binary64, and at most
`levels` levels of arrays and objects? -/
def isPlain : Nat → Json → Bool
  | _, null => true
  | _, bool _ => true
  | _, number n => n.binary64?.isSome
  | _, string text => text.isSome
  | 0, array _ => false
  | levels + 1, array items => items.all (isPlain levels)
  | 0, object _ => false
  | levels + 1, object members =>
      members.all fun member => member.1.isSome && isPlain levels member.2

def ofText (text : String) : Json := string (some text)

def ofNat (n : Nat) : Json := number (Numeral.ofNat n)

def ofTexts (texts : List String) : Json := array (texts.map ofText)

def member (name : String) (value : Json) : Option String × Json := (some name, value)

def member? (name : String) (value : Option Json) : List (Option String × Json) :=
  match value with
  | some value => [member name value]
  | none => []

end Json

end FlagSearch
