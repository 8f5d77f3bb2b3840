/-!
# Numbers in texts

* `digitsValue` — the number that a row of digits stands for.
* `wordLimit` — the end of the numbers of 64 bits.
* `word?` — a number of 64 bits as it is typed: digits, with a plus sign in front or without.
-/

namespace FlagSearch

def digitsValue (digits : List Char) : Nat :=
  digits.foldl (fun value c => 10 * value + (c.toNat - '0'.toNat)) 0

def wordLimit : Nat := UInt64.size

namespace Text

def withoutPlus : List Char → List Char
  | '+' :: rest => rest
  | text => text

/-- The number of 64 bits that a text stands for.  Leading zeros are allowed. -/
def word? (text : String) : Option Nat :=
  let digits := withoutPlus text.toList
  if digits ≠ [] ∧ digits.all Char.isDigit then
    let number := digitsValue digits
    if number < wordLimit then some number else none
  else none

end Text

end FlagSearch
