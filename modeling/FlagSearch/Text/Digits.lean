/-!
# Digits

Digits of the bases that programs and scripts write numbers in.

* `Text.isOctalDigit`, `Text.isHexDigit` — the digits.
* `Text.ofDigits`, `Text.inBase` — the number that digits stand for, and the digits of a number.
-/

namespace FlagSearch.Text

def isOctalDigit (c : Char) : Bool := '0' ≤ c && c ≤ '7'

def isHexDigit (c : Char) : Bool := c.isDigit || "abcdefABCDEF".toList.contains c

def digitValue (c : Char) : Nat :=
  if c.isDigit then c.toNat - '0'.toNat
  else if c.isUpper then c.toNat - 'A'.toNat + 10
  else c.toNat - 'a'.toNat + 10

def ofDigits (base : Nat) (digits : List Char) : Nat :=
  digits.foldl (fun value c => value * base + digitValue c) 0

def inBase (base value : Nat) : List Char := Nat.toDigits base value

end FlagSearch.Text
