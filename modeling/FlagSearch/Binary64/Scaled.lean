import FlagSearch.Binary64.Decimal
import FlagSearch.Text.Number

/-!
# Decimals read in two steps

A decimal is read quickly by keeping as many of its digits as a 64-bit word holds, converting the
word, and multiplying or dividing by a power of ten.  Both steps round, so the result can be one
place away from the number nearest to the decimal.

* `leading` — the digits that a word holds.
* `scale?` — a number times a power of ten; a number past the largest finite one is refused.
* `ofDigits?` — the number of a decimal.
-/

namespace FlagSearch.Binary64

/-- The number of the digits that fit into a word after `value`, and the digits that do not. -/
def leading (value : Nat) : List Char → Nat × List Char
  | [] => (value, [])
  | c :: rest =>
      let longer := 10 * value + (c.toNat - '0'.toNat)
      if longer < wordLimit then leading longer rest else (value, c :: rest)

def topPlaces : Nat := 308

def powerOfTen (places : Nat) : Binary64 := ofDecimal false 1 places

/-- A number divided by a power of ten, at most `topPlaces` places in one step.  A word that has
been divided twice by the largest power is zero, so `steps` need not be more than three. -/
def scaleDown : (steps : Nat) → Binary64 → Nat → Binary64
  | 0, x, _ => x
  | steps + 1, x, places =>
      if places ≤ topPlaces then x / powerOfTen places
      else if x.magnitude = 0 then x
      else scaleDown steps (x / powerOfTen topPlaces) (places - topPlaces)

/-- A number that is not negative times a power of ten, if it stays finite. -/
def scale? (x : Binary64) (exponent : Int) : Option Binary64 :=
  if exponent < 0 then some (scaleDown 3 x exponent.natAbs)
  else if topPlaces < exponent.natAbs then if x.magnitude = 0 then some x else none
  else
    let scaled := x * powerOfTen exponent.natAbs
    if scaled.isFinite then some scaled else none

/-- The largest exponent that is looked at. -/
def topExponentValue : Nat := 2147483647

def ofDigits? (negative : Bool) (whole fraction : List Char) (exponent : Int) : Option Binary64 :=
  let (value, dropped) := leading 0 whole
  let (value, unread) := leading value fraction
  let magnitude? :=
    -- An exponent past all limits is settled by its sign.
    if topExponentValue < exponent.natAbs then
      if value = 0 ∨ exponent < 0 then some zero else none
    else
      scale? (ofDecimal false value 0)
        (exponent + dropped.length - (fraction.length - unread.length : Nat))
  magnitude?.map fun x => signed negative x.magnitude

end FlagSearch.Binary64
