import FlagSearch.Binary64.Basic

/-!
# From decimals to binary64

A decimal `digits * 10 ^ exponent` stands for the binary64 number nearest to it, and of two that
are equally near for the one with an even pattern.  The rounding is done on natural numbers, so it
is exact for any number of digits.

* `roundEven` — the integer nearest to a quotient.
* `ofRatio` — the pattern of a nonnegative quotient.
* `ofDecimal` — the number of a decimal; a decimal past the largest finite number becomes an
  infinity.
-/

namespace FlagSearch.Binary64

/-- The integer nearest to `numerator / denominator`; a tie goes to the even neighbour. -/
def roundEven (numerator denominator : Nat) : Nat :=
  let below := numerator / denominator
  let twice := 2 * (numerator % denominator)
  if twice < denominator then below
  else if denominator < twice then below + 1
  else if below % 2 = 0 then below else below + 1

def scaleRatio (numerator denominator : Nat) (shift : Int) : Nat × Nat :=
  if shift < 0 then (numerator, denominator * Nat.pow 2 shift.natAbs)
  else (numerator * Nat.pow 2 shift.natAbs, denominator)

/-- The exponent of the last place of the number nearest to a positive quotient: the quotient has
53 bits above it, or fewer where the numbers end. -/
def lastPlace (numerator denominator : Nat) : Int :=
  -- The quotient of two numbers has as many bits as their lengths differ by, or one fewer.
  let guess : Int := (numerator.log2 : Int) - denominator.log2 - 52
  let (n, d) := scaleRatio numerator denominator (-guess)
  max (-1074) (if n < d * hiddenBit then guess - 1 else guess)

/-- The magnitude pattern nearest to a quotient.  Patterns follow the numbers in order, so a
significand that is rounded up to `2 ^ 53` carries into the exponent by plain addition. -/
def ofRatio (numerator denominator : Nat) : Nat :=
  if numerator = 0 then 0
  else
    let place := lastPlace numerator denominator
    let (n, d) := scaleRatio numerator denominator (-place)
    min infinityPattern ((place + 1074).toNat * hiddenBit + roundEven n d)

/-- Every decimal with this many digits before the point, or more, is past the largest number. -/
def overflowDigits : Int := 400

/-- Every decimal with this many zeros after the point, or more, is nearest to zero. -/
def underflowZeros : Int := -400

/-- The number nearest to `digits * 10 ^ exponent`. -/
def ofDecimal (negative : Bool) (digits : Nat) (exponent : Int) : Binary64 :=
  -- Extreme exponents are settled by the size alone, before any power of ten is formed.
  let size : Int := (Nat.toDigits 10 digits).length + exponent
  signed negative <|
    if digits = 0 then 0
    else if overflowDigits ≤ size then infinityPattern
    else if size ≤ underflowZeros then 0
    else if exponent < 0 then ofRatio digits (Nat.pow 10 exponent.natAbs)
    else ofRatio (digits * Nat.pow 10 exponent.natAbs) 1

end FlagSearch.Binary64
