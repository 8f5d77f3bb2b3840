import FlagSearch.Binary64.Decimal

/-!
# The shortest decimal of a binary64 number

The shortest decimal of a finite number is the one with the fewest digits among those that read
back as the same number, and among these the nearest to it.

For `p` digits the candidates are the two neighbours of the number on the grid of `p`-digit
decimals; the nearer one that reads back is taken.  Reading back is tested with `ofDecimal` itself,
so what is printed is read as the number it came from; the exact expansion stands behind the
search, which ends at 17 digits.

* `Decimal` — digits and an exponent.
* `shortest` — the decimal of the magnitude of a finite number.
-/

namespace FlagSearch.Binary64

/-- The decimal `digits * 10 ^ exponent`. -/
structure Decimal where
  digits : Nat
  exponent : Int
  deriving DecidableEq

def ratio (x : Binary64) : Nat × Nat :=
  let (significand, exponent) := x.scaled
  scaleRatio significand 1 exponent

def unscaleRatio (numerator denominator : Nat) (exponent : Int) : Nat × Nat :=
  if exponent < 0 then (numerator * Nat.pow 10 exponent.natAbs, denominator)
  else (numerator, denominator * Nat.pow 10 exponent.natAbs)

/-- The exponent of the leading decimal digit of a positive quotient. -/
def leadingExponent (numerator denominator : Nat) : Int :=
  if denominator ≤ numerator then (Nat.toDigits 10 (numerator / denominator)).length - 1
  else -((Nat.toDigits 10 ((denominator - 1) / numerator)).length : Int)

/-- Does the decimal stand for the magnitude of `x`? -/
def readsBack (x : Binary64) (d : Decimal) : Bool :=
  ofDecimal false d.digits d.exponent == signed false x.magnitude

/-- The neighbours of `numerator / denominator` among the integers, the nearer first; of two
equally near the even one comes first. -/
def neighboursByDistance (numerator denominator : Nat) : List Nat :=
  let below := numerator / denominator
  if roundEven numerator denominator = below then [below, below + 1] else [below + 1, below]

def decimalOf? (x : Binary64) (places : Nat) : Option Decimal :=
  let (n, d) := x.ratio
  let exponent := leadingExponent n d - places + 1
  let (n', d') := unscaleRatio n d exponent
  ((neighboursByDistance n' d').map fun digits => ⟨digits, exponent⟩).find? x.readsBack

def exactDecimal (x : Binary64) : Decimal :=
  let (significand, exponent) := x.scaled
  if exponent < 0 then ⟨significand * Nat.pow 5 exponent.natAbs, exponent⟩
  else ⟨significand * Nat.pow 2 exponent.natAbs, 0⟩

/-- A decimal without trailing zero digits; `fuel` bounds the digits looked at. -/
def stripZeros : Nat → Decimal → Decimal
  | 0, d => d
  | fuel + 1, d =>
      if d.digits % 10 = 0 ∧ d.digits ≠ 0 then
        stripZeros fuel ⟨d.digits / 10, d.exponent + 1⟩
      else d

/-- The shortest decimal that reads back as the magnitude of a finite number. -/
def shortest (x : Binary64) : Decimal :=
  if x.magnitude = 0 then ⟨0, 0⟩
  else
    -- Seventeen digits always tell a number from its neighbours.
    let found := (List.range' 1 17).findSome? x.decimalOf?
    let plain := (found.map (stripZeros 20)).filter x.readsBack
    plain.getD x.exactDecimal

end FlagSearch.Binary64
