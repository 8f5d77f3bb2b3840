/-!
# Binary64 numbers

Times, deviations and ratios are IEEE 754 binary64 numbers.  `Binary64` is the bit pattern of one,
so that two zeros or two NaNs with different patterns stay different values, and everything about
order and rounding is a fact about natural numbers.  Arithmetic goes through the machine's `Float`.

* `sign`, `exponentField`, `fraction` — the three fields of a pattern.
* `isFinite`, `isNaN`, `isInfinite` — the classes.
* `scaled` — a finite number as an integer times a power of two.
* `rank`, `order` — the total order of all patterns: negative NaN, negative infinity, the negative
  numbers, the two zeros, the positive numbers, infinity, NaN.
* `add`, `sub`, `mul`, `div`, `sqrt` — arithmetic.
-/

namespace FlagSearch

/-- The bit pattern of an IEEE 754 binary64 number. -/
structure Binary64 where
  /-- The sign bit, eleven exponent bits and 52 fraction bits. -/
  bits : UInt64
  deriving DecidableEq

namespace Binary64

def ofPattern (pattern : Nat) : Binary64 := ⟨UInt64.ofNat pattern⟩

def pattern (x : Binary64) : Nat := x.bits.toNat

def signWeight : Nat := Nat.pow 2 63

def magnitude (x : Binary64) : Nat := x.pattern % signWeight

def sign (x : Binary64) : Bool := signWeight ≤ x.pattern

def hiddenBit : Nat := Nat.pow 2 52

def exponentField (x : Binary64) : Nat := x.magnitude / hiddenBit

def fraction (x : Binary64) : Nat := x.magnitude % hiddenBit

/-- The exponent field that infinities and NaNs share. -/
def topExponent : Nat := 2047

def isFinite (x : Binary64) : Bool := x.exponentField != topExponent

def isNaN (x : Binary64) : Bool := x.exponentField == topExponent && x.fraction != 0

def isInfinite (x : Binary64) : Bool := x.exponentField == topExponent && x.fraction == 0

def zero : Binary64 := ofPattern 0

def negZero : Binary64 := ofPattern signWeight

def infinityPattern : Nat := topExponent * hiddenBit

def infinity : Binary64 := ofPattern infinityPattern

def signed (negative : Bool) (magnitude : Nat) : Binary64 :=
  ofPattern (if negative then signWeight + magnitude else magnitude)

/-- The magnitude of a finite number as `(significand, exponent)`, standing for
`significand * 2 ^ exponent`. -/
def scaled (x : Binary64) : Nat × Int :=
  if x.exponentField = 0 then (x.fraction, -1074)
  else (hiddenBit + x.fraction, (x.exponentField : Int) - 1075)

/-! ## Order -/

/-- The place of a pattern in the total order.  Positive patterns are their own rank; negative
ones count down from `-1`. -/
def rank (x : Binary64) : Int :=
  if x.sign then -(x.magnitude : Int) - 1 else x.magnitude

def order (x y : Binary64) : Ordering := compare x.rank y.rank

/-! ## Arithmetic -/

def toFloat (x : Binary64) : Float := Float.ofBits x.bits

def ofFloat (x : Float) : Binary64 := ⟨x.toBits⟩

def ofNat (n : Nat) : Binary64 := ofFloat n.toFloat

def add (x y : Binary64) : Binary64 := ofFloat (x.toFloat + y.toFloat)

def sub (x y : Binary64) : Binary64 := ofFloat (x.toFloat - y.toFloat)

def mul (x y : Binary64) : Binary64 := ofFloat (x.toFloat * y.toFloat)

def div (x y : Binary64) : Binary64 := ofFloat (x.toFloat / y.toFloat)

def sqrt (x : Binary64) : Binary64 := ofFloat x.toFloat.sqrt

instance : Add Binary64 := ⟨add⟩
instance : Sub Binary64 := ⟨sub⟩
instance : Mul Binary64 := ⟨mul⟩
instance : Div Binary64 := ⟨div⟩

/-- Is the number greater than zero?  NaN is not. -/
def isPositive (x : Binary64) : Bool := !x.sign && x.magnitude != 0 && !x.isNaN

end Binary64

end FlagSearch
