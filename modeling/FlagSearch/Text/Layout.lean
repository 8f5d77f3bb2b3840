import FlagSearch.Binary64.Decimal
import FlagSearch.Binary64.Shortest
import FlagSearch.Text.Digits

/-!
# Layouts

How formats lay out numbers and texts: signs, padding, bases, and digits after the point.

* `Layout` — what stands between the percent sign and the letter of a format.
* `Layout.ofText`, `Layout.ofInteger`, `Layout.ofFloat` — what a format makes of a value.
-/

namespace FlagSearch

/-- What a format says about the shape of a value. -/
structure Layout where
  isLeft : Bool := false
  showsPlus : Bool := false
  showsBlank : Bool := false
  showsBase : Bool := false
  usesZeros : Bool := false
  width : Nat := 0
  precision? : Option Nat := none

namespace Layout

def addFlag (layout : Layout) (flag : Char) : Layout :=
  match flag with
  | '-' => { layout with isLeft := true }
  | '+' => { layout with showsPlus := true }
  | ' ' => { layout with showsBlank := true }
  | '#' => { layout with showsBase := true }
  | '0' => { layout with usesZeros := true }
  | _ => layout

def pad (layout : Layout) (usesZeros : Bool) (sign body : String) : String :=
  let missing := layout.width - (sign.length + body.length)
  let fill (c : Char) : String := String.ofList (List.replicate missing c)
  if layout.isLeft then sign ++ body ++ fill ' '
  else if usesZeros then sign ++ fill '0' ++ body
  else fill ' ' ++ sign ++ body

def ofText (layout : Layout) (text : String) : String :=
  let text := match layout.precision? with
    | some count => String.ofList (text.toList.take count)
    | none => text
  layout.pad false "" text

def signText (layout : Layout) (isNegative : Bool) : String :=
  if isNegative then "-"
  else if layout.showsPlus then "+"
  else if layout.showsBlank then " " else ""

def withZeros (count : Nat) (digits : String) : String :=
  String.ofList (List.replicate (count - digits.length) '0') ++ digits

def digits (layout : Layout) (base value : Nat) : String :=
  let digits := String.ofList (Nat.toDigits base value)
  match layout.precision? with
  | some count => if count = 0 ∧ value = 0 then "" else withZeros count digits
  | none => digits

def fillsWithZeros (layout : Layout) : Bool := layout.usesZeros && layout.precision?.isNone

def ofInteger (layout : Layout) (value : Int) : String :=
  layout.pad layout.fillsWithZeros (layout.signText (value < 0)) (layout.digits 10 value.natAbs)

def ofNatural (layout : Layout) (letter : Char) (value : Nat) : String :=
  let shown := layout.showsBase && value ≠ 0
  let (start, body) := match letter with
    | 'x' => (if shown then "0x" else "", layout.digits 16 value)
    | 'X' => (if shown then "0X" else "", (layout.digits 16 value).toUpper)
    | 'o' =>
        let body := layout.digits 8 value
        ("", if layout.showsBase && !body.startsWith "0" then "0" ++ body else body)
    | _ => ("", layout.digits 10 value)
  layout.pad layout.fillsWithZeros start body

/-! ## Binary64 numbers -/

def fixedDigits (places numerator denominator : Nat) (showsPoint : Bool) : String :=
  let scale := Nat.pow 10 places
  let units := Binary64.roundEven (numerator * scale) denominator
  let whole := toString (units / scale)
  if places = 0 then if showsPoint then whole ++ "." else whole
  else whole ++ "." ++ withZeros places (toString (units % scale))

/-- A quotient as digits with one of them before the point, and the exponent. -/
def exponentDigits (places numerator denominator : Nat) : Nat × Int :=
  if numerator = 0 then (0, 0)
  else
    let place := Binary64.leadingExponent numerator denominator
    let shift := (places : Int) - place
    let units :=
      if shift < 0 then
        Binary64.roundEven numerator (denominator * Nat.pow 10 shift.natAbs)
      else Binary64.roundEven (numerator * Nat.pow 10 shift.natAbs) denominator
    -- Rounding up may add a digit.
    if Nat.pow 10 (places + 1) ≤ units then (units / 10, place + 1) else (units, place)

def exponentText (exponent : Int) : String :=
  (if exponent < 0 then "e-" else "e+") ++ withZeros 2 (toString exponent.natAbs)

def scientific (places numerator denominator : Nat) (showsPoint : Bool) : String :=
  let (units, exponent) := exponentDigits places numerator denominator
  let digits := (withZeros (places + 1) (toString units)).toList
  let tail := digits.drop 1
  String.ofList (digits.take 1) ++ (if tail.isEmpty && !showsPoint then "" else ".")
    ++ String.ofList tail ++ exponentText exponent

def withoutLastZeros (text : String) : String :=
  if text.toList.contains '.' then
    let kept := text.toList.reverse.dropWhile (· == '0')
    String.ofList (if kept.head? == some '.' then kept.drop 1 else kept).reverse
  else text

def general (layout : Layout) (numerator denominator : Nat) : String :=
  let precision := max 1 (layout.precision?.getD 6)
  let exponent := (exponentDigits (precision - 1) numerator denominator).2
  if exponent < -4 ∨ (precision : Int) ≤ exponent then
    let text := scientific (precision - 1) numerator denominator layout.showsBase
    if layout.showsBase then text
    else
      let mantissa := text.toList.takeWhile (· ≠ 'e')
      withoutLastZeros (String.ofList mantissa) ++ String.ofList (text.toList.drop mantissa.length)
  else
    let places := ((precision : Int) - 1 - exponent).toNat
    let text := fixedDigits places numerator denominator layout.showsBase
    if layout.showsBase then text else withoutLastZeros text

def ofFloat (layout : Layout) (letter : Char) (x : Binary64) : String :=
  let sign := layout.signText x.sign
  let isUpper := letter.isUpper
  if x.isFinite then
    let (numerator, denominator) := x.ratio
    let places := layout.precision?.getD 6
    let body := match letter.toLower with
      | 'f' => fixedDigits places numerator denominator layout.showsBase
      | 'e' => scientific places numerator denominator layout.showsBase
      | _ => layout.general numerator denominator
    layout.pad layout.usesZeros sign (if isUpper then body.toUpper else body)
  else
    let body := if x.isNaN then "nan" else "inf"
    layout.pad false sign (if isUpper then body.toUpper else body)

end Layout

/-! ## Numbers that are written down -/

namespace Text

/-- The number at the start of a text, with the number of characters that it takes. -/
def decimal? (text : List Char) : Option (Binary64 × Nat) :=
  let isNegative := text.head? == some '-'
  let unsigned := if isNegative || text.head? == some '+' then text.drop 1 else text
  let signLength := text.length - unsigned.length
  let lower := (unsigned.take 8).map Char.toLower
  if "infinity".toList.isPrefixOf lower then
    some (Binary64.signed isNegative Binary64.infinityPattern, signLength + 8)
  else if "inf".toList.isPrefixOf lower then
    some (Binary64.signed isNegative Binary64.infinityPattern, signLength + 3)
  else if "nan".toList.isPrefixOf lower then
    some (Binary64.signed isNegative (Binary64.infinityPattern + 1), signLength + 3)
  else
    let whole := unsigned.takeWhile Char.isDigit
    let rest := unsigned.drop whole.length
    let (places, pointLength) := match rest with
      | '.' :: after => (after.takeWhile Char.isDigit, 1)
      | _ => ([], 0)
    if whole.isEmpty && places.isEmpty then none
    else
      let length := whole.length + pointLength + places.length
      let (exponent, exponentLength) : Int × Nat := match unsigned.drop length with
        | e :: after =>
            if e == 'e' || e == 'E' then
              let isDown := after.head? == some '-'
              let digits := if isDown || after.head? == some '+' then after.drop 1 else after
              let count := (digits.takeWhile Char.isDigit).length
              if count = 0 then (0, 0)
              else
                let size := ofDigits 10 (digits.take count)
                (if isDown then -(size : Int) else size, 1 + (after.length - digits.length) + count)
            else (0, 0)
        | [] => (0, 0)
      some (Binary64.ofDecimal isNegative (ofDigits 10 (whole ++ places))
        (exponent - places.length), signLength + length + exponentLength)

end Text

end FlagSearch
