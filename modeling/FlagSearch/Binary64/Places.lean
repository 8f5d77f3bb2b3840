import FlagSearch.Binary64.Shortest

/-!
# Fixed decimal places

Summaries show numbers with a fixed number of digits after the point.  The number is rounded to
the nearest such decimal, a tie going to the even digit; infinities and NaN are named.

* `fixed` — the text of a number with `places` digits after the point.
-/

namespace FlagSearch.Binary64

def paddedDigits (width n : Nat) : List Char :=
  let digits := Nat.toDigits 10 n
  List.replicate (width - digits.length) '0' ++ digits

def fixed (places : Nat) (x : Binary64) : String :=
  let body : String :=
    if x.isFinite then
      let (n, d) := x.ratio
      let scale := Nat.pow 10 places
      let units := roundEven (n * scale) d
      let whole := String.ofList (Nat.toDigits 10 (units / scale))
      if places = 0 then whole
      else whole ++ "." ++ String.ofList (paddedDigits places (units % scale))
    else "inf"
  if x.isNaN then "NaN" else if x.sign then "-" ++ body else body

end FlagSearch.Binary64
