import FlagSearch.Text.Layout

/-!
# Permissions

Permission bits, and the texts that say how they are to be.

* `Modes.change?` — permissions changed as a text says.
* `Modes.octal` — permissions as they are shown.
-/

namespace FlagSearch.Sandbox

namespace Modes

def classBits (letters : List Char) : Nat :=
  letters.foldl
    (fun bits c => bits ||| match c with
      | 'u' => 0o4700
      | 'g' => 0o2070
      | 'o' => 0o1007
      | _ => 0o7777) 0

/-- The bits that a letter stands for, for all classes; what is a directory, or may be run, may be
run by all for `X`. -/
def letterBits (isRunnable : Bool) (mode : Nat) (c : Char) : Option Nat :=
  let copied (shift : Nat) : Nat :=
    let bits := mode / Nat.pow 8 shift % 8
    bits * 0o111
  match c with
  | 'r' => some 0o444
  | 'w' => some 0o222
  | 'x' => some 0o111
  | 'X' => some (if isRunnable then 0o111 else 0)
  | 's' => some 0o6000
  | 't' => some 0o1000
  | 'u' => some (copied 2)
  | 'g' => some (copied 1)
  | 'o' => some (copied 0)
  | _ => none

/-- Permissions changed by the operators after some classes; `fuel` bounds them. -/
def changeBy? (isRunnable : Bool) (classes mask : Nat) :
    (fuel : Nat) → List Char → Nat → Option Nat
  | 0, _, _ => none
  | _ + 1, [], mode => some mode
  | fuel + 1, operator :: rest, mode =>
      if operator ≠ '+' ∧ operator ≠ '-' ∧ operator ≠ '=' then none
      else
        let letters := rest.takeWhile fun c => c ≠ '+' ∧ c ≠ '-' ∧ c ≠ '='
        match letters.mapM (letterBits isRunnable mode) with
        | none => none
        | some bits =>
            let bits := (bits.foldl (fun all bits => all ||| bits) 0) &&& classes &&& mask
            let mode :=
              if operator = '+' then mode ||| bits
              else if operator = '-' then mode &&& (0o7777 ^^^ bits)
              else (mode &&& (0o7777 ^^^ (classes &&& mask &&& 0o6777))) ||| bits
            changeBy? isRunnable classes mask fuel (rest.drop letters.length) mode

/-- Permissions changed as a text says, in octal digits or in letters.  Where no class is named,
`mask` holds the bits that may change. -/
def change? (isRunnable : Bool) (mask : Nat) (text : String) (mode : Nat) : Option Nat :=
  let chars := text.toList
  if chars.isEmpty then none
  else if chars.all Char.isDigit then
    if chars.all Text.isOctalDigit && Text.ofDigits 8 chars ≤ 0o7777 then
      some (Text.ofDigits 8 chars)
    else none
  else
    (text.splitOn ",").foldl
      (fun mode? clause =>
        mode?.bind fun mode =>
          let classes := clause.toList.takeWhile fun c => "ugoa".toList.contains c
          let rest := clause.toList.drop classes.length
          if rest.isEmpty then none
          else if classes.isEmpty then
            changeBy? isRunnable 0o7777 mask (rest.length + 1) rest mode
          else
            changeBy? isRunnable (classBits classes) 0o7777 (rest.length + 1) rest mode)
      (some mode)

def octal (mode : Nat) : String := Layout.withZeros 4 (String.ofList (Nat.toDigits 8 mode))

end Modes

end FlagSearch.Sandbox
