import FlagSearch.Shell.Arithmetic

/-!
# Arguments of commands of the shell

* `Builtins.letters` — the option letters among the arguments, and the other ones.
* `Builtins.number` — an argument that has to be a number.
-/

namespace FlagSearch.Shell.Builtins

open Running

abbrev Letter := Char × Option String

def letterKind? (c : Char) : List Char → Option Bool
  | [] => none
  | allowed :: rest =>
      let takes := rest.head? == some ':'
      if allowed == c && c ≠ ':' then some takes else letterKind? c rest

def lettersOf (allowed : List Char) :
    List Char → List String → Running (List Letter × List String)
  | [], rest => return ([], rest)
  | c :: others, rest => do
      match letterKind? c allowed with
      | none =>
          failMisused s!"Illegal option -{c}"
      | some false =>
          let (letters, rest) ← lettersOf allowed others rest
          return ((c, none) :: letters, rest)
      | some true =>
          match others, rest with
          | [], [] => fail s!"No arg for -{c} option"
          | [], argument :: rest => return ([(c, some argument)], rest)
          | others, rest => return ([(c, some (String.ofList others))], rest)

/-- The letters at the start of the arguments, and the other arguments; `fuel` bounds them. -/
def lettersFrom (allowed : List Char) :
    (fuel : Nat) → List String → Running (List Letter × List String)
  | 0, rest => return ([], rest)
  | _ + 1, [] => return ([], [])
  | fuel + 1, first :: rest => do
      match first.toList with
      | ['-', '-'] => return ([], rest)
      | '-' :: c :: others =>
          let (letters, rest) ← lettersOf allowed (c :: others) rest
          let (more, rest) ← lettersFrom allowed fuel rest
          return (letters ++ more, rest)
      | _ => return ([], first :: rest)

/-- The letters at the start of the arguments, and the other arguments.  A colon after an allowed
letter says that it takes an argument. -/
def letters (allowed : String) (arguments : List String) :
    Running (List Letter × List String) :=
  lettersFrom allowed.toList (arguments.length + 1) arguments

def hasLetter (letters : List Letter) (c : Char) : Bool := letters.any fun letter => letter.1 == c

def largestNumber : Int := 2147483647

def number? (text : String) : Option Int :=
  let isSpace := Text.classContains "space"
  let trimmed := text.toList.dropWhile isSpace
  let digits := if trimmed.head? == some '+' || trimmed.head? == some '-' then trimmed.drop 1
    else trimmed
  let count := (digits.takeWhile Char.isDigit).length
  if count ≠ 0 && (digits.drop count).all isSpace then
    let size : Int := Text.ofDigits 10 (digits.take count)
    some (if trimmed.head? == some '-' then -size else size)
  else none

def number (text : String) : Running Nat := do
  match number? text with
  | some value =>
      if 0 ≤ value ∧ value ≤ largestNumber then return value.toNat
      else fail s!"Illegal number: {text}"
  | none => fail s!"Illegal number: {text}"

/-- The parts of a text in quotes that a shell reads as themselves; `fuel` bounds them. -/
def quotedParts : (fuel : Nat) → List Char → String
  | 0, _ => ""
  | fuel + 1, text =>
      let plain := text.takeWhile (· ≠ '\'')
      let rest := text.drop plain.length
      let quotes := rest.takeWhile (· == '\'')
      let after := rest.drop quotes.length
      "'" ++ String.ofList plain ++ "'"
        ++ (if quotes.isEmpty then "" else "\"" ++ String.ofList quotes ++ "\"")
        ++ (if after.isEmpty then "" else quotedParts fuel after)

def quoted (text : String) : String := quotedParts (text.length + 1) text.toList

end FlagSearch.Shell.Builtins
