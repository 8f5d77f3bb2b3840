import FlagSearch.Shell.Builtins.Variables

/-!
# Options and arguments

* `Builtins.options` — the options at the start of some arguments.
* `Builtins.set`, `Builtins.shift` — options and arguments of the script.
* `Builtins.getopts` — the next letter among some arguments.
-/

namespace FlagSearch.Shell.Builtins

open Running

/-! ## Options -/

def optionNames : List (String × Option Char) :=
  [("errexit", some 'e'), ("noglob", some 'f'), ("ignoreeof", some 'I'), ("interactive", some 'i'),
    ("monitor", some 'm'), ("noexec", some 'n'), ("stdin", some 's'), ("xtrace", some 'x'),
    ("verbose", some 'v'), ("vi", some 'V'), ("emacs", some 'E'), ("noclobber", some 'C'),
    ("allexport", some 'a'), ("notify", some 'b'), ("nounset", some 'u'), ("nolog", none),
    ("debug", none)]

def allNames (dialect : Dialect) : List (String × Option Char) :=
  if dialect == .rich then ("pipefail", none) :: optionNames else optionNames

def turn (name : String) (isOn : Bool) : Running Unit :=
  modify fun shell =>
    let others := shell.options.filter (· ≠ name)
    { shell with options := if isOn then name :: others else others }

def turnLetter (c : Char) (isOn : Bool) : Running Unit := do
  match (allNames (← get).dialect).find? fun item => item.2 == some c with
  | some (name, _) => turn name isOn
  | none => fail s!"Illegal option -{c}"

def turnNamed (name : String) (isOn : Bool) : Running Unit := do
  if ((allNames (← get).dialect).lookup name).isSome then turn name isOn
  else fail s!"Illegal option -o {name}"

/-- What options at the start of a command line say. -/
structure Given where
  rest : List String
  replaces : Bool
  isCommand : Bool

def takeLetters (isOn isStart : Bool) :
    List Char → Given → Running Given
  | [], given => return given
  | c :: letters, given => do
      if c == 'c' && isStart then takeLetters isOn isStart letters { given with isCommand := true }
      else if c == 'o' then
        match given.rest with
        | name :: rest =>
            turnNamed name isOn
            takeLetters isOn isStart letters { given with rest }
        | [] => takeLetters isOn isStart letters given
      else if isStart && (c == 'l' || c == 'i' || c == 's') then
        if c == 's' then turn "stdin" true
        takeLetters isOn isStart letters given
      else
        turnLetter c isOn
        takeLetters isOn isStart letters given

/-- Take the options at the start of some arguments; `isStart` says that a shell starts with them,
and `fuel` bounds them. -/
def options (isStart : Bool) : (fuel : Nat) → Given → Running Given
  | 0, given => return given
  | fuel + 1, given => do
      match given.rest with
      | [] => return given
      | first :: rest =>
          let given' := { given with rest }
          match first.toList with
          | ['-'] =>
              if !isStart then
                turn "xtrace" false
                turn "verbose" false
              return given'
          | ['-', '-'] => return { given' with replaces := true }
          | '-' :: letters => options isStart fuel (← takeLetters true isStart letters given')
          | '+' :: letters => options isStart fuel (← takeLetters false isStart letters given')
          | _ => return given

/-! ## Arguments -/

def setArguments (arguments : List String) : Running Unit :=
  modify fun shell => { shell with arguments, letterPlace := (1, none) }

def set (arguments : List String) : Running Nat := do
  if arguments.isEmpty then showVariables "" fun binding => binding.value?.isSome
  else
    let given ← options false (arguments.length + 1) ⟨arguments, false, false⟩
    if given.replaces || !given.rest.isEmpty then setArguments given.rest
  return 0

def shift (arguments : List String) : Running Nat := do
  let count ← match arguments with
    | [] => pure 1
    | first :: _ => number first
  let old := (← get).arguments
  if old.length < count then fail "can't shift that many"
  setArguments (old.drop count)
  return 0

/-! ## Letters among arguments -/

/-- The letter that comes next among some arguments. -/
structure NextLetter where
  letter : Char
  index : Nat
  taken? : Option Nat
  isOver : Bool

def nextLetter (allowed : List Char) (given : List String) (index : Nat) (taken? : Option Nat) :
    Running NextLetter := do
  let isQuiet := allowed.head? == some ':'
  let word (number : Nat) : Option (List Char) :=
    if number = 0 then none else (given[number - 1]?).map String.toList
  let current : List Char := match taken? with
    | some taken => if 1 < index then ((word (index - 1)).getD []).drop taken else []
    | none => []
  let start? : Option (List Char × Nat × Nat) :=
    if !current.isEmpty then some (current, index, taken?.getD 0)
    else
      match word index with
      | some ('-' :: c :: rest) =>
          if c == '-' && rest.isEmpty then none else some (c :: rest, index + 1, 1)
      | _ => none
  let atEnd : NextLetter :=
    ⟨'?', if (word index) == some ['-', '-'] && current.isEmpty then index + 1 else index,
      none, true⟩
  match start? with
  | none => return atEnd
  | some ([], _, _) => return atEnd
  | some (c :: rest, index, taken) =>
      let next : NextLetter :=
        ⟨c, index, if rest.isEmpty then none else some (taken + 1), false⟩
      match letterKind? c (if isQuiet then allowed.drop 1 else allowed) with
      | none =>
          if isQuiet then assign "OPTARG" (String.singleton c) false
          else
            writeTo 2 s!"Illegal option -{c}\n"
            Running.unset "OPTARG"
          return { next with letter := '?' }
      | some false =>
          assign "OPTARG" "" false
          return next
      | some true =>
          if !rest.isEmpty then
            assign "OPTARG" (String.ofList rest) false
            return { next with taken? := none }
          else
            match word index with
            | some argument =>
                assign "OPTARG" (String.ofList argument) false
                return { next with index := index + 1, taken? := none }
            | none =>
                if isQuiet then
                  assign "OPTARG" (String.singleton c) false
                  return { next with letter := ':' }
                else
                  writeTo 2 s!"No arg for -{c} option\n"
                  Running.unset "OPTARG"
                  return { next with letter := '?' }

def getopts (arguments : List String) : Running Nat := do
  match arguments with
  | allowed :: name :: rest =>
      let shell ← get
      let given := if rest.isEmpty then shell.arguments else rest
      let (index, taken?) := shell.letterPlace
      let next ← nextLetter allowed.toList given index taken?
      assign "OPTIND" (toString next.index) false
      demandName name
      assign name (String.singleton next.letter) false
      modify fun shell => { shell with letterPlace := (next.index, next.taken?) }
      return if next.isOver then 1 else 0
  | _ => fail "Usage: getopts optstring var [arg]"

end FlagSearch.Shell.Builtins
