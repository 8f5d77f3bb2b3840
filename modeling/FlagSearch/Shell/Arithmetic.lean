import FlagSearch.Shell.State
import FlagSearch.Text.Digits

/-!
# Arithmetic

Expressions on whole numbers of 64 bits, which wrap around.

* `Expression` — expressions.
* `Expression.parse` — the expression that a text writes down.
* `Expression.eval` — what an expression comes to.
-/

namespace FlagSearch.Shell

inductive Operator where
  | times | over | remainder | plus | minus | left | right | less | lessEqual | greater
  | greaterEqual | equal | different | bitAnd | bitXor | bitOr
  deriving DecidableEq

inductive Expression where
  | number (value : Int64)
  | name (name : String)
  | negated (body : Expression)
  | not (body : Expression)
  | flipped (body : Expression)
  | binary (operator : Operator) (first second : Expression)
  | and (first second : Expression)
  | or (first second : Expression)
  | choose (test yes no : Expression)
  | assign (name : String) (operator? : Option Operator) (value : Expression)

inductive SumToken where
  | number (value : Int64)
  | name (name : String)
  | sign (text : String)

namespace Expression

/-! ## Numbers -/

def clamp (value : Int) : Int64 :=
  if value < Int64.minValue.toInt then Int64.minValue
  else if Int64.maxValue.toInt < value then Int64.maxValue
  else Int64.ofInt value

/-- The number at the start of a text, in the base that it shows, and what follows. -/
def readNumber (text : List Char) : Nat × List Char :=
  let digits (base : Nat) (isDigit : Char → Bool) (text : List Char) : Nat × List Char :=
    (Text.ofDigits base (text.takeWhile isDigit), text.dropWhile isDigit)
  match text with
  | '0' :: x :: first :: rest =>
      if (x == 'x' || x == 'X') && Text.isHexDigit first then
        digits 16 Text.isHexDigit (first :: rest)
      else digits 8 Text.isOctalDigit text
  | '0' :: _ => digits 8 Text.isOctalDigit text
  | _ => digits 10 Char.isDigit text

/-- The number that a text is, with blanks around it and a sign; an empty one is zero. -/
def ofText? (text : String) : Option Int64 :=
  let isSpace := Text.classContains "space"
  let text := text.toList.dropWhile isSpace
  let (isNegative, digits) := match text with
    | '-' :: rest => (true, rest)
    | '+' :: rest => (false, rest)
    | rest => (false, rest)
  if text.isEmpty then some 0
  else if !(digits.head?.any Char.isDigit) then none
  else
    let (size, rest) := readNumber digits
    if rest.all isSpace then some (clamp (if isNegative then -(size : Int) else size)) else none

/-! ## Tokens -/

def longSigns : List String :=
  ["<<=", ">>=", "<<", ">>", "<=", ">=", "==", "!=", "&&", "||", "+=", "-=", "*=", "/=", "%=",
    "&=", "|=", "^="]

def tokens : (fuel : Nat) → List Char → List SumToken
  | 0, _ => []
  | _ + 1, [] => []
  | fuel + 1, c :: rest =>
      if c == ' ' || c == '\t' || c == '\n' then tokens fuel rest
      else if c.isDigit then
        let (value, rest) := readNumber (c :: rest)
        .number (clamp value) :: tokens fuel rest
      else if isNameStart c then
        let name := (c :: rest).takeWhile isNameRest
        .name (String.ofList name) :: tokens fuel ((c :: rest).drop name.length)
      else
        match longSigns.find? fun sign => sign.toList.isPrefixOf (c :: rest) with
        | some sign => .sign sign :: tokens fuel ((c :: rest).drop sign.length)
        | none => .sign (String.singleton c) :: tokens fuel rest

/-! ## Parsing -/

/-- The operators with their strength; the ones with the smallest number bind most. -/
def operators : List (String × Operator × Nat) :=
  [("*", .times, 1), ("/", .over, 1), ("%", .remainder, 1), ("+", .plus, 2),
    ("-", .minus, 2), ("<<", .left, 3), (">>", .right, 3), ("<", .less, 4), ("<=", .lessEqual, 4),
    (">", .greater, 4), (">=", .greaterEqual, 4), ("==", .equal, 5), ("!=", .different, 5),
    ("&", .bitAnd, 6), ("^", .bitXor, 7), ("|", .bitOr, 8)]

def strengths : Nat := 9

def assignment? (sign : String) : Option (Option Operator) :=
  if sign = "=" then some none
  else
    let name := String.ofList sign.toList.dropLast
    let isShift := name == "<<" || name == ">>"
    if sign.toList.getLast? == some '=' && (isShift || (name.length == 1 && name ≠ "<" &&
        name ≠ ">" && name ≠ "=" && name ≠ "!")) then
      (operators.lookup name).map fun (operator, _) => some operator
    else none

abbrev Parsing := StateT (List SumToken) (Except String)

def nextSign? : Parsing (Option String) := do
  match ← get with
  | .sign text :: _ => return some text
  | _ => return none

def skip : Parsing Unit := modify fun tokens => tokens.drop 1

def demand (sign : String) : Parsing Unit := do
  if (← nextSign?) == some sign then skip else throw s!"expecting '{sign}'"

mutual

def assignment : (fuel : Nat) → Parsing Expression
  | 0 => throw "expecting primary"
  | fuel + 1 => do
      match ← get with
      | .name target :: .sign sign :: rest =>
          match assignment? sign with
          | some operator? =>
              set rest
              return .assign target operator? (← assignment fuel)
          | none => choice fuel
      | _ => choice fuel

def choice : (fuel : Nat) → Parsing Expression
  | 0 => throw "expecting primary"
  | fuel + 1 => do
      let test ← either fuel
      if (← nextSign?) ≠ some "?" then return test
      skip
      let yes ← assignment fuel
      demand ":"
      return .choose test yes (← choice fuel)

def either : (fuel : Nat) → Parsing Expression
  | 0 => throw "expecting primary"
  | fuel + 1 => do
      let first ← both fuel
      if (← nextSign?) ≠ some "||" then return first
      skip
      return .or first (← either fuel)

def both : (fuel : Nat) → Parsing Expression
  | 0 => throw "expecting primary"
  | fuel + 1 => do
      let first ← combined fuel strengths
      if (← nextSign?) ≠ some "&&" then return first
      skip
      return .and first (← both fuel)

def combined : (fuel : Nat) → (strength : Nat) → Parsing Expression
  | 0, _ => throw "expecting primary"
  | fuel + 1, 0 => primary fuel
  | fuel + 1, strength + 1 => do
      let first ← combined fuel strength
      following fuel strength first

def following :
    (fuel : Nat) → (strength : Nat) → Expression → Parsing Expression
  | 0, _, first => return first
  | fuel + 1, strength, first => do
      match (← nextSign?).bind fun sign => operators.lookup sign with
      | some (operator, level) =>
          if level ≠ strength then return first
          skip
          let second ← combined fuel strength
          following fuel strength (.binary operator first second)
      | none => return first

/-- A number, a name, or an expression in parentheses, with signs before it. -/
def primary : (fuel : Nat) → Parsing Expression
  | 0 => throw "expecting primary"
  | fuel + 1 => do
      match ← get with
      | .number value :: rest =>
          set rest
          return .number value
      | .name target :: rest =>
          set rest
          return .name target
      | .sign "(" :: rest =>
          set rest
          let inner ← assignment fuel
          demand ")"
          return inner
      | .sign "+" :: rest =>
          set rest
          primary fuel
      | .sign "-" :: rest =>
          set rest
          return .negated (← primary fuel)
      | .sign "!" :: rest =>
          set rest
          return .not (← primary fuel)
      | .sign "~" :: rest =>
          set rest
          return .flipped (← primary fuel)
      | _ => throw "expecting primary"

end

def parse (text : String) : Except String Expression := do
  let tokens := tokens (text.length + 1) text.toList
  let (expression, rest) ← (assignment (32 * (tokens.length + 2))).run tokens
  if rest.isEmpty then pure expression else throw "expecting EOF"

/-! ## Values -/

def ofBool (b : Bool) : Int64 := if b then 1 else 0

/-- What an operator makes of two numbers; no number can be divided by zero. -/
def carryOut? (operator : Operator) (a b : Int64) : Option Int64 :=
  match operator with
  | .times => some (a * b)
  | .over => if b = 0 then none else some (a / b)
  | .remainder => if b = 0 then none else some (a % b)
  | .plus => some (a + b)
  | .minus => some (a - b)
  | .left => some (a <<< b)
  | .right => some (a >>> b)
  | .less => some (ofBool (a < b))
  | .lessEqual => some (ofBool (a ≤ b))
  | .greater => some (ofBool (b < a))
  | .greaterEqual => some (ofBool (b ≤ a))
  | .equal => some (ofBool (a == b))
  | .different => some (ofBool (a != b))
  | .bitAnd => some (a &&& b)
  | .bitXor => some (a ^^^ b)
  | .bitOr => some (a ||| b)

def refuse {α : Type} (text reason : String) : Running α :=
  Running.fail s!"arithmetic expression: {reason}: \"{text}\""

def lookup (name : String) : Running Int64 := do
  match ← Running.value? name with
  | none => return 0
  | some text =>
      match ofText? text with
      | some value => return value
      | none => Running.fail s!"Illegal number: {text}"

def store (name : String) (value : Int64) : Running Int64 := do
  Running.assign name (toString value) false
  return value

def eval (text : String) : Expression → Running Int64
  | number value => return value
  | name source => lookup source
  | negated body => return -(← eval text body)
  | not body => return ofBool ((← eval text body) == 0)
  | flipped body => return ~~~(← eval text body)
  | binary operator first second => do
      let a ← eval text first
      let b ← eval text second
      combine operator a b
  | and first second => do
      if (← eval text first) == 0 then return 0
      return ofBool ((← eval text second) != 0)
  | or first second => do
      if (← eval text first) != 0 then return 1
      return ofBool ((← eval text second) != 0)
  | choose test yes no => do
      if (← eval text test) != 0 then eval text yes else eval text no
  | assign target operator? value => do
      let new ← eval text value
      match operator? with
      | none => store target new
      | some operator => store target (← combine operator (← lookup target) new)
where
  combine (operator : Operator) (a b : Int64) : Running Int64 := do
    match carryOut? operator a b with
    | some value => return value
    | none => refuse text "division by zero"

def evalText (text : String) : Running Int64 := do
  match parse text with
  | .ok expression => eval text expression
  | .error reason => refuse text reason

end Expression

end FlagSearch.Shell
