import FlagSearch.Sandbox.Program
import FlagSearch.Text.Digits

/-!
# Questions

The questions that `test` answers, about texts, numbers and files.

* `Question.Style` — the words in which mistakes are reported, and the signs that are known.
* `Question.ask` — the answer to the question that some arguments ask.
-/

namespace FlagSearch.Sandbox

namespace Question

/-- Which language the questions are asked in. -/
inductive Style where
  | plain
  | rich
  deriving DecidableEq

inductive Kind where
  | unary
  | binary
  | not
  | and
  | or
  | opening
  | closing
  | operand
  | finish
  deriving DecidableEq

def unarySigns : List String :=
  ["-r", "-w", "-x", "-e", "-f", "-d", "-c", "-b", "-p", "-u", "-g", "-k", "-s", "-t", "-z", "-n",
    "-h", "-L", "-O", "-G", "-S"]

def binarySigns (style : Style) : List String :=
  ["=", "!=", "<", ">", "-eq", "-ne", "-ge", "-gt", "-le", "-lt", "-nt", "-ot", "-ef"]
    ++ if style = .rich then ["=="] else []

def sign? (style : Style) (word : String) : Option Kind :=
  if unarySigns.contains word then some .unary
  else if (binarySigns style).contains word then some .binary
  else [("!", Kind.not), ("-a", .and), ("-o", .or), ("(", .opening), (")", .closing)].lookup word

def kind (style : Style) (words : List String) : Kind :=
  match words with
  | [] => .finish
  | word :: rest =>
      match sign? style word with
      | some .unary =>
          let isOperand : Bool := match rest with
            | [] => true
            | [_] => false
            | next :: _ => sign? style next == some .binary
          if isOperand then .operand else .unary
      | some .opening => if rest.isEmpty then .operand else .opening
      | some kind => kind
      | none => .operand

abbrev Asking := StateT (List String) (ExceptT String Routine)

def lift {α : Type} (routine : Routine α) : Asking α := StateT.lift (ExceptT.lift routine)

def words : Asking (List String) := get

def skip : Asking Unit := modify fun words => words.drop 1

/-! ## Answers -/

def number (style : Style) (word : String) : Asking Int := do
  let isBlank (c : Char) : Bool := c == ' ' || (0x09 ≤ c.toNat && c.toNat ≤ 0x0d)
  let text := word.toList.dropWhile isBlank
  let (isNegative, digits) := match text with
    | '-' :: rest => (true, rest)
    | '+' :: rest => (false, rest)
    | rest => (false, rest)
  let size := digits.takeWhile Char.isDigit
  let value : Int := Text.ofDigits 10 size
  let value := if isNegative then -value else value
  let isWhole := !size.isEmpty && (digits.drop size.length).all isBlank
  let isSmall := Int64.minValue.toInt ≤ value ∧ value ≤ Int64.maxValue.toInt
  if isWhole && isSmall then return value
  else if style = .plain then throw s!"Illegal number: {word}"
  else throw s!"{word}: integer expression expected"

def facts? (path : String) (follow : Bool) : Asking (Option System.Facts) := do
  return (← lift (Routine.facts path follow)).toOption

def one (style : Style) (sign word : String) : Asking Bool := do
  let about (follow : Bool) (holds : System.Facts → Bool) : Asking Bool := do
    return (← facts? word follow).any holds
  match sign with
  | "-z" => return word == ""
  | "-n" => return word != ""
  | "-t" =>
      let _ ← number style word
      return false
  | "-h" | "-L" =>
      about false fun facts => match facts.content with
        | .link _ => true
        | _ => false
  | "-e" | "-r" | "-w" | "-O" | "-G" => about true fun _ => true
  | "-x" =>
      about true fun facts => match facts.content with
        | .directory _ _ => true
        | _ => facts.mode &&& 0o111 != 0
  | "-f" =>
      about true fun facts => match facts.content with
        | .bytes _ | .tool _ => true
        | _ => false
  | "-d" =>
      about true fun facts => match facts.content with
        | .directory _ _ => true
        | _ => false
  | "-c" =>
      about true fun facts => match facts.content with
        | .device _ => true
        | _ => false
  | "-p" =>
      about true fun facts => match facts.content with
        | .fifo _ => true
        | _ => false
  | "-s" => about true fun facts => facts.size ≠ 0
  | "-u" => about true fun facts => facts.mode &&& 0o4000 != 0
  | "-g" => about true fun facts => facts.mode &&& 0o2000 != 0
  | "-k" => about true fun facts => facts.mode &&& 0o1000 != 0
  | _ => return false

def two (style : Style) (sign first second : String) : Asking Bool := do
  let compare (holds : Int → Int → Bool) : Asking Bool := do
    let a ← number style first
    let b ← number style second
    return holds a b
  match sign with
  | "=" | "==" => return first == second
  | "!=" => return first != second
  | "<" => return decide (first < second)
  | ">" => return decide (second < first)
  | "-eq" => compare fun a b => a == b
  | "-ne" => compare fun a b => a != b
  | "-ge" => compare fun a b => b ≤ a
  | "-gt" => compare fun a b => b < a
  | "-le" => compare fun a b => a ≤ b
  | "-lt" => compare fun a b => a < b
  | _ =>
      let a? ← facts? first true
      let b? ← facts? second true
      match sign, a?, b? with
      | "-nt", some a, some b => return decide (b.modified < a.modified)
      | "-ot", some a, some b => return decide (a.modified < b.modified)
      | "-ef", some a, some b => return a.id == b.id
      | "-nt", some _, none => return style = .rich
      | "-ot", none, some _ => return style = .rich
      | _, _, _ => return false

mutual

def any (style : Style) : (fuel : Nat) → Asking Bool
  | 0 => return false
  | fuel + 1 => do
      let first ← all style fuel
      let rest := (← words).drop 1
      if kind style rest = .or then
        set (rest.drop 1)
        let others ← any style fuel
        return first || others
      else return first

def all (style : Style) : (fuel : Nat) → Asking Bool
  | 0 => return false
  | fuel + 1 => do
      let first ← negated style fuel
      let rest := (← words).drop 1
      if kind style rest = .and then
        set (rest.drop 1)
        let others ← all style fuel
        return first && others
      else return first

def negated (style : Style) : (fuel : Nat) → Asking Bool
  | 0 => return false
  | fuel + 1 => do
      let here ← words
      if kind style here = .not then
        if kind style (here.drop 1) ≠ .finish then skip
        return !(← (if here.length ≤ 1 then pure false else negated style fuel))
      else primary style fuel

def primary (style : Style) : (fuel : Nat) → Asking Bool
  | 0 => return false
  | fuel + 1 => do
      let here ← words
      match kind style here, here with
      | .finish, _ => return false
      | .opening, _ :: rest => do
          set rest
          if kind style rest = .closing then return false
          let answer ← any style fuel
          skip
          if kind style (← words) = .closing then return answer
          else throw "closing paren expected"
      | .unary, sign :: rest => do
          set rest
          match rest with
          | word :: _ => one style sign word
          | [] => throw s!"{sign}: argument expected"
      | _, first :: sign :: rest =>
          if kind style (sign :: rest) = .binary then
            match rest with
            | second :: _ => do
                set rest
                two style sign first second
            | [] => throw s!"{sign}: argument expected"
          else return first ≠ ""
      | _, [word] => return word ≠ ""
      | _, [] => return false

end

def whole (style : Style) (isBinary : Bool) (given : List String) : Asking Bool := do
  set given
  let answer ←
    match isBinary, given with
    | true, [first, sign, second] => do
        set [second]
        two style sign first second
    | _, _ => any style (4 * given.length + 4)
  match ← words, style with
  | "" :: _ :: _, .plain => throw "unexpected operator"
  | last :: _ :: _, .plain => throw s!"{last}: unexpected operator"
  | _ :: _ :: _, .rich => throw "too many arguments"
  | _, _ => return answer

def refusal? (style : Style) (given : List String) : Option String :=
  let isSign (word : String) (kind : Kind) : Bool := sign? style word == some kind
  match style, given with
  | .rich, [first, _] =>
      if isSign first .unary || first == "!" then none
      else some s!"{first}: unary operator expected"
  | .rich, [first, sign, last] =>
      if isSign sign .binary || isSign sign .and || isSign sign .or || first == "!"
          || (first == "(" && last == ")") then none
      else some s!"{sign}: binary operator expected"
  | _, _ => none

/-- The answer to the question that some words ask, and whether it is to be turned around; the
questions that few words ask are settled by their number.  `fuel` bounds the words. -/
def answer (style : Style) : (fuel : Nat) → (isTurned : Bool) → List String → Asking Bool
  | 0, _, _ => return false
  | fuel + 1, isTurned, given => do
      if let some reason := refusal? style given then throw reason
      let settle (isBinary : Bool) (given : List String) : Asking Bool := do
        return (← whole style isBinary given) != isTurned
      match given with
      | [] => return false
      | [first, sign, last] =>
          if sign? style sign = some .binary then settle true given
          else if first = "(" ∧ last = ")" then settle false [sign]
          else if first = "!" then answer style fuel true [sign, last]
          else settle false given
      | [first, second, third, last] =>
          if first = "(" ∧ last = ")" then settle false [second, third]
          else if first = "!" then answer style fuel true [second, third, last]
          else settle false given
      | given => settle false given

/-- The answer to the question that some arguments ask, or what is wrong with them. -/
def ask (style : Style) (given : List String) : Routine (Except String Bool) := do
  let result ← ((answer style (given.length + 1) false given).run given).run
  return result.map Prod.fst

end Question

end FlagSearch.Sandbox
