import FlagSearch.Sandbox.Question
import FlagSearch.Tools.Children

/-!
# Tools that tell something

* `Tools.succeed`, `Tools.failing` — tools that only end.
* `Tools.echo`, `Tools.printf` — their arguments.
* `Tools.test` — the answer to a question.
-/

namespace FlagSearch.Tools

open Sandbox Work

def succeed : Tool := tool 1 fun _ => return

def failing : Tool := tool 1 fun _ => throw 1

/-! ## Arguments -/

def echo : Tool := tool 1 fun arguments => do
  let isFlag (text : String) : Bool :=
    match text.toList with
    | '-' :: c :: rest => (c :: rest).all "neE".toList.contains
    | _ => false
  let flags := arguments.takeWhile isFlag
  let letters := flags.flatMap String.toList
  let escapes := (letters.reverse.find? fun c => c == 'e' || c == 'E') == some 'e'
  let text := String.intercalate " " (arguments.drop flags.length)
  let (text, stops) := if escapes then Format.escaped .richArgument text else (text, false)
  put (text ++ if stops || letters.contains 'n' then "" else "\n")

def printf : Tool := tool 1 fun arguments => do
  let arguments := if arguments.head? == some "--" then arguments.drop 1 else arguments
  match arguments with
  | [] => misuse "missing operand"
  | format :: arguments =>
      let printed := Format.print true format arguments
      put printed.output
      for complaint in printed.complaints do
        match complaint with
        | .notNumeric text => complain s!"{quoted text}: expected a numeric value"
        | .notComplete text => complain s!"{quoted text}: value not completely converted"
        | .outOfRange text => complain s!"{quoted text}: Numerical result out of range"
      match printed.refusal? with
      | some (.badDirective source) =>
          giveUp s!"{source}: invalid conversion specification"
      | some (.noLetter source) => giveUp s!"{source}: invalid conversion specification"
      | none => pure ()

/-! ## Questions -/

def testAs (needsBracket : Bool) : Tool := tool 2 fun arguments => do
  if needsBracket && arguments.getLast? ≠ some "]" then giveUp "missing ']'"
  let given := if needsBracket then arguments.dropLast else arguments
  match ← lift (Question.ask .rich given) with
  | .ok true => return
  | .ok false => throw 1
  | .error text => giveUp text

end FlagSearch.Tools
