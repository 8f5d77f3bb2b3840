import FlagSearch.Shell.Builtins.Basic
import FlagSearch.Sandbox.Question
import FlagSearch.Text.Format

/-!
# Commands that write, and questions

* `Builtins.echo`, `Builtins.printf` — write arguments.
* `Builtins.test` — answer a question.
-/

namespace FlagSearch.Shell.Builtins

open Running Sandbox

/-! ## Echo -/

/-- Write texts with blanks between them, and the end of a line unless they say that all output
ends. -/
def putEscaped (isEscaped : Bool) (style : Format.EscapeStyle) (finish : String) :
    List String → Running Unit
  | [] => put finish
  | [text] => do
      let (text, stops) := if isEscaped then Format.escaped style text else (text, false)
      put (if stops then text else text ++ finish)
  | text :: rest => do
      let (text, stops) := if isEscaped then Format.escaped style text else (text, false)
      if stops then put text
      else
        put (text ++ " ")
        putEscaped isEscaped style finish rest

def echoLetters : List String → List Char × List String
  | [] => ([], [])
  | first :: rest =>
      match first.toList with
      | '-' :: c :: others =>
          if (c :: others).all fun c => c == 'n' || c == 'e' || c == 'E' then
            let (letters, texts) := echoLetters rest
            (c :: others ++ letters, texts)
          else ([], first :: rest)
      | _ => ([], first :: rest)

def echo (arguments : List String) : Running Nat := do
  if ← isRich then
    let (letters, texts) := echoLetters arguments
    let isEscaped := (letters.reverse.find? fun c => c == 'e' || c == 'E') == some 'e'
    putEscaped isEscaped .richArgument (if letters.contains 'n' then "" else "\n") texts
  else
    match arguments with
    | "-n" :: texts => putEscaped true .argument "" texts
    | texts => putEscaped true .argument "\n" texts
  return 0

/-! ## Formats -/

def warnOf (complaint : Format.Complaint) : Running Unit := do
  match complaint with
  | .notNumeric text => warn s!"{text}: expected numeric value"
  | .notComplete text => warn s!"{text}: not completely converted"
  | .outOfRange text => warn s!"{text}: Numerical result out of range"

def printf (arguments : List String) : Running Nat := do
  let (_, rest) ← letters "" arguments
  match rest with
  | [] => fail "usage: printf format [arg ...]"
  | format :: arguments =>
      let printed := Format.print (← isRich) format arguments
      printed.complaints.forM warnOf
      put printed.output
      match printed.refusal? with
      | some (.badDirective source) => fail s!"{source}: invalid directive"
      | some (.noLetter _) => fail "missing format character"
      | none => return if printed.complaints.isEmpty then 0 else 1

/-! ## Questions -/

/-- Answer the question that the arguments ask; `needsBracket` says whether a bracket ends it. -/
def test (needsBracket : Bool) (arguments : List String) : Running Nat := do
  let style : Question.Style := if ← isRich then .rich else .plain
  if needsBracket && arguments.getLast? ≠ some "]" then
    failMisused "missing ]"
  let given := if needsBracket then arguments.dropLast else arguments
  match ← lift (Question.ask style given) with
  | .ok answer => return if answer then 0 else 1
  | .error reason => failMisused reason

end FlagSearch.Shell.Builtins
