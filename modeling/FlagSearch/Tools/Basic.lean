import FlagSearch.Sandbox.Program
import FlagSearch.Text.Format

/-!
# Tools

A tool is a program that a script can count on without bringing it along.  A tool collects what it
writes and hands it over in pieces; whenever it has a message, it hands over first.

* `Call`, `Work`, `Tool` — how tools are called, what they do, and tools themselves.
* `Work.put`, `Work.warn`, `Work.complain`, `Work.giveUp` — output and messages.
* `shellQuoted`, `quoted` — names of files in messages.
* `Grammar`, `Work.options` — the options of a tool.
-/

namespace FlagSearch.Tools

open Sandbox

structure Call where
  name : String
  arguments : List String
  environment : List (String × String)

/-- What a tool keeps in mind while it works. -/
structure Desk where
  call : Call
  output : String
  status : Nat
  failure : Nat
  lost? : Option OsError

abbrev Work := ExceptT Nat (StateT Desk Routine)

abbrev Tool := Call → Routine Nat

namespace Work

def lift {α : Type} (routine : Routine α) : Work α := ExceptT.lift (StateT.lift routine)

/-! ## Output and messages -/

def flush : Work Unit := do
  let desk ← get
  if desk.output ≠ "" then
    set { desk with output := "" }
    if let .error e ← lift (Routine.write 1 desk.output) then
      modify fun desk => { desk with lost? := desk.lost? <|> some e }

def roomForOutput : Nat := 4096

def put (text : String) : Work Unit := do
  modify fun desk => { desk with output := desk.output ++ text }
  if roomForOutput ≤ (← get).output.utf8ByteSize then flush

def putLine (line : String) : Work Unit := put (line ++ "\n")

def note (text : String) : Work Unit := do
  flush
  let _ ← lift (Routine.write 2 text)

def warn (text : String) : Work Unit := do
  note s!"{(← get).call.name}: {text}\n"

def complain (text : String) : Work Unit := do
  warn text
  modify fun desk => { desk with status := desk.failure }

def giveUp {α : Type} (text : String) : Work α := do
  warn text
  throw (← get).failure

def pointToHelp {α : Type} : Work α := do
  let desk ← get
  note s!"Try '{desk.call.name} --help' for more information.\n"
  throw desk.failure

def misuse {α : Type} (text : String) : Work α := do
  warn text
  pointToHelp

def fail : Work Unit := modify fun desk => { desk with status := desk.failure }

def setting? (name : String) : Work (Option String) := do
  return (← get).call.environment.lookup name

/-- Do something with the output that is collected, and report what could not be written. -/
def finish (status : Nat) : Work Nat := do
  flush
  match (← get).lost? with
  | none => return status
  | some e =>
      warn s!"write error: {e.reason}"
      return (← get).failure

def tool (failure : Nat) (work : List String → Work Unit) : Tool := fun call => do
  let whole : Work Nat := do
    let status ← ExceptT.mk do
      match ← (work call.arguments).run with
      | .ok () => return .ok (← get).status
      | .error status => return .ok status
    finish status
  match ← whole.run.run ⟨call, "", 0, failure, none⟩ with
  | (.ok status, _) | (.error status, _) => return status

end Work

/-! ## Names in messages -/

def isSpecial (c : Char) : Bool := " !\"$&()*;<=>[^\x60|'?\\".toList.contains c

def isShown (c : Char) : Bool := ' ' ≤ c && c ≤ '~'

def hidden (c : Char) : String :=
  match [('\x07', 'a'), ('\x08', 'b'), ('\x0c', 'f'), ('\n', 'n'), ('\r', 'r'), ('\t', 't'),
      ('\x0b', 'v')].lookup c with
  | some letter => s!"\\{letter}"
  | none => s!"\\{Layout.withZeros 3 (String.ofList (Text.inBase 8 c.toNat))}"

/-- The inside of a text in quotes, with what cannot be shown between quotes of its own. -/
def quotedInside : (isHidden : Bool) → List Char → String
  | _, [] => ""
  | isHidden, c :: rest =>
      if isShown c then
        (if isHidden then "''" else "") ++ (if c = '\'' then "'\\''" else c.toString)
          ++ quotedInside false rest
      else (if isHidden then "" else "'$'") ++ hidden c ++ quotedInside true rest

def isPlainWithQuote (text : List Char) : Bool :=
  text.contains '\'' && text.all fun c =>
    isShown c && (c == '\'' || c == ' ' || !(isSpecial c || c == '#' || c == '~'))

def quoted (text : String) : String :=
  if isPlainWithQuote text.toList then "\"" ++ text ++ "\""
  else "'" ++ quotedInside false text.toList ++ "'"

def shellQuoted (text : String) : String :=
  let chars := text.toList
  let isPlain := chars.all fun c => isShown c && !isSpecial c
  let startsPlain := match chars with
    | '#' :: _ | '~' :: _ => false
    | ['\x7b'] | ['\x7d'] => false
    | [] => false
    | _ => true
  if isPlain && startsPlain then text else quoted text

def aboutFile (path : String) (e : OsError) : String := s!"{shellQuoted path}: {e.reason}"

/-! ## Options -/

structure Grammar where
  letters : String := ""
  words : List (String × String) := []
  isMixed : Bool := true

/-- What an option wants to have with it. -/
inductive Wish where
  | nothing
  | value
  | perhaps
  deriving DecidableEq

def Grammar.letter? (c : Char) : List Char → Option Wish
  | [] => none
  | allowed :: rest =>
      if allowed = c ∧ c ≠ ':' then
        match rest with
        | ':' :: ':' :: _ => some .perhaps
        | ':' :: _ => some .value
        | _ => some .nothing
      else letter? c rest

def Grammar.wishOf (word : String) : String × Wish :=
  match word.toList.reverse with
  | '?' :: '=' :: rest => (String.ofList rest.reverse, .perhaps)
  | '=' :: rest => (String.ofList rest.reverse, .value)
  | _ => (word, .nothing)

abbrev Choice := String × Option String

namespace Work

def letterOptions (grammar : Grammar) :
    List Char → List String → Work (List Choice × List String)
  | [], rest => return ([], rest)
  | c :: others, rest => do
      match Grammar.letter? c grammar.letters.toList with
      | none => misuse s!"invalid option -- '{c}'"
      | some .nothing =>
          let (choices, rest) ← letterOptions grammar others rest
          return ((c.toString, none) :: choices, rest)
      | some .perhaps =>
          return ([(c.toString, if others.isEmpty then none else some (String.ofList others))],
            rest)
      | some .value =>
          match others, rest with
          | [], [] => misuse s!"option requires an argument -- '{c}'"
          | [], value :: rest => return ([(c.toString, some value)], rest)
          | others, rest => return ([(c.toString, some (String.ofList others))], rest)

def wordOption (grammar : Grammar) (text : String) (rest : List String) :
    Work (Choice × List String) := do
  let name := (text.toList.takeWhile (· ≠ '=')).drop 2
  let given? :=
    let after := text.toList.dropWhile (· ≠ '=')
    if after.isEmpty then none else some (String.ofList (after.drop 1))
  let words := grammar.words.map fun (word, key) => (Grammar.wishOf word, key)
  let exact := words.filter fun ((word, _), _) => word.toList == name
  let close := words.filter fun ((word, _), _) => name.isPrefixOf word.toList
  match if exact.isEmpty then close else exact with
  | [] => misuse s!"unrecognized option '--{String.ofList name}'"
  | ((word, wish), key) :: others =>
      if others.any fun (_, other) => other ≠ key then
        let all := close.map fun ((word, _), _) => s!" '--{word}'"
        misuse s!"option '--{String.ofList name}' is ambiguous; possibilities:{String.join all}"
      match wish, given?, rest with
      | .nothing, some _, _ => misuse s!"option '--{word}' doesn't allow an argument"
      | .value, none, [] => misuse s!"option '--{word}' requires an argument"
      | .value, none, value :: rest => return ((key, some value), rest)
      | _, given?, rest => return ((key, given?), rest)

/-- The options among the arguments, and the other arguments; `fuel` bounds the arguments. -/
def optionsFrom (grammar : Grammar) :
    (fuel : Nat) → List String → Work (List Choice × List String)
  | 0, rest => return ([], rest)
  | _ + 1, [] => return ([], [])
  | fuel + 1, first :: rest => do
      match first.toList with
      | ['-', '-'] => return ([], rest)
      | '-' :: '-' :: _ =>
          let (choice, rest) ← wordOption grammar first rest
          let (choices, rest) ← optionsFrom grammar fuel rest
          return (choice :: choices, rest)
      | '-' :: c :: others =>
          let (choices, rest) ← letterOptions grammar (c :: others) rest
          let (more, rest) ← optionsFrom grammar fuel rest
          return (choices ++ more, rest)
      | _ =>
          if grammar.isMixed then
            let (choices, rest) ← optionsFrom grammar fuel rest
            return (choices, first :: rest)
          else return ([], first :: rest)

def options (grammar : Grammar) (arguments : List String) :
    Work (List Choice × List String) :=
  optionsFrom grammar (arguments.length + 1) arguments

end Work

def has (choices : List Choice) (key : String) : Bool := choices.any fun choice => choice.1 == key

def valueOf? (choices : List Choice) (key : String) : Option String :=
  (choices.reverse.find? fun choice => choice.1 == key).bind Prod.snd

def lastOf? (choices : List Choice) (keys : List String) : Option String :=
  (choices.reverse.find? fun choice => keys.contains choice.1).map Prod.fst

namespace Work

def demandOperand (operands : List String) : Work Unit := do
  if operands.isEmpty then misuse "missing operand"

/-! ## Files -/

/-- Why the bytes of a file are not to be had. -/
inductive Trouble where
  | opening (e : OsError)
  | reading (e : OsError)

/-- Everything in the file at a path; a dash stands for what the tool reads. -/
def contents (path : String) : Work (Except Trouble String) := do
  if path = "-" then return (← lift (Routine.readAll 0)).mapError .reading
  match ← lift (Routine.openFile path .read) with
  | .error e => return .error (.opening e)
  | .ok stream =>
      let text ← lift (Routine.readAll stream)
      lift (Routine.close stream)
      return text.mapError .reading

/-- Everything in a file that is there to be read; otherwise the tool complains. -/
def contents? (path : String) : Work (Option String) := do
  match ← contents path with
  | .ok text => return some text
  | .error (.opening e) | .error (.reading e) =>
      complain (aboutFile path e)
      return none

def orDash (operands : List String) : List String := if operands.isEmpty then ["-"] else operands

end Work

/-- The lines of a text, without their ends, and whether the last one has an end. -/
def linesOf (text : String) : List String × Bool :=
  let pieces := (Text.pieces '\n' text.toList).map String.ofList
  if text.isEmpty then ([], true)
  else if pieces.getLast? == some "" then (pieces.dropLast, true)
  else (pieces, false)

def wholeLines (text : String) : List String :=
  let (lines, isEnded) := linesOf text
  if isEnded then lines.map (· ++ "\n")
  else lines.dropLast.map (· ++ "\n") ++ lines.drop (lines.length - 1)

end FlagSearch.Tools
