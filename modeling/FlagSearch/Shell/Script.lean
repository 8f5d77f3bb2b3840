/-!
# Shell scripts

A `Command` is a command of the shell.  What its words stand for depends on the variables at the
time when they are used, so a word is kept as the `Piece`s that it was written with.

* `Dialect` — the plain shell, and the one with more to say.
* `Piece`, `Use`, `Word` — words as written.
* `Redirect` — where the streams of a command go.
* `Condition`, `Command` — commands.
-/

namespace FlagSearch.Shell

/-- The languages that a script can be written in. -/
inductive Dialect where
  | plain
  | rich
  deriving DecidableEq

/-- How a redirection changes a stream. -/
inductive RedirectMode where
  | read
  | write
  | replace
  | append
  | both
  | duplicate
  deriving DecidableEq

mutual

inductive Piece where
  | text (chars : List Char) (quoted : Bool)
  | mark
  | parameter (name : String) (use : Use) (quoted : Bool)
  | output (command : Command) (quoted : Bool)
  | sum (pieces : List Piece) (quoted : Bool)

/-- What is done with the value of a parameter. -/
inductive Use where
  | value
  | length
  | fallback (empty : Bool) (word : List Piece)
  | replacement (empty : Bool) (word : List Piece)
  | assign (empty : Bool) (word : List Piece)
  | demand (empty : Bool) (word : List Piece)
  | trim (front longest : Bool) (pattern : List Piece)
  | bad

inductive Redirect where
  | file (stream : Nat) (mode : RedirectMode) (target : List Piece)
  | document (stream key : Nat)

inductive Condition where
  | word (word : List Piece)
  | unary (operator : String) (word : List Piece)
  | binary (operator : String) (left right : List Piece)
  | not (condition : Condition)
  | and (left right : Condition)
  | or (left right : Condition)

inductive Command where
  | empty
  | simple (line : Nat) (assignments words : List (List Piece)) (redirects : List Redirect)
  | pipeline (commands : List Command)
  | background (line : Nat) (command : Command)
  | not (command : Command)
  | and (first second : Command)
  | or (first second : Command)
  | sequence (first second : Command)
  | subshell (line : Nat) (body : Command) (redirects : List Redirect)
  | redirected (line : Nat) (body : Command) (redirects : List Redirect)
  | branch (condition yes no : Command)
  | loop (wanted : Bool) (condition body : Command)
  | each (line : Nat) (name : String) (words : List (List Piece)) (body : Command)
  | choice (line : Nat) (subject : List Piece) (arms : List (List (List Piece) × Command))
  | function (line : Nat) (name : String) (body : Command)
  | condition (line : Nat) (condition : Condition)

end

abbrev Word := List Piece

instance : Inhabited Command := ⟨.empty⟩

def Word.plain? : Word → Option String
  | [.text chars false] => some (String.ofList chars)
  | _ => none

def isNameStart (c : Char) : Bool := c.isAlpha || c == '_'

def isNameRest (c : Char) : Bool := c.isAlphanum || c == '_'

def isName (name : String) : Bool :=
  match name.toList with
  | first :: rest => isNameStart first && rest.all isNameRest
  | [] => false

def assignment? (text : List Char) : Option (String × List Char) :=
  let name := String.ofList (text.takeWhile isNameRest)
  if isName name then
    match text.dropWhile isNameRest with
    | '=' :: value => some (name, value)
    | _ => none
  else none

def Word.isAssignment : Word → Bool
  | .text chars false :: _ => (assignment? chars).isSome
  | _ => false

end FlagSearch.Shell
