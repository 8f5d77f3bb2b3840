/-!
# Options and values

A command takes named options with one value each, and values that go by their position.  Options
may stand anywhere; the value follows as the next argument or after an equals sign.  An argument
`--` ends the options.

Arguments are taken from left to right, so a request for help is answered only if everything before
it makes sense.

* `OptionRule` — what an option is called and what its value does.
* `CommandRule` — the options of a command, and what its values do.
* `CommandRule.read` — the arguments of a command.
-/

namespace FlagSearch.CommandLine

/-- Why arguments are not carried out. -/
inductive Refusal where
  | help
  | usage
  deriving DecidableEq

/-- An option of a command whose arguments are collected in an `α`. -/
structure OptionRule (α : Type) where
  name : String
  /-- May it be given more than once?  Then its value may also start with a dash. -/
  repeats : Bool
  take : String → α → Option α

structure CommandRule (α : Type) where
  options : List (OptionRule α)
  /-- Take one more value, if it is one and there is room for it. -/
  take : String → α → Option α

def helpName : String := "help"

def isDashed (argument : String) : Bool :=
  argument.toList.head? == some '-' && argument != "-"

def splitOption (text : List Char) : String × Option String :=
  let name := text.takeWhile (· ≠ '=')
  match text.drop name.length with
  | _ :: value => (String.ofList name, some (String.ofList value))
  | [] => (String.ofList name, none)

inductive Argument where
  | ending
  | named (name : String) (value : Option String)
  | letters (text : List Char)
  | value (text : String)
  deriving DecidableEq

def Argument.ofText (text : String) : Argument :=
  match text.toList with
  | ['-', '-'] => ending
  | '-' :: '-' :: rest =>
      let (name, given) := splitOption rest
      named name given
  | '-' :: c :: rest => letters (c :: rest)
  | _ => value text

/-- An answer, where no answer makes no sense. -/
def sensible {α : Type} : Option α → Except Refusal α
  | some a => .ok a
  | none => .error .usage

def CommandRule.takeAll {α : Type} (rule : CommandRule α) (values : List String) (start : α) :
    Except Refusal α :=
  sensible (values.foldlM (fun collected value => rule.take value collected) start)

/-- Read arguments; `seen` are the options that were given already. -/
def CommandRule.readFrom {α : Type} (rule : CommandRule α) :
    (seen : List String) → α → List String → Except Refusal α
  | _, collected, [] => .ok collected
  | seen, collected, argument :: rest =>
      match Argument.ofText argument with
      | .ending => rule.takeAll rest collected
      | .value text => do
          let collected ← sensible (rule.take text collected)
          rule.readFrom seen collected rest
      | .letters text => .error (if text.head? = some 'h' then .help else .usage)
      | .named name value =>
          if name = helpName then .error (if value.isNone then .help else .usage)
          else
            match rule.options.find? fun option => option.name = name with
            | none => .error .usage
            | some option =>
                if !option.repeats ∧ seen.contains name then .error .usage
                else
                  match value, rest with
                  | some value, rest => do
                      let collected ← sensible (option.take value collected)
                      rule.readFrom (name :: seen) collected rest
                  | none, value :: rest =>
                      -- An option cannot be taken for the value of another one.
                      if isDashed value ∧ !option.repeats then .error .usage
                      else do
                        let collected ← sensible (option.take value collected)
                        rule.readFrom (name :: seen) collected rest
                  | none, [] => .error .usage

def CommandRule.read {α : Type} (rule : CommandRule α) (start : α) (arguments : List String) :
    Except Refusal α :=
  rule.readFrom [] start arguments

end FlagSearch.CommandLine
