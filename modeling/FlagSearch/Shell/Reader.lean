import FlagSearch.Shell.Words

/-!
# Reading commands

How tokens make commands.  A script is read one command line at a time, so that what comes before
a mistake is carried out.

* `Reader.token` — the next token, words of the language included.
* `Reader.command`, `Reader.list` — commands, and lists of them.
* `Source.next?` — the next command line of a source.
-/

namespace FlagSearch.Shell

/-! ## Tokens -/

namespace Token

def description : Token → String
  | finish => "end of file"
  | newline => "newline"
  | sign text | keyword text => s!"\"{text}\""
  | redirect _ _ => "redirection"
  | word _ _ => "word"
  | condition _ => "\"[[\""

def isSign (token : Token) (text : String) : Bool :=
  match token with
  | sign other => other == text
  | _ => false

def isKeyword (token : Token) (text : String) : Bool :=
  match token with
  | keyword other => other == text
  | _ => false

def endsList : Token → Bool
  | finish => true
  | sign text => text == ")" || text == ";;"
  | keyword text =>
      ["do", "done", "elif", "else", "esac", "fi", "then", "\x7d"].contains text
  | _ => false

end Token

namespace Reader

open Source

/-- What can be made of a token. -/
structure Wanted where
  newlines : Bool := false
  keywords : Bool := false

def Wanted.start : Wanted := { keywords := true }

/-- What can be made of the first word of a command that may start on another line. -/
def Wanted.later : Wanted := { newlines := true, keywords := true }

def keywords (dialect : Dialect) : List String :=
  ["!", "case", "do", "done", "elif", "else", "esac", "fi", "for", "if", "in", "then", "until",
    "while", "\x7b", "\x7d"] ++ if dialect == .rich then ["function"] else []

def unexpected {α : Type} (token : Token) : Reading α :=
  fail s!"{token.description} unexpected"

def expecting {α : Type} (token wanted : Token) : Reading α :=
  fail s!"{token.description} unexpected (expecting {wanted.description})"

def push (token : Token) : Reading Unit :=
  modify fun source => { source with pushed? := some token }

/-! ## Texts that commands read -/

def isContinued (line : List Char) : Bool :=
  (line.reverse.takeWhile (· == '\\')).length % 2 == 1

def documentLines (text : Pending) : (fuel : Nat) → (isJoined : Bool) → Reading (List Char)
  | 0, _ => return []
  | fuel + 1, isJoined => do
      let source ← get
      if source.rest.isEmpty then return []
      let line := source.rest.takeWhile (· ≠ '\n')
      let rest := source.rest.drop (line.length + 1)
      let hasEnd := line.length < source.rest.length
      set { source with rest, line := source.line + 1 }
      let line := if text.dropsTabs && !isJoined then line.dropWhile (· == '\t') else line
      if line = text.finish && !isJoined then return []
      let others ← documentLines text fuel (!text.isLiteral && isContinued line)
      return line ++ (if hasEnd then ['\n'] else []) ++ others

def documentWord (inner : Words.Inner) (text : Pending) (chars : List Char) : Reading Word := do
  if text.isLiteral then return [.text chars true]
  let saved ← get
  set { saved with rest := chars, pushed? := none, pending := [] }
  let fuel := 8 * (chars.length + 1)
  let draft ← Words.pieces inner fuel .document false 0 {}
  modify fun source =>
    { saved with documents := source.documents, nextKey := source.nextKey }
  return draft.word

def readDocuments (inner : Words.Inner) : Reading Unit := do
  let pending := (← get).pending
  modify fun source => { source with pending := [] }
  for text in pending do
    let chars ← documentLines text (← size) false
    let word ← documentWord inner text chars
    modify fun source => { source with documents := (text.key, word) :: source.documents }

def documentMark : (fuel : Nat) → Draft → Reading Draft
  | 0, draft => return draft
  | fuel + 1, draft => do
      match ← peek? with
      | none => return draft
      | some c =>
          if Words.endsWord c then return draft
          skip
          match c with
          | '\\' =>
              match ← rawPeek? with
              | none => return draft
              | some c =>
                  skip
                  documentMark fuel (draft.quote.push true c)
          | '\'' =>
              let quoted ← Words.singleQuoted (← size) {}
              documentMark fuel (draft.quote.pushAll true quoted.chars.reverse)
          | '"' =>
              let quoted ← takeWhile (· ≠ '"') (← size)
              skip
              documentMark fuel (draft.quote.pushAll true quoted)
          | c => documentMark fuel (draft.push true c)

/-! ## Single tokens -/

def redirectOperator : Reading String := do
  if ← accept '>' then
    if ← accept '>' then return ">>"
    if ← accept '|' then return ">|"
    if ← accept '&' then return ">&"
    return ">"
  skip
  if ← accept '<' then
    if ← accept '-' then return "<<-"
    return "<<"
  if ← accept '&' then return "<&"
  if ← accept '>' then return "<>"
  return "<"

def redirected? (draft : Draft) : Option (Option Nat) :=
  if draft.hasQuotes then none
  else
    match draft.word with
    | [] => some none
    | [.text [c] false] => if c.isDigit then some (some (c.toNat - '0'.toNat)) else none
    | _ => none

def raw (inner : Words.Inner) : (fuel : Nat) → Reading Token
  | 0 => return .finish
  | fuel + 1 => do
      if let some token := (← get).pushed? then
        modify fun source => { source with pushed? := none }
        return token
      let sign (c : Char) : Reading Token := do
        skip
        let twice ← if c == '&' || c == '|' || c == ';' then accept c else pure false
        let text := String.ofList (if twice then [c, c] else [c])
        return .sign text
      match ← peek? with
      | none => return .finish
      | some ' ' | some '\t' =>
          skip
          raw inner fuel
      | some '#' =>
          modify fun source => { source with rest := source.rest.dropWhile (· ≠ '\n') }
          raw inner fuel
      | some '\n' =>
          skip
          return .newline
      | some '&' => sign '&'
      | some '|' => sign '|'
      | some ';' => sign ';'
      | some '(' => sign '('
      | some ')' => sign ')'
      | some _ =>
          let draft ← Words.pieces inner (8 * (← size) + 8) .word false 0 {}
          let c? ← peek?
          match redirected? draft with
          | some stream? =>
              if c? == some '<' || c? == some '>' then
                return .redirect stream? (← redirectOperator)
              else return .word draft.word draft.hasQuotes
          | none => return .word draft.word draft.hasQuotes

def pastNewlines (inner : Words.Inner) : (fuel : Nat) → Token → Reading Token
  | 0, token => return token
  | fuel + 1, token => do
      match token with
      | .newline =>
          readDocuments inner
          pastNewlines inner fuel (← raw inner (← size))
      | token => return token

def token (inner : Words.Inner) (wanted : Wanted) : Reading Token := do
  let token ← raw inner ((← size) + 1)
  let token ← if wanted.newlines then pastNewlines inner ((← size) + 1) token else pure token
  match token with
  | .word word false =>
      match word.plain? with
      | some text =>
          if wanted.keywords && (keywords (← get).dialect).contains text then return .keyword text
          return token
      | none => return token
  | token => return token

/-! ## Redirections -/

def redirectMode : String → RedirectMode
  | ">" => .write
  | ">|" => .replace
  | ">>" => .append
  | "<>" => .both
  | ">&" | "<&" => .duplicate
  | _ => .read

def usualStream (operator : String) : Nat := if operator.startsWith ">" then 1 else 0

def redirect (inner : Words.Inner) (stream? : Option Nat) (operator : String) :
    Reading Redirect := do
  let stream := stream?.getD (usualStream operator)
  if operator == "<<" || operator == "<<-" then
    let _ ← takeWhile (fun c => c == ' ' || c == '\t') (← size)
    let draft ← documentMark (← size) {}
    if draft.word.isEmpty && !draft.hasQuotes then
      unexpected (← token inner {})
    let source ← get
    let text : Pending :=
      ⟨source.nextKey, draft.chars.reverse, operator == "<<-", draft.hasQuotes⟩
    set { source with nextKey := source.nextKey + 1, pending := source.pending ++ [text] }
    return .document stream source.nextKey
  match ← token inner {} with
  | .word word _ => return .file stream (redirectMode operator) word
  | other => unexpected other

def redirects (inner : Words.Inner) : (fuel : Nat) → Reading (List Redirect)
  | 0 => return []
  | fuel + 1 => do
      match ← token inner .start with
      | .redirect stream? operator =>
          let first ← redirect inner stream? operator
          return first :: (← redirects inner fuel)
      | token =>
          push token
          return []

def specialNames : List String :=
  [".", ":", "break", "continue", "eval", "exec", "exit", "export", "local", "readonly", "return",
    "set", "shift", "times", "trap", "unset"]

def wordsToEnd (inner : Words.Inner) : (fuel : Nat) → Reading (List Word)
  | 0 => return []
  | fuel + 1 => do
      match ← token inner {} with
      | .word word _ => return word :: (← wordsToEnd inner fuel)
      | .newline =>
          readDocuments inner
          return []
      | .sign ";" => return []
      | token => unexpected token

def patterns (inner : Words.Inner) : (fuel : Nat) → Token → Reading (List Word)
  | 0, _ => return []
  | fuel + 1, first => do
      let word : Word ← match first with
        | .word word _ => pure word
        | .keyword text => pure [.text text.toList false]
        | _ => pure []
      match ← token inner {} with
      | .sign "|" => return word :: (← patterns inner fuel (← token inner {}))
      | .sign ")" => return [word]
      | token => expecting token (.sign ")")

/-! ## Conditions in double brackets -/

def binaryOperators : List String :=
  ["=", "==", "!=", "=~", "-eq", "-ne", "-lt", "-le", "-gt", "-ge", "-nt", "-ot", "-ef", "<", ">"]

/-- A word of a condition, as it is written: blanks and parentheses end it only where they stand
alone. -/
def conditionToken (inner : Words.Inner) : Reading Token := do
  match ← token inner { newlines := true } with
  | .redirect none operator => return .sign operator
  | token => return token

mutual

def anyCondition (inner : Words.Inner) : (fuel : Nat) → Reading Condition
  | 0 => fail "syntax error"
  | fuel + 1 => do
      let left ← allConditions inner fuel
      match ← conditionToken inner with
      | .sign "||" => return .or left (← anyCondition inner fuel)
      | token =>
          push token
          return left

def allConditions (inner : Words.Inner) : (fuel : Nat) → Reading Condition
  | 0 => fail "syntax error"
  | fuel + 1 => do
      let left ← oneCondition inner fuel
      match ← conditionToken inner with
      | .sign "&&" => return .and left (← allConditions inner fuel)
      | token =>
          push token
          return left

def oneCondition (inner : Words.Inner) : (fuel : Nat) → Reading Condition
  | 0 => fail "syntax error"
  | fuel + 1 => do
      match ← conditionToken inner with
      | .sign "(" =>
          let condition ← anyCondition inner fuel
          match ← conditionToken inner with
          | .sign ")" => return condition
          | token => unexpected token
      | .word word quoted =>
          let text := if quoted then none else word.plain?
          if text == some "!" then return .not (← oneCondition inner fuel)
          match ← conditionToken inner with
          | .word next nextQuoted =>
              let nextText := if nextQuoted then "" else next.plain?.getD ""
              if binaryOperators.contains nextText then
                match ← conditionToken inner with
                | .word right _ => return .binary nextText word right
                | token => unexpected token
              else if nextText == "]]" then
                push (.word next nextQuoted)
                return .word word
              else
                match text with
                | some operator => return .unary operator next
                | none => unexpected (.word next nextQuoted)
          | .sign operator =>
              if binaryOperators.contains operator then
                match ← conditionToken inner with
                | .word right _ => return .binary operator word right
                | token => unexpected token
              else
                push (.sign operator)
                return .word word
          | token => unexpected token
      | token => unexpected token

end

def richStart (inner : Words.Inner) (token : Token) : Reading Token := do
  if !(← isRich) then return token
  match token with
  | .word word false =>
      if word.plain? == some "[[" then
        let condition ← anyCondition inner (← size)
        match ← conditionToken inner with
        | .word finish false =>
            if finish.plain? == some "]]" then return .condition condition
            unexpected (.word finish false)
        | token => unexpected token
      return token
  | token => return token

/-! ## Commands -/

def append (first? : Option Command) (second : Command) : Command :=
  match first? with
  | none => second
  | some first => .sequence first second

def withRedirects (line : Nat) (command : Command) (redirects : List Redirect) : Command :=
  match redirects, command with
  | [], command => command
  | redirects, .subshell line body [] => .subshell line body redirects
  | redirects, command => .redirected line command redirects

mutual

/-- A list of commands.  A line of a script is read by itself; `mayEnd` says whether the list may
be over. -/
def list (inner : Words.Inner) (isLine : Bool) :
    (fuel : Nat) → (mayEnd : Bool) → Option Command → Reading (Option Command)
  | 0, _, sofar? => return sofar?
  | fuel + 1, mayEnd, sofar? => do
      match ← token inner { Wanted.start with newlines := !isLine } with
      | .newline =>
          readDocuments inner
          return sofar?
      | .finish =>
          readDocuments inner
          push .finish
          return sofar?
      | first =>
          push first
          if !isLine && mayEnd && first.endsList then return sofar?
          let line := (← get).line
          let command ← chain inner fuel
          let next ← token inner {}
          let command := if next.isSign "&" then .background line command else command
          let sofar := append sofar? command
          match next with
          | .newline | .finish =>
              push next
              list inner isLine fuel true (some sofar)
          | .sign "&" | .sign ";" => list inner isLine fuel true (some sofar)
          | next =>
              if isLine then unexpected next
              push next
              return some sofar

def body (inner : Words.Inner) : (fuel : Nat) → (mayEnd : Bool) → Reading Command
  | 0, _ => return .empty
  | fuel + 1, mayEnd => do
      return ((← list inner false fuel mayEnd none).getD .empty)

def chain (inner : Words.Inner) : (fuel : Nat) → Reading Command
  | 0 => return .empty
  | fuel + 1 => do
      let first ← pipeline inner fuel {}
      links inner fuel first

def links (inner : Words.Inner) : (fuel : Nat) → Command → Reading Command
  | 0, first => return first
  | fuel + 1, first => do
      match ← token inner {} with
      | .sign "&&" => links inner fuel (.and first (← pipeline inner fuel .later))
      | .sign "||" => links inner fuel (.or first (← pipeline inner fuel .later))
      | token =>
          push token
          return first

def pipeline (inner : Words.Inner) : (fuel : Nat) → Wanted → Reading Command
  | 0, _ => return .empty
  | fuel + 1, wanted => do
      let first ← token inner wanted
      if first.isKeyword "!" then
        if ← isRich then return .not (← pipeline inner fuel .start)
        return .not (← stages inner fuel .start)
      push first
      stages inner fuel {}

def stages (inner : Words.Inner) : (fuel : Nat) → Wanted → Reading Command
  | 0, _ => return .empty
  | fuel + 1, wanted => do
      let first ← command inner fuel wanted
      let others ← moreStages inner fuel
      return if others.isEmpty then first else .pipeline (first :: others)

def moreStages (inner : Words.Inner) : (fuel : Nat) → Reading (List Command)
  | 0 => return []
  | fuel + 1 => do
      match ← token inner {} with
      | .sign "|" =>
          let next ← command inner fuel .later
          return next :: (← moreStages inner fuel)
      | token =>
          push token
          return []

def demand (inner : Words.Inner) : (fuel : Nat) → String → Reading Unit
  | 0, _ => return
  | _ + 1, text => do
      let token ← token inner {}
      if !token.isKeyword text then expecting token (.keyword text)

def command (inner : Words.Inner) : (fuel : Nat) → Wanted → Reading Command
  | 0, _ => return .empty
  | fuel + 1, wanted => do
      let first ← token inner wanted
      let line := (← get).line
      let finish (command : Command) : Reading Command := do
        return withRedirects line command (← redirects inner (← size))
      match ← richStart inner first with
      | .keyword "if" =>
          let command ← branch inner fuel
          demand inner fuel "fi"
          finish command
      | .keyword "while" =>
          let test ← body inner fuel false
          demand inner fuel "do"
          let body ← body inner fuel false
          demand inner fuel "done"
          finish (.loop true test body)
      | .keyword "until" =>
          let test ← body inner fuel false
          demand inner fuel "do"
          let body ← body inner fuel false
          demand inner fuel "done"
          finish (.loop false test body)
      | .keyword "for" => finish (← each inner fuel line)
      | .keyword "case" =>
          let subject : Word ← match ← token inner {} with
            | .word word _ => pure word
            | token => expecting token (.word [] false)
          let next ← token inner .later
          if !next.isKeyword "in" then expecting next (.keyword "in")
          finish (.choice line subject (← arms inner fuel))
      | .keyword "\x7b" =>
          let command ← body inner fuel false
          demand inner fuel "\x7d"
          finish command
      | .keyword "function" =>
          match ← token inner {} with
          | .word name _ =>
              let next ← token inner { newlines := true, keywords := true }
              if next.isSign "(" then
                let _ ← token inner {}
                return .function line (name.plain?.getD "") (← command inner fuel .later)
              push next
              return .function line (name.plain?.getD "") (← command inner fuel {})
          | token => unexpected token
      | .condition condition => finish (.condition line condition)
      | .sign "(" =>
          let command ← body inner fuel false
          let next ← token inner {}
          if !next.isSign ")" then expecting next (.sign ")")
          finish (.subshell line command [])
      | .word word quoted =>
          push (.word word quoted)
          simple inner fuel line true [] [] []
      | .redirect stream? operator =>
          push (.redirect stream? operator)
          simple inner fuel line true [] [] []
      | token => unexpected token

def branch (inner : Words.Inner) : (fuel : Nat) → Reading Command
  | 0 => return .empty
  | fuel + 1 => do
      let test ← body inner fuel false
      demand inner fuel "then"
      let yes ← body inner fuel false
      match ← token inner {} with
      | .keyword "elif" => return .branch test yes (← branch inner fuel)
      | .keyword "else" => return .branch test yes (← body inner fuel false)
      | token =>
          push token
          return .branch test yes .empty

def each (inner : Words.Inner) : (fuel : Nat) → (line : Nat) → Reading Command
  | 0, _ => return .empty
  | fuel + 1, line => do
      match ← token inner {} with
      | .word word quoted =>
          let name := if quoted then "" else word.plain?.getD ""
          if !isName name then fail "Bad for loop variable"
          let next ← token inner .later
          let words ←
            if next.isKeyword "in" then wordsToEnd inner (← size)
            else
              if !next.isSign ";" then push next
              pure [[.parameter "@" .value true]]
          let next ← token inner .later
          if !next.isKeyword "do" then expecting next (.keyword "do")
          let body ← body inner fuel false
          demand inner fuel "done"
          return .each line name words body
      | _ => fail "Bad for loop variable"

def arms (inner : Words.Inner) : (fuel : Nat) → Reading (List (List Word × Command))
  | 0 => return []
  | fuel + 1 => do
      let first ← token inner { newlines := true, keywords := true }
      if first.isKeyword "esac" then return []
      let first ← if first.isSign "(" then token inner {} else pure first
      let patterns ← patterns inner (← size) first
      let command ← body inner fuel true
      match ← token inner { newlines := true, keywords := true } with
      | .keyword "esac" => return [(patterns, command)]
      | .sign ";;" => return (patterns, command) :: (← arms inner fuel)
      | token => expecting token (.sign ";;")

/-- A command without other commands in it, or the definition of a function.  The words and
redirections so far are in reverse order. -/
def simple (inner : Words.Inner) :
    (fuel : Nat) → (line : Nat) → (isStart : Bool) → List Word → List Word → List Redirect →
      Reading Command
  | 0, line, _, assignments, words, redirects => return .simple line assignments words redirects
  | fuel + 1, line, isStart, assignments, words, redirects => do
      let next ← token inner {}
      let finish : Reading Command := do
        push next
        return .simple line assignments.reverse words.reverse redirects.reverse
      match next with
      | .word word _ =>
          if isStart && word.isAssignment then
            simple inner fuel line true (word :: assignments) words redirects
          else simple inner fuel line false assignments (word :: words) redirects
      | .redirect stream? operator =>
          let redirect ← redirect inner stream? operator
          simple inner fuel line isStart assignments words (redirect :: redirects)
      | .sign "(" =>
          match assignments, words, redirects with
          | [], [name], [] =>
              let next ← token inner {}
              if !next.isSign ")" then expecting next (.sign ")")
              let name := name.plain?.getD ""
              if specialNames.contains name || (!isName name && !(← isRich)) then
                fail "Bad function name"
              let line := (← get).line
              return .function line name (← command inner fuel .later)
          | _, _, _ => finish
      | _ => finish

end

/-! ## Commands in words -/

/-- The reader of commands in words; `fuel` bounds the levels of words in commands in words. -/
def inside : (fuel : Nat) → Words.Inner
  | 0 => fun _ => fail "Bad substitution"
  | fuel + 1 => fun closes => do
      let inner := inside fuel
      let command ← list inner false (16 * (← size) + 16) true none
      if closes then
        let next ← token inner {}
        if !next.isSign ")" then expecting next (.sign ")")
      return command.getD .empty

def levels : Nat := 200

end Reader

def Source.next? : Reading (Option Command) := do
  let command? ← Reader.list (Reader.inside Reader.levels) true (16 * (← size) + 16) false none
  match command?, (← get).pushed? with
  | none, some .finish => return none
  | command?, _ => return some (command?.getD .empty)

end FlagSearch.Shell
