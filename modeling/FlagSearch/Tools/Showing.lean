import FlagSearch.Tools.Making

/-!
# Tools that show files

* `Tools.cat` — all lines of files.
* `Tools.head`, `Tools.tail` — their first and last parts.
* `Tools.wc` — what they are made of.
* `Tools.tee` — input that is shown and kept.
-/

namespace FlagSearch.Tools

open Sandbox Work

/-! ## Whole files -/

def pour (stream : Nat) : (fuel : Nat) → Work (Option OsError)
  | 0 => return none
  | fuel + 1 => do
      match ← lift (Routine.read stream Routine.blockSize) with
      | .error e => return some e
      | .ok "" => return none
      | .ok text =>
          put text
          flush
          if (← get).lost?.isSome then return none
          pour stream fuel

/-- Would writing to the output change what is still to be read from a stream? -/
def isOwnOutput (stream : Nat) : Work Bool :=
  lift (Routine.ask fun pid system =>
    let own : Bool :=
      match system.opening? pid stream, system.opening? pid 1 with
      | some (_, source), some (_, target) =>
          match source.channel, target.channel with
          | .file id, .file other =>
              id == other && system.files.isFile id &&
                source.offset < (if target.mode.appends then (system.files.bytesOf id).size
                  else target.offset)
          | _, _ => false
      | _, _ => false
    (own, system))

structure LineStyle where
  numbers : Bool
  numbersFull : Bool
  marksEnds : Bool
  squeezes : Bool

/-- Show lines, from a number on; the answer is the next number, and whether the last line was
empty. -/
def showLines (style : LineStyle) : List String → Nat × Bool → Work (Nat × Bool)
  | [], state => return state
  | line :: rest, (number, wasEmpty) => do
      let isEnded := line.endsWith "\n"
      let body := if isEnded then (line.dropEnd 1).toString else line
      let isEmpty := body = "" && isEnded
      if isEmpty && wasEmpty && style.squeezes then showLines style rest (number, true)
      else
        let counts := if style.numbersFull then !isEmpty else style.numbers
        let start := if counts then
          Layout.pad { width := 6 } false "" (toString number) ++ "\t" else ""
        let finish := if isEnded then (if style.marksEnds then "$\n" else "\n") else ""
        put (start ++ body ++ finish)
        showLines style rest (if counts then number + 1 else number, isEmpty)

def cat : Tool := tool 1 fun arguments => do
  let grammar : Grammar := {
    letters := "bnsuE"
    words := [("number-nonblank", "b"), ("show-ends", "E"), ("number", "n"),
      ("squeeze-blank", "s")] }
  let (choices, paths) ← options grammar arguments
  let style : LineStyle := {
    numbers := has choices "n", numbersFull := has choices "b"
    marksEnds := has choices "E", squeezes := has choices "s" }
  let isPlain := ["n", "b", "E", "s"].all fun name => !has choices name
  let mut state := (1, false)
  for path in orDash paths do
    match ← if path = "-" then pure (.ok 0) else lift (Routine.openFile path .read) with
    | .error e => complain (aboutFile path e)
    | .ok stream =>
        if ← isOwnOutput stream then
          complain s!"{shellQuoted path}: input file is output file"
        else if isPlain then
          if let some e ← pour stream Routine.manyReads then complain (aboutFile path e)
        else
          match ← lift (Routine.readAll stream) with
          | .error e => complain (aboutFile path e)
          | .ok text => state ← showLines style (wholeLines text) state
        if path ≠ "-" then lift (Routine.close stream)

/-! ## Parts -/

/-- What is counted in a part of a file. -/
structure Part where
  isBytes : Bool
  count : Nat
  isRest : Bool

def firstLines : (count : Nat) → List Char → List Char
  | 0, _ => []
  | _ + 1, [] => []
  | count + 1, '\n' :: rest => '\n' :: firstLines count rest
  | count + 1, c :: rest => c :: firstLines (count + 1) rest

def Part.first (part : Part) (text : String) : String :=
  let count := if part.isRest then
      (if part.isBytes then text.length else (wholeLines text).length) - part.count
    else part.count
  String.ofList (if part.isBytes then text.toList.take count else firstLines count text.toList)

def Part.last (part : Part) (text : String) : String :=
  let all := if part.isBytes then text.length else (wholeLines text).length
  let dropped := if part.isRest then part.count - 1 else all - part.count
  if part.isBytes then (text.drop dropped).toString
  else String.join ((wholeLines text).drop dropped)

def giveBack (stream count : Nat) : Work Unit :=
  lift (Routine.ask fun pid system =>
    match system.opening? pid stream with
    | some (number, opening) =>
        match opening.channel with
        | .file _ => ((), system.seek number (opening.offset - count))
        | _ => ((), system)
    | none => ((), system))

def smallBlock : Nat := 1024

/-- Read no more of a stream than its first part; `fuel` bounds the requests. -/
def readFirst (part : Part) (stream : Nat) :
    (fuel : Nat) → String → Work (Except OsError String)
  | 0, text => return .ok text
  | fuel + 1, text => do
      let first := part.first text
      let isComplete := if part.isBytes then part.count ≤ first.length
        else (linesOf first).1.length ≥ part.count && (linesOf first).2
      if isComplete && !part.isRest then
        giveBack stream (text.length - first.length)
        return .ok first
      else
        match ← lift (Routine.read stream smallBlock) with
        | .error e => return .error e
        | .ok "" => return .ok first
        | .ok more => readFirst part stream fuel (text ++ more)

def putTitle (isFirst : Bool) (path : String) : Work Unit := do
  let name := if path = "-" then "standard input" else path
  let start := if isFirst then "" else "\n"
  put s!"{start}==> {name} <==\n"

/-- Arguments in which a number after a dash has become an option of its own. -/
def modernized : List String → List String
  | first :: rest =>
      match first.toList with
      | '-' :: c :: digits =>
          if (c :: digits).all Char.isDigit then "-n" :: String.ofList (c :: digits) :: rest
          else first :: rest
      | _ => first :: rest
  | [] => []

def partOf (choices : List Choice) (restSign : Char) : Work Part := do
  match choices.reverse.find? fun choice => choice.1 == "n" || choice.1 == "c" with
  | some (key, value?) =>
      let value := value?.getD ""
      let isRest := value.toList.head? == some restSign
      let digits := if isRest || value.startsWith "-" || value.startsWith "+" then
        (value.drop 1).toString else value
      match sizeOf? digits with
      | some count => return ⟨key == "c", count, isRest⟩
      | none =>
          let what := if key == "c" then "bytes" else "lines"
          giveUp s!"invalid number of {what}: {quoted value}"
  | none => return ⟨false, 10, false⟩

def partGrammar : Grammar where
  letters := "n:c:qv"
  words := [("bytes=", "c"), ("lines=", "n"), ("quiet", "q"), ("silent", "q"), ("verbose", "v")]

def wantsTitles (choices : List Choice) (paths : List String) : Bool :=
  match lastOf? choices ["q", "v"] with
  | some key => key == "v"
  | none => 1 < paths.length

def head : Tool := tool 1 fun arguments => do
  let (choices, paths) ← options partGrammar (modernized arguments)
  let part ← partOf choices '-'
  let titles := wantsTitles choices paths
  let mut isFirst := true
  for path in orDash paths do
    match ← if path = "-" then pure (.ok 0) else lift (Routine.openFile path .read) with
    | .error e => complain s!"cannot open {quoted path} for reading: {e.reason}"
    | .ok stream =>
        if titles then putTitle isFirst path
        isFirst := false
        match ← readFirst part stream Routine.manyReads "" with
        | .error e => complain s!"error reading {quoted path}: {e.reason}"
        | .ok text => put text
        if path ≠ "-" then lift (Routine.close stream)

def tail : Tool := tool 1 fun arguments => do
  let (choices, paths) ← options partGrammar (modernized arguments)
  let part ← partOf choices '+'
  let titles := wantsTitles choices paths
  let mut isFirst := true
  for path in orDash paths do
    let result ← contents path
    if let .error (.opening e) := result then
      complain s!"cannot open {quoted path} for reading: {e.reason}"
    else
      if titles then putTitle isFirst path
      isFirst := false
      match result with
      | .ok text => put (part.last text)
      | .error (.reading e) | .error (.opening e) =>
          complain s!"error reading {quoted path}: {e.reason}"

/-! ## What files are made of -/

def isSpace (c : Char) : Bool := c == ' ' || (0x09 ≤ c.toNat && c.toNat ≤ 0x0d)

def countWords : (isInside : Bool) → List Char → Nat
  | _, [] => 0
  | isInside, c :: rest =>
      if isSpace c then countWords false rest
      else (if isInside then 0 else 1) + countWords true rest

def wc : Tool := tool 1 fun arguments => do
  let (choices, paths) ← options {
    letters := "clmw"
    words := [("bytes", "c"), ("chars", "m"), ("lines", "l"), ("words", "w")] } arguments
  let keys := ["l", "w", "m", "c"].filter (has choices)
  let keys := if keys.isEmpty then ["l", "w", "c"] else keys
  let sizes ← (orDash paths).mapM fun path => do
    let facts? ←
      if path = "-" then
        lift (Routine.ask fun pid system =>
          let size? : Option Nat :=
            match system.opening? pid 0 with
            | some (_, ⟨.file id, _, _⟩) =>
                if system.files.isFile id then some (system.files.bytesOf id).size else none
            | _ => none
          (some size?, system))
      else
        match ← facts path with
        | .ok facts => pure (some (if isRegular facts.content then some facts.size else none))
        | .error _ => pure none
    return facts?
  let width :=
    if sizes.length = 1 && keys.length = 1 then 1
    else if (sizes.headD none).isNone then 1
    else
      let total := (sizes.filterMap id).foldl (fun total size? => total + size?.getD 0) 0
      let least := if (sizes.filterMap id).any Option.isNone then 7 else 1
      max least (toString total).length
  let line (counts : List Nat) (name? : Option String) : String :=
    let texts := counts.map fun count => Layout.pad { width } false "" (toString count)
    String.intercalate " " (texts ++ name?.toList) ++ "\n"
  let mut totals := keys.map fun _ => 0
  for path in orDash paths do
    let result ← contents path
    let text := result.toOption.getD ""
    let counts := keys.map fun key =>
      match key with
      | "l" => (text.toList.filter (· == '\n')).length
      | "w" => countWords false text.toList
      | _ => text.length
    let name? := if paths.isEmpty then none else some (shellQuoted path)
    match result with
    | .error (.opening e) => complain (aboutFile path e)
    | .error (.reading e) =>
        complain (aboutFile path e)
        put (line counts name?)
    | .ok _ => put (line counts name?)
    totals := List.zipWith (· + ·) totals counts
  if 1 < paths.length then put (line totals (some "total"))

/-! ## Keeping -/

def pourAll (streams : List (String × Nat)) : (fuel : Nat) → Work Unit
  | 0 => return
  | fuel + 1 => do
      match ← lift (Routine.read 0 Routine.blockSize) with
      | .error e => complain s!"read error: {e.reason}"
      | .ok "" => return
      | .ok text =>
          put text
          flush
          for (path, stream) in streams do
            if let .error e ← lift (Routine.write stream text) then
              complain (aboutFile path e)
          pourAll streams fuel

def tee : Tool := tool 1 fun arguments => do
  let (choices, paths) ← options {
    letters := "ai"
    words := [("append", "a"), ("ignore-interrupts", "i")] } arguments
  let streams ← paths.mapM fun path => do
    let mode : Files.OpenMode := if has choices "a" then .append else .rewrite
    match ← lift (Routine.openFile path mode) with
    | .ok stream => return some (path, stream)
    | .error e =>
        complain (aboutFile path e)
        return none
  pourAll (streams.filterMap id) Routine.manyReads

end FlagSearch.Tools
