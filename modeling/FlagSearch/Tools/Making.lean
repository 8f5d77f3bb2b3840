import FlagSearch.Sandbox.Modes
import FlagSearch.Tools.Basic
import FlagSearch.Tools.Calendar

/-!
# Tools that make and mark things

* `Tools.touch`, `Tools.mkdir`, `Tools.mktemp` — new things.
* `Tools.ln` — names and links.
* `Tools.chmod` — permissions.
-/

namespace FlagSearch.Tools

open Sandbox Work

/-! ## Requests -/

def facts (path : String) : Work (Except OsError System.Facts) :=
  lift (Routine.facts path true)

def ownFacts (path : String) : Work (Except OsError System.Facts) :=
  lift (Routine.facts path false)

def isDirectory : Content → Bool
  | .directory _ _ => true
  | _ => false

def isLink : Content → Bool
  | .link _ => true
  | _ => false

def isRegular : Content → Bool
  | .bytes _ | .tool _ => true
  | _ => false

def leadsToDirectory (path : String) : Work Bool := do
  return (← facts path).toOption.any fun facts => isDirectory facts.content

def change (act : Files → Nat → FileId → Except OsError Files) : Work (Except OsError Unit) :=
  lift (Routine.change act)

def changeAt (path : String) (act : Files → Nat → FileId → Files) : Work (Except OsError Unit) :=
  change fun files now here => do
    let id ← files.find here true path
    pure (act files now id)

def mask : Work Nat :=
  lift (Routine.ask fun pid system => (((system.process? pid).map Process.mask).getD 0o022, system))

def demand (what : String) (result : Except OsError Unit) : Work Unit := do
  if let .error e := result then complain s!"{what}: {e.reason}"

def modeOf (isRunnable : Bool) (text : String) (old : Nat) : Work Nat := do
  let mask ← mask
  match Modes.change? isRunnable (0o7777 ^^^ mask) text old with
  | some mode => return mode
  | none => giveUp s!"invalid mode {quoted text}"

def lastName (path : String) : String :=
  let names := (Files.names path).filter (· ≠ "")
  match names.getLast? with
  | some name => name
  | none => if path.toList.contains '/' then "/" else ""

def below (directory name : String) : String :=
  if directory.endsWith "/" then directory ++ name else s!"{directory}/{name}"

/-! ## New things -/

def touch : Tool := tool 1 fun arguments => do
  let grammar : Grammar := {
    letters := "acd:mr:"
    words := [("no-create", "c"), ("date=", "d"), ("reference=", "r")] }
  let (choices, paths) ← options grammar arguments
  if paths.isEmpty then misuse "missing file operand"
  let mut stamp? : Option Nat := none
  if let some reference := valueOf? choices "r" then
    match ← facts reference with
    | .ok facts => stamp? := some facts.modified
    | .error e => giveUp s!"failed to get attributes of {quoted reference}: {e.reason}"
  if let some text := valueOf? choices "d" then
    match Calendar.seconds? text with
    | some seconds => stamp? := some (seconds.toNat * 1000000000)
    | none => if text ≠ "now" then giveUp s!"invalid date format {quoted text}"
  for path in paths do
    let mark : Work (Except OsError Unit) := changeAt path fun files now id =>
      files.setModified id (stamp?.getD now)
    if has choices "c" then
      match ← mark with
      | .ok () | .error .notFound => pure ()
      | .error e => complain s!"setting times of {quoted path}: {e.reason}"
    else
      match ← lift (Routine.openFile path { writes := true, creates := true }) with
      | .ok stream =>
          lift (Routine.close stream)
          let _ ← mark
      | .error refused =>
          match ← mark with
          | .ok () => pure ()
          | .error e =>
              let e := if refused = .isADirectory then e else refused
              complain s!"cannot touch {quoted path}: {e.reason}"

/-- Make a directory and the ones above it; the ones that are there are left alone. -/
def makeChain (isLoud : Bool) (above : String) : List String → Work (Except OsError Unit)
  | [] => return .ok ()
  | [name] => do
      let path := above ++ name
      match ← lift (Routine.ask (System.makeDirectory path 0o777)) with
      | .ok () =>
          if isLoud then putLine s!"{(← get).call.name}: created directory {quoted path}"
          return .ok ()
      | .error e => return if ← leadsToDirectory path then .ok () else .error e
  | name :: rest => do
      let path := above ++ name
      if name ≠ "" && !(← leadsToDirectory path) then
        match ← lift (Routine.ask (System.makeDirectory path 0o777)) with
        | .ok () =>
            if isLoud then putLine s!"{(← get).call.name}: created directory {quoted path}"
        | .error e => return .error e
      makeChain isLoud (path ++ "/") rest

def chainNames (path : String) : List String :=
  let names := Files.names path
  let slashes := (names.reverse.takeWhile (· == "")).length
  let kept := names.take (names.length - slashes)
  match kept.reverse with
  | last :: before =>
      (String.join (last :: List.replicate slashes "/") :: before).reverse
  | [] => [path]

def mkdir : Tool := tool 1 fun arguments => do
  let grammar : Grammar := {
    letters := "m:pv"
    words := [("mode=", "m"), ("parents", "p"), ("verbose", "v")] }
  let (choices, paths) ← options grammar arguments
  demandOperand paths
  let mode? ← (valueOf? choices "m").mapM fun text => modeOf true text 0o777
  let isLoud := has choices "v"
  for path in paths do
    let isOld ← leadsToDirectory path
    let result ←
      if has choices "p" then makeChain isLoud "" (chainNames path)
      else
        let result ← lift (Routine.ask (System.makeDirectory path 0o777))
        if isLoud && result.toBool then
          putLine s!"{(← get).call.name}: created directory {quoted path}"
        pure result
    demand s!"cannot create directory {quoted path}" result
    if let some mode := mode? then
      if !isOld && result.toBool then
        let _ ← changeAt path fun files _ id => files.setMode id mode

def freshLetters : List Char :=
  "abcdefghijklmnopqrstuvwxyzABCDEFGHIJKLMNOPQRSTUVWXYZ0123456789".toList

def freshName (seed : Nat) : (count : Nat) → String
  | 0 => ""
  | count + 1 =>
      let next := (seed * 6364136223846793005 + 1442695040888963407) % UInt64.size
      (freshLetters[next / 8589934592 % 62]?.getD 'x').toString ++ freshName next count

def mktemp : Tool := tool 1 fun arguments => do
  let grammar : Grammar := {
    letters := "dp:qtu"
    words := [("directory", "d"), ("quiet", "q"), ("dry-run", "u")] }
  let (choices, operands) ← options grammar arguments
  let template ← match operands with
    | [] => pure "tmp.XXXXXXXXXX"
    | [template] => pure template
    | _ => misuse "too many templates"
  let usual := (← setting? "TMPDIR").getD "/tmp"
  let usual := if usual = "" then "/tmp" else usual
  let directory? : Option String :=
    if has choices "t" || has choices "p" then some ((valueOf? choices "p").getD usual)
    else if operands.isEmpty then some usual else none
  let body := template.toList
  let count := (body.reverse.takeWhile (· == 'X')).length
  if count < 3 then giveUp s!"too few X's in template {quoted template}"
  let now ← lift Routine.now
  let pid ← lift Routine.self
  let name := String.ofList (body.take (body.length - count)) ++ freshName (now + pid * 7919) count
  let path := match directory? with
    | some directory => below directory name
    | none => name
  let shown := match directory? with
    | some directory => below directory template
    | none => template
  let makes := has choices "d"
  let result ←
    if has choices "u" then pure (.ok ())
    else if makes then lift (Routine.ask (System.makeDirectory path 0o700))
    else
      let fresh : Files.OpenMode := { writes := true, creates := true, exclusive := true }
      match ← lift (Routine.openFile path fresh) with
      | .error e => pure (.error e)
      | .ok stream =>
          lift (Routine.close stream)
          changeAt path fun files _ id => files.setMode id 0o600
  match result with
  | .ok () => putLine path
  | .error e =>
      let kind := if makes then "directory" else "file"
      if !has choices "q" then
        complain s!"failed to create {kind} via template {quoted shown}: {e.reason}"
      fail

def sizeOf? (text : String) : Option Nat :=
  let chars := text.toList
  let digits := chars.takeWhile Char.isDigit
  let number := Text.ofDigits 10 digits
  let units : List (String × Nat) :=
    [("", 1), ("b", 512), ("c", 1), ("w", 2), ("kB", 1000), ("K", 1024), ("k", 1024), ("KiB", 1024),
      ("MB", 1000000), ("M", 1048576), ("m", 1048576), ("MiB", 1048576), ("GB", 1000000000),
      ("G", 1073741824), ("GiB", 1073741824)]
  if digits.isEmpty then none
  else (units.lookup (String.ofList (chars.drop digits.length))).map (number * ·)

/-! ## Names and links -/

def linkTo (choices : List Choice) (target path : String) : Work Unit := do
  let isSymbolic := has choices "s"
  let name := if isSymbolic then "symbolic link" else "hard link"
  if !isSymbolic then
    match ← ownFacts target with
    | .error e =>
        complain s!"failed to access {quoted target}: {e.reason}"
        return
    | .ok facts =>
        if isDirectory facts.content then
          complain s!"{shellQuoted target}: hard link not allowed for directory"
          return
  if has choices "f" then
    match ← ownFacts target, ← ownFacts path with
    | .ok source, .ok old =>
        if !isSymbolic && source.id = old.id then
          if target = path then
            complain s!"{quoted target} and {quoted path} are the same file"
          return
        if !isDirectory old.content then
          let _ ← change fun files now here => files.unlink now here path
    | .error _, .ok old =>
        if !isDirectory old.content then
          let _ ← change fun files now here => files.unlink now here path
    | _, .error _ => pure ()
  let result ← change fun files now here =>
    if isSymbolic then files.makeLink now here target path
    else files.addName now here target path
  match result with
  | .ok () =>
      if has choices "v" then
        let arrow := if isSymbolic then "->" else "=>"
        putLine s!"{quoted path} {arrow} {quoted target}"
  | .error e =>
      let about := if isSymbolic then quoted path else s!"{quoted path} => {quoted target}"
      complain s!"failed to create {name} {about}: {e.reason}"

def ln : Tool := tool 1 fun arguments => do
  let grammar : Grammar := {
    letters := "fnst:vT"
    words := [("symbolic", "s"), ("force", "f"), ("no-dereference", "n"),
      ("target-directory=", "t"), ("no-target-directory", "T"), ("verbose", "v")] }
  let (choices, operands) ← options grammar arguments
  if operands.isEmpty then misuse "missing file operand"
  let leads (path : String) : Work Bool := do
    if has choices "n" then
      match ← ownFacts path with
      | .ok facts => return isDirectory facts.content
      | .error _ => return false
    else leadsToDirectory path
  if has choices "T" then
    match operands with
    | [target, path] => linkTo choices target path
    | [target] => misuse s!"missing destination file operand after {quoted target}"
    | _ :: _ :: extra :: _ => misuse s!"extra operand {quoted extra}"
    | [] => misuse "missing file operand"
  else if let some directory := valueOf? choices "t" then
    if !(← leadsToDirectory directory) then
      giveUp s!"target {quoted directory} is not a directory"
    for target in operands do
      linkTo choices target (below directory (lastName target))
  else
    match operands with
    | [target] => linkTo choices target (below "." (lastName target))
    | [target, path] =>
        if ← leads path then linkTo choices target (below path (lastName target))
        else linkTo choices target path
    | _ =>
        let directory := operands.getLast?.getD ""
        match ← facts directory with
        | .ok facts =>
            if !isDirectory facts.content then
              giveUp s!"target {quoted directory}: Not a directory"
        | .error e => giveUp s!"target {quoted directory}: {e.reason}"
        for target in operands.dropLast do
          linkTo choices target (below directory (lastName target))

/-! ## Permissions -/

def chmodAt (choices : List Choice) (changed? : Bool → Nat → Option Nat) :
    (fuel : Nat) → String → Work Unit
  | 0, _ => return
  | fuel + 1, path => do
      match ← facts path with
      | .error e =>
          if (← ownFacts path).toBool && e = .notFound then
            if !has choices "f" then
              complain s!"cannot operate on dangling symlink {quoted path}"
          else if !has choices "f" then complain s!"cannot access {quoted path}: {e.reason}"
          fail
      | .ok facts =>
          let isDirectory := isDirectory facts.content
          let isRunnable := isDirectory || facts.mode &&& 0o111 ≠ 0
          let new := (changed? isRunnable facts.mode).getD facts.mode
          let _ ← changeAt path fun files _ id => files.setMode id new
          if isDirectory && has choices "R" then
            if let .ok names ← lift (Routine.ask (System.namesIn path)) then
              for name in names do
                let path := below path name
                if !((← ownFacts path).toOption.any fun facts => isLink facts.content) then
                  chmodAt choices changed? fuel path

def manyLevels : Nat := 100000

def chmod : Tool := tool 1 fun arguments => do
  let grammar : Grammar := {
    letters := "Rfr::w::x::X::s::t::u::g::o::a::,::+::=::0::1::2::3::4::5::6::7::"
    words := [("recursive", "R"), ("silent", "f"), ("quiet", "f")] }
  let (choices, operands) ← options grammar arguments
  let isMode (key : String) : Bool := !(["R", "f"].contains key)
  let texts := (choices.filter fun choice => isMode choice.1).map
    fun (key, value?) => "-" ++ key ++ value?.getD ""
  let given? : Option String :=
    if texts.isEmpty then none else some (String.intercalate "," texts)
  let (text, paths) ← match given?, operands with
    | some text, paths => pure (text, paths)
    | none, text :: paths => pure (text, paths)
    | none, [] => misuse "missing operand"
  if paths.isEmpty then
    if given?.isSome then misuse "missing operand"
    else misuse s!"missing operand after {quoted text}"
  let usable := 0o7777 ^^^ (← mask)
  if (Modes.change? false usable text 0).isNone then misuse s!"invalid mode: {quoted text}"
  paths.forM (chmodAt choices (fun isRunnable old => Modes.change? isRunnable usable text old)
    manyLevels)

end FlagSearch.Tools
