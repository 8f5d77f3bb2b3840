import FlagSearch.Tools.Making

/-!
# Tools that copy, move and remove

* `Tools.cp`, `Tools.install` — copies.
* `Tools.mv` — moves.
* `Tools.rm`, `Tools.rmdir` — removal.
-/

namespace FlagSearch.Tools

open Sandbox Work

/-! ## Targets -/

def withoutSlashes (path : String) : String :=
  let kept := (path.toList.reverse.dropWhile (· == '/')).reverse
  if kept.isEmpty && path ≠ "" then "/" else String.ofList kept

inductive Target where
  | into (directory : String)
  | to (path : String)

def targetOf (choices : List Choice) (operands : List String) : Work (List String × Target) := do
  let refuse (what path : String) (e : OsError) : Work (List String × Target) :=
    giveUp s!"{what} {quoted path}: {e.reason}"
  if operands.isEmpty then misuse "missing file operand"
  if let some directory := valueOf? choices "t" then
    match ← facts directory with
    | .error e => refuse "target directory" directory e
    | .ok facts =>
        if !isDirectory facts.content then refuse "target directory" directory .notADirectory
        else return (operands, .into directory)
  else
    match operands with
    | [only] => misuse s!"missing destination file operand after {quoted only}"
    | first :: second :: rest =>
        let last := rest.getLast?.getD second
        if has choices "T" then
          match rest with
          | extra :: _ => misuse s!"extra operand {quoted extra}"
          | [] => return ([first], .to second)
        else
          match ← facts last, rest with
          | .ok facts, [] =>
              return ([first], if isDirectory facts.content then .into second else .to second)
          | .error _, [] => return ([first], .to second)
          | .error e, _ => refuse "target" last e
          | .ok facts, _ =>
              if isDirectory facts.content then return (operands.dropLast, .into last)
              else refuse "target" last .notADirectory
    | [] => misuse "missing file operand"

def Target.path (target : Target) (source : String) : String :=
  match target with
  | .to path => path
  | .into directory => below directory (lastName source)

/-! ## Copies -/

structure CopyStyle where
  isDeep : Bool
  keepsLinks : Bool
  keepsFacts : Bool
  isForced : Bool
  isCareful : Bool
  isLoud : Bool

def copyFacts (style : CopyStyle) (facts : System.Facts) (path : String) : Work Unit := do
  if style.keepsFacts then
    let _ ← changeAt path fun files _ id =>
      (files.setMode id facts.mode).setModified id facts.modified

def reportCopy (style : CopyStyle) (source path : String) : Work Unit := do
  if style.isLoud then putLine s!"{quoted source} -> {quoted path}"

def writeCopy (style : CopyStyle) (facts : System.Facts) (source path : String) (isNew : Bool) :
    Work Unit := do
  let isDangling := isNew && (← ownFacts path).toBool
  if isDangling then complain s!"not writing through dangling symlink {quoted path}"
  else
    let mask ← mask
    let mode := facts.mode &&& (0o777 ^^^ (mask &&& 0o777))
    let result ← change fun files now here => do
      let (files, id) ← files.open now here path .rewrite mode
      pure (files.setBytes now id (files.bytesOf facts.id))
    match result with
    | .error e =>
        let e := if e = .isADirectory && path.endsWith "/" then .notADirectory else e
        complain s!"cannot create regular file {quoted path}: {e.reason}"
    | .ok () =>
        reportCopy style source path
        copyFacts style facts path

def copyPlain (style : CopyStyle) (facts : System.Facts) (source path : String)
    (old? : Option System.Facts) : Work Unit := do
  let makeLink (target : String) : Work Unit := do
    if old?.isSome && style.isForced then
      let _ ← change fun files now here => files.unlink now here path
    match ← change fun files now here => files.makeLink now here target path with
    | .ok () => reportCopy style source path
    | .error e => complain s!"cannot create symbolic link {quoted path}: {e.reason}"
  match facts.content with
  | .link target => makeLink target
  | _ => writeCopy style facts source path old?.isNone

mutual

/-- Copy something to a path; `seen?` is the first directory that was made on the way, `top` says
where the whole copy starts, and `fuel` bounds the levels. -/
def copyTo (style : CopyStyle) (top : String × String) : (fuel : Nat) → (seen? : Option FileId) →
    String → String → Work Unit
  | 0, _, _, _ => return
  | fuel + 1, seen?, source, path => do
      match ← lift (Routine.facts source (!style.keepsLinks)) with
      | .error e => complain s!"cannot stat {quoted source}: {e.reason}"
      | .ok facts =>
          let isDeep := isDirectory facts.content
          if isDeep && !style.isDeep then
            complain s!"-r not specified; omitting directory {quoted source}"
          else if isDeep && seen? == some facts.id then
            complain s!"cannot copy a directory, {quoted top.1}, into itself, {quoted top.2}"
          else
            match ← lift (Routine.facts path (!isLink facts.content)) with
            | .error .notFound | .error .tooManyLinks =>
                if isDeep then copyDirectory style top fuel seen? facts source path
                else copyPlain style facts source path none
            | .error e => complain s!"cannot stat {quoted path}: {e.reason}"
            | .ok old =>
                let isOldDeep := isDirectory old.content
                if old.id = facts.id then
                  complain s!"{quoted source} and {quoted path} are the same file"
                else if isDeep && !isOldDeep then
                  complain
                    s!"cannot overwrite non-directory {quoted path} with directory {quoted source}"
                else if !isDeep && isOldDeep then
                  complain s!"cannot overwrite directory {quoted path} with non-directory"
                else if isDeep then copyInside style top fuel seen? facts source path
                else if style.isCareful then fail
                else copyPlain style facts source path (some old)

def copyDirectory (style : CopyStyle) (top : String × String) :
    (fuel : Nat) → (seen? : Option FileId) → System.Facts → String → String → Work Unit
  | 0, _, _, _, _ => return
  | fuel + 1, seen?, facts, source, path => do
      let path := withoutSlashes path
      match ← lift (Routine.ask (System.makeDirectory path (facts.mode ||| 0o700))) with
      | .error e => complain s!"cannot create directory {quoted path}: {e.reason}"
      | .ok () =>
          reportCopy style source path
          let new? := (← Tools.facts path).toOption.map System.Facts.id
          copyInside style top fuel (seen? <|> new?) facts source path

def copyInside (style : CopyStyle) (top : String × String) :
    (fuel : Nat) → (seen? : Option FileId) → System.Facts → String → String → Work Unit
  | 0, _, _, _, _ => return
  | fuel + 1, seen?, facts, source, path => do
      match ← lift (Routine.ask (System.namesIn source)) with
      | .error e => complain s!"cannot access {quoted source}: {e.reason}"
      | .ok names =>
          for name in names do
            copyTo style top fuel seen? (below source name) (below path name)
          copyFacts style facts path

end

def CopyStyle.ofChoices (choices : List Choice) : CopyStyle :=
  let isDeep := ["r", "R", "a"].any (has choices)
  let links := lastOf? choices ["a", "d", "L", "P", "H"]
  { isDeep
    keepsLinks := links.any (["a", "d", "P"].contains ·) || (isDeep && links.isNone)
    keepsFacts := ["p", "a"].any (has choices)
    isForced := has choices "f"
    isCareful := lastOf? choices ["n", "f"] == some "n"
    isLoud := has choices "v" }

def cp : Tool := tool 1 fun arguments => do
  let grammar : Grammar := {
    letters := "adfHLnprt:vPRT"
    words := [("archive", "a"), ("dereference", "L"), ("force", "f"), ("no-clobber", "n"),
      ("no-dereference", "P"), ("no-target-directory", "T"), ("recursive", "R"),
      ("target-directory=", "t"), ("verbose", "v")] }
  let (choices, operands) ← options grammar arguments
  let style := CopyStyle.ofChoices choices
  if has choices "n" then
    warn ("warning: behavior of -n is non-portable and may change in future;"
      ++ " use --update=none instead")
  let (sources, target) ← targetOf choices operands
  for source in sources do
    let path := target.path source
    copyTo style (withoutSlashes source, withoutSlashes path) manyLevels none source path

def install : Tool := tool 1 fun arguments => do
  let grammar : Grammar := {
    letters := "cDdm:t:Tv"
    words := [("directory", "d"), ("mode=", "m"), ("target-directory=", "t"),
      ("no-target-directory", "T"), ("verbose", "v")] }
  let (choices, operands) ← options grammar arguments
  let mode ← match valueOf? choices "m" with
    | none => pure 0o755
    | some text =>
        match Modes.change? true 0o7777 text 0 with
        | some mode => pure mode
        | none => giveUp s!"invalid mode {quoted text}"
  if has choices "d" then
    if operands.isEmpty then misuse "missing file operand"
    for path in operands do
      match ← makeChain (has choices "v") "" (chainNames path) with
      | .error e => complain s!"cannot create directory {quoted path}: {e.reason}"
      | .ok () =>
          let _ ← changeAt path fun files _ id => files.setMode id mode
  else
    let style : CopyStyle := {
      isDeep := false, keepsLinks := false, keepsFacts := false, isForced := true
      isCareful := false, isLoud := has choices "v" }
    let directoryOf (path : String) : List String := (Files.names path).dropLast
    if has choices "D" then
      match valueOf? choices "t", operands with
      | some directory, _ =>
          let _ ← makeChain false "" (chainNames directory)
      | none, [_, path] =>
          let _ ← makeChain false "" (directoryOf path)
      | _, _ => pure ()
    let (sources, target) ← targetOf choices operands
    for source in sources do
      let path := target.path source
      match ← facts source with
      | .error e => complain s!"cannot stat {quoted source}: {e.reason}"
      | .ok facts =>
          if isDirectory facts.content then complain s!"omitting directory {quoted source}"
          else if (← Tools.facts path).toOption.any fun old => isDirectory old.content then
            complain s!"cannot overwrite directory {quoted path} with non-directory"
          else if (← Tools.facts path).toOption.any fun old => old.id == facts.id then
            complain s!"{quoted source} and {quoted path} are the same file"
          else
            let _ ← change fun files now here => files.unlink now here path
            writeCopy style { facts with mode := 0o600 } source path true
            let _ ← changeAt path fun files _ id => files.setMode id mode

/-! ## Moves -/

def moveTo (choices : List Choice) (source path : String) : Work Unit := do
  match ← ownFacts source with
  | .error e => complain s!"cannot stat {quoted source}: {e.reason}"
  | .ok facts =>
      let old? := (← ownFacts path).toOption
      let moves := isDirectory facts.content
      let isOldDirectory := old?.any fun old => isDirectory old.content
      let keeps := lastOf? choices ["n", "f"]
      if old?.any fun old => old.id == facts.id then
        if moves && lastName source ≠ lastName path then
          complain s!"cannot move {quoted source} to a subdirectory of itself, {quoted path}"
        else complain s!"{quoted source} and {quoted path} are the same file"
      else if old?.isSome && keeps == some "n" then
        complain s!"not replacing {quoted path}"
      else if moves && old?.isSome && !isOldDirectory then
        complain s!"cannot overwrite non-directory {quoted path} with directory {quoted source}"
      else if !moves && isOldDirectory then
        complain s!"cannot overwrite directory {quoted path} with non-directory"
      else
        match ← change fun files now here => files.rename now here source path with
        | .ok () =>
            if has choices "v" then putLine s!"renamed {quoted source} -> {quoted path}"
        | .error .invalid =>
            let (source, path) := (withoutSlashes source, withoutSlashes path)
            complain s!"cannot move {quoted source} to a subdirectory of itself, {quoted path}"
        | .error .notEmpty =>
            complain s!"cannot overwrite {quoted path}: {OsError.notEmpty.reason}"
        | .error e => complain s!"cannot move {quoted source} to {quoted path}: {e.reason}"

def mv : Tool := tool 1 fun arguments => do
  let grammar : Grammar := {
    letters := "fnt:vT"
    words := [("force", "f"), ("no-clobber", "n"), ("no-target-directory", "T"),
      ("target-directory=", "t"), ("verbose", "v")] }
  let (choices, operands) ← options grammar arguments
  let (sources, target) ← targetOf choices operands
  for source in sources do
    moveTo choices source (target.path source)

/-! ## Removal -/

def removeOne (isLoud : Bool) (path : String) (isDirectory : Bool) :
    Work (Except OsError Unit) := do
  let result ← change fun files now here =>
    if isDirectory then files.removeDirectory now here path else files.unlink now here path
  if isLoud && result.toBool then
    putLine (if isDirectory then s!"removed directory {quoted path}" else s!"removed {quoted path}")
  return result

def removeDeep (choices : List Choice) : (fuel : Nat) → String → Work Unit
  | 0, _ => return
  | fuel + 1, path => do
      match ← ownFacts path with
      | .error e =>
          if !(has choices "f" && (e = .notFound || e = .notADirectory)) then
            complain s!"cannot remove {quoted path}: {e.reason}"
      | .ok facts =>
          let isDirectory := isDirectory facts.content
          let isDeep := has choices "r" || has choices "R"
          if isDirectory && !isDeep && !has choices "d" then
            complain s!"cannot remove {quoted path}: Is a directory"
          else
            let names ← if isDirectory && isDeep then
                pure ((← lift (Routine.ask (System.namesIn path))).toOption.getD [])
              else pure []
            for name in names do
              removeDeep choices fuel (below path name)
            if let .error e ← removeOne (has choices "v") path isDirectory then
              complain s!"cannot remove {quoted path}: {e.reason}"

def rm : Tool := tool 1 fun arguments => do
  let grammar : Grammar := {
    letters := "dfrvR"
    words := [("force", "f"), ("recursive", "r"), ("dir", "d"), ("verbose", "v")] }
  let (choices, paths) ← options grammar arguments
  if !has choices "f" then demandOperand paths
  for path in paths do
    let name := lastName path
    if name = "." || name = ".." then
      if has choices "r" || has choices "R" then
        complain s!"refusing to remove '.' or '..' directory: skipping {quoted path}"
      else complain s!"cannot remove {quoted path}: Is a directory"
    else if name = "/" && (has choices "r" || has choices "R") then
      complain "it is dangerous to operate recursively on '/'"
      warn "use --no-preserve-root to override this failsafe"
    else
      -- A name that a slash follows has to be the one of a directory.
      match path.endsWith "/", (← ownFacts (withoutSlashes path)).toOption with
      | true, some facts =>
          if isDirectory facts.content then removeDeep choices manyLevels path
          else if isLink facts.content && (← leadsToDirectory path) && !has choices "r" then
            complain s!"cannot remove {quoted path}: Is a directory"
          else if !has choices "f" || isLink facts.content then
            complain s!"cannot remove {quoted path}: Not a directory"
      | _, _ => removeDeep choices manyLevels path

def rmdir : Tool := tool 1 fun arguments => do
  let (choices, paths) ← options {
    letters := "v", words := [("verbose", "v")] } arguments
  demandOperand paths
  for path in paths do
    if has choices "v" then
      putLine s!"{(← get).call.name}: removing directory, {quoted path}"
    demand s!"failed to remove {quoted path}"
      (← change fun files now here => files.removeDirectory now here path)

end FlagSearch.Tools
