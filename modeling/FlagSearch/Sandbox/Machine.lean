import FlagSearch.Path
import FlagSearch.Sandbox.Basic
import FlagSearch.Tools.Toolbox

/-!
# The sandbox as a machine

The operations of a `Machine`, carried out in memory.  Children are the tools of the sandbox, and
scripts, which its shells interpret.

* `Sandbox.runChild` — a child process from its start to its end.
* `Sandbox.machine` — the operations.
* `Sandbox.furnished` — a sandbox with the files that every one starts with.
-/

namespace FlagSearch.Sandbox

/-! ## Children -/

def searchPath : String := "/usr/local/sbin:/usr/local/bin:/usr/sbin:/usr/bin:/sbin:/bin"

def environment : List (String × String) := [("PATH", searchPath), ("HOME", "/root")]

/-- The steps that a child may take before it is taken for one that never ends. -/
def manySteps : Nat := 800000

/-- The tool that runs a program looked up in directories; where one may not be run, others are
tried. -/
def lookUp (files : Files) (here : FileId) (name : String) (arguments : List String) :
    List String → (denied : Bool) → Except OsError (String × List String)
  | [], denied => .error (if denied then .permissionDenied else .notFound)
  | directory :: rest, denied =>
      match load files here interpreterLimit (Path.join directory name) arguments with
      | .error .permissionDenied => lookUp files here name arguments rest true
      | .error .notFound | .error .notADirectory => lookUp files here name arguments rest denied
      | result => result

def resolve (files : Files) (here : FileId) (program : String) (arguments : List String) :
    Except OsError (String × List String) :=
  let whole := program :: arguments
  if program.toList.contains '/' then load files here interpreterLimit program whole
  else if program = "" then .error .notFound
  else if Files.longestName < program.length then .error .nameTooLong
  else lookUp files here program whole (searchPath.splitOn ":") false

def childTool (sandbox : Sandbox) (child : Child) :
    Except OsError (FileId × String × List String) := do
  if (child.program :: child.directory :: child.arguments).any fun text =>
      text.toList.contains '\x00' then
    throw .zeroInArgument
  let here ← sandbox.files.findDirectory sandbox.here (Octets.ofText child.directory)
  let (tool, arguments) ← resolve sandbox.files here (Octets.ofText child.program)
    (child.arguments.map Octets.ofText)
  pure (here, tool, arguments)

def spawnQuiet (system : System) (here : FileId) : Pid × System :=
  let (pid, system) := system.spawn host
  let system := system.modifyProcess pid fun process => { process with here }
  let (_, system) := system.openFile "/dev/null" .read pid
  let (_, system) := system.openFile "/dev/null" { writes := true } pid
  let (_, system) := system.openFile "/dev/null" { writes := true } pid
  (pid, system)

def nanosPerMillisecond : Nat := 1000000

def startNanos : Nat := 400000

def runChild (child : Child) (sandbox : Sandbox) : ChildEnd × Sandbox :=
  match sandbox.childTool child with
  | .error e => (.notStarted e, sandbox)
  | .ok (here, tool, arguments) =>
      let started := sandbox.system.now
      let (pid, system) := spawnQuiet sandbox.system here
      let thread : Thread :=
        ⟨pid, Tools.toolbox tool arguments environment, started + startNanos, false⟩
      let limits : Kernel.Limits := {
        deadline? := child.limit.map fun limit => started + limit * nanosPerMillisecond
        stopPath? := sandbox.stopPath? }
      let kernel : Kernel := ⟨system, sandbox.threads ++ [thread]⟩
      let (halt, kernel) := Kernel.run Tools.toolbox limits pid manySteps 0 none kernel
      let sandbox := { sandbox with system := kernel.system, threads := kernel.threads }
      let finish : ChildEnd := match halt with
        | .ended (.exited status) => .exited (status == 0) (kernel.system.now - started)
        | .ended (.killed _) => .exited false (kernel.system.now - started)
        | .timedOut => .timedOut
        | .interrupted => .interrupted
      (finish, sandbox)

/-! ## Operations -/

/-- Write a file, whether or not it is there; `content` is asked for when the file is empty. -/
def writeFile (path : String) (permissions : Nat) (content : Files → Except OsError ByteArray)
    (sandbox : Sandbox) : Except OsError FileId × Sandbox :=
  if path.toList.contains '\x00' then (.error .zeroInPath, sandbox)
  else
    let now := sandbox.system.now
    match sandbox.files.open now sandbox.here (Octets.ofText path) .rewrite permissions with
    | .error e => (.error e, sandbox)
    | .ok (files, id) =>
        match content files with
        | .error e => (.error e, sandbox.withFiles files)
        | .ok bytes =>
            match files.content? id with
            | some (.device "full") =>
                (if bytes.isEmpty then .ok id else .error .noSpace, sandbox)
            | _ => (.ok id, sandbox.withFiles (files.setBytes now id bytes))

def writeText (path text : String) (sandbox : Sandbox) : Except OsError Unit × Sandbox :=
  let permissions := sandbox.system.masked host 0o666
  let (result, sandbox) := sandbox.writeFile path permissions fun _ => .ok text.toUTF8
  (result.map fun _ => (), sandbox)

def copyFile (source target : String) (sandbox : Sandbox) : Except OsError Unit × Sandbox :=
  match sandbox.find source with
  | .error e => (.error e, sandbox)
  | .ok id =>
      if !sandbox.files.isFile id then (.error .notAFile, sandbox)
      else
        let mode := sandbox.files.mode id
        let (result, sandbox) :=
          sandbox.writeFile target (sandbox.system.masked host mode) fun files =>
            .ok (files.bytesOf id)
        match result with
        | .error e => (.error e, sandbox)
        | .ok copy =>
            (.ok (),
              if sandbox.files.isFile copy then sandbox.withFiles (sandbox.files.setMode copy mode)
              else sandbox)

def makeDirectory (path : String) (permissions : Nat) (sandbox : Sandbox) :
    Except OsError Unit × Sandbox :=
  if path.toList.contains '\x00' then (.error .zeroInPath, sandbox)
  else
    let (result, system) :=
      sandbox.system.makeDirectory (Octets.ofText path) permissions host
    (result, { sandbox with system })

def leadsToDirectory (sandbox : Sandbox) (path : String) : Bool :=
  match sandbox.find path with
  | .ok id => sandbox.files.isDirectory id
  | .error _ => false

def ensureDirectory (path : String) (sandbox : Sandbox) : Except OsError Unit × Sandbox :=
  match sandbox.makeDirectory path 0o777 with
  | (.ok (), sandbox) => (.ok (), sandbox)
  | (.error e, sandbox) =>
      (if sandbox.leadsToDirectory path then .ok () else .error e, sandbox)

/-- Make a directory and the ones above it, as far as they are missing; `fuel` bounds the number of
steps of the path. -/
def makeAbove : (fuel : Nat) → String → Sandbox → Except OsError Unit × Sandbox
  | 0, _, sandbox => (.error .notFound, sandbox)
  | fuel + 1, path, sandbox =>
      if path = "" then (.ok (), sandbox)
      else
        match sandbox.ensureDirectory path with
        | (.error .notFound, sandbox) =>
            -- A directory above it is missing; make that one first and try again.
            match Path.parent? path with
            | none => (.error .notFound, sandbox)
            | some parent =>
                match makeAbove fuel parent sandbox with
                | (.ok (), sandbox) => sandbox.ensureDirectory path
                | refused => refused
        | result => result

def makeDirectories (path : String) (sandbox : Sandbox) : Except OsError Unit × Sandbox :=
  makeAbove (path.length + 1) path sandbox

def realPath (path : String) (sandbox : Sandbox) : Except OsError String := do
  if path.toList.contains '\x00' then throw .zeroInPath
  let spot ← sandbox.files.locate sandbox.here true (Octets.ofText path)
  let some id := spot.found? | throw .notFound
  let isDirectory := sandbox.files.isDirectory id
  let some directory := sandbox.files.path? (if isDirectory then id else spot.directory)
    | throw .notFound
  pure (Octets.toText (if isDirectory then directory else Path.join directory spot.name))

def listDirectory (path : String) (sandbox : Sandbox) : Except OsError (List DirectoryItem) := do
  let id ← sandbox.find path
  if !sandbox.files.isDirectory id then throw .notADirectory
  pure ((sandbox.files.items id).map fun (name, id) =>
    ⟨Octets.toText name, sandbox.files.isDirectory id⟩)

def scratchRoot : String := "/tmp"

def scratchLetters : Nat := 6

def scratchName (serial : Nat) : String :=
  s!"flagforge-{Layout.withZeros scratchLetters (toString (serial * 7919 + 104729))}"

def openScratch (parent : Option String) (sandbox : Sandbox) : Except OsError String × Sandbox :=
  let path := Path.join (parent.getD scratchRoot) (scratchName sandbox.serial)
  match sandbox.makeDirectory path 0o700 with
  | (.error e, sandbox) => (.error e, sandbox)
  | (.ok (), sandbox) => (.ok path, { sandbox with serial := sandbox.serial + 1 })

def closeScratch (path : String) (sandbox : Sandbox) : Sandbox :=
  match sandbox.files.locate sandbox.here false (Octets.ofText path) with
  | .ok spot =>
      match spot.found? with
      | some id => sandbox.withFiles (sandbox.files.removeAll sandbox.system.now spot id)
      | none => sandbox
  | .error _ => sandbox

def machine : Machine Sandbox where
  readText := readText
  writeText := writeText
  copyFile := copyFile
  makeDirectories := makeDirectories
  realPath := realPath
  isPresent path sandbox := (sandbox.find path).toBool
  isFile path sandbox := (sandbox.find path).toOption.any sandbox.files.isFile
  listDirectory := listDirectory
  openScratch := openScratch
  closeScratch := closeScratch
  runChild := runChild
  stopRequested sandbox := (sandbox.stopAsked, { sandbox with stopped := sandbox.stopAsked })
  now sandbox := sandbox.system.now / nanosPerMillisecond

/-! ## The files of the system -/

def directories : List (String × Nat) :=
  [("/dev", 0o755), ("/etc", 0o755), ("/home", 0o755), ("/opt", 0o755), ("/root", 0o700),
    ("/tmp", 0o1777), ("/usr", 0o755), ("/usr/bin", 0o755), ("/usr/lib", 0o755),
    ("/usr/local", 0o755), ("/usr/local/bin", 0o755), ("/usr/local/sbin", 0o755),
    ("/usr/sbin", 0o755), ("/var", 0o755), ("/var/tmp", 0o1777)]

def links : List (String × String) :=
  [("/bin", "usr/bin"), ("/sbin", "usr/sbin"), ("/usr/bin/sh", "dash")]

def devices : List String := ["null", "zero", "full", "random", "urandom"]

def texts : List (String × String) :=
  [("/etc/passwd", "root:x:0:0:root:/root:/bin/sh\n"), ("/etc/group", "root:x:0:\n"),
    ("/etc/hostname", "sandbox\n")]

/-- A sandbox at rest with the files that every one starts with; `now` is in milliseconds since the
start of 1970. -/
def furnished (now : Nat) : Sandbox :=
  let start := ofFiles Files.empty (now * nanosPerMillisecond)
  let start := directories.foldl (fun sandbox (path, mode) => sandbox.addDirectory path mode) start
  let start := Tools.names.foldl
    (fun sandbox name => sandbox.add s!"/usr/bin/{name}" (fun _ => .tool name) 0o755) start
  let start := links.foldl
    (fun sandbox (path, target) => sandbox.add path (fun _ => .link target) 0o777) start
  let start := devices.foldl
    (fun sandbox name => sandbox.add s!"/dev/{name}" (fun _ => .device name) 0o666) start
  texts.foldl (fun sandbox (path, text) => sandbox.addText path text 0o644) start

end FlagSearch.Sandbox
