import FlagSearch.Sandbox.Files

/-!
# Systems

A `System` is what all processes of a sandbox share: the files, the clock, the openings of files
and pipes, and for every process the facts that the system keeps about it.  What a process is going
to do is not part of the system.

* `Process`, `Opening`, `Pipe`, `System` — the state.
* `System.openFile`, `System.read`, `System.write`, … — the requests of a process, named by its
  number, that are answered at once or have to wait.
* `System.signal`, `System.finish`, `System.wait` — how processes end, and how others learn of it.
-/

namespace FlagSearch.Sandbox

/-! ## State -/

abbrev Pid := Nat

abbrev Signal := Nat

namespace Signal

def int : Signal := 2

def kill : Signal := 9

def pipe : Signal := 13

def term : Signal := 15

def child : Signal := 17

def names : List String :=
  ["HUP", "INT", "QUIT", "ILL", "TRAP", "ABRT", "BUS", "FPE", "KILL", "USR1", "SEGV", "USR2",
    "PIPE", "ALRM", "TERM", "STKFLT", "CHLD", "CONT", "STOP", "TSTP", "TTIN", "TTOU", "URG",
    "XCPU", "XFSZ", "VTALRM", "PROF", "WINCH", "POLL", "PWR", "SYS"]

def quiet : List Signal := [17, 18, 19, 20, 21, 22, 23, 28]

end Signal

inductive Ended where
  | exited (status : Nat)
  | killed (signal : Signal)
  deriving DecidableEq

/-- What a stream is connected to. -/
inductive Channel where
  | file (id : FileId)
  | readEnd (pipe : Nat)
  | writeEnd (pipe : Nat)
  deriving DecidableEq

/-- An opening of a file or pipe, which several streams can share. -/
structure Opening where
  channel : Channel
  mode : Files.OpenMode
  offset : Nat

structure Handle where
  opening : Nat
  isPrivate : Bool
  deriving DecidableEq

structure Pipe where
  bytes : ByteArray
  hadReader : Bool
  hadWriter : Bool

/-- What the system knows about a process. -/
structure Process where
  pid : Pid
  parent : Pid
  streams : List (Nat × Handle)
  here : FileId
  mask : Nat
  ignored : List Signal
  caught : List Signal
  pending : List Signal
  ended? : Option Ended

structure System where
  files : Files
  now : Nat
  openings : Array Opening
  pipes : Array Pipe
  processes : List Process
  nextPid : Pid

namespace System

def process? (system : System) (pid : Pid) : Option Process :=
  system.processes.find? fun process => process.pid == pid

def modifyProcess (system : System) (pid : Pid) (change : Process → Process) : System :=
  { system with
    processes := system.processes.map fun process =>
      if process.pid = pid then change process else process }

def here (system : System) (pid : Pid) : FileId :=
  ((system.process? pid).map Process.here).getD Files.root

def masked (system : System) (pid : Pid) (permissions : Nat) : Nat :=
  permissions &&& (0o7777 ^^^ ((system.process? pid).map Process.mask).getD 0o022)

def handle? (system : System) (pid : Pid) (stream : Nat) : Option Handle :=
  (system.process? pid).bind fun process => process.streams.lookup stream

def opening? (system : System) (pid : Pid) (stream : Nat) : Option (Nat × Opening) := do
  let handle ← system.handle? pid stream
  let opening ← system.openings[handle.opening]?
  pure (handle.opening, opening)

/-! ## Files -/

def change (act : Files → Nat → FileId → Except OsError Files) (pid : Pid) (system : System) :
    Except OsError Unit × System :=
  match act system.files system.now (system.here pid) with
  | .ok files => (.ok (), { system with files })
  | .error e => (.error e, system)

def look {α : Type} (act : Files → FileId → α) (pid : Pid) (system : System) : α × System :=
  (act system.files (system.here pid), system)

/-- What can be learned about something without reading it. -/
structure Facts where
  id : FileId
  content : Content
  mode : Nat
  size : Nat
  modified : Nat

def facts (path : String) (follow : Bool) : Pid → System → Except OsError Facts × System :=
  look fun files here => do
    let id ← files.find here follow path
    match files.nodes[id]? with
    | some node =>
        let size := match node.content with
          | .link target => target.length
          | .directory _ _ => 4096
          | _ => (files.bytesOf id).size
        pure ⟨id, node.content, node.mode, size, node.modified⟩
    | none => throw .notFound

def namesIn (path : String) : Pid → System → Except OsError (List String) × System :=
  look fun files here => do
    let id ← files.findDirectory here path
    pure ((files.items id).map Prod.fst)

def makeDirectory (path : String) (permissions : Nat) (pid : Pid) (system : System) :
    Except OsError Unit × System :=
  let mode := system.masked pid permissions
  change (fun files now here => files.makeDirectory now here path mode) pid system

def enter (path : String) (pid : Pid) (system : System) : Except OsError Unit × System :=
  match system.files.findDirectory (system.here pid) path with
  | .ok here => (.ok (), system.modifyProcess pid fun process => { process with here })
  | .error e => (.error e, system)

/-! ## Streams -/

def freeStream (streams : List (Nat × Handle)) (least : Nat) : Nat :=
  ((List.range (streams.length + 1)).map (least + ·)).find?
    (fun number => (streams.lookup number).isNone) |>.getD least

def connect (system : System) (pid : Pid) (stream : Nat) (handle : Handle) : System :=
  system.modifyProcess pid fun process =>
    { process with
      streams := (stream, handle) :: process.streams.filter fun other => other.1 ≠ stream }

def connectFree (system : System) (pid : Pid) (least : Nat) (handle : Handle) : Nat × System :=
  let streams := ((system.process? pid).map Process.streams).getD []
  let stream := freeStream streams least
  (stream, system.connect pid stream handle)

def addOpening (system : System) (opening : Opening) : Nat × System :=
  (system.openings.size, { system with openings := system.openings.push opening })

def modifyPipe (system : System) (pipe : Nat) (change : Pipe → Pipe) : System :=
  { system with pipes := system.pipes.modify pipe change }

def openFile (path : String) (mode : Files.OpenMode) (pid : Pid) (system : System) :
    Except OsError Nat × System :=
  match system.files.open system.now (system.here pid) path mode (system.masked pid 0o666) with
  | .error e => (.error e, system)
  | .ok (files, id) =>
      let system := { system with files }
      let (channel, system) := match files.content? id with
        | some (.fifo pipe) =>
            if mode.writes then
              (Channel.writeEnd pipe, system.modifyPipe pipe fun pipe =>
                { pipe with hadWriter := true })
            else
              (Channel.readEnd pipe, system.modifyPipe pipe fun pipe =>
                { pipe with hadReader := true })
        | _ => (Channel.file id, system)
      let (opening, system) := system.addOpening ⟨channel, mode, 0⟩
      let (stream, system) := system.connectFree pid 0 ⟨opening, false⟩
      (.ok stream, system)

def close (stream : Nat) (pid : Pid) (system : System) : Unit × System :=
  ((), system.modifyProcess pid fun process =>
    { process with streams := process.streams.filter fun other => other.1 ≠ stream })

def duplicate (source target : Nat) (pid : Pid) (system : System) : Except OsError Unit × System :=
  match system.handle? pid source with
  | none => (.error .badStream, system)
  | some handle =>
      if source = target then (.ok (), system)
      else (.ok (), system.connect pid target { handle with isPrivate := false })

def firstPrivateStream : Nat := 10

/-- Keep what a stream is connected to under a number that other programs do not see. -/
def keep (stream : Nat) (pid : Pid) (system : System) : Option Nat × System :=
  match system.handle? pid stream with
  | none => (none, system)
  | some handle =>
      let (kept, system) :=
        system.connectFree pid firstPrivateStream { handle with isPrivate := true }
      (some kept, system)

/-- Make a pipe; the answer is the stream that reads and the one that writes. -/
def makePipe (pid : Pid) (system : System) : (Nat × Nat) × System :=
  let pipe := system.pipes.size
  let system := { system with pipes := system.pipes.push ⟨ByteArray.empty, true, true⟩ }
  let (reading, system) := system.addOpening ⟨.readEnd pipe, .read, 0⟩
  let (writing, system) := system.addOpening ⟨.writeEnd pipe, { writes := true }, 0⟩
  let (first, system) := system.connectFree pid 0 ⟨reading, false⟩
  let (second, system) := system.connectFree pid 0 ⟨writing, false⟩
  ((first, second), system)

def isOpen (system : System) (channel : Channel) : Bool :=
  system.processes.any fun process => process.streams.any fun (_, handle) =>
    (system.openings[handle.opening]?).any fun opening => opening.channel == channel

def seek (system : System) (opening offset : Nat) : System :=
  { system with openings := system.openings.modify opening fun old => { old with offset } }

/-- The bytes that a device gives; all but the ones that give nothing give zeros. -/
def deviceBytes (name : String) (count : Nat) : String :=
  if name = "zero" ∨ name = "full" then String.ofList (List.replicate count '\x00')
  else if name = "random" ∨ name = "urandom" then
    String.ofList ((List.range count).map fun i => Char.ofNat ((i * 167 + 89) % 256))
  else ""

/-- Read at most so many bytes from a stream; at the end there are none.  There is no answer as
long as bytes may still come. -/
def read (stream count : Nat) (pid : Pid) (system : System) :
    Option (Except OsError String) × System :=
  match system.opening? pid stream with
  | none => (some (.error .badStream), system)
  | some (number, opening) =>
      if !opening.mode.reads then (some (.error .badStream), system)
      else
        match opening.channel with
        | .writeEnd _ => (some (.error .badStream), system)
        | .readEnd pipe =>
            let bytes := ((system.pipes[pipe]?).map Pipe.bytes).getD ByteArray.empty
            if bytes.size ≠ 0 then
              let got := bytes.extract 0 count
              let left := bytes.extract count bytes.size
              (some (.ok (Octets.ofBytes got)),
                system.modifyPipe pipe fun pipe => { pipe with bytes := left })
            else if system.isOpen (.writeEnd pipe)
                ∨ (system.pipes[pipe]?).any (fun pipe => !pipe.hadWriter) then (none, system)
            else (some (.ok ""), system)
        | .file id =>
            match system.files.content? id with
            | some (.directory _ _) => (some (.error .isADirectory), system)
            | some (.device name) => (some (.ok (deviceBytes name count)), system)
            | _ =>
                let got := (system.files.bytesOf id).extract opening.offset
                  (opening.offset + count)
                (some (.ok (Octets.ofBytes got)), system.seek number (opening.offset + got.size))

def overwritten (offset : Nat) (new old : ByteArray) : ByteArray :=
  let old := if offset ≤ old.size then old
    else old ++ ByteArray.mk (Array.replicate (offset - old.size) 0)
  new.copySlice 0 old offset new.size false

def pipeRoom : Nat := 65536

/-! ## Signals and ends -/

/-- Those whose parent has ended belong to no one, and no one asks how they end. -/
def nobody : Pid := 1

def finish (pid : Pid) (ended : Ended) (system : System) : System :=
  let processes := system.processes.filterMap fun process =>
    if process.pid = pid then
      if process.parent = nobody then none
      else some { process with streams := [], pending := [], ended? := some ended }
    else if process.parent = pid then
      if process.ended?.isSome then none else some { process with parent := nobody }
    else some process
  let parent? := (system.process? pid).map Process.parent
  { system with
    processes := processes.map fun process =>
      if parent? = some process.pid ∧ process.caught.contains Signal.child then
        { process with pending := process.pending.filter (· ≠ Signal.child) ++ [Signal.child] }
      else process }

def signal (target : Pid) (sent : Signal) (system : System) : Bool × System :=
  match system.process? target with
  | none => (false, system)
  | some process =>
      if sent = 0 ∨ process.ended?.isSome then (true, system)
      else if sent ≠ Signal.kill ∧ process.ignored.contains sent then (true, system)
      else if sent ≠ Signal.kill ∧ process.caught.contains sent then
        (true, system.modifyProcess target fun process =>
          { process with pending := process.pending.filter (· ≠ sent) ++ [sent] })
      else if Signal.quiet.contains sent then (true, system)
      else (true, system.finish target (.killed sent))

/-- What a process wants to happen when a signal comes. -/
inductive Disposition where
  | usual
  | ignore
  | tell
  deriving DecidableEq

def dispose (sent : Signal) (disposition : Disposition) (pid : Pid) (system : System) :
    Unit × System :=
  ((), system.modifyProcess pid fun process =>
    let ignored := process.ignored.filter (· ≠ sent)
    let caught := process.caught.filter (· ≠ sent)
    match disposition with
    | .usual => { process with ignored, caught }
    | .ignore => { process with ignored := sent :: ignored, caught }
    | .tell => { process with ignored, caught := sent :: caught })

def pendingSignals (pid : Pid) (system : System) : List Signal × System :=
  match system.process? pid with
  | none => ([], system)
  | some process =>
      (process.pending, system.modifyProcess pid fun process => { process with pending := [] })

def hasPending (system : System) (pid : Pid) : Bool :=
  (system.process? pid).any fun process => !process.pending.isEmpty

/-- What a process can learn about its children. -/
inductive Waited where
  | child (pid : Pid) (ended : Ended)
  | nothing
  | interrupted

/-- Learn how a child ended, any one or the one that is named.  There is no answer while it runs,
unless a signal comes for one who is `alert`. -/
def wait (which : Option Pid) (alert : Bool) (pid : Pid) (system : System) :
    Option Waited × System :=
  let children := system.processes.filter fun process =>
    process.parent == pid && which.all (· == process.pid)
  match children.findSome? fun child => child.ended?.map fun ended => (child.pid, ended) with
  | some (child, ended) =>
      (some (.child child ended), { system with
        processes := system.processes.filter fun process => process.pid ≠ child })
  | none =>
      if children.isEmpty then (some .nothing, system)
      else if alert ∧ system.hasPending pid then (some .interrupted, system)
      else (none, system)

def collect (pid : Pid) (system : System) : List (Pid × Ended) × System :=
  let ended := system.processes.filterMap fun process =>
    if process.parent = pid then process.ended?.map fun ended => (process.pid, ended) else none
  (ended, { system with
    processes := system.processes.filter fun process =>
      (ended.lookup process.pid).isNone })

def sizeOf (system : System) (id : FileId) : Nat := (system.files.bytesOf id).size

/-- Write to a stream.  There is no answer as long as a pipe is full; who writes to a pipe that no
one reads is sent a signal. -/
def write (stream : Nat) (text : String) (pid : Pid) (system : System) :
    Option (Except OsError Unit) × System :=
  match system.opening? pid stream with
  | none => (some (.error .badStream), system)
  | some (number, opening) =>
      if !opening.mode.writes then (some (.error .badStream), system)
      else
        match opening.channel with
        | .readEnd _ => (some (.error .badStream), system)
        | .writeEnd pipe =>
            match (system.pipes[pipe]?).map measure with
            | none => (some (.error .badStream), system)
            | some (hadReader, size) =>
                if hadReader ∧ !system.isOpen (.readEnd pipe) then
                  (some (.error .brokenPipe), (system.signal pid Signal.pipe).2)
                else if pipeRoom ≤ size then (none, system)
                else
                  (some (.ok ()), system.modifyPipe pipe fun pipe =>
                    { pipe with bytes := pipe.bytes ++ Octets.bytes text })
        | .file id =>
            match (system.files.content? id).map writable with
            | some (.device "full") => (some (.error .noSpace), system)
            | some (.bytes _) =>
                let new := Octets.bytes text
                let offset := if opening.mode.appends then system.sizeOf id else opening.offset
                let system := system.seek number (offset + new.size)
                (some (.ok ()), { system with
                  files := system.files.changeBytes system.now id (overwritten offset new) })
            | _ => (some (.ok ()), system)
where
  measure (pipe : Pipe) : Bool × Nat := (pipe.hadReader, pipe.bytes.size)
  writable (content : Content) : Content :=
    match content with
    | .bytes _ => .bytes ByteArray.empty
    | content => content

/-- The start of a process that shares the streams and the directory of another one. -/
def spawn (parent : Pid) (system : System) : Pid × System :=
  let pid := system.nextPid
  match system.process? parent with
  | none => (pid, system)
  | some process =>
      (pid, { system with
        nextPid := pid + 1
        processes := system.processes ++
          [{ process with pid, parent, pending := [], ended? := none }] })

/-- What a process keeps when it runs another program: the streams that are not private, and the
signals that it ignores. -/
def renew (pid : Pid) (system : System) : System :=
  system.modifyProcess pid fun process =>
    { process with
      streams := process.streams.filter fun (_, handle) => !handle.isPrivate
      caught := []
      pending := [] }

/-- The process and all that descend from it, children first; `fuel` bounds the generations. -/
def family (system : System) : (fuel : Nat) → Pid → List Pid
  | 0, pid => [pid]
  | fuel + 1, pid =>
      let children := system.processes.filter fun process => process.parent == pid
      children.flatMap (fun child => family system fuel child.pid) ++ [pid]

def killFamily (pid : Pid) (system : System) : System :=
  (system.family system.processes.length pid).foldl
    (fun system pid => (system.signal pid Signal.kill).2) system

end System

end FlagSearch.Sandbox
