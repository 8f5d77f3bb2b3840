import FlagSearch.CommandLine.Execution
import FlagSearch.Sandbox.Machine
import Std.Time.DateTime.Timestamp

/-!
# The program

`main` copies the files below the current directory into a sandbox, carries out the command
there, and writes back what the command made.  Compilers and the programs that they make are shell
scripts; they run in the sandbox, and so no command touches anything but files that are new or that
it changed.
-/

namespace FlagSearch.Program

def readBytes? (path : String) : IO (Option ByteArray) := do
  try
    return some (← IO.FS.readBinFile path)
  catch _ =>
    return none

/-- Permissions of a file: what names its program can be run. -/
def permissions (bytes : ByteArray) : Nat :=
  if "#!".toUTF8.data.isPrefixOf bytes.data then 0o755 else 0o644

def addFile (top : String) (sandbox : Sandbox) (path : String) : IO Sandbox := do
  match ← readBytes? path with
  | some bytes =>
      let full := if Path.isAbsolute path then path else s!"{top}/{path}"
      return sandbox.add full (fun _ => .bytes bytes) (permissions bytes)
  | none => return sandbox

/-- A sandbox with what is below the current directory, and with the files that the arguments
name. -/
def load (arguments : List String) (now : Nat) : IO Sandbox := do
  let top ← IO.currentDir
  let start := (Sandbox.furnished now).addDirectory top.toString 0o755
  let sandbox ← (← top.walkDir).foldlM
    (fun sandbox path => do
      if ← path.isDir then return sandbox.addDirectory path.toString 0o755
      else addFile top.toString sandbox path.toString)
    start
  let sandbox ← arguments.foldlM (addFile top.toString) sandbox
  return sandbox.enter top.toString

def save (old new : Sandbox) : IO Unit := do
  let known := old.below "/"
  for (path, id) in new.below "/" do
    let full := "/" ++ path
    match new.files.content? id with
    | some (.directory _ _) =>
        if (known.lookup path).isNone then IO.FS.createDirAll full
    | some (.bytes bytes) =>
        let before? := (known.lookup path).map old.files.bytesOf
        if before?.map ByteArray.data != some bytes.data then IO.FS.writeBinFile full bytes
    | _ => pure ()

/-- A number that cannot be foreseen. -/
def entropy : IO UInt64 := do
  let bytes ← IO.getRandomBytes 8
  return bytes.toUInt64LE!

def clock : IO Nat := do
  return (← Std.Time.Timestamp.now).toMillisecondsSinceUnixEpoch.val.toNat

end FlagSearch.Program

def main (arguments : List String) : IO UInt32 := do
  let start ← FlagSearch.Program.load arguments (← FlagSearch.Program.clock)
  let (finish, final) := FlagSearch.CommandLine.execute FlagSearch.Sandbox.machine arguments
    (← FlagSearch.Program.entropy) start
  FlagSearch.Program.save start final
  IO.print finish.output
  IO.eprint finish.errors
  return finish.exitCode.toUInt32
