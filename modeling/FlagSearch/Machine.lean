/-!
# Machines

A `Machine` is what a build needs from an operating system: files, scratch directories, child
processes, a clock, and a way to learn that someone wants it all to stop.  Its state is a world of
type `σ`, and every operation is a function on worlds, so a statement about builds can be made for
every machine at once.

* `OsError` — why a machine refuses an operation.
* `Child`, `ChildEnd` — a child process, and how it ended.
* `Machine` — the operations.
-/

namespace FlagSearch

inductive OsError where
  | notPermitted
  | notFound
  | interrupted
  | badFormat
  | badStream
  | noProcess
  | permissionDenied
  | alreadyExists
  | notADirectory
  | isADirectory
  | invalid
  | noSpace
  | brokenPipe
  | nameTooLong
  | notEmpty
  | tooManyLinks
  | notAFile
  | notAText
  | zeroInPath
  | zeroInArgument
  | other (text : String)
  deriving DecidableEq

namespace OsError

def code? : OsError → Option Nat
  | notPermitted => some 1
  | notFound => some 2
  | noProcess => some 3
  | interrupted => some 4
  | badFormat => some 8
  | badStream => some 9
  | permissionDenied => some 13
  | alreadyExists => some 17
  | notADirectory => some 20
  | isADirectory => some 21
  | invalid => some 22
  | noSpace => some 28
  | brokenPipe => some 32
  | nameTooLong => some 36
  | notEmpty => some 39
  | tooManyLinks => some 40
  | notAFile | notAText | zeroInPath | zeroInArgument | other _ => none

def reason : OsError → String
  | notPermitted => "Operation not permitted"
  | notFound => "No such file or directory"
  | interrupted => "Interrupted system call"
  | badFormat => "Exec format error"
  | badStream => "Bad file descriptor"
  | noProcess => "No such process"
  | permissionDenied => "Permission denied"
  | alreadyExists => "File exists"
  | notADirectory => "Not a directory"
  | isADirectory => "Is a directory"
  | invalid => "Invalid argument"
  | noSpace => "No space left on device"
  | brokenPipe => "Broken pipe"
  | nameTooLong => "File name too long"
  | notEmpty => "Directory not empty"
  | tooManyLinks => "Too many levels of symbolic links"
  | notAFile => "the source path is neither a regular file nor a symlink to a regular file"
  | notAText => "stream did not contain valid UTF-8"
  | zeroInPath => "file name contained an unexpected NUL byte"
  | zeroInArgument => "nul byte found in provided data"
  | other text => text

def message (e : OsError) : String :=
  match e.code? with
  | some code => s!"{e.reason} (os error {code})"
  | none => e.reason

end OsError

structure Child where
  program : String
  arguments : List String
  directory : String
  limit : Option Nat
  deriving DecidableEq

inductive ChildEnd where
  | notStarted (e : OsError)
  /-- It ended by itself after `nanos` nanoseconds; a signal counts as no success. -/
  | exited (success : Bool) (nanos : Nat)
  | timedOut
  /-- It was killed because someone wants the search to stop. -/
  | interrupted
  | lost (e : OsError)
  deriving DecidableEq

structure DirectoryItem where
  name : String
  isDirectory : Bool
  deriving DecidableEq

/-- The operations of an operating system on worlds of type `σ`. -/
structure Machine (σ : Type) where
  readText : String → σ → Except OsError String
  writeText : String → String → σ → Except OsError Unit × σ
  copyFile : String → String → σ → Except OsError Unit × σ
  makeDirectories : String → σ → Except OsError Unit × σ
  realPath : String → σ → Except OsError String
  isPresent : String → σ → Bool
  isFile : String → σ → Bool
  listDirectory : String → σ → Except OsError (List DirectoryItem)
  /-- Make a fresh directory below the given one, or where the system wants it. -/
  openScratch : Option String → σ → Except OsError String × σ
  closeScratch : String → σ → σ
  runChild : Child → σ → ChildEnd × σ
  stopRequested : σ → Bool × σ
  now : σ → Nat

end FlagSearch
