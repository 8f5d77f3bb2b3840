import FlagSearch.Shell.Expansion

/-!
# Redirections

* `Redirects.prepare` — redirections with their words expanded.
* `Redirects.around` — a computation whose streams go elsewhere.
-/

namespace FlagSearch.Shell

open Sandbox

namespace Redirects

open Running

/-- A redirection with its words expanded. -/
inductive Prepared where
  | file (stream : Nat) (mode : RedirectMode) (path : String)
  | duplicate (stream : Nat) (source? : Option Nat)
  | document (stream : Nat) (word : Word)

def prepare (inner : Expansion.Inner) (redirect : Redirect) : Running Prepared := do
  match redirect with
  | .file stream .duplicate target =>
      let text ← Expansion.text inner target
      if text = "-" then return .duplicate stream none
      else
        match text.toList with
        | [c] => if c.isDigit then return .duplicate stream (some (c.toNat - '0'.toNat))
        | _ => pure ()
        modify fun shell => { shell with line := shell.lineRead }
        fail "Syntax error: Bad fd number"
  | .file stream mode target => return .file stream mode (← Expansion.text inner target)
  | .document stream key =>
      return .document stream (((← get).documents.lookup key).getD [])

def prepareAll (inner : Expansion.Inner) (redirects : List Redirect) : Running (List Prepared) :=
  redirects.mapM (prepare inner)

def openReason (e : OsError) (creates : Bool) : String :=
  match e with
  | .notFound | .notADirectory => if creates then "Directory nonexistent" else "No such file"
  | e => e.reason

def refuse {α : Type} (path : String) (e : OsError) (creates : Bool) : Running α := do
  let act := if creates then "create" else "open"
  fail s!"cannot {act} {path}: {openReason e creates}"

def openPath (mode : RedirectMode) (path : String) : Running Nat := do
  let creates := mode ≠ .read
  let fileMode : Files.OpenMode ← match mode with
    | .read => pure .read
    | .append => pure .append
    | .both => pure { reads := true, writes := true, creates := true }
    | .write =>
        if ← hasOption "noclobber" then
          match ← lift (Routine.facts path true) with
          | .error _ => pure { writes := true, creates := true, exclusive := true }
          | .ok facts =>
              match facts.content with
              | .bytes _ | .tool _ => refuse path .alreadyExists true
              | _ => pure { writes := true }
        else pure .rewrite
    | .replace | .duplicate => pure .rewrite
  match ← lift (Routine.openFile path fileMode) with
  | .ok stream => return stream
  | .error e => refuse path e creates

abbrev Saved := List (Nat × Option Nat)

def save (stream : Nat) (saved : Saved) : Running Saved := do
  if (saved.lookup stream).isSome then return saved
  let kept? ← lift (Routine.ask (System.keep stream))
  if kept?.isSome then lift (Routine.close stream)
  return saved ++ [(stream, kept?)]

def move (source stream : Nat) (saved : Saved) : Running Saved := do
  if source = stream then
    -- The stream was not open before.
    return if (saved.lookup stream).isSome then saved else saved ++ [(stream, none)]
  let saved ← save stream saved
  let _ ← lift (Routine.ask (System.duplicate source stream))
  lift (Routine.close source)
  return saved

def provide (stream : Nat) (text : String) (saved : Saved) : Running Saved := do
  let (reading, writing) ← lift (Routine.ask System.makePipe)
  let _ ← lift (Routine.write writing text)
  lift (Routine.close writing)
  move reading stream saved

def copy (source stream : Nat) (saved : Saved) : Running Saved := do
  let isOpen ← lift (Routine.ask fun pid system =>
    ((system.handle? pid source).isSome, system))
  if !isOpen then fail s!"{source}: {OsError.badStream.reason}"
  if source = stream then return saved
  let saved ← save stream saved
  let _ ← lift (Routine.ask (System.duplicate source stream))
  return saved

def apply (inner : Expansion.Inner) (saved : Saved) (redirect : Prepared) : Running Saved := do
  match redirect with
  | .file stream mode path => move (← openPath mode path) stream saved
  | .duplicate stream none =>
      let saved ← save stream saved
      lift (Routine.close stream)
      return saved
  | .duplicate stream (some source) => copy source stream saved
  | .document stream word => provide stream (← Expansion.document inner word) saved

def errorsBefore (saved : Saved) : Nat := ((saved.lookup 2).bind id).getD 2

def restoreOne (stream : Nat) (kept? : Option Nat) : Running Unit := do
  match kept? with
  | none => lift (Routine.close stream)
  | some kept =>
      let _ ← lift (Routine.ask (System.duplicate kept stream))
      lift (Routine.close kept)

def restore (saved : Saved) : Running Unit :=
  saved.reverse.forM fun (stream, kept?) => restoreOne stream kept?

/-- Carry out redirections; what streams were before is the answer, also when one fails. -/
def applyAll (inner : Expansion.Inner) : Saved → List Prepared → Running (Saved × Option Ending)
  | saved, [] => return (saved, none)
  | saved, redirect :: rest => do
      match ← attempt (apply inner saved redirect) with
      | .ok saved => applyAll inner saved rest
      | .error ending => return (saved, some ending)

end Redirects

end FlagSearch.Shell
