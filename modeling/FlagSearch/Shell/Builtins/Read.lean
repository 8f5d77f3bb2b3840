import FlagSearch.Shell.Builtins.Basic

/-!
# Reading lines

* `Builtins.read` — a line of input as the values of variables.
-/

namespace FlagSearch.Shell.Builtins

open Running Sandbox

/-- A line, with what a backslash stood before, and whether its end was reached.  The segments are
in reverse order, and `fuel` bounds the characters. -/
def line (isRaw : Bool) :
    (fuel : Nat) → List Segment → (current : List Cell) → Running (List Segment × Bool)
  | 0, done, current => return (⟨.separators, current.reverse⟩ :: done, false)
  | fuel + 1, done, current => do
      let whole : List Segment := ⟨.separators, current.reverse⟩ :: done
      let next : Running (Option Char) := do
        match ← lift (Routine.read 0 1) with
        | .ok text => return text.toList.head?
        | .error _ => return none
      match ← next with
      | none => return (whole, false)
      | some c =>
          if c == '\n' then return (whole, true)
          else if c == '\x00' then line isRaw fuel done current
          else if c == '\\' && !isRaw then
            match ← next with
            | none => return (whole, false)
            | some '\n' => line isRaw fuel whole []
            | some c => line isRaw fuel (⟨.never, [.glyph ⟨c, true⟩]⟩ :: whole) []
          else line isRaw fuel done (.glyph ⟨c, false⟩ :: current)

def longestLine : Nat := 10000000

/-- Give the fields of a line to variables; the ones that get none are emptied. -/
def assignFields : List String → List String → Running Unit
  | [], _ => return
  | name :: names, fields => do
      if !isName name then fail s!"{name}: bad variable name"
      assign name (fields.headD "") false
      assignFields names (fields.drop 1)

def read (arguments : List String) : Running Nat := do
  let (letters, names) ← letters "p:r" arguments
  if names.isEmpty && !(← isRich) then fail "arg count"
  let (segments, isWhole) ← line (hasLetter letters 'r') longestLine [] []
  let segments := segments.reverse
  if names.isEmpty then assign "REPLY" (segmentText segments) false
  else
    let fields := Fields.splitAtMost (some names.length) (← separators) segments
    assignFields names (fields.map cellText)
  return if isWhole then 0 else 1

end FlagSearch.Shell.Builtins
