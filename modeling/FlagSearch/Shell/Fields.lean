import FlagSearch.Shell.Pattern

/-!
# Fields

An expanded word falls into fields where separators stand, but only in the parts that come from
expansions outside quotes.

* `Cell`, `Segment` — parts of an expanded word.
* `Fields.split` — the fields of a word.
-/

namespace FlagSearch.Shell

/-- A part of an expanded word. -/
inductive Cell where
  | glyph (glyph : Glyph)
  | mark

/-- Where a segment of an expanded word falls into fields. -/
inductive Splitting where
  | never
  | separators
  | arguments
  deriving DecidableEq

/-- A segment of an expanded word. -/
structure Segment where
  splitting : Splitting
  cells : List Cell

def glyphs (cells : List Cell) : List Glyph :=
  cells.filterMap fun cell =>
    match cell with
    | .glyph glyph => some glyph
    | .mark => none

def cellText (cells : List Cell) : String := String.ofList ((glyphs cells).map Glyph.char)

def segmentText (segments : List Segment) : String :=
  cellText (segments.flatMap Segment.cells)

def textCells (isQuoted : Bool) (text : List Char) : List Cell :=
  text.map fun char => .glyph ⟨char, isQuoted⟩

namespace Fields

def usualSeparators : String := " \t\n"

def argumentEnd : Char := '\x00'

structure State where
  done : List (List Cell)
  current : List Cell
  isBlank : Bool
  wasArguments : Bool
  isArguments : Bool
  left? : Option Nat
  cut? : Option Nat

def step (separators : String) (state : State) (cell : Cell) (c : Char) : State :=
  let isSeparator := c == argumentEnd || (!state.isArguments && separators.toList.contains c)
  let isBlank := isSeparator && (c == argumentEnd || usualSeparators.toList.contains c)
  let keep (state : State) : State := { state with current := cell :: state.current }
  if state.left? == some 0 then
    let here := state.current.length
    if isBlank then keep { state with cut? := state.cut? <|> some here }
    else
      let cut? := if isSeparator && state.isBlank then state.cut? else none
      keep { state with cut?, isBlank := false }
  else if state.isBlank then
    -- The blanks after a field belong to the separator, and so does one other separator.
    if isBlank then { state with current := [] }
    else if isSeparator then { state with current := [], isBlank := false }
    else { state with current := [cell], isBlank := false }
  else if isSeparator then
    let wasBlank := isBlank && !(state.wasArguments || state.isArguments)
    if state.current.isEmpty && wasBlank then state
    else
      let state := { state with isBlank := wasBlank }
      match state.left? with
      | some 1 => keep { state with left? := some 0, cut? := some state.current.length }
      | left? =>
          { state with
            done := state.current.reverse :: state.done
            current := []
            left? := left?.map (· - 1) }
  else keep { state with isBlank := false }

def segment (separators : String) (state : State) (segment : Segment) : State :=
  if segment.splitting = .never then
    { state with current := segment.cells.reverse ++ state.current }
  else
    let state := { state with
      wasArguments := state.isArguments
      isArguments := segment.splitting = .arguments
      isBlank := false }
    segment.cells.foldl
      (fun state cell =>
        match cell with
        | .glyph glyph => step separators state cell glyph.char
        | .mark => { state with current := cell :: state.current })
      state

def splitAtMost (limit? : Option Nat) (separators : String) (segments : List Segment) :
    List (List Cell) :=
  let start : State := ⟨[], [], false, false, false, limit?, none⟩
  let final := segments.foldl (segment separators) start
  let last := match final.cut? with
    | some count => final.current.reverse.take count
    | none => final.current.reverse
  let fields := if final.isArguments || !last.isEmpty then last :: final.done else final.done
  fields.reverse

def split (separators : String) (segments : List Segment) : List (List Cell) :=
  splitAtMost none separators segments

end Fields

end FlagSearch.Shell
