import FlagSearch.Shell.Arithmetic
import FlagSearch.Shell.Globbing

/-!
# Expansion

What the words of a script stand for at the time when they are used.  The commands in a word are
carried out by a function that is passed as an argument.

* `Expansion.pieces` — the segments that pieces stand for.
* `Expansion.fields` — the arguments that words stand for.
* `Expansion.text`, `Expansion.value`, `Expansion.pattern`, `Expansion.document` — words that stay
  one text.
-/

namespace FlagSearch.Shell

namespace Expansion

open Running

abbrev Inner := Command → Running String

structure Mode where
  splits : Bool
  isQuoted : Bool
  isInner : Bool

def Mode.full : Mode := ⟨true, false, false⟩

def Mode.whole : Mode := ⟨false, false, false⟩

def Mode.quoted : Mode := ⟨false, true, false⟩

/-! ## Home directories -/

/-- Where home directories are used. -/
inductive Tildes where
  | none
  | front
  | colons
  deriving DecidableEq

def home? (user : String) : Running (Option String) := do
  if user = "" then value? "HOME"
  else return [("root", "/root"), ("daemon", "/usr/sbin"), ("bin", "/bin")].lookup user

/-- The pieces of a text that may start with a tilde; `isLast` says whether nothing follows. -/
def tildeText (isLast : Bool) (chars : List Char) : Running Word := do
  let plain : Word := if chars.isEmpty then [] else [.text chars false]
  match chars with
  | '~' :: rest =>
      let user := rest.takeWhile (· ≠ '/')
      let after := rest.drop user.length
      if after.isEmpty && !isLast then return plain
      match ← home? (String.ofList user) with
      | some home =>
          return .text home.toList true :: if after.isEmpty then [] else [.text after false]
      | none => return plain
  | _ => return plain

def tildeParts (isLast : Bool) : List String → Running Word
  | [] => return []
  | [part] => tildeText isLast part.toList
  | part :: rest => do
      let first ← tildeText true part.toList
      return first ++ .text [':'] false :: (← tildeParts isLast rest)

def tildesLater : Word → Running Word
  | [] => return []
  | .text chars false :: rest => do
      match (String.ofList chars).splitOn ":" with
      | first :: others =>
          let start : Word := if first = "" then [] else [.text first.toList false]
          if others.isEmpty then return start ++ (← tildesLater rest)
          let parts ← tildeParts rest.isEmpty others
          return start ++ .text [':'] false :: parts ++ (← tildesLater rest)
      | [] => tildesLater rest
  | piece :: rest => return piece :: (← tildesLater rest)

def withTildes (tildes : Tildes) (word : Word) : Running Word := do
  match tildes, word with
  | .none, word => return word
  | .front, .text chars false :: rest =>
      return (← tildeText rest.isEmpty chars) ++ rest
  | .front, word => return word
  | .colons, .text chars false :: rest =>
      let first ← tildeParts rest.isEmpty ((String.ofList chars).splitOn ":")
      return first ++ (← tildesLater rest)
  | .colons, word => tildesLater word

/-! ## Parameters -/

inductive Value where
  | missing
  | text (text : String)
  | list (items : List String) (separate : Bool)

def parameter (name : String) : Running Value := do
  let shell ← get
  match name with
  | "@" => return .list shell.arguments true
  | "*" => return .list shell.arguments false
  | "#" => return .text (toString shell.arguments.length)
  | "?" => return .text (toString shell.status)
  | "$" => return .text (toString shell.rootPid)
  | "!" =>
      match shell.lastChild? with
      | some pid => return .text (toString pid)
      | none => return .missing
  | name =>
      if name.toList.all Char.isDigit then
        match Text.ofDigits 10 name.toList with
        | 0 => return .text shell.name
        | number + 1 =>
            match shell.arguments[number]? with
            | some argument => return .text argument
            | none => return .missing
      else
        match ← value? name with
        | some text => return .text text
        | none => return .missing

def Value.isMissing (empty : Bool) : Value → Bool
  | .missing => true
  | .text content => empty && content == ""
  | .list items _ => empty && (items == [] || items == [""])

def Value.items : Value → List String
  | .missing => []
  | .text content => [content]
  | .list items _ => items

def Value.mapEnd (front : Bool) (change : String → String) : Value → Value
  | .missing => .missing
  | .text content => .text (change content)
  | .list items separate =>
      .list (if front then items.modifyHead change
        else (items.reverse.modifyHead change).reverse) separate

def textSegments (mode : Mode) (text : String) : List Segment :=
  let splitting := if mode.isQuoted then .never else .separators
  [⟨splitting, textCells mode.isQuoted text.toList⟩]

def staysSeparate (mode : Mode) (separate : Bool) : Bool :=
  mode.splits && (!mode.isQuoted || separate)

def segments (mode : Mode) : Value → Running (List Segment)
  | .missing => return if mode.isQuoted then [] else [⟨.separators, []⟩]
  | .text text => return textSegments mode text
  | .list items separate => do
      if staysSeparate mode separate then
        let ends : List Cell := [.glyph ⟨Fields.argumentEnd, false⟩]
        let cells := items.map fun item => textCells mode.isQuoted item.toList
        let cells := ends.intercalate cells
        if !mode.isQuoted then return [⟨.separators, cells⟩]
        else return if items.isEmpty then [] else [⟨.arguments, cells⟩]
      else
        let joint ← joint
        return textSegments mode (String.intercalate joint items)

def valueLength (mode : Mode) (value : Value) : Running Nat := do
  match value with
  | .list items separate =>
      let joint ← if staysSeparate mode separate then pure " " else joint
      return (String.intercalate joint items).length
  | value => return (value.items.map String.length).headD 0

/-! ## Pieces -/

def demandSet (name : String) (value : Value) : Running Unit := do
  if value.isMissing false && (← hasOption "nounset") then
    failWholly s!"{name}: parameter not set"

def withoutLastNewlines (text : String) : String :=
  String.ofList (text.toList.reverse.dropWhile (· == '\n')).reverse

mutual

/-- The segments that pieces stand for; `fuel` bounds the levels of expansions in expansions. -/
def pieces (inner : Inner) (mode : Mode) : (fuel : Nat) → Word → Running (List Segment)
  | 0, _ => fail "Bad substitution"
  | fuel + 1, word => do
      let segments ← word.mapM fun piece => piece1 inner mode fuel piece
      return segments.flatten

def piece1 (inner : Inner) (mode : Mode) : (fuel : Nat) → Piece → Running (List Segment)
  | 0, _ => fail "Bad substitution"
  | fuel + 1, piece => do
      match piece with
      | .text chars quoted =>
          let isQuoted := quoted || mode.isQuoted
          let splitting := if mode.isInner && !isQuoted then .separators else .never
          return [⟨splitting, textCells isQuoted chars⟩]
      | .mark => return [⟨.never, [.mark]⟩]
      | .parameter name use quoted =>
          use1 inner { mode with isQuoted := mode.isQuoted || quoted } fuel name use
      | .output command quoted =>
          let text ← inner command
          let text := withoutLastNewlines (String.ofList (text.toList.filter (· ≠ '\x00')))
          return textSegments { mode with isQuoted := mode.isQuoted || quoted } text
      | .sum word quoted =>
          let text ← wholeText inner fuel .quoted word
          let value ← Expression.evalText text
          return textSegments { mode with isQuoted := mode.isQuoted || quoted } (toString value)

def wholeText (inner : Inner) : (fuel : Nat) → Mode → Word → Running String
  | 0, _, _ => fail "Bad substitution"
  | fuel + 1, mode, word => do
      return segmentText (← pieces inner { mode with splits := false, isInner := false } fuel word)

def wholePattern (inner : Inner) : (fuel : Nat) → Word → Running Pattern
  | 0, _ => fail "Bad substitution"
  | fuel + 1, word => do
      let segments ← pieces inner .whole fuel word
      return Pattern.ofGlyphs (← get).dialect (glyphs (segments.flatMap Segment.cells))

def use1 (inner : Inner) (mode : Mode) :
    (fuel : Nat) → (name : String) → Use → Running (List Segment)
  | 0, _, _ => fail "Bad substitution"
  | fuel + 1, name, use => do
      if let .bad := use then fail "Bad substitution"
      let value ← parameter name
      let inside (word : Word) : Running (List Segment) := do
        let word ← withTildes (if mode.isQuoted then .none else .front) word
        pieces inner { mode with isInner := true } fuel word
      let inText (word : Word) : Running String := do
        let word ← withTildes (if mode.isQuoted then .none else .front) word
        wholeText inner fuel mode word
      match use with
      | .value =>
          demandSet name value
          segments mode value
      | .length =>
          demandSet name value
          return textSegments mode (toString (← valueLength mode value))
      | .fallback empty word =>
          if value.isMissing empty then inside word else segments mode value
      | .replacement empty word =>
          if value.isMissing empty then segments mode .missing else inside word
      | .assign empty word =>
          if value.isMissing empty then
            let text ← inText word
            if !isName name then fail s!"{name}: bad variable name"
            assign name text false
            segments mode (.text text)
          else segments mode value
      | .demand empty word =>
          if value.isMissing empty then
            let text ← inText word
            let reason :=
              if !word.isEmpty then text
              else if empty then "parameter not set or null" else "parameter not set"
            failWholly s!"{name}: {reason}"
          else segments mode value
      | .trim front longest pattern =>
          demandSet name value
          let pattern ← wholePattern inner fuel pattern
          let change (text : String) : String :=
            String.ofList (pattern.trim front longest text.toList)
          segments mode (value.mapEnd front change)
      | .bad => return []

end

def levels : Nat := 400

/-! ## Words -/

def fieldPaths (cells : List Cell) : Running (List String) := do
  let field := glyphs cells
  let isPattern := field.any fun glyph =>
    !glyph.isQuoted && (glyph.char == '*' || glyph.char == '?' || glyph.char == '[')
  if isPattern && !(← hasOption "noglob") then
    match ← Globbing.paths field with
    | [] => return [cellText cells]
    | paths => return paths
  else return [cellText cells]

def wordFields (inner : Inner) (word : Word) : Running (List String) := do
  let word ← withTildes .front word
  let segments ← pieces inner .full levels word
  let fields := Fields.split (← separators) segments
  return (← fields.mapM fieldPaths).flatten

def fields (inner : Inner) (words : List Word) : Running (List String) := do
  return (← words.mapM (wordFields inner)).flatten

def text (inner : Inner) (word : Word) : Running String := do
  wholeText inner levels .whole (← withTildes .front word)

def value (inner : Inner) (word : Word) : Running String := do
  wholeText inner levels .whole (← withTildes .colons word)

def pattern (inner : Inner) (word : Word) : Running Pattern := do
  wholePattern inner levels (← withTildes .front word)

def document (inner : Inner) (word : Word) : Running String :=
  wholeText inner levels .quoted word

end Expansion

end FlagSearch.Shell
