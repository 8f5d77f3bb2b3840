import FlagSearch.Text.Layout
import FlagSearch.Text.Octets

/-!
# Formats

Texts with directives that arguments are put in place of.

* `Format.escaped` — what a backslash in a text makes of the characters after it.
* `Format.print` — a format with its arguments, used again as long as there are any.
-/

namespace FlagSearch.Format

/-- Which characters a backslash gives a meaning to. -/
inductive EscapeStyle where
  | format
  | richFormat
  | argument
  | richArgument
  deriving DecidableEq

namespace EscapeStyle

def isRich (style : EscapeStyle) : Bool := style = richFormat || style = richArgument

def isArgument (style : EscapeStyle) : Bool := style = argument || style = richArgument

end EscapeStyle

def control? (style : EscapeStyle) (c : Char) : Option Char :=
  match c with
  | 'a' => some '\x07'
  | 'b' => some '\x08'
  | 'e' => some '\x1b'
  | 'f' => some '\x0c'
  | 'n' => some '\n'
  | 'r' => some '\x0d'
  | 't' => some '\t'
  | 'v' => some '\x0b'
  | '\\' => some '\\'
  | '"' => if style = .richFormat then some '"' else none
  | _ => none

/-- What comes of the characters after a backslash. -/
inductive Escape where
  | char (c : Char) (rest : List Char)
  | finish

def octets (code : Nat) : List Char := (Octets.ofText (String.singleton (Char.ofNat code))).toList

def escape (style : EscapeStyle) (rest : List Char) : Escape :=
  match rest with
  | [] => .char '\\' []
  | c :: after =>
      match control? style c with
      | some control => .char control after
      | none =>
          if c == 'c' && (style.isArgument || style.isRich) then .finish
          else if Text.isOctalDigit c then
            -- Arguments may have a zero in front of the three digits.
            let (digits, most) := if c == '0' && style.isArgument then (after, 3) else (rest, 3)
            let taken := (digits.take most).takeWhile Text.isOctalDigit
            .char (Char.ofNat (Text.ofDigits 8 taken % 256)) (digits.drop taken.length)
          else if c == 'x' && style.isRich then
            let taken := (after.take 2).takeWhile Text.isHexDigit
            if taken.isEmpty then .char '\\' rest
            else .char (Char.ofNat (Text.ofDigits 16 taken)) (after.drop taken.length)
          else if (c == 'u' || c == 'U') && style.isRich then
            let taken := (after.take (if c == 'u' then 4 else 8)).takeWhile Text.isHexDigit
            match octets (Text.ofDigits 16 taken) with
            | first :: others =>
                if taken.isEmpty then .char '\\' rest
                else .char first (others ++ after.drop taken.length)
            | [] => .char '\\' rest
          else .char '\\' rest

/-- A text with the meaning of its backslashes, and whether the end of all output was in it;
`fuel` bounds the characters. -/
def escapedFrom (style : EscapeStyle) : (fuel : Nat) → List Char → List Char × Bool
  | 0, _ => ([], false)
  | _ + 1, [] => ([], false)
  | fuel + 1, '\\' :: rest =>
      match escape style rest with
      | .finish => ([], true)
      | .char c rest =>
          let (others, stops) := escapedFrom style fuel rest
          (c :: others, stops)
  | fuel + 1, c :: rest =>
      let (others, stops) := escapedFrom style fuel rest
      (c :: others, stops)

/-- A text with the meaning of its backslashes, and whether the end of all output was in it. -/
def escaped (style : EscapeStyle) (text : String) : String × Bool :=
  let (chars, stops) := escapedFrom style (2 * text.length + 1) text.toList
  (String.ofList chars, stops)

/-! ## Directives -/

/-- What is wrong with an argument. -/
inductive Complaint where
  | notNumeric (text : String)
  | notComplete (text : String)
  | outOfRange (text : String)

inductive Refusal where
  | badDirective (text : String)
  | noLetter (text : String)

structure Printed where
  output : String
  complaints : List Complaint
  refusal? : Option Refusal

structure State where
  output : String
  arguments : List String
  complaints : List Complaint

abbrev Printing := ExceptT (Option Refusal) (StateM State)

def add (text : String) : Printing Unit :=
  modify fun state => { state with output := state.output ++ text }

def complain (complaint : Complaint) : Printing Unit :=
  modify fun state => { state with complaints := state.complaints ++ [complaint] }

def next? : Printing (Option String) :=
  modifyGet fun state =>
    match state.arguments with
    | first :: rest => (some first, { state with arguments := rest })
    | [] => (none, state)

def quotedCode? (text : String) : Option Nat :=
  match text.toList with
  | '\'' :: rest | '"' :: rest => some ((rest.head?.map Char.toNat).getD 0)
  | _ => none

/-- Complain about an argument whose number takes so many of its characters. -/
def checkNumber (text : String) (taken : Nat) : Printing Unit := do
  if taken < text.length then
    complain (if taken = 0 then .notNumeric text else .notComplete text)

/-- The whole number at the start of a text, in the base that it shows, and its length. -/
def wholeNumber (text : List Char) : Int × Nat :=
  let blanks := text.takeWhile fun c => c == ' ' || (0x09 ≤ c.toNat && c.toNat ≤ 0x0d)
  let signed := text.drop blanks.length
  let isNegative := signed.head? == some '-'
  let digits := if isNegative || signed.head? == some '+' then signed.drop 1 else signed
  let before := text.length - digits.length
  let read (base skipped : Nat) (isDigit : Char → Bool) : Int × Nat :=
    let taken := (digits.drop skipped).takeWhile isDigit
    let size : Int := Text.ofDigits base taken
    if taken.isEmpty then (0, 0)
    else (if isNegative then -size else size, before + skipped + taken.length)
  match digits with
  | '0' :: x :: first :: _ =>
      if (x == 'x' || x == 'X') && Text.isHexDigit first then read 16 2 Text.isHexDigit
      else read 8 0 Text.isOctalDigit
  | '0' :: _ => read 8 0 Text.isOctalDigit
  | _ => read 10 0 Char.isDigit

def nextWhole (least most : Int) : Printing Int := do
  match ← next? with
  | none => return 0
  | some text =>
      match quotedCode? text with
      | some code => return code
      | none =>
          let (value, taken) := wholeNumber text.toList
          checkNumber text taken
          if value < least ∨ most < value then
            if taken = text.length then complain (.outOfRange text)
            return if value < least then least else most
          return value

def leastWhole : Int := Int64.minValue.toInt

def mostWhole : Int := Int64.maxValue.toInt

def naturalEnd : Int := UInt64.size

def nextFloat : Printing Binary64 := do
  match ← next? with
  | none => return Binary64.zero
  | some text =>
      match quotedCode? text with
      | some code => return Binary64.ofNat code
      | none =>
          let blanks := text.toList.takeWhile (· == ' ')
          match Text.decimal? (text.toList.drop blanks.length) with
          | some (value, taken) =>
              checkNumber text (blanks.length + taken)
              return value
          | none =>
              checkNumber text 0
              return Binary64.zero

def quoted (text : String) : String :=
  let isSafe (c : Char) : Bool := c.isAlphanum || "_-./:=@%+,".toList.contains c
  if text.toList.all isSafe && text ≠ "" then text
  else "'" ++ text.replace "'" "'\\''" ++ "'"

/-- Print the value that a letter asks for; `source` is the directive as it is written. -/
def printValue (isRich : Bool) (layout : Layout) (letter : Char) (source : String) :
    Printing Unit := do
  match letter with
  | 's' => add (layout.ofText ((← next?).getD ""))
  | 'c' => add (layout.ofText (String.ofList (((← next?).getD "").toList.take 1)))
  | 'b' =>
      let style : EscapeStyle := if isRich then .richArgument else .argument
      let (text, stops) := escaped style ((← next?).getD "")
      add (layout.ofText text)
      if stops then throw none
  | 'd' | 'i' => add (layout.ofInteger (← nextWhole leastWhole mostWhole))
  | 'o' | 'u' | 'x' | 'X' =>
      let value ← nextWhole (-naturalEnd + 1) (naturalEnd - 1)
      add (layout.ofNatural letter (value % naturalEnd).toNat)
  | 'e' | 'E' | 'f' | 'F' | 'g' | 'G' => add (layout.ofFloat letter (← nextFloat))
  | 'q' =>
      if isRich then add (layout.ofText (quoted ((← next?).getD "")))
      else throw (some (.badDirective source))
  | _ => throw (some (.badDirective source))

def nextSize (text : List Char) : Printing (Int × List Char) := do
  match text with
  | '*' :: rest => return (← nextWhole leastWhole mostWhole, rest)
  | text =>
      let digits := text.takeWhile Char.isDigit
      return (Text.ofDigits 10 digits, text.drop digits.length)

def isLengthLetter (c : Char) : Bool := "hlLjzt".toList.contains c

/-- Print the directive at the start of a text, after its percent sign; the rest is the answer. -/
def printDirective (isRich : Bool) (text : List Char) : Printing (List Char) := do
  let flags := text.takeWhile fun c => "#-+ 0".toList.contains c
  let layout := flags.foldl Layout.addFlag {}
  let (width, rest) ← nextSize (text.drop flags.length)
  let layout : Layout := { layout with
    width := width.natAbs
    isLeft := layout.isLeft || width < 0 }
  let (layout, rest) ← match rest with
    | '.' :: rest => do
        let (precision, rest) ← nextSize rest
        let precision? := if precision < 0 then none else some precision.toNat
        pure ({ layout with precision? }, rest)
    | rest => pure (layout, rest)
  let rest := if isRich then rest.dropWhile isLengthLetter else rest
  let source := String.ofList ('%' :: text.take (text.length - rest.length + 1))
  match rest with
  | [] => throw (some (.noLetter source))
  | letter :: rest =>
      printValue isRich layout letter source
      return rest

def printOnce (isRich : Bool) : (fuel : Nat) → List Char → Printing Unit
  | 0, _ => return
  | _ + 1, [] => return
  | fuel + 1, '%' :: '%' :: rest => do
      add "%"
      printOnce isRich fuel rest
  | fuel + 1, '%' :: rest => do
      let rest ← printDirective isRich rest
      printOnce isRich fuel rest
  | fuel + 1, '\\' :: rest => do
      match escape (if isRich then .richFormat else .format) rest with
      | .finish => throw none
      | .char c rest =>
          add (String.singleton c)
          printOnce isRich fuel rest
  | fuel + 1, c :: rest => do
      add (String.singleton c)
      printOnce isRich fuel rest

/-- Print a format as long as there are arguments that it takes; `fuel` bounds the rounds. -/
def printRounds (isRich : Bool) (format : List Char) : (fuel : Nat) → Printing Unit
  | 0 => return
  | fuel + 1 => do
      let before := (← get).arguments.length
      printOnce isRich (2 * format.length + 1) format
      let after := (← get).arguments.length
      if after ≠ 0 ∧ after < before then printRounds isRich format fuel

def print (isRich : Bool) (format : String) (arguments : List String) : Printed :=
  let start : State := ⟨"", arguments, []⟩
  let (result, final) :=
    ((printRounds isRich format.toList (arguments.length + 1)).run).run start
  let refusal? := match result with
    | .ok () => none
    | .error refusal? => refusal?
  ⟨final.output, final.complaints, refusal?⟩

end FlagSearch.Format
