import FlagSearch.Tools.Showing

/-!
# Tools that order lines

* `SortStyle`, `SortKey` — what lines are ordered by.
* `Tools.sort` — lines in order.
* `Tools.uniq` — lines without the ones that repeat the line before.
-/

namespace FlagSearch.Tools

open Sandbox Work

/-! ## Orders -/

structure SortStyle where
  skipsBlanks : Bool := false
  foldsCase : Bool := false
  isNumeric : Bool := false
  isReverse : Bool := false
  deriving DecidableEq

def SortStyle.add (style : SortStyle) (letter : Char) : SortStyle :=
  match letter with
  | 'b' => { style with skipsBlanks := true }
  | 'f' => { style with foldsCase := true }
  | 'n' => { style with isNumeric := true }
  | 'r' => { style with isReverse := true }
  | _ => style

/-- A part of a line, from one field to another, and how it is compared. -/
structure SortKey where
  first : Nat
  last? : Option Nat
  style : SortStyle

def isBlank (c : Char) : Bool := c == ' ' || c == '\t' || c == '\n'

/-- The length of so many fields at the start of a text; `eats` says whether the separator after
the last one belongs to it. -/
def fieldsLength (separator? : Option Char) (eats : Bool) : (count : Nat) → List Char → Nat
  | 0, _ => 0
  | count + 1, text =>
      match separator? with
      | some separator =>
          let field := (text.takeWhile (· ≠ separator)).length
          let rest := text.drop field
          let size := if rest.isEmpty || (count = 0 && !eats) then field else field + 1
          if rest.isEmpty then size
          else size + fieldsLength separator? eats count (text.drop size)
      | none =>
          let blanks := (text.takeWhile isBlank).length
          let word := ((text.drop blanks).takeWhile fun c => !isBlank c).length
          if blanks + word = 0 then 0
          else blanks + word + fieldsLength separator? eats count (text.drop (blanks + word))

def SortKey.part (key : SortKey) (separator? : Option Char) (line : List Char) : List Char :=
  let start := fieldsLength separator? true (key.first - 1) line
  let stop := match key.last? with
    | none => line.length
    | some last => fieldsLength separator? false last line
  (line.take stop).drop start

/-- The numbers before and after the point of a text, as digits without zeros that do not count,
and whether there is a minus sign. -/
def numberParts (text : List Char) : Bool × List Char × List Char :=
  let text := text.dropWhile isBlank
  let isNegative := text.head? == some '-'
  let text := if isNegative then text.drop 1 else text
  let whole := text.takeWhile Char.isDigit
  let rest := text.drop whole.length
  let places := match rest with
    | '.' :: rest => rest.takeWhile Char.isDigit
    | _ => []
  let whole := whole.dropWhile (· == '0')
  let places := (places.reverse.dropWhile (· == '0')).reverse
  (isNegative && !(whole.isEmpty && places.isEmpty), whole, places)

def comparePositive (a b : List Char × List Char) : Ordering :=
  (compare a.1.length b.1.length).then
    ((compare (String.ofList a.1) (String.ofList b.1)).then
      (compare (String.ofList a.2) (String.ofList b.2)))

def compareNumbers (a b : List Char) : Ordering :=
  match numberParts a, numberParts b with
  | (false, a), (false, b) => comparePositive a b
  | (true, a), (true, b) => comparePositive b a
  | (true, _), (false, _) => .lt
  | (false, _), (true, _) => .gt

def SortStyle.counted (style : SortStyle) (text : List Char) : String :=
  let text := if style.skipsBlanks then text.dropWhile isBlank else text
  String.ofList (if style.foldsCase then text.map Char.toUpper else text)

def SortStyle.compare (style : SortStyle) (a b : List Char) : Ordering :=
  let order := if style.isNumeric then compareNumbers a b
    else Ord.compare (style.counted a) (style.counted b)
  if style.isReverse then order.swap else order

/-! ## Keys -/

def fieldOf? (text : List Char) : Option (Nat × List Char) :=
  let digits := text.takeWhile Char.isDigit
  let letters := text.drop digits.length
  let field := Text.ofDigits 10 digits
  if field = 0 ∨ !letters.all "bfnr".toList.contains then none else some (field, letters)

/-- A key from the text that describes it; without letters of its own it is compared as all
others. -/
def keyOf? (usual : SortStyle) (text : String) : Option SortKey := do
  let styled (letters : List Char) : SortStyle :=
    if letters.isEmpty then usual else letters.foldl SortStyle.add {}
  match Text.pieces ',' text.toList with
  | [first] =>
      let (field, letters) ← fieldOf? first
      some ⟨field, none, styled letters⟩
  | [first, last] =>
      let (field, letters) ← fieldOf? first
      let (stop, more) ← fieldOf? last
      some ⟨field, some stop, styled (letters ++ more)⟩
  | _ => none

def compareLines (separator? : Option Char) (keys : List SortKey) (a b : String) : Ordering :=
  keys.foldl
    (fun order key =>
      order.then (key.style.compare (key.part separator? a.toList) (key.part separator? b.toList)))
    .eq

def withoutEqual (same : String → String → Bool) : List String → List String
  | [] => []
  | [line] => [line]
  | line :: next :: rest =>
      if same line next then withoutEqual same (line :: rest)
      else line :: withoutEqual same (next :: rest)
  termination_by lines => lines.length

def sort : Tool := tool 2 fun arguments => do
  let (choices, paths) ← options {
    letters := "bfk:no:rst:u"
    words := [("ignore-leading-blanks", "b"), ("ignore-case", "f"), ("key=", "k"),
      ("numeric-sort", "n"), ("output=", "o"), ("reverse", "r"), ("stable", "s"),
      ("field-separator=", "t"), ("unique", "u")] } arguments
  let usual := (choices.flatMap fun choice => choice.1.toList).foldl SortStyle.add {}
  let separator? ← (valueOf? choices "t").mapM fun text =>
    match text.toList with
    | [c] => return c
    | _ => giveUp s!"multi-character tab {quoted text}"
  let given ← (choices.filter fun choice => choice.1 == "k").mapM fun (_, text?) => do
    let text := text?.getD ""
    match keyOf? usual text with
    | some key => return key
    | none => giveUp s!"invalid number at field start: invalid count at start of {quoted text}"
  let keys := if given.isEmpty then [⟨1, none, usual⟩] else given
  let order (a b : String) : Ordering :=
    let order := compareLines separator? keys a b
    if has choices "s" || has choices "u" then order
    else order.then (if usual.isReverse then compare b a else compare a b)
  let mut lines : List String := []
  for path in orDash paths do
    match ← contents path with
    | .ok text => lines := lines ++ (linesOf text).1
    | .error (.opening e) => giveUp s!"cannot read: {aboutFile path e}"
    | .error (.reading e) => giveUp s!"read failed: {aboutFile path e}"
  let sorted := lines.mergeSort fun a b => order a b != .gt
  let sorted := if has choices "u" then
    withoutEqual (fun a b => compareLines separator? keys a b == .eq) sorted else sorted
  let text := String.join (sorted.map (· ++ "\n"))
  match valueOf? choices "o" with
  | none => put text
  | some path =>
      if let .error e ← lift (Routine.writeFile path text) then
        giveUp s!"open failed: {aboutFile path e}"

/-! ## Repeated lines -/

def groups (same : String → String → Bool) : List String → List (List String)
  | [] => []
  | line :: rest =>
      match groups same rest with
      | (next :: more) :: others =>
          if same line next then (line :: next :: more) :: others
          else [line] :: (next :: more) :: others
      | others => [line] :: others

def uniq : Tool := tool 1 fun arguments => do
  let (choices, operands) ← options {
    letters := "cdiu"
    words := [("count", "c"), ("repeated", "d"), ("ignore-case", "i"), ("unique", "u")] } arguments
  if let extra :: _ := operands.drop 2 then misuse s!"extra operand {quoted extra}"
  let counted (line : String) : String := if has choices "i" then line.toUpper else line
  let path := operands.headD "-"
  match ← contents path with
  | .error (.opening e) => complain (aboutFile path e)
  | .error (.reading e) => complain s!"error reading {quoted path}: {e.reason}"
  | .ok text =>
      let all := groups (fun a b => counted a == counted b) (linesOf text).1
      let shown := all.filter fun group =>
        !(has choices "d" && group.length = 1) && !(has choices "u" && group.length ≠ 1)
      let result := String.join (shown.map fun group =>
        let start := if has choices "c" then
          Layout.pad { width := 7 } false "" (toString group.length) ++ " " else ""
        start ++ group.headD "" ++ "\n")
      match operands.drop 1 with
      | [target] =>
          if let .error e ← lift (Routine.writeFile target result) then
            complain (aboutFile target e)
      | _ => put result

end FlagSearch.Tools
