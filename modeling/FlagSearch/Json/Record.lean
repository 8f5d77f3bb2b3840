import FlagSearch.Json.Value

/-!
# Records in JSON

A record is read from an object, where members of other names are passed over and none of its own
may come twice, or from an array that gives its fields in order and may end early.  A *tagged*
record is one of several shapes; one of its members, or the first item of the array, names the
shape.

* `fields?` — the fields of a record, missing ones as `none`.
* `tagged?` — the tag of a record, and the record without it.
* `nat?`, `bool?`, `text?`, `binary64?`, `list?` — the values of fields.
* `optional` — a field that may be missing or `null`.
-/

namespace FlagSearch.Json

/-- The largest number of levels read inside of a tagged record, the levels above it included. -/
def levelLimit : Nat := 127

/-- The one member of the given name, if there is one; two are an error. -/
def single? (members : List (Option String × Json)) (name : String) : Option (Option Json) :=
  match members.filter fun member => member.1 = some name with
  | [] => some none
  | [member] => some (some member.2)
  | _ => none

/-- The fields of a record.  Every name must be a whole text, also one that is passed over. -/
def fields? (names : List String) : Json → Option (List (Option Json))
  | object members =>
      if members.all fun member => member.1.isSome then names.mapM (single? members) else none
  | array items =>
      if items.length ≤ names.length then
        some (items.map some ++ List.replicate (names.length - items.length) none)
      else none
  | _ => none

def text? : Json → Option String
  | string text => text
  | _ => none

/-- The tag of a record that stands `level` levels deep, and the record without it.  What the
record holds is read before its shape is known, so it has to be plain. -/
def tagged? (tag : String) (level : Nat) : Json → Option (String × Json)
  | object members =>
      let rest := members.filter fun member => member.1 ≠ some tag
      if (object members).isPlain (levelLimit + 1 - level) then
        match single? members tag with
        | some (some value) => value.text?.map fun name => (name, object rest)
        | _ => none
      else none
  | array (value :: rest) =>
      if (array rest).isPlain (levelLimit + 1 - level) then
        value.text?.map fun name => (name, array rest)
      else none
  | _ => none

/-- A record without fields: the members of an object are passed over, an array must be empty. -/
def unit? : Json → Option Unit
  | object _ => some ()
  | array [] => some ()
  | _ => none

def nat? : Json → Option Nat
  | number n => n.nat?
  | _ => none

def bool? : Json → Option Bool
  | bool b => some b
  | _ => none

def binary64? : Json → Option Binary64
  | number n => n.binary64?
  | _ => none

def list? {α : Type} (read : Json → Option α) : Json → Option (List α)
  | array items => items.mapM read
  | _ => none

def nullable {α : Type} (read : Json → Option α) : Json → Option (Option α)
  | null => some none
  | value => (read value).map some

def optional {α : Type} (read : Json → Option α) : Option Json → Option (Option α)
  | none => some none
  | some value => nullable read value

def withDefault {α : Type} (default : α) (read : Json → Option α) : Option Json → Option α
  | none => some default
  | some value => read value

def required {α : Type} (read : Json → Option α) : Option Json → Option α
  | none => none
  | some value => read value

end FlagSearch.Json
