/-!
# Texts of octets

Programs of a sandbox know bytes, not characters.  A text of octets is a text in which each
character stands for one byte and so has a number below 256; plain ASCII is the same in both
readings.

* `Octets.ofBytes`, `Octets.bytes` — bytes as a text of octets, and back.
* `Octets.ofText`, `Octets.toText?`, `Octets.toText` — a text by way of its UTF-8 bytes.
-/

namespace FlagSearch.Octets

def character (byte : UInt8) : Char := Char.ofNat byte.toNat

def ofBytes (bytes : ByteArray) : String :=
  bytes.foldl (fun text byte => text.push (character byte)) ""

def bytes (octets : String) : ByteArray :=
  octets.foldl (fun bytes c => bytes.push (UInt8.ofNat c.toNat)) ByteArray.empty

def isAscii (text : String) : Bool := text.toList.all fun c => c.toNat < 0x80

def ofText (text : String) : String := if isAscii text then text else ofBytes text.toUTF8

def toText? (octets : String) : Option String :=
  if isAscii octets then some octets else String.fromUTF8? (bytes octets)

def replacement : Char := '\uFFFD'

/-- The character at the start of some octets, and how many of them it takes. -/
def firstCharacter? (octets : List Char) : Option (Char × Nat) :=
  [1, 2, 3, 4].findSome? fun count =>
    match (toText? (String.ofList (octets.take count))).map String.toList with
    | some [c] => some (c, count)
    | _ => none

/-- The text of some octets, with a mark for every one that belongs to no character; `fuel` bounds
the octets. -/
def readable : (fuel : Nat) → List Char → List Char
  | 0, _ => []
  | _ + 1, [] => []
  | fuel + 1, octet :: rest =>
      match firstCharacter? (octet :: rest) with
      | some (c, count) => c :: readable fuel ((octet :: rest).drop count)
      | none => replacement :: readable fuel rest

def toText (octets : String) : String :=
  match toText? octets with
  | some text => text
  | none => String.ofList (readable octets.length octets.toList)

end FlagSearch.Octets
