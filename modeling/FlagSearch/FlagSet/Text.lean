import FlagSearch.FlagSet.Basic
import FlagSearch.Text.Quoted

/-!
# The text form of a flag set

A set is written as one character per flag, `1` for a selected flag and `0` for any other.

* `toText` — writing.
* `ofText` — reading; it fails with the first character that is no bit.
* `notABit` — the wording of that failure.
-/

namespace FlagSearch.FlagSet

def bitChar (selected : Bool) : Char := if selected then '1' else '0'

def toText (set : FlagSet) : String := String.ofList (set.toBools.map bitChar)

def readBit (c : Char) : Except Char Bool :=
  if c = '0' then .ok false else if c = '1' then .ok true else .error c

def ofText (text : String) : Except Char FlagSet :=
  (text.toList.mapM readBit).map ofBits

def notABit (c : Char) : String := s!"invalid flag bit {Text.character c}"

end FlagSearch.FlagSet
