import FlagSearch.Text.Unseen

/-!
# Quoted text

Characters and texts inside a diagnostic stand between quotes, with everything escaped that would
make the diagnostic hard to read: the quote itself, the backslash, the common controls by letter,
and every other unseen code point by number.

* `escape` — one character, for a given quote.
* `character`, `string` — the two quoted forms.
-/

namespace FlagSearch.Text

def hex (n : Nat) : List Char := Nat.toDigits 16 n

def escape (quote c : Char) : List Char :=
  if c = '\x00' then ['\\', '0']
  else if c = '\t' then ['\\', 't']
  else if c = '\r' then ['\\', 'r']
  else if c = '\n' then ['\\', 'n']
  else if c = '\\' ∨ c = quote then ['\\', c]
  else if isUnseen c then ['\\', 'u', '\x7b'] ++ hex c.toNat ++ ['\x7d']
  else [c]

def quoted (quote : Char) (text : List Char) : String :=
  String.ofList (quote :: text.flatMap (escape quote) ++ [quote])

def character (c : Char) : String := quoted '\'' [c]

def string (text : String) : String := quoted '"' text.toList

end FlagSearch.Text
