/-!
# Classes of characters

Patterns and tools name classes of characters.  The classes hold ASCII characters only, as they do
where nothing is known about other ones.

* `Text.classContains`, `Text.classNames` — the classes by name.
* `Text.SetPart` — what sets of characters are made of.
-/

namespace FlagSearch.Text

def classContains (name : String) (c : Char) : Bool :=
  let isPrint := 0x20 ≤ c.toNat && c.toNat ≤ 0x7e
  match name with
  | "alpha" => c.isAlpha
  | "digit" => c.isDigit
  | "alnum" => c.isAlphanum
  | "upper" => c.isUpper
  | "lower" => c.isLower
  | "space" => c == ' ' || (0x09 ≤ c.toNat && c.toNat ≤ 0x0d)
  | "blank" => c == ' ' || c == '\t'
  | "punct" => isPrint && c ≠ ' ' && !c.isAlphanum
  | "print" => isPrint
  | "graph" => isPrint && c ≠ ' '
  | "cntrl" => c.toNat < 0x20 || c.toNat == 0x7f
  | "xdigit" => c.isDigit || "abcdefABCDEF".toList.contains c
  | _ => false

def classNames : List String :=
  ["alpha", "digit", "alnum", "upper", "lower", "space", "blank", "punct", "print", "graph",
    "cntrl", "xdigit"]

inductive SetPart where
  | range (first last : Char)
  | named (name : String)
  deriving DecidableEq

def SetPart.contains (part : SetPart) (c : Char) : Bool :=
  match part with
  | .range first last => first ≤ c && c ≤ last
  | .named name => classContains name c

end FlagSearch.Text
