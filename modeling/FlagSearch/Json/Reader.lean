import FlagSearch.Json.Tokens

/-!
# Reading JSON

The reader goes through the tokens once and keeps the arrays and objects it is inside of on a
stack, so documents may be nested to any depth.

* `Frame` — an array or object that has been opened.
* `readValue`, `readAfter` — the two states of the reader: before a value, and after one.
* `Json.parse?` — the document that a text is.
-/

namespace FlagSearch.Json

/-- An array or object that is being read; what it holds so far is kept in reverse. -/
inductive Frame where
  | items (seen : List Json)
  | members (seen : List (Option String × Json)) (key : Option String)

mutual

def readValue (stack : List Frame) : List Token → Option Json
  | .scalar value :: rest => readAfter value stack rest
  | .text text :: rest => readAfter (.string text) stack rest
  | .openArray :: .closeArray :: rest => readAfter (.array []) stack rest
  | .openArray :: rest => readValue (.items [] :: stack) rest
  | .openObject :: .closeObject :: rest => readAfter (.object []) stack rest
  | .openObject :: .text key :: .colon :: rest => readValue (.members [] key :: stack) rest
  | _ => none

def readAfter (value : Json) : List Frame → List Token → Option Json
  | [], [] => some value
  | .items seen :: stack, .comma :: rest => readValue (.items (value :: seen) :: stack) rest
  | .items seen :: stack, .closeArray :: rest =>
      readAfter (.array (value :: seen).reverse) stack rest
  | .members seen key :: stack, .comma :: .text next :: .colon :: rest =>
      readValue (.members ((key, value) :: seen) next :: stack) rest
  | .members seen key :: stack, .closeObject :: rest =>
      readAfter (.object ((key, value) :: seen).reverse) stack rest
  | _, _ => none

end

def parse? (text : String) : Option Json :=
  (tokens? text.toList).bind (readValue [])

end FlagSearch.Json
