import FlagSearch.Shell.State

/-!
# File names that match

A word with a pattern in it stands for the paths that match, if there are any.

* `Globbing.paths` — the paths that match a word.
-/

namespace FlagSearch.Shell

open Sandbox

namespace Globbing

def components : List Glyph → List (List Glyph)
  | [] => [[]]
  | glyph :: rest =>
      match components rest with
      | first :: others =>
          if glyph.char = '/' then [] :: first :: others else (glyph :: first) :: others
      | [] => [[glyph]]

def startsWithDot (glyphs : List Glyph) : Bool :=
  match glyphs with
  | first :: second :: _ =>
      first.char == '.' || (Pattern.isSign first '\\' && second.char == '.')
  | [first] => first.char == '.'
  | [] => false

/-- The names in a directory that can match, in the plain language with the directory itself and
the one above. -/
def names (directory : String) : Running (List String) := do
  let path := if directory = "" then "." else directory
  match ← Running.lift (Routine.ask (System.namesIn path)) with
  | .ok names => return if ← Running.isRich then names else "." :: ".." :: names
  | .error _ => return []

def matching (dialect : Dialect) : (start : String) → List (List Glyph) → Running (List String)
  | _, [] => return []
  | start, part :: rest => do
      let pattern := Pattern.ofGlyphs dialect part
      if pattern.isSpecial then
        let found := (← names start).filter fun name =>
          (startsWithDot part || !name.startsWith ".") && pattern.matches name.toList
        if rest.isEmpty then return found.map (start ++ ·)
        else
          let below ← found.mapM fun name => matching dialect (start ++ name ++ "/") rest
          return below.flatten
      else
        let path := start ++ String.ofList pattern.literal
        if rest.isEmpty then
          match ← Running.lift (Routine.facts path false) with
          | .ok _ => return [path]
          | .error _ => return []
        else matching dialect (path ++ "/") rest

def paths (glyphs : List Glyph) : Running (List String) := do
  let dialect := (← get).dialect
  if (Pattern.ofGlyphs dialect glyphs).isSpecial then
    let found ← matching dialect "" (components glyphs)
    return found.mergeSort fun first second => first ≤ second
  else return []

end Globbing

end FlagSearch.Shell
