import FlagSearch.Json.Reader
import FlagSearch.Json.Record
import FlagSearch.Json.Writer
import FlagSearch.Universe

/-!
# Flag files

A flag file is a record with the flags of a compiler under `opts`, and what is known about the
compiler under `executable` and `version`.

* `Universe.json`, `Universe.ofJson?` — writing and reading.
* `Universe.ofText` — a flag file; the flags must not be missing.
-/

namespace FlagSearch.Universe

def json (u : Universe) : Json :=
  .object <|
    Json.member? "executable" (u.executable.map Json.ofText)
      ++ Json.member? "version" (u.version.map Json.ofText)
      ++ [Json.member "opts" (.ofTexts u.flags)]

def fieldNames : List String := ["executable", "version", "opts"]

def ofJson? (json : Json) : Option Universe := do
  match ← json.fields? fieldNames with
  | [executable, version, flags] =>
      let executable ← Json.optional Json.text? executable
      let version ← Json.optional Json.text? version
      let flags ← Json.required (Json.list? Json.text?) flags
      pure ⟨executable, version, flags⟩
  | _ => none

def malformedError : SearchError := .invalidParameter "malformed flag file"

def ofText (text : String) : Except SearchError Universe :=
  match (Json.parse? text).bind ofJson? with
  | some u => u.checked
  | none => .error malformedError

end FlagSearch.Universe
