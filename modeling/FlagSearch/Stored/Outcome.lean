import FlagSearch.Json.Record
import FlagSearch.Json.Writer
import FlagSearch.Outcome

/-!
# Stored outcomes

An outcome is stored as a record tagged `status`.  The flags of a success are not written, since
they stand beside it wherever outcomes are stored; they are read if they are there.

* `Outcome.json`, `Outcome.ofJson?` — writing and reading.
-/

namespace FlagSearch.Outcome

def json : Outcome → Json
  | buildFailure => .object [Json.member "status" (.ofText "BuildFailure")]
  | runtimeError => .object [Json.member "status" (.ofText "RuntimeError")]
  | success elapsed stdev _ =>
      .object <|
        [Json.member "status" (.ofText "Success"), Json.member "elapsed_secs" (.ofBinary64 elapsed)]
          ++ Json.member? "stdev_secs" (stdev.map Json.ofBinary64)

def fieldNames : List String := ["elapsed_secs", "stdev_secs", "flags"]

def successOfJson? (json : Json) : Option Outcome := do
  match ← json.fields? fieldNames with
  | [elapsed, stdev, flags] =>
      let elapsed ← Json.required Json.binary64? elapsed
      let stdev ← Json.optional Json.binary64? stdev
      let flags ← Json.withDefault [] (Json.list? Json.text?) flags
      pure (.success elapsed stdev flags)
  | _ => none

def ofJson? (level : Nat) (json : Json) : Option Outcome := do
  let (status, rest) ← json.tagged? "status" level
  if status = "BuildFailure" then rest.unit?.map fun _ => buildFailure
  else if status = "RuntimeError" then rest.unit?.map fun _ => runtimeError
  else if status = "Success" then successOfJson? rest
  else none

end FlagSearch.Outcome
