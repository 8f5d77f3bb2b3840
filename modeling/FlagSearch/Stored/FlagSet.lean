import FlagSearch.FlagSet.Text
import FlagSearch.Json.Record
import FlagSearch.Json.Writer

/-!
# Stored flag sets

A flag set is stored as its text form.

* `FlagSet.json`, `FlagSet.ofJson?` — writing and reading.
-/

namespace FlagSearch.FlagSet

def json (set : FlagSet) : Json := .ofText set.toText

def ofJson? (json : Json) : Option FlagSet := do
  (ofText (← json.text?)).toOption

end FlagSearch.FlagSet
