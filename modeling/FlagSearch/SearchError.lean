import FlagSearch.Fault
import FlagSearch.Text.Quoted

/-!
# Errors and halts of a search

A `SearchError` ends a search and is reported to whoever asked for it.  A candidate that does not
build or run is no error but an outcome.  A `Halt` is what stops a step of a search: an error, or a
fault of the code that asked.

* `SearchError.message`, `SearchError.exitCode` — the wording, and the status a command ends with.
* `SearchError.shown` — the error as a term, for diagnostics.
-/

namespace FlagSearch

/-- Why a search stopped before its budget. -/
inductive SearchError where
  | invalidParameter (what : String)
  | noAvailableMove (step : Nat)
  | evaluatorUnavailable (why : String)
  | interrupted
  deriving DecidableEq

namespace SearchError

def message : SearchError → String
  | invalidParameter what => "invalid parameter: " ++ what
  | noAvailableMove step => s!"no available move at step {step}: every neighbor is tabu"
  | evaluatorUnavailable why => "evaluator unavailable: " ++ why
  | interrupted => "search interrupted"

def exitCode : SearchError → Nat
  | invalidParameter _ => 2
  | noAvailableMove _ => 3
  | evaluatorUnavailable _ => 4
  | interrupted => 130

def shown : SearchError → String
  | invalidParameter what => s!"InvalidParameter({Text.string what})"
  | noAvailableMove step => "NoAvailableMove \x7b step: " ++ toString step ++ " \x7d"
  | evaluatorUnavailable why => s!"EvaluatorUnavailable({Text.string why})"
  | interrupted => "Interrupted"

end SearchError

/-- What stops a step of a search. -/
inductive Halt where
  | error (e : SearchError)
  | fault (f : Fault)
  deriving DecidableEq

end FlagSearch
