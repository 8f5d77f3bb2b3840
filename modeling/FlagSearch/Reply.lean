import FlagSearch.Outcome
import FlagSearch.SearchError

/-!
# Replies

A `Reply` is how one computation of an outcome ends: with the outcome, with an error that makes
further evaluation pointless, or in a panic.

A panic ends whoever asked for the outcome, up to the first caller that catches it.  A search
catches it where it asks its evaluator.

* `Reply.published` — what a search makes of a reply: a panic counts as a runtime error of the
  candidate.
-/

namespace FlagSearch

/-- How the computation of an outcome ends. -/
inductive Reply where
  | outcome (o : Outcome)
  | error (e : SearchError)
  /-- The computation was torn down, and its caller with it unless that catches the panic. -/
  | panic (message : String)
  deriving DecidableEq

/-- The outcome or error that a reply stands for where panics are caught. -/
def Reply.published : Reply → Except SearchError Outcome
  | .outcome o => .ok o
  | .error e => .error e
  | .panic _ => .ok .runtimeError

end FlagSearch
