import FlagSearch.Binary64.Basic

/-!
# Outcomes and their ranking

Evaluating a candidate ends in an `Outcome`.  Failures are data: they are recorded and ranked, as
the worst cost there is.

* `Outcome.cost` — what the search minimises; a failure costs infinity.
* `Outcome.compare`, `Outcome.improvesOn` — the ranking by cost.
* `Outcome.withStdev`, `Outcome.withFlags` — attaching what a success carries besides its time.
-/

namespace FlagSearch

/-- The result of building and running the program with one list of flags. -/
inductive Outcome where
  | buildFailure
  /-- The artifact failed, was killed or took too long. -/
  | runtimeError
  /-- The artifact ran in `elapsed` seconds on average, `stdev` seconds apart, built with
  `flags`. -/
  | success (elapsed : Binary64) (stdev : Option Binary64) (flags : List String)
  deriving DecidableEq

namespace Outcome

def cost : Outcome → Binary64
  | success elapsed _ _ => elapsed
  | buildFailure | runtimeError => Binary64.infinity

def compare (left right : Outcome) : Ordering := Binary64.order left.cost right.cost

def improvesOn (left right : Outcome) : Bool := left.compare right == .lt

def isSuccess : Outcome → Bool
  | success .. => true
  | buildFailure | runtimeError => false

def stdev? : Outcome → Option Binary64
  | success _ stdev _ => stdev
  | buildFailure | runtimeError => none

def withStdev (stdev : Binary64) : Outcome → Outcome
  | success elapsed _ flags => success elapsed (some stdev) flags
  | failure => failure

def withFlags (flags : List String) : Outcome → Outcome
  | success elapsed stdev _ => success elapsed stdev flags
  | failure => failure

def label : Outcome → String
  | buildFailure => "Build failure"
  | runtimeError => "Runtime error"
  | success .. => "Run success"

end Outcome

end FlagSearch
