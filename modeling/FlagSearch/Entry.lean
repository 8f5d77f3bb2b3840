import FlagSearch.FlagSet.Basic
import FlagSearch.Outcome

/-!
# Scored candidates and their ranking

* `Scored` — a candidate with its flags and its outcome.
* `Entry` — a scored candidate as it stands in a log, with the step that asked for it.
* `better`, `cheapest` — the first candidate of least cost.
* `ranked`, `isRanked` — a log in order of cost, and the test for that order.
-/

namespace FlagSearch

structure Scored where
  set : FlagSet
  flags : List String
  outcome : Outcome
  /-- Was the outcome known already? -/
  cached : Bool
  deriving DecidableEq

/-- A candidate in the log of a run. -/
structure Entry extends Scored where
  step : Nat
  deriving DecidableEq

namespace Scored

def cost (scored : Scored) : Binary64 := scored.outcome.cost

def improvesOn (left right : Scored) : Bool := left.outcome.improvesOn right.outcome

def entry (scored : Scored) (step : Nat) : Entry := { toScored := scored, step }

end Scored

/-- Keep the candidate chosen so far unless the next one is strictly cheaper. -/
def better (chosen next : Scored) : Scored := if next.improvesOn chosen then next else chosen

def cheapest (first : Scored) (rest : List Scored) : Scored := rest.foldl better first

def Entry.precedes (left right : Entry) : Bool := left.outcome.compare right.outcome != .gt

/-- The entries in order of cost, failures last; entries of equal cost keep their order. -/
def ranked (entries : List Entry) : List Entry := entries.mergeSort Entry.precedes

def isRanked : List Entry → Bool
  | [] => true
  | [_] => true
  | left :: right :: rest => left.precedes right && isRanked (right :: rest)

end FlagSearch
