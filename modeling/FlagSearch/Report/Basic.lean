import FlagSearch.Entry
import FlagSearch.Memo.Basic

/-!
# Reports

A `Report` is what a run leaves behind, complete or cut short.

* `Report.speedup?` — how many times cheaper the best candidate is than the start.
* `Report.successes` — the candidates that ran.
* `Report.isSorted` — are the results in order of cost?
* `Report.restored` — the report with every success carrying the flags of its entry.
-/

namespace FlagSearch

/-- The results of one run. -/
structure Report where
  strategy : String
  evaluator : String
  iterations : Nat
  stepsCompleted : Nat
  complete : Bool
  error : Option String
  baseline : Entry
  /-- The best candidate, the starting set included. -/
  best : Entry
  /-- The best cost after each step, as long as it is finite. -/
  trajectory : List (Option Binary64)
  cache : MemoStats
  generatedAt : Nat
  results : List Entry
  deriving DecidableEq

namespace Report

def successes (report : Report) : List Entry :=
  report.results.filter fun entry => entry.outcome.isSuccess

/-- The cost of the start over the cost of the best candidate, if both are finite and the latter
is positive. -/
def speedup? (report : Report) : Option Binary64 :=
  let base := report.baseline.outcome.cost
  let best := report.best.outcome.cost
  if base.isFinite && best.isFinite && best.isPositive then some (base / best) else none

def isSorted (report : Report) : Bool := isRanked report.results

/-- An entry whose success carries the flags of the entry. -/
def restoredEntry (entry : Entry) : Entry :=
  { entry with outcome := entry.outcome.withFlags entry.flags }

/-- The report with the flags of every entry put back into its outcome. -/
def restored (report : Report) : Report :=
  { report with
    baseline := restoredEntry report.baseline
    best := restoredEntry report.best
    results := report.results.map restoredEntry }

end Report

end FlagSearch
