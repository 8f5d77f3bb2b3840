import FlagSearch.FlagSet.Text
import FlagSearch.Binary64.Places
import FlagSearch.Report.Basic

/-!
# Summaries

* `Report.summary` — a report for the terminal: a head and the best entries, one on a line.
-/

namespace FlagSearch

def timePlaces : Nat := 6

def speedupPlaces : Nat := 3

def Entry.describe (entry : Entry) : String :=
  let mark := if entry.cached then " (cached)" else ""
  match entry.outcome with
  | .success elapsed stdev _ =>
      let spread := match stdev with
        | some stdev => " stdev=" ++ stdev.fixed timePlaces ++ "s"
        | none => ""
      entry.outcome.label ++ " time=" ++ elapsed.fixed timePlaces ++ "s" ++ spread
        ++ " flags=[" ++ String.intercalate " " entry.flags ++ "]" ++ mark
  | failure => failure.label ++ mark

namespace Report

/-- A number with spaces in front up to three characters. -/
def rankText (n : Nat) : String :=
  let digits := Nat.toDigits 10 n
  String.ofList (List.replicate (3 - digits.length) ' ' ++ digits)

def headLines (report : Report) : List String :=
  let aborted := match report.error with
    | some error => ["aborted: " ++ error]
    | none => []
  let speedup := match report.speedup? with
    | some ratio => ["speedup: " ++ ratio.fixed speedupPlaces ++ "x"]
    | none => []
  let cache := report.cache
  [s!"strategy={report.strategy}, evaluator={report.evaluator}, "
      ++ s!"steps={report.stepsCompleted}/{report.iterations}, evaluated={report.results.length}, "
      ++ s!"complete={report.complete}, generated_at={report.generatedAt}"]
    ++ aborted
    ++ [s!"cache: hits={cache.hits} misses={cache.misses} entries={cache.entries}/{cache.capacity}",
      "baseline: " ++ report.baseline.describe,
      s!"best (step {report.best.step}): " ++ report.best.describe]
    ++ speedup

def entryLine (entry : Entry) (place : Nat) : String :=
  s!"{rankText (place + 1)}. step={entry.step} bits={entry.set.toText} {entry.describe}"

def summary (report : Report) (top : Nat) : String :=
  let entries := (report.results.take top).zipIdx.map fun (entry, place) => entryLine entry place
  String.join ((report.headLines ++ entries).map (· ++ "\n"))

end Report

end FlagSearch
