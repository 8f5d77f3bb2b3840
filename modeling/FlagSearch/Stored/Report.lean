import FlagSearch.Json.Reader
import FlagSearch.Report.Basic
import FlagSearch.Stored.FlagSet
import FlagSearch.Stored.Outcome

/-!
# Report files

A report is stored as a record.  The flags of a success are stored once, with its entry, and are
put back when a report is loaded.

* `Report.json`, `Report.ofJson?` — writing and reading.
* `Report.text` — the text of a report file.
* `Report.ofText?` — loading a report file.
-/

namespace FlagSearch

namespace Entry

def json (entry : Entry) : Json :=
  .object
    [Json.member "step" (.ofNat entry.step), Json.member "set" entry.set.json,
      Json.member "flags" (.ofTexts entry.flags), Json.member "outcome" entry.outcome.json,
      Json.member "cached" (.bool entry.cached)]

def fieldNames : List String := ["step", "set", "flags", "outcome", "cached"]

def ofJson? (level : Nat) (json : Json) : Option Entry := do
  match ← json.fields? fieldNames with
  | [step, set, flags, outcome, cached] =>
      let step ← Json.required Json.nat? step
      let set ← Json.required FlagSet.ofJson? set
      let flags ← Json.required (Json.list? Json.text?) flags
      let outcome ← Json.required (Outcome.ofJson? (level + 1)) outcome
      let cached ← Json.withDefault false Json.bool? cached
      pure { step, set, flags, outcome, cached }
  | _ => none

end Entry

namespace MemoStats

def json (stats : MemoStats) : Json :=
  .object
    [Json.member "hits" (.ofNat stats.hits), Json.member "misses" (.ofNat stats.misses),
      Json.member "entries" (.ofNat stats.entries), Json.member "capacity" (.ofNat stats.capacity)]

def fieldNames : List String := ["hits", "misses", "entries", "capacity"]

def ofJson? (json : Json) : Option MemoStats := do
  match ← json.fields? fieldNames with
  | [hits, misses, entries, capacity] =>
      let hits ← Json.required Json.nat? hits
      let misses ← Json.required Json.nat? misses
      let entries ← Json.required Json.nat? entries
      let capacity ← Json.required Json.nat? capacity
      pure { hits, misses, entries, capacity }
  | _ => none

end MemoStats

namespace Report

def costJson : Option Binary64 → Json
  | some cost => .ofBinary64 cost
  | none => .null

def json (report : Report) : Json :=
  .object <|
    [Json.member "strategy" (.ofText report.strategy),
      Json.member "evaluator" (.ofText report.evaluator),
      Json.member "iterations" (.ofNat report.iterations),
      Json.member "steps_completed" (.ofNat report.stepsCompleted),
      Json.member "complete" (.bool report.complete)]
      ++ Json.member? "error" (report.error.map Json.ofText)
      ++ [Json.member "baseline" report.baseline.json, Json.member "best" report.best.json,
        Json.member "trajectory" (.array (report.trajectory.map costJson)),
        Json.member "cache" report.cache.json,
        Json.member "generated_at_unix_ms" (.ofNat report.generatedAt),
        Json.member "results" (.array (report.results.map Entry.json))]

def fieldNames : List String :=
  ["strategy", "evaluator", "iterations", "steps_completed", "complete", "error", "baseline",
    "best", "trajectory", "cache", "generated_at_unix_ms", "results"]

def ofJson? (json : Json) : Option Report := do
  match ← json.fields? fieldNames with
  | [strategy, evaluator, iterations, stepsCompleted, complete, error, baseline, best, trajectory,
      cache, generatedAt, results] =>
      let strategy ← Json.required Json.text? strategy
      let evaluator ← Json.required Json.text? evaluator
      let iterations ← Json.required Json.nat? iterations
      let stepsCompleted ← Json.required Json.nat? stepsCompleted
      let complete ← Json.required Json.bool? complete
      let error ← Json.optional Json.text? error
      let baseline ← Json.required (Entry.ofJson? 2) baseline
      let best ← Json.required (Entry.ofJson? 2) best
      let trajectory ← Json.required (Json.list? (Json.nullable Json.binary64?)) trajectory
      let cache ← Json.required MemoStats.ofJson? cache
      let generatedAt ← Json.required Json.nat? generatedAt
      let results ← Json.required (Json.list? (Entry.ofJson? 3)) results
      pure
        { strategy, evaluator, iterations, stepsCompleted, complete, error, baseline, best
          trajectory, cache, generatedAt, results }
  | _ => none

def text (report : Report) : String := report.json.pretty

def ofText? (text : String) : Option Report :=
  ((Json.parse? text).bind ofJson?).map restored

end Report

end FlagSearch
