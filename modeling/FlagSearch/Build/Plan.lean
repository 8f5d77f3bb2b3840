import FlagSearch.Path

/-!
# Build plans

A `BuildPlan` says how a candidate is built and timed: which compiler gets which arguments and
sources, which file it is expected to leave, and how often that file is run.

* `BuildPlan.ofSources` — a plan with everything but the sources left to its default.
* `BuildPlan.problem?` — the first thing wrong with a plan.
-/

namespace FlagSearch

structure BuildPlan where
  compiler : Option String := none
  baseArguments : List String := []
  sources : List String
  artifact : String := "a.out"
  runArguments : List String := []
  warmupRuns : Nat := 0
  runs : Nat := 1
  limit : Option Nat := none
  /-- Where scratch directories are made. -/
  workRoot : Option String := none
  deriving DecidableEq

namespace BuildPlan

def ofSources (sources : List String) : BuildPlan := { sources }

def withRuns (plan : BuildPlan) (warmupRuns runs : Nat) : BuildPlan :=
  { plan with warmupRuns, runs := max 1 runs }

inductive Problem where
  | noSources
  | noRuns
  | noArtifact
  | namelessSource (path : String)
  deriving DecidableEq

def Problem.message : Problem → String
  | noSources => "at least one source file is required"
  | noRuns => "runs must be > 0"
  | noArtifact => "artifact name must not be empty"
  | namelessSource path => s!"source path {path} has no file name"

def namelessSource? (plan : BuildPlan) : Option String :=
  plan.sources.find? fun source => (Path.fileName? source).isNone

def problem? (plan : BuildPlan) : Option Problem :=
  if plan.sources.isEmpty then some .noSources
  else if plan.runs = 0 then some .noRuns
  else if plan.artifact.isEmpty then some .noArtifact
  else plan.namelessSource?.map .namelessSource

end BuildPlan

end FlagSearch
