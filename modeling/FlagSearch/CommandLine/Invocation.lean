import FlagSearch.CommandLine.Options
import FlagSearch.FlagSet.Text
import FlagSearch.Session.Basic
import FlagSearch.Text.Number

/-!
# Invocations

The program has two commands: `run` searches, and `inspect` prints a report that was kept.

* `RunArguments`, `InspectArguments` — what the commands are told.
* `Invocation.ofArguments` — the command that arguments ask for.
* `RunArguments.sessionOptions` — what a session is told for a `run`.
-/

namespace FlagSearch.CommandLine

inductive StrategyName where
  | hillClimb
  | tabu
  | sweep
  deriving DecidableEq

namespace StrategyName

def kind (flips : Nat) : StrategyName → StrategyKind
  | hillClimb => .hillClimb flips
  | tabu => .tabu
  | sweep => .sweep

def text (name : StrategyName) : String := (name.kind 0).name

def ofText? (text : String) : Option StrategyName :=
  [hillClimb, tabu, sweep].find? fun name => name.text = text

def climbSteps : Nat := 100

/-- The settings of a strategy, everything else by default. -/
def settings (flips : Nat) : StrategyName → Settings
  | hillClimb => { Settings.hillClimb flips with iterations := climbSteps }
  | tabu => Settings.tabu
  | sweep => Settings.sweep

end StrategyName

structure RunArguments where
  paths : List String := []
  strategy : StrategyName := .tabu
  iterations : Option Nat := none
  flips : Nat := 1
  workers : Nat := 1
  cacheSize : Nat := 10000
  tabuSize : Nat := 1000
  seed : Option Nat := none
  initial : Option FlagSet := none
  limitSeconds : Option Nat := none
  runs : Nat := 1
  warmupRuns : Nat := 0
  compiler : Option String := none
  baseArguments : List String := []
  runArguments : List String := []
  output : Option String := none
  resultsRoot : String := Results.defaultRoot
  deriving DecidableEq

structure InspectArguments where
  paths : List String := []
  top : Nat := 10
  deriving DecidableEq

/-! ## Options -/

def path? (text : String) : Option String := if text = "" then none else some text

def once {α β : Type} (name : String) (read : String → Option β) (store : β → α → α) :
    OptionRule α :=
  ⟨name, false, fun text collected => (read text).map fun value => store value collected⟩

def many {α : Type} (name : String) (store : String → α → α) : OptionRule α :=
  ⟨name, true, fun text collected => some (store text collected)⟩

def runRule : CommandRule RunArguments where
  take text given := (path? text).map fun path => { given with paths := given.paths ++ [path] }
  options :=
    [once "strategy" StrategyName.ofText? fun strategy given => { given with strategy },
      once "iterations" Text.word? fun n given => { given with iterations := some n },
      once "num-change" Text.word? fun flips given => { given with flips },
      once "workers" Text.word? fun workers given => { given with workers },
      once "cache-size" Text.word? fun cacheSize given => { given with cacheSize },
      once "tabu-size" Text.word? fun tabuSize given => { given with tabuSize },
      once "seed" Text.word? fun n given => { given with seed := some n },
      once "initial" (fun text => (FlagSet.ofText text).toOption) fun set given =>
        { given with initial := some set },
      once "timeout-secs" Text.word? fun n given => { given with limitSeconds := some n },
      once "runs" Text.word? fun runs given => { given with runs },
      once "warmup-runs" Text.word? fun warmupRuns given => { given with warmupRuns },
      once "compiler" path? fun path given => { given with compiler := some path },
      many "base-arg" fun text given =>
        { given with baseArguments := given.baseArguments ++ [text] },
      many "run-arg" fun text given => { given with runArguments := given.runArguments ++ [text] },
      once "output" path? fun path given => { given with output := some path },
      once "results-root" path? fun resultsRoot given => { given with resultsRoot }]

def inspectRule : CommandRule InspectArguments where
  take text given :=
    -- There is room for one report.
    if given.paths = [] then (path? text).map fun path => { given with paths := [path] } else none
  options := [once "top" Text.word? fun top given => { given with top }]

/-! ## Commands -/

/-- What the program is asked to do. -/
inductive Invocation where
  | run (flagsPath : String) (sources : List String) (given : RunArguments)
  | inspect (path : String) (top : Nat)
  deriving DecidableEq

def commandNames : List String := ["run", "inspect", helpName]

namespace Invocation

def ofRun (arguments : List String) : Except Refusal Invocation := do
  let given ← runRule.read {} arguments
  match given.paths with
  | flagsPath :: source :: rest => pure (.run flagsPath (source :: rest) given)
  | _ => throw .usage

def ofInspect (arguments : List String) : Except Refusal Invocation := do
  let given ← inspectRule.read {} arguments
  match given.paths with
  | [path] => pure (.inspect path given.top)
  | _ => throw .usage

def ofHelp : List String → Refusal
  | [] => .help
  | [name] => if commandNames.contains name then .help else .usage
  | _ => .usage

def ofArguments : List String → Except Refusal Invocation
  | [] => .error .usage
  | "run" :: rest => ofRun rest
  | "inspect" :: rest => ofInspect rest
  | name :: rest =>
      if name = helpName then .error (ofHelp rest)
      else
        match Argument.ofText name with
        | .named option none => .error (if option = helpName then .help else .usage)
        | .letters text => .error (if text.head? = some 'h' then .help else .usage)
        | _ => .error .usage

end Invocation

/-! ## From arguments to a session -/

namespace RunArguments

def settings (given : RunArguments) : Settings :=
  let start := given.strategy.settings given.flips
  { start with
    iterations := given.iterations.getD start.iterations
    poolWidth := given.workers
    cacheCapacity := given.cacheSize
    tabuCapacity := given.tabuSize
    seed := given.seed.map UInt64.ofNat
    initial := given.initial }

def plan (given : RunArguments) (sources : List String) : BuildPlan :=
  { (BuildPlan.ofSources sources).withRuns given.warmupRuns given.runs with
    compiler := given.compiler
    baseArguments := given.baseArguments
    runArguments := given.runArguments
    limit := given.limitSeconds.map (· * 1000) }

def sessionOptions (given : RunArguments) (flagsPath : String) (sources : List String) :
    SessionOptions where
  flagsPath := flagsPath
  settings := given.settings
  plan := given.plan sources
  output := given.output
  resultsRoot := given.resultsRoot

end RunArguments

end FlagSearch.CommandLine
