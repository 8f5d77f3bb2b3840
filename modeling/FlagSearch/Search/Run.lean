import FlagSearch.Report.Basic
import FlagSearch.Search.Strategy

/-!
# Runs

A run checks its settings, scores the starting set and lets its strategy take steps until the
budget is used up or something stops it.

* `Ended` — how a run ends: with a report, with an error and perhaps what was seen before it, or
  with a fault.
* `Walk` — the steps of a run so far.
* `runWith`, `run` — a run with any scheduler, and with the one that takes candidates in order.
-/

namespace FlagSearch

inductive Ended where
  | complete (report : Report)
  /-- An error stopped the run; `seen` is what there was before it, if that is worth keeping. -/
  | aborted (error : SearchError) (seen : Option Report)
  | fault (f : Fault)
  deriving DecidableEq

structure Walk (σ : Type) where
  stage : Stage σ
  trajectory : Array (Option Binary64)

/-- The bytes that one step takes in a trajectory. -/
def trajectorySlot : Nat := 16

def finite? (cost : Binary64) : Option Binary64 := if cost.isFinite then some cost else none

namespace Walk

variable {σ : Type}

def ofStage (stage : Stage σ) : Walk σ := ⟨stage, #[]⟩

def step (u : Universe) (evaluator : Evaluator σ) (scheduler : Scheduler σ) (number : Nat)
    (walk : Walk σ) : Except Halt Unit × Walk σ :=
  let stage := { walk.stage with bench := { walk.stage.bench with step := number } }
  match stage.advance u evaluator scheduler with
  | (.error halt, stage) => (.error halt, { walk with stage })
  | (.ok (), stage) =>
      (.ok (), ⟨stage, walk.trajectory.push (finite? stage.position.best.cost)⟩)

/-- Take `count` steps, of which the first one has the number `number`, up to the first that
fails. -/
def steps (u : Universe) (evaluator : Evaluator σ) (scheduler : Scheduler σ) :
    (count number : Nat) → Walk σ → Option Halt × Walk σ
  | 0, _, walk => (none, walk)
  | count + 1, number, walk =>
      match walk.step u evaluator scheduler number with
      | (.error halt, walk) => (some halt, walk)
      | (.ok (), walk) => steps u evaluator scheduler count (number + 1) walk

def report (evaluator : Evaluator σ) (settings : Settings) (baseline : Scored)
    (failure : Option SearchError) (walk : Walk σ) : Report :=
  let position := walk.stage.position
  let bench := walk.stage.bench
  { strategy := walk.stage.strategy.name
    evaluator := evaluator.name
    iterations := settings.iterations
    stepsCompleted := walk.trajectory.size
    complete := failure.isNone
    error := failure.map SearchError.message
    baseline := baseline.entry 0
    best := position.best.entry position.bestStep
    trajectory := walk.trajectory.toList
    cache := bench.memo.stats
    generatedAt := evaluator.clock bench.world
    results := ranked bench.log.toList }

end Walk

/-- Is a report kept when the error stops a run? -/
def SearchError.keepsReport : SearchError → Bool
  | .interrupted | .invalidParameter _ => false
  | .noAvailableMove _ | .evaluatorUnavailable _ => true

def Ended.ofWalk {σ : Type} (evaluator : Evaluator σ) (settings : Settings) (baseline : Scored)
    (halt : Option Halt) (walk : Walk σ) : Ended :=
  match halt with
  | none => .complete (walk.report evaluator settings baseline none)
  | some (.fault f) => .fault f
  | some (.error e) =>
      .aborted e (if e.keepsReport then some (walk.report evaluator settings baseline (some e))
        else none)

def runFrom {σ : Type} (settings : Settings) (u : Universe) (evaluator : Evaluator σ)
    (scheduler : Scheduler σ) (strategy : Strategy) (baseline : Scored) (bench : Bench σ) :
    Ended × σ :=
  let position := Position.start baseline
  let stage : Stage σ := ⟨strategy.begin position, position, bench⟩
  -- Room for the whole trajectory is set aside before the first step.
  match reserve settings.iterations trajectorySlot with
  | .error fault => (.fault fault, bench.world)
  | .ok () =>
      let (halt, walk) :=
        (Walk.ofStage stage).steps u evaluator scheduler settings.iterations 1
      (.ofWalk evaluator settings baseline halt walk, walk.stage.bench.world)

/-- What a run makes before it scores anything. -/
def Settings.prepare (settings : Settings) (flags : Nat) (entropy : UInt64) :
    Except SearchError (Strategy × Memo FlagSet) := do
  settings.validate flags
  let strategy ←
    Strategy.ofKind settings.strategy settings.tabuCapacity (settings.seed.getD entropy)
  let memo ← Memo.ofCapacity settings.cacheCapacity
  Scheduler.checkWidth settings.poolWidth
  pure (strategy, memo)

/-- Run a search.  `scheduler` is the order in which its workers come to finish each batch, and
`entropy` seeds the draws of settings that have no seed. -/
def runWith {σ : Type} (settings : Settings) (u : Universe) (evaluator : Evaluator σ)
    (scheduler : Scheduler σ) (entropy : UInt64) (world : σ) : Ended × σ :=
  match settings.prepare u.size entropy with
  | .error e => (.aborted e none, world)
  | .ok (strategy, memo) =>
      -- The baseline is scored under step zero and is not part of the log.
      let start := settings.initial.getD u.emptySet
      match (Bench.ofWorld world memo).request u evaluator start with
      | (.error (.fault fault), bench) => (.fault fault, bench.world)
      | (.error (.error e), bench) => (.aborted e none, bench.world)
      | (.ok baseline, bench) => runFrom settings u evaluator scheduler strategy baseline bench

/-- Run a search whose workers take the candidates in order, as a single worker always does. -/
def run {σ : Type} (settings : Settings) (u : Universe) (evaluator : Evaluator σ)
    (entropy : UInt64) (world : σ) : Ended × σ :=
  runWith settings u evaluator (Bench.requestAll u evaluator) entropy world

end FlagSearch
