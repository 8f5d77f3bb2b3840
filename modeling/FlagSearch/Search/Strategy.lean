import FlagSearch.Draws
import FlagSearch.Neighbours
import FlagSearch.Search.Bench
import FlagSearch.Search.Settings
import FlagSearch.TabuList

/-!
# Strategies

A strategy moves through the flag sets one step at a time.

* `Position` — where a run stands and the best it has seen.
* `Strategy` — the strategies, each with what it remembers between steps.
* `Stage` — a strategy, its position and its bench: all that a step can change.
* `Stage.advance` — one step.

A step that fails leaves the position, the log and the memory of the strategy alone: they change
only after the last request of the step was answered.
-/

namespace FlagSearch

structure Position where
  current : Scored
  /-- The cheapest candidate so far, the first one of several. -/
  best : Scored
  bestStep : Nat
  deriving DecidableEq

namespace Position

def start (scored : Scored) : Position := ⟨scored, scored, 0⟩

def improved (position : Position) : Bool := position.current.improvesOn position.best

def promote (position : Position) (step : Nat) : Position :=
  if position.improved then { position with best := position.current, bestStep := step }
  else position

end Position

/-- A strategy with its memory. -/
inductive Strategy where
  | hillClimb (flips : Nat) (draws : Draws)
  | tabu (visited : TabuList)
  | sweep (done : Bool)

namespace Strategy

def name : Strategy → String
  | hillClimb .. => "hill-climb"
  | tabu _ => "tabu"
  | sweep _ => "sweep"

def noFlipsError : SearchError := .invalidParameter "num_change must be > 0"

def ofKind (kind : StrategyKind) (tabuCapacity : Nat) (seed : UInt64) :
    Except SearchError Strategy :=
  match kind with
  | .hillClimb flips =>
      if flips = 0 then .error noFlipsError else .ok (hillClimb flips ⟨seed⟩)
  | .tabu => .ok (tabu (TabuList.ofCapacity tabuCapacity))
  | .sweep => .ok (sweep false)

def begin (strategy : Strategy) (position : Position) : Strategy :=
  match strategy with
  | tabu visited => tabu (visited.insert position.current.set).2
  | other => other

end Strategy

/-- Everything that a step can change. -/
structure Stage (σ : Type) where
  strategy : Strategy
  position : Position
  bench : Bench σ

def singleFlips (set : FlagSet) : Except Halt (List FlagSet) :=
  match neighbours set 1 with
  | .error e => .error (.error e)
  | .ok listing =>
      match listing.toList with
      | .error fault => .error (.fault fault)
      | .ok sets => .ok sets

def admissible (visited : TabuList) (set : FlagSet) : Except Halt (List FlagSet) :=
  (singleFlips set).map fun sets => sets.filter fun neighbour => !visited.contains neighbour

namespace Stage

variable {σ : Type}

def flipsError (flags flips : Nat) : SearchError :=
  .invalidParameter (Settings.Problem.flips flags flips).message

def sweptError : SearchError := .invalidParameter "sweep runs exactly one step"

/-- One step of hill climbing: score the current set with random positions turned over, and move
there if that is strictly cheaper.  The draws are spent even if the candidate cannot be scored. -/
def climb (u : Universe) (evaluator : Evaluator σ) (flips : Nat) (draws : Draws)
    (stage : Stage σ) : Except Halt Unit × Stage σ :=
  if u.size < flips then (.error (.error (flipsError u.size flips)), stage)
  else
    let (positions, draws) := draws.sample u.size flips
    let stage := { stage with strategy := .hillClimb flips draws }
    match stage.position.current.set.flipAll positions with
    | .error fault => (.error (.fault fault), stage)
    | .ok set =>
        match stage.bench.request u evaluator set with
        | (.error halt, bench) => (.error halt, { stage with bench })
        | (.ok candidate, bench) =>
            let bench := bench.record candidate
            -- A candidate that is not cheaper is recorded all the same.
            let position :=
              if candidate.improvesOn stage.position.current then
                { stage.position with current := candidate }.promote bench.step
              else stage.position
            (.ok (), { stage with position, bench })

/-- One step of tabu search: score every neighbour that is not on the list, and move to the first
cheapest one even if it is worse. -/
def roam (scheduler : Scheduler σ) (visited : TabuList) (stage : Stage σ) :
    Except Halt Unit × Stage σ :=
  match admissible visited stage.position.current.set with
  | .error halt => (.error halt, stage)
  | .ok [] => (.error (.error (.noAvailableMove stage.bench.step)), stage)
  | .ok (first :: rest) =>
      match scheduler (first :: rest) stage.bench with
      | (.error halt, bench) => (.error halt, { stage with bench })
      | (.ok [], bench) =>
          (.error (.error (.noAvailableMove stage.bench.step)), { stage with bench })
      | (.ok (candidate :: others), bench) =>
          -- The whole batch is recorded, whichever candidate the search moves to.
          let bench := bench.recordAll (candidate :: others)
          let next := cheapest candidate others
          let position := { stage.position with current := next }.promote bench.step
          (.ok (), ⟨.tabu (visited.insert next.set).2, position, bench⟩)

/-- The step of a sweep: score every neighbour, and move to the first cheapest one if it is
strictly cheaper than the start. -/
def sweepOnce (scheduler : Scheduler σ) (done : Bool) (stage : Stage σ) :
    Except Halt Unit × Stage σ :=
  if done then (.error (.error sweptError), stage)
  else
    match singleFlips stage.position.current.set with
    | .error halt => (.error halt, stage)
    | .ok sets =>
        match scheduler sets stage.bench with
        | (.error halt, bench) => (.error halt, { stage with bench })
        | (.ok batch, bench) =>
            let bench := bench.recordAll batch
            -- The start takes part in the choice and wins ties.
            let next := cheapest stage.position.current batch
            let position := { stage.position with current := next }.promote bench.step
            (.ok (), ⟨.sweep true, position, bench⟩)

def advance (u : Universe) (evaluator : Evaluator σ) (scheduler : Scheduler σ)
    (stage : Stage σ) : Except Halt Unit × Stage σ :=
  match stage.strategy with
  | .hillClimb flips draws => stage.climb u evaluator flips draws
  | .tabu visited => stage.roam scheduler visited
  | .sweep done => stage.sweepOnce scheduler done

end Stage

end FlagSearch
