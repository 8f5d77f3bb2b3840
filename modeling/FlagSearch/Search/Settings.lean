import FlagSearch.FlagSet.Basic
import FlagSearch.SearchError

/-!
# Settings of a search

* `StrategyKind` — which strategy moves through the sets.
* `Settings` — the budget, the capacities and the start of one run.
* `Settings.problem?` — the first thing wrong with settings, for a universe of a given size.
* `Settings.validate` — the same as an error of the search.
-/

namespace FlagSearch

inductive StrategyKind where
  /-- Turn `flips` random positions over and keep what is strictly cheaper. -/
  | hillClimb (flips : Nat)
  /-- Move to the cheapest neighbour that was not visited lately. -/
  | tabu
  /-- Score every single flip of the start, once. -/
  | sweep
  deriving DecidableEq

def StrategyKind.name : StrategyKind → String
  | .hillClimb _ => "hill-climb"
  | .tabu => "tabu"
  | .sweep => "sweep"

structure Settings where
  strategy : StrategyKind
  iterations : Nat
  poolWidth : Nat
  cacheCapacity : Nat
  tabuCapacity : Nat
  /-- The seed of random draws; without one, runs differ. -/
  seed : Option UInt64
  /-- The starting set; without one, a run starts with no flag. -/
  initial : Option FlagSet
  deriving DecidableEq

namespace Settings

def tabu : Settings where
  strategy := .tabu
  iterations := 20
  poolWidth := 1
  cacheCapacity := 10000
  tabuCapacity := 1000
  seed := none
  initial := none

def hillClimb (flips : Nat) : Settings := { tabu with strategy := .hillClimb flips }

def sweep : Settings := { tabu with strategy := .sweep, iterations := 1 }

instance : Inhabited Settings := ⟨tabu⟩

inductive Problem where
  | noFlags
  | noIterations
  | noWorkers
  | noCache
  | flips (flags given : Nat)
  | sweepSteps (given : Nat)
  | initialLength (bits flags : Nat)
  deriving DecidableEq

def Problem.message : Problem → String
  | noFlags => "flag universe is empty"
  | noIterations => "iteration budget must be > 0"
  | noWorkers => "pool width must be > 0"
  | noCache => "cache capacity must be > 0"
  | flips flags given => s!"num_change must be in 1..={flags}, got {given}"
  | sweepSteps given => s!"sweep runs exactly one step, got {given} iterations"
  | initialLength bits flags => s!"initial state has {bits} bits, universe has {flags} flags"

def strategyProblem? (settings : Settings) (flags : Nat) : Option Problem :=
  match settings.strategy with
  | .hillClimb given => if given = 0 ∨ flags < given then some (.flips flags given) else none
  | .sweep => if settings.iterations = 1 then none else some (.sweepSteps settings.iterations)
  | .tabu => none

def initialProblem? (settings : Settings) (flags : Nat) : Option Problem :=
  match settings.initial with
  | some set => if set.length = flags then none else some (.initialLength set.length flags)
  | none => none

/-- The first thing wrong with the settings for a universe of `flags` flags. -/
def problem? (settings : Settings) (flags : Nat) : Option Problem :=
  if flags = 0 then some .noFlags
  else if settings.iterations = 0 then some .noIterations
  else if settings.poolWidth = 0 then some .noWorkers
  else if settings.cacheCapacity = 0 then some .noCache
  else settings.strategyProblem? flags <|> settings.initialProblem? flags

def validate (settings : Settings) (flags : Nat) : Except SearchError Unit :=
  match settings.problem? flags with
  | some problem => .error (.invalidParameter problem.message)
  | none => .ok ()

end Settings

end FlagSearch
