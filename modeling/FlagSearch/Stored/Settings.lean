import FlagSearch.Json.Reader
import FlagSearch.Search.Settings
import FlagSearch.Stored.FlagSet

/-!
# Stored settings

Settings are stored as a record; the strategy in it is a record tagged `kind`.

* `Settings.json`, `Settings.ofJson?` — writing and reading.
* `Settings.text`, `Settings.ofText?` — the same as text on one line.
-/

namespace FlagSearch

namespace StrategyKind

def json (kind : StrategyKind) : Json :=
  match kind with
  | hillClimb flips =>
      .object [Json.member "kind" (.ofText kind.name), Json.member "num_change" (.ofNat flips)]
  | tabu | sweep => .object [Json.member "kind" (.ofText kind.name)]

def hillClimbOfJson? (json : Json) : Option StrategyKind := do
  match ← json.fields? ["num_change"] with
  | [flips] => (Json.required Json.nat? flips).map hillClimb
  | _ => none

def ofJson? (level : Nat) (json : Json) : Option StrategyKind := do
  let (kind, rest) ← json.tagged? "kind" level
  if kind = "hill-climb" then hillClimbOfJson? rest
  else if kind = tabu.name then rest.unit?.map fun _ => tabu
  else if kind = sweep.name then rest.unit?.map fun _ => sweep
  else none

end StrategyKind

namespace Settings

def json (settings : Settings) : Json :=
  .object <|
    [Json.member "strategy" settings.strategy.json,
      Json.member "iterations" (.ofNat settings.iterations),
      Json.member "pool_width" (.ofNat settings.poolWidth),
      Json.member "cache_capacity" (.ofNat settings.cacheCapacity),
      Json.member "tabu_capacity" (.ofNat settings.tabuCapacity)]
      ++ Json.member? "seed" (settings.seed.map fun seed => .ofNat seed.toNat)
      ++ Json.member? "initial" (settings.initial.map FlagSet.json)

def fieldNames : List String :=
  ["strategy", "iterations", "pool_width", "cache_capacity", "tabu_capacity", "seed", "initial"]

def ofJson? (json : Json) : Option Settings := do
  match ← json.fields? fieldNames with
  | [strategy, iterations, poolWidth, cacheCapacity, tabuCapacity, seed, initial] =>
      let strategy ← Json.required (StrategyKind.ofJson? 2) strategy
      let iterations ← Json.required Json.nat? iterations
      let poolWidth ← Json.required Json.nat? poolWidth
      let cacheCapacity ← Json.required Json.nat? cacheCapacity
      let tabuCapacity ← Json.required Json.nat? tabuCapacity
      let seed ← Json.optional Json.nat? seed
      let initial ← Json.optional FlagSet.ofJson? initial
      pure
        { strategy, iterations, poolWidth, cacheCapacity, tabuCapacity
          seed := seed.map UInt64.ofNat
          initial }
  | _ => none

def text (settings : Settings) : String := settings.json.compact

def ofText? (text : String) : Option Settings := (Json.parse? text).bind ofJson?

end Settings

end FlagSearch
