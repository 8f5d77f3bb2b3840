import FlagSearch.Fault
import FlagSearch.Path
import FlagSearch.Session.Failure
import FlagSearch.Text.Number

/-!
# Directories of results

Reports are kept in numbered directories, `root/strategy/0`, `root/strategy/1` and so on.  A new
report gets the number after the largest one there is.  Directories whose names are no texts are not
considered; they would have no number.

* `Results.nextNumber` — the number for the next report.
* `Results.allocate` — the next directory, made, and the path of the report in it.
* `Results.reportName` — the file name of a report on a flag file.
-/

namespace FlagSearch

/-- Where an attempt at something in a session stops. -/
inductive Stop where
  | failure (failure : Failure)
  | fault (f : Fault)
  deriving DecidableEq

structure Results where
  root : String
  deriving DecidableEq

namespace Results

def defaultRoot : String := "data/results"

def strategyPath (results : Results) (strategy : String) : String :=
  Path.join results.root strategy

def numbers (items : List DirectoryItem) : List Nat :=
  items.filterMap fun item => if item.isDirectory then Text.word? item.name else none

/-- One more than the largest number, or zero; the largest of all numbers has no successor. -/
def successor (numbers : List Nat) : Except Fault Nat :=
  numbers.foldlM
    (fun next number =>
      if number + 1 < wordLimit then .ok (max next (number + 1)) else .error .wordOverflow)
    0

variable {σ : Type} (machine : Machine σ)

def nextNumber (results : Results) (strategy : String) (world : σ) : Except Stop Nat :=
  let path := results.strategyPath strategy
  if machine.isPresent path world then
    match machine.listDirectory path world with
    | .error e => .error (.failure (.refused (.listing path) e))
    | .ok items =>
        match successor (numbers items) with
        | .ok number => .ok number
        | .error fault => .error (.fault fault)
  else .ok 0

def namelessStem : String := "flags"

def reportName (flagsPath : String) : String :=
  (Path.fileStem? flagsPath).getD namelessStem ++ "_results.json"

def allocate (results : Results) (strategy flagsPath : String) (world : σ) :
    Except Stop String × σ :=
  match nextNumber machine results strategy world with
  | .error stop => (.error stop, world)
  | .ok number =>
      let path := Path.join (results.strategyPath strategy) (toString number)
      match machine.makeDirectories path world with
      | (.error e, world) => (.error (.failure (.refused (.creating path) e)), world)
      | (.ok (), world) => (.ok (Path.join path (reportName flagsPath)), world)

end Results

end FlagSearch
