import FlagSearch.Build.Compiler
import FlagSearch.Search.Run
import FlagSearch.Session.Results
import FlagSearch.Stored.Report
import FlagSearch.Stored.Universe

/-!
# Sessions

A `Session` joins a flag file, a build plan and the settings of a search, and keeps the reports.

* `Session.prepare` — everything that is checked before the first candidate is built, in order:
  the flag file, the settings, the plan.
* `Session.save` — where a report goes, and writing it there.
* `Session.runWith`, `Session.run` — one search with its report.  A search that is cut short keeps
  what it has seen before its error is told.
* `Report.load` — reading a report back.
-/

namespace FlagSearch

structure SessionOptions where
  flagsPath : String
  settings : Settings
  plan : BuildPlan
  /-- Where the report goes, if not below the results. -/
  output : Option String := none
  resultsRoot : String := Results.defaultRoot
  deriving DecidableEq

/-- A session that is ready to run. -/
structure Session where
  options : SessionOptions
  u : Universe
  compiler : Compiler
  deriving DecidableEq

structure SavedReport where
  report : Report
  path : String
  deriving DecidableEq

namespace Session

variable {σ : Type} (machine : Machine σ)

def loadUniverse (path : String) (world : σ) : Except SearchError Universe :=
  match machine.readText path world with
  | .error e => .error (.invalidParameter s!"cannot read flag file {path}: {e.message}")
  | .ok text => Universe.ofText text

/-- The universe of a session, once its settings are found to fit. -/
def checkedUniverse (options : SessionOptions) (world : σ) : Except Failure Universe :=
  match loadUniverse machine options.flagsPath world with
  | .error e => .error ⟨[.loadingUniverse options.flagsPath], .search e⟩
  | .ok u =>
      match options.settings.validate u.size with
      | .error e => .error ⟨[.checkingSettings], .search e⟩
      | .ok () => .ok u

def prepare (options : SessionOptions) (world : σ) : Except Failure Session × σ :=
  match checkedUniverse machine options world with
  | .error failure => (.error failure, world)
  | .ok u =>
      let (compiler, world) := Compiler.prepare machine options.plan u world
      (compiler.map fun compiler => ⟨options, u, compiler⟩, world)

def prepareParent (path : String) (world : σ) : Except Stop Unit × σ :=
  match Path.parent? path with
  | none | some "" => (.ok (), world)
  | some parent =>
      match machine.makeDirectories parent world with
      | (.error e, world) => (.error (.failure (.refused (.creating parent) e)), world)
      | (.ok (), world) => (.ok (), world)

def place (options : SessionOptions) (strategy : String) (world : σ) : Except Stop String × σ :=
  match options.output with
  | some path =>
      let (made, world) := prepareParent machine path world
      (made.map fun _ => path, world)
  | none => Results.allocate machine ⟨options.resultsRoot⟩ strategy options.flagsPath world

def save (options : SessionOptions) (report : Report) (world : σ) : Except Stop String × σ :=
  match place machine options report.strategy world with
  | (.error stop, world) => (.error stop, world)
  | (.ok path, world) =>
      match machine.writeText path report.text world with
      | (.error e, world) => (.error (.failure (.refused (.writingReport path) e)), world)
      | (.ok (), world) => (.ok path, world)

def abortFailure (e : SearchError) : Failure := ⟨[.searching], .search e⟩

/-- Keep what an ended search leaves. -/
def keep (options : SessionOptions) (ended : Ended) (world : σ) : Except Stop SavedReport × σ :=
  match ended with
  | .complete report =>
      let (path, world) := save machine options report world
      (path.map fun path => ⟨report, path⟩, world)
  | .aborted e none => (.error (.failure (abortFailure e)), world)
  | .aborted e (some seen) =>
      -- If the report cannot be kept, that is the error that is told.
      match save machine options seen world with
      | (.error stop, world) => (.error stop, world)
      | (.ok _, world) => (.error (.failure (abortFailure e)), world)
  | .fault f => (.error (.fault f), world)

/-- Run the search of a session with a scheduler, and keep its report. -/
def runWith (session : Session) (scheduler : Scheduler σ) (entropy : UInt64) (world : σ) :
    Except Stop SavedReport × σ :=
  let (ended, world) :=
    FlagSearch.runWith session.options.settings session.u
      (session.compiler.evaluator machine) scheduler entropy world
  keep machine session.options ended world

/-- Run the search of a session, with workers that take the candidates in order. -/
def run (session : Session) (entropy : UInt64) (world : σ) : Except Stop SavedReport × σ :=
  session.runWith machine (Bench.requestAll session.u (session.compiler.evaluator machine))
    entropy world

end Session

def Report.load {σ : Type} (machine : Machine σ) (path : String) (world : σ) :
    Except Failure Report :=
  match machine.readText path world with
  | .error e => .error (.ofCause (.refused e))
  | .ok text =>
      match Report.ofText? text with
      | some report => .ok report
      | none => .error (.ofCause .malformedReport)

end FlagSearch
