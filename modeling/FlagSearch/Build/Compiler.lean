import FlagSearch.Build.Timing
import FlagSearch.Evaluator
import FlagSearch.Fault
import FlagSearch.Session.Failure
import FlagSearch.Universe

/-!
# Building and timing candidates

A `Compiler` scores a candidate by building it in a scratch directory and running what comes out.

* `Compiler.prepare` — a plan becomes a compiler once its directories are made and its program is
  known.
* `Compiler.stage`, `Compiler.compile`, `Compiler.execute` — the three things done in a scratch
  directory.
* `Compiler.evaluate` — one candidate, from an empty scratch directory to its removal.
* `Compiler.evaluator` — the same as an evaluator of a search.

A candidate that does not build or run is a failure of the candidate.  An error means that no
candidate could be scored.
-/

namespace FlagSearch

/-- A plan with the program that carries it out. -/
structure Compiler where
  plan : BuildPlan
  program : String
  deriving DecidableEq

/-- What one run of an artifact comes to. -/
inductive Execution where
  | finished (nanos : Nat)
  | failed
  | stopped (e : SearchError)
  deriving DecidableEq

/-- What a number of runs of an artifact comes to. -/
inductive Executions where
  | finished (nanos : List Nat)
  | failed
  | stopped (e : SearchError)
  deriving DecidableEq

def Executions.after (nanos : Nat) : Executions → Executions
  | finished rest => finished (nanos :: rest)
  | failed => failed
  | stopped e => stopped e

namespace Compiler

variable {σ : Type} (machine : Machine σ)

/-! ## Preparation -/

def prepareWorkRoot (root : String) (world : σ) : Except Failure String × σ :=
  match machine.makeDirectories root world with
  | (.error e, world) => (.error (.refused (.creatingWorkRoot root) e), world)
  | (.ok (), world) =>
      match machine.realPath root world with
      | .error e => (.error (.refused (.resolvingWorkRoot root) e), world)
      | .ok path => (.ok path, world)

/-- The compiler program: the one of the plan, else the one that the universe names.  Children run
in scratch directories, so a relative path with several steps is replaced by its path from the
root; a bare name is looked up wherever the children run. -/
def program? (plan : BuildPlan) (u : Universe) (world : σ) : Except Failure String :=
  match plan.compiler <|> u.executable with
  | none => .error (.ofCause .noCompiler)
  | some named =>
      if Path.leadsDown named then
        match machine.realPath named world with
        | .error e => .error (.refused (.resolvingCompiler named) e)
        | .ok path => .ok path
      else .ok named

def prepare (plan : BuildPlan) (u : Universe) (world : σ) : Except Failure Compiler × σ :=
  match plan.problem? with
  | some problem => (.error (.ofCause (.plan problem)), world)
  | none =>
      let rooted : Except Failure (Option String) × σ :=
        match plan.workRoot with
        | none => (.ok none, world)
        | some root =>
            let (path, world) := prepareWorkRoot machine root world
            (path.map some, world)
      match rooted with
      | (.error failure, world) => (.error failure, world)
      | (.ok workRoot, world) =>
          let program := program? machine plan u world
          (program.map fun program => ⟨{ plan with workRoot }, program⟩, world)

/-! ## Inside a scratch directory -/

/-- Copy source files into `directory`, each under its own file name, and list the names.  These are
texts, like all names. -/
def stage (directory : String) : List String → σ → Except SearchError (List String) × σ
  | [], world => (.ok [], world)
  | source :: rest, world =>
      match Path.fileName? source with
      | none => (.error (.evaluatorUnavailable s!"{source} has no file name"), world)
      | some name =>
          match machine.copyFile source (Path.join directory name) world with
          | (.error e, world) =>
              (.error (.evaluatorUnavailable s!"cannot copy {source}: {e.message}"), world)
          | (.ok (), world) =>
              let (names, world) := stage directory rest world
              (names.map (name :: ·), world)

def lostError (e : OsError) : SearchError :=
  .evaluatorUnavailable ("cannot wait on child: " ++ e.message)

def compile (compiler : Compiler) (directory : String) (flags sources : List String) (world : σ) :
    Except SearchError Bool × σ :=
  let child : Child :=
    { program := compiler.program
      arguments := compiler.plan.baseArguments ++ flags ++ sources
      directory
      limit := none }
  match machine.runChild child world with
  | (.notStarted e, world) =>
      let message := s!"cannot run compiler {compiler.program}: {e.message}"
      (.error (.evaluatorUnavailable message), world)
  | (.exited success _, world) => (.ok success, world)
  | (.timedOut, world) => (.ok false, world)
  | (.interrupted, world) => (.error .interrupted, world)
  | (.lost e, world) => (.error (lostError e), world)

def execute (compiler : Compiler) (directory artifact : String) (world : σ) : Execution × σ :=
  match machine.stopRequested world with
  | (true, world) => (.stopped .interrupted, world)
  | (false, world) =>
      let child : Child :=
        { program := artifact
          arguments := compiler.plan.runArguments
          directory
          limit := compiler.plan.limit }
      match machine.runChild child world with
      | (.notStarted _, world) => (.failed, world)
      | (.exited true nanos, world) => (.finished nanos, world)
      | (.exited false _, world) => (.failed, world)
      | (.timedOut, world) => (.failed, world)
      | (.interrupted, world) => (.stopped .interrupted, world)
      | (.lost e, world) => (.stopped (lostError e), world)

/-- Run something again and again, up to the first time that it does not succeed. -/
def repeated (execute : σ → Execution × σ) : Nat → σ → Executions × σ
  | 0, world => (.finished [], world)
  | count + 1, world =>
      match execute world with
      | (.finished nanos, world) =>
          let (rest, world) := repeated execute count world
          (rest.after nanos, world)
      | (.failed, world) => (.failed, world)
      | (.stopped e, world) => (.stopped e, world)

def success (flags : List String) (nanos : List Nat) : Outcome :=
  let timing := Timing.ofSamples (nanos.map seconds)
  .success timing.mean timing.stdev flags

/-- The bytes that one time takes. -/
def timeSlot : Nat := 8

/-- Time an artifact: warm-up runs, which do not count, then timed ones. -/
def time (plan : BuildPlan) (flags : List String) (execute : σ → Execution × σ) (world : σ) :
    Reply × σ :=
  match repeated execute plan.warmupRuns world with
  | (.failed, world) => (.outcome .runtimeError, world)
  | (.stopped e, world) => (.error e, world)
  | (.finished _, world) =>
      -- Room for the times is set aside when the warm-up runs are over.
      match reserve plan.runs timeSlot with
      | .error fault => (.panic fault.message, world)
      | .ok () =>
          match repeated execute plan.runs world with
          | (.failed, world) => (.outcome .runtimeError, world)
          | (.stopped e, world) => (.error e, world)
          | (.finished nanos, world) => (.outcome (success flags nanos), world)

def evaluateIn (compiler : Compiler) (flags : List String) (directory : String) (world : σ) :
    Reply × σ :=
  match stage machine directory compiler.plan.sources world with
  | (.error e, world) => (.error e, world)
  | (.ok names, world) =>
      match compile machine compiler directory flags names world with
      | (.error e, world) => (.error e, world)
      | (.ok false, world) => (.outcome .buildFailure, world)
      | (.ok true, world) =>
          -- A compiler that succeeds without leaving its file has failed, too.
          let artifact := Path.join directory compiler.plan.artifact
          if machine.isFile artifact world then
            time compiler.plan flags (execute machine compiler directory artifact) world
          else (.outcome .buildFailure, world)

/-! ## Evaluation -/

/-- Score a candidate.  The scratch directory is gone afterwards, however it ends. -/
def evaluate (compiler : Compiler) (flags : List String) (world : σ) : Reply × σ :=
  match machine.stopRequested world with
  | (true, world) => (.error .interrupted, world)
  | (false, world) =>
      match machine.openScratch compiler.plan.workRoot world with
      | (.error e, world) =>
          (.error (.evaluatorUnavailable ("cannot create scratch directory: " ++ e.message)), world)
      | (.ok directory, world) =>
          let (reply, world) := evaluateIn machine compiler flags directory world
          (reply, machine.closeScratch directory world)

def evaluatorName : String := "compiler"

def evaluator (compiler : Compiler) : Evaluator σ where
  name := evaluatorName
  poll := machine.stopRequested
  score := evaluate machine compiler
  clock := machine.now

end Compiler

end FlagSearch
