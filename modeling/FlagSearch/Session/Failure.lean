import FlagSearch.Build.Plan
import FlagSearch.Machine
import FlagSearch.SearchError

/-!
# Failures of a session

A `Failure` is a cause with the activities that were going on when it arose, the outermost one
first.  The message tells them all; the exit status is a matter of the cause alone, so no activity
can change it.

* `Cause` — what went wrong.
* `Activity` — what was being done.
* `Failure.message`, `Failure.exitCode` — what is printed, and the status of the command.
* `Failure.during` — the same failure with one more activity around it.
-/

namespace FlagSearch

inductive Cause where
  | search (e : SearchError)
  | plan (problem : BuildPlan.Problem)
  | noCompiler
  | refused (e : OsError)
  | malformedReport
  deriving DecidableEq

def Cause.message : Cause → String
  | search e => e.message
  | plan problem => problem.message
  | noCompiler => "no compiler given and the flag universe does not name an executable"
  | refused e => e.message
  | malformedReport => "malformed report"

inductive Activity where
  | loadingUniverse (path : String)
  | checkingSettings
  | searching
  | creatingWorkRoot (path : String)
  | resolvingWorkRoot (path : String)
  | resolvingCompiler (path : String)
  | listing (path : String)
  | creating (path : String)
  | writingReport (path : String)
  deriving DecidableEq

def Activity.message : Activity → String
  | loadingUniverse path => "loading flag universe from " ++ path
  | checkingSettings => "invalid search configuration"
  | searching => "search aborted"
  | creatingWorkRoot path => "creating work root " ++ path
  | resolvingWorkRoot path => "resolving work root " ++ path
  | resolvingCompiler path => "resolving compiler " ++ path
  | listing path => "listing " ++ path
  | creating path => "creating " ++ path
  | writingReport path => "writing report to " ++ path

/-- A cause with the activities around it. -/
structure Failure where
  activities : List Activity
  cause : Cause
  deriving DecidableEq

namespace Failure

def ofCause (cause : Cause) : Failure := ⟨[], cause⟩

def during (activity : Activity) (failure : Failure) : Failure :=
  { failure with activities := activity :: failure.activities }

def refused (activity : Activity) (e : OsError) : Failure := ⟨[activity], .refused e⟩

def message (failure : Failure) : String :=
  String.intercalate ": " (failure.activities.map Activity.message ++ [failure.cause.message])

def exitCode (failure : Failure) : Nat :=
  match failure.cause with
  | .search e => e.exitCode
  | _ => 1

@[simp] theorem exitCode_during (activity : Activity) (failure : Failure) :
    (failure.during activity).exitCode = failure.exitCode :=
  rfl

end Failure

end FlagSearch
