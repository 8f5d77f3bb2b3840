import FlagSearch.Entry
import FlagSearch.Evaluator
import FlagSearch.Memo.Basic
import FlagSearch.Universe

/-!
# The bench of a run

A run scores candidates on a *bench*: the world of the evaluator, the memo, the log, and the
number of the current step.

* `Bench.request` — score one candidate: refuse if the run was cancelled, else answer from the
  memo, else ask the evaluator.
* `Bench.requestAll` — score a batch in order, up to the first failure.
* `Bench.record` — append scored candidates to the log.
* `Scheduler` — any way to score a batch.
-/

namespace FlagSearch

/-- What a run carries from one request to the next. -/
structure Bench (σ : Type) where
  world : σ
  cancelled : Bool
  memo : Memo FlagSet
  log : Array Entry
  step : Nat

/-- A way to score a batch of candidates; results come in the order of the batch. -/
abbrev Scheduler (σ : Type) := List FlagSet → Bench σ → Except Halt (List Scored) × Bench σ

namespace Bench

variable {σ : Type}

def ofWorld (world : σ) (memo : Memo FlagSet) : Bench σ := ⟨world, false, memo, #[], 0⟩

def check (evaluator : Evaluator σ) (bench : Bench σ) : Bench σ :=
  let (asked, world) := evaluator.poll bench.world
  { bench with world, cancelled := bench.cancelled || asked }

/-- Ask the evaluator.  A panic is the fault of the candidate, not of the run. -/
def ask (evaluator : Evaluator σ) (flags : List String) (world : σ) :
    Except SearchError Outcome × σ :=
  let (reply, world) := evaluator.score flags world
  (reply.published, world)

def request (u : Universe) (evaluator : Evaluator σ) (set : FlagSet) (bench : Bench σ) :
    Except Halt Scored × Bench σ :=
  -- A cancelled run does not even get an answer from the memo.
  let bench := bench.check evaluator
  if bench.cancelled then (.error (.error .interrupted), bench)
  else
    match u.resolve set with
    | .error fault => (.error (.fault fault), bench)
    | .ok flags =>
        let (found, memo, world) := bench.memo.getOrCompute set (ask evaluator flags) bench.world
        let bench := { bench with memo, world }
        match found with
        | .ok hit => (.ok ⟨set, flags, hit.outcome, hit.cached⟩, bench)
        | .error e => (.error (.error e), bench)

/-- Score a batch one after the other, up to the first failure. -/
def requestAll (u : Universe) (evaluator : Evaluator σ) : Scheduler σ
  | [], bench => (.ok [], bench)
  | set :: rest, bench =>
      match bench.request u evaluator set with
      | (.error halt, bench) => (.error halt, bench)
      | (.ok scored, bench) =>
          match requestAll u evaluator rest bench with
          | (.error halt, bench) => (.error halt, bench)
          | (.ok others, bench) => (.ok (scored :: others), bench)

def record (bench : Bench σ) (scored : Scored) : Bench σ :=
  { bench with log := bench.log.push (scored.entry bench.step) }

def recordAll (bench : Bench σ) (batch : List Scored) : Bench σ := batch.foldl record bench

end Bench

def Scheduler.widthError : SearchError := .invalidParameter "pool width must be > 0"

/-- A run asks for at least one worker, and is taken to get the threads for as many as it asks. -/
def Scheduler.checkWidth (width : Nat) : Except SearchError Unit :=
  if width = 0 then .error widthError else .ok ()

/-- The scheduler for `width` workers that take the candidates in the order of the batch.  It is the
only one for a single worker, and more workers may also take that order. -/
def Scheduler.ofWidth {σ : Type} (u : Universe) (evaluator : Evaluator σ) (width : Nat) :
    Except SearchError (Scheduler σ) := do
  checkWidth width
  pure (Bench.requestAll u evaluator)

end FlagSearch
