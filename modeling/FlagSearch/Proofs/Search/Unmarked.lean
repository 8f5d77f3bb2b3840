import FlagSearch.Proofs.Search.Best
import FlagSearch.Proofs.Search.Phases

/-!
# What a search shows without its memo

A candidate carries a mark that says whether the memo knew it.  Nothing that a strategy decides
looks at the mark, so erasing the marks, the memo and the world from a stage leaves a stage that
moves in the same way.

* `Scored.unmarked`, `Entry.unmarked`, `Position.unmarked` — the marks erased.
* `Report.unmarked`, `Ended.unmarked` — a report without marks, counts of the memo and time.
* `Bench.bare`, `Stage.bare`, `Walk.bare` — a bench, a stage and a walk that have no memo.
* `Stage.tries_bare`, `Stage.drawn_bare`, `Stage.moved_bare` — the phases of a step that do not
  score are the same for both.
-/

namespace FlagSearch

/-! ## Candidates -/

/-- The candidate as if it had been scored without a memo. -/
def Scored.unmarked (scored : Scored) : Scored := { scored with cached := false }

def Entry.unmarked (entry : Entry) : Entry := { entry with cached := false }

@[simp] theorem Scored.unmarked_set (scored : Scored) : scored.unmarked.set = scored.set := rfl

@[simp] theorem Scored.unmarked_improvesOn (scored other : Scored) :
    scored.unmarked.improvesOn other.unmarked = scored.improvesOn other := rfl

theorem Scored.unmarked_entry (scored : Scored) (step : Nat) :
    scored.unmarked.entry step = (scored.entry step).unmarked := rfl

theorem cheapest_unmarked (first : Scored) (rest : List Scored) :
    cheapest first.unmarked (rest.map Scored.unmarked) = (cheapest first rest).unmarked := by
  rw [cheapest, cheapest, List.foldl_map]
  refine List.foldl_hom Scored.unmarked fun chosen next => ?_
  rw [better, better, Scored.unmarked_improvesOn, apply_ite Scored.unmarked]

theorem ranked_unmarked (entries : List Entry) :
    ranked (entries.map Entry.unmarked) = (ranked entries).map Entry.unmarked := by
  have alike : ∀ left ∈ entries, ∀ right ∈ entries,
      left.precedes right = left.unmarked.precedes right.unmarked := fun _ _ _ _ => rfl
  exact (List.map_mergeSort alike).symm

/-! ## Positions -/

def Position.unmarked (position : Position) : Position :=
  { position with current := position.current.unmarked, best := position.best.unmarked }

theorem Position.promote_unmarked (position : Position) (step : Nat) :
    (position.promote step).unmarked = position.unmarked.promote step := by
  have same : position.unmarked.improved = position.improved := rfl
  simp only [promote, same]
  split <;> rfl

/-! ## Benches, stages and walks -/

section Bare

variable {σ : Type} {u : Universe}

/-- The bench of a search without a memo. -/
def Bench.bare (bench : Bench σ) : Bench Unit :=
  ⟨(), false, ⟨0, [], 0, 0⟩, bench.log.map Entry.unmarked, bench.step⟩

theorem Bench.recordAll_bare (bench : Bench σ) (batch : List Scored) :
    (bench.recordAll batch).bare = bench.bare.recordAll (batch.map Scored.unmarked) := by
  induction batch generalizing bench with
  | nil => rfl
  | cons scored batch ih =>
    have one : (bench.record scored).bare = bench.bare.record scored.unmarked := by
      simp [bare, record, Scored.unmarked_entry]
    rw [List.map_cons, recordAll, List.foldl_cons, ← recordAll, ih, one]
    rfl

namespace Stage

def bare (stage : Stage σ) : Stage Unit :=
  ⟨stage.strategy, stage.position.unmarked, stage.bench.bare⟩

theorem tries_bare (stage : Stage σ) : stage.bare.tries u = stage.tries u := rfl

theorem drawn_bare (stage : Stage σ) : (stage.drawn u).bare = stage.bare.drawn u := by
  obtain ⟨strategy, position, bench⟩ := stage
  cases strategy with
  | hillClimb flips draws =>
    simp only [drawn, bare]
    split <;> rfl
  | tabu visited => rfl
  | sweep done => rfl

theorem destination_unmarked (strategy : Strategy) (position : Position) (step : Nat)
    (batch : List Scored) :
    destination strategy position.unmarked step (batch.map Scored.unmarked) =
      ((destination strategy position step batch).1,
        (destination strategy position step batch).2.unmarked) := by
  -- Strategies compare costs, and the mark has no part in a cost.
  cases strategy with
  | hillClimb flips draws =>
    cases batch with
    | nil => rfl
    | cons candidate others =>
      have same : candidate.unmarked.improvesOn position.unmarked.current =
          candidate.improvesOn position.current := rfl
      simp only [destination, List.map_cons, same]
      split
      · rw [Position.promote_unmarked]
        rfl
      · rfl
  | tabu visited =>
    cases batch with
    | nil => rfl
    | cons candidate others =>
      simp only [destination, List.map_cons, cheapest_unmarked, Position.promote_unmarked]
      rfl
  | sweep done =>
    have chosen : cheapest position.unmarked.current (batch.map Scored.unmarked) =
        (cheapest position.current batch).unmarked := cheapest_unmarked position.current batch
    simp only [destination, chosen, Position.promote_unmarked]
    rfl

theorem moved_bare (stage : Stage σ) (batch : List Scored) (bench : Bench σ) :
    (stage.moved batch bench).bare = stage.bare.moved (batch.map Scored.unmarked) bench.bare := by
  have there : destination stage.bare.strategy stage.bare.position bench.bare.step
      (batch.map Scored.unmarked) = _ :=
    destination_unmarked stage.strategy stage.position bench.step batch
  rw [moved, moved, there, bare, Bench.recordAll_bare]

end Stage

def Walk.bare (walk : Walk σ) : Walk Unit := ⟨walk.stage.bare, walk.trajectory⟩

theorem Walk.entering_bare (walk : Walk σ) (number : Nat) :
    (walk.entering number).bare = walk.bare.entering number := rfl

end Bare

/-! ## Reports -/

def Report.unmarked (report : Report) : Report :=
  { report with
    baseline := report.baseline.unmarked
    best := report.best.unmarked
    cache := ⟨0, 0, 0, 0⟩
    generatedAt := 0
    results := report.results.map Entry.unmarked }

def Ended.unmarked : Ended → Ended
  | .complete report => .complete report.unmarked
  | .aborted e seen => .aborted e (seen.map Report.unmarked)
  | .fault f => .fault f

@[simp] theorem Ended.unmarked_ofHalt (halt : Halt) : (ofHalt halt).unmarked = ofHalt halt := by
  cases halt <;> rfl

theorem Ended.report?_unmarked (ended : Ended) :
    ended.unmarked.report? = ended.report?.map Report.unmarked := by
  cases ended <;> rfl

def Evaluator.named (name : String) : Evaluator Unit where
  name := name
  poll _ := (false, ())
  score _ _ := (.outcome .runtimeError, ())
  clock _ := 0

section Ends

variable {σ : Type} (evaluator : Evaluator σ) (settings : Settings) (baseline : Scored)

theorem Walk.report_unmarked (failure : Option SearchError) (walk : Walk σ) :
    (walk.report evaluator settings baseline failure).unmarked =
      walk.bare.report (.named evaluator.name) settings baseline.unmarked failure := by
  have results : (walk.bare.stage.bench.log.toList : List Entry) =
      walk.stage.bench.log.toList.map Entry.unmarked := Array.toList_map
  rw [report, report, results, ranked_unmarked]
  rfl

theorem Ended.ofWalk_unmarked (halt : Option Halt) (walk : Walk σ) :
    (ofWalk evaluator settings baseline halt walk).unmarked =
      ofWalk (.named evaluator.name) settings baseline.unmarked halt walk.bare := by
  rcases halt with _ | e | f
  · exact congrArg complete (Walk.report_unmarked evaluator settings baseline none walk)
  · simp only [ofWalk, unmarked]
    split
    · rw [Option.map_some, Walk.report_unmarked]
    · rfl
  · rfl

end Ends

end FlagSearch
