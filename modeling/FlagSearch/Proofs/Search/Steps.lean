import FlagSearch.Proofs.Search.Scoring
import FlagSearch.Search.Strategy

/-!
# What one step does

The three strategies move differently, but a step has only two ways to end.  A completed step has
one of the three forms of `Stage.Completes`; a failed one leaves the position, the log and the
memory of the strategy as they were.

* `Stage.Completes`, `Stage.completes_of_advance` — completed steps, one form per strategy.
* `Stage.Completes.log_eq` — a completed step appends its batch to the log, under its number.
* `Stage.Unmoved`, `Stage.unmoved_of_advance` — failed steps.
-/

namespace FlagSearch

/-! ## Recording -/

namespace Bench

variable {σ : Type}

@[simp] theorem record_step (bench : Bench σ) (scored : Scored) :
    (bench.record scored).step = bench.step := rfl

theorem record_log (bench : Bench σ) (scored : Scored) :
    (bench.record scored).log.toList = bench.log.toList ++ [scored.entry bench.step] := by
  simp [record]

@[simp] theorem recordAll_step (bench : Bench σ) (batch : List Scored) :
    (bench.recordAll batch).step = bench.step := by
  induction batch generalizing bench with
  | nil => rfl
  | cons scored batch ih => exact ih (bench.record scored)

@[simp] theorem recordAll_world (bench : Bench σ) (batch : List Scored) :
    (bench.recordAll batch).world = bench.world := by
  induction batch generalizing bench with
  | nil => rfl
  | cons scored batch ih => exact ih (bench.record scored)

@[simp] theorem recordAll_memo (bench : Bench σ) (batch : List Scored) :
    (bench.recordAll batch).memo = bench.memo := by
  induction batch generalizing bench with
  | nil => rfl
  | cons scored batch ih => exact ih (bench.record scored)

@[simp] theorem recordAll_cancelled (bench : Bench σ) (batch : List Scored) :
    (bench.recordAll batch).cancelled = bench.cancelled := by
  induction batch generalizing bench with
  | nil => rfl
  | cons scored batch ih => exact ih (bench.record scored)

theorem recordAll_log (bench : Bench σ) (batch : List Scored) :
    (bench.recordAll batch).log.toList =
      bench.log.toList ++ batch.map (·.entry bench.step) := by
  induction batch generalizing bench with
  | nil => simp [recordAll]
  | cons scored batch ih =>
    have tail := ih (bench.record scored)
    rw [record_log, record_step, List.append_assoc] at tail
    exact tail

end Bench

namespace Stage

variable {σ : Type} {u : Universe} {evaluator : Evaluator σ} {scheduler : Scheduler σ}

/-! ## Completed steps -/

/-- `Completes before batch after`: a step that leads from `before` to `after` and records
`batch`. -/
inductive Completes (u : Universe) (evaluator : Evaluator σ) (scheduler : Scheduler σ) :
    Stage σ → List Scored → Stage σ → Prop where
  | climb {flips : Nat} {draws : Draws} {position : Position} {bench after : Bench σ}
      {set : FlagSet} {candidate : Scored}
      (flipped : position.current.set.flipAll (draws.sample u.size flips).1 = .ok set)
      (scored : bench.request u evaluator set = (.ok candidate, after)) :
      Completes u evaluator scheduler ⟨.hillClimb flips draws, position, bench⟩ [candidate]
        ⟨.hillClimb flips (draws.sample u.size flips).2,
          if candidate.improvesOn position.current then
            { position with current := candidate }.promote after.step
          else position,
          after.record candidate⟩
  | roam {visited : TabuList} {position : Position} {bench after : Bench σ}
      {sets : List FlagSet} {candidate : Scored} {others : List Scored}
      (untried : admissible visited position.current.set = .ok sets)
      (scored : scheduler sets bench = (.ok (candidate :: others), after)) :
      Completes u evaluator scheduler ⟨.tabu visited, position, bench⟩ (candidate :: others)
        ⟨.tabu (visited.insert (cheapest candidate others).set).2,
          { position with current := cheapest candidate others }.promote after.step,
          after.recordAll (candidate :: others)⟩
  | sweep {position : Position} {bench after : Bench σ} {sets : List FlagSet}
      {batch : List Scored}
      (listed : singleFlips position.current.set = .ok sets)
      (scored : scheduler sets bench = (.ok batch, after)) :
      Completes u evaluator scheduler ⟨.sweep false, position, bench⟩ batch
        ⟨.sweep true,
          { position with current := cheapest position.current batch }.promote after.step,
          after.recordAll batch⟩

theorem climb_ok {flips : Nat} {draws : Draws} {position : Position} {bench : Bench σ}
    {after : Stage σ}
    (done : climb u evaluator flips draws ⟨.hillClimb flips draws, position, bench⟩ =
      (.ok (), after)) :
    ∃ batch, Completes u evaluator scheduler ⟨.hillClimb flips draws, position, bench⟩ batch
      after := by
  unfold climb at done
  split at done
  · cases done
  · dsimp only at done
    split at done
    · cases done
    next set flipped =>
      split at done
      · cases done
      next candidate between scored =>
        cases done
        exact ⟨[candidate], .climb flipped scored⟩

theorem roam_ok {visited : TabuList} {position : Position} {bench : Bench σ} {after : Stage σ}
    (done : roam scheduler visited ⟨.tabu visited, position, bench⟩ = (.ok (), after)) :
    ∃ batch, Completes u evaluator scheduler ⟨.tabu visited, position, bench⟩ batch after := by
  unfold roam at done
  split at done
  · cases done
  · cases done
  next first rest untried =>
    split at done
    · cases done
    · cases done
    next candidate others between scored =>
      cases done
      refine ⟨candidate :: others, ?_⟩
      rw [Bench.recordAll_step]
      exact .roam untried scored

theorem sweepOnce_ok {swept : Bool} {position : Position} {bench : Bench σ} {after : Stage σ}
    (done : sweepOnce scheduler swept ⟨.sweep swept, position, bench⟩ = (.ok (), after)) :
    ∃ batch, Completes u evaluator scheduler ⟨.sweep swept, position, bench⟩ batch after := by
  unfold sweepOnce at done
  split at done
  · cases done
  next fresh =>
    split at done
    · cases done
    next sets listed =>
      split at done
      · cases done
      next batch between scored =>
        cases done
        simp only [Bool.not_eq_true] at fresh
        subst fresh
        refine ⟨batch, ?_⟩
        rw [Bench.recordAll_step]
        exact .sweep listed scored

theorem completes_of_advance {before after : Stage σ}
    (done : before.advance u evaluator scheduler = (.ok (), after)) :
    ∃ batch, Completes u evaluator scheduler before batch after := by
  obtain ⟨strategy, position, bench⟩ := before
  cases strategy with
  | hillClimb flips draws => exact climb_ok done
  | tabu visited => exact roam_ok done
  | sweep swept => exact sweepOnce_ok done

namespace Completes

variable {before after : Stage σ} {batch : List Scored}

theorem step_eq (keeps : scheduler.KeepsLog)
    (completes : Completes u evaluator scheduler before batch after) :
    after.bench.step = before.bench.step := by
  cases completes with
  | @climb _ _ _ bench _ set _ _ scored =>
    have frame := Bench.request_frame u evaluator set bench
    rw [scored] at frame
    exact frame.2
  | @roam _ _ bench _ sets _ _ _ scored =>
    have frame := keeps.step_eq sets bench
    rw [scored] at frame
    exact (Bench.recordAll_step ..).trans frame
  | @sweep _ bench _ sets _ _ scored =>
    have frame := keeps.step_eq sets bench
    rw [scored] at frame
    exact (Bench.recordAll_step ..).trans frame

theorem log_eq (keeps : scheduler.KeepsLog)
    (completes : Completes u evaluator scheduler before batch after) :
    after.bench.log.toList = before.bench.log.toList ++ batch.map (·.entry before.bench.step) := by
  cases completes with
  | @climb _ _ _ bench _ set candidate _ scored =>
    obtain ⟨log, step⟩ := Bench.request_frame u evaluator set bench
    rw [scored] at log step
    rw [Bench.record_log, log, step]
    rfl
  | @roam _ _ bench _ sets _ _ _ scored =>
    have log := keeps.log_eq sets bench
    have step := keeps.step_eq sets bench
    rw [scored] at log step
    rw [Bench.recordAll_log, log, step]
  | @sweep _ bench _ sets _ _ scored =>
    have log := keeps.log_eq sets bench
    have step := keeps.step_eq sets bench
    rw [scored] at log step
    rw [Bench.recordAll_log, log, step]

end Completes

/-! ## Failed steps -/

/-- What stays of a stage when a step fails: the position, the log, the step number, and what the
strategy remembers, the draws of hill climbing apart. -/
structure Unmoved (before after : Stage σ) : Prop where
  position_eq : after.position = before.position
  log_eq : after.bench.log = before.bench.log
  step_eq : after.bench.step = before.bench.step
  /-- Only draws are spent. -/
  strategy_eq : after.strategy = before.strategy ∨ ∃ flips draws draws',
    before.strategy = .hillClimb flips draws ∧ after.strategy = .hillClimb flips draws'

theorem Unmoved.refl (stage : Stage σ) : Unmoved stage stage := ⟨rfl, rfl, rfl, .inl rfl⟩

theorem climb_unmoved {flips : Nat} {draws : Draws} {position : Position} {bench : Bench σ}
    {halt : Halt} {after : Stage σ}
    (failed : climb u evaluator flips draws ⟨.hillClimb flips draws, position, bench⟩ =
      (.error halt, after)) :
    Unmoved ⟨.hillClimb flips draws, position, bench⟩ after := by
  unfold climb at failed
  split at failed
  · cases failed
    exact .refl _
  · dsimp only at failed
    split at failed
    · cases failed
      exact ⟨rfl, rfl, rfl, .inr ⟨_, _, _, rfl, rfl⟩⟩
    next set flipped =>
      have frame := Bench.request_frame u evaluator set bench
      split at failed
      next between refused =>
        cases failed
        rw [refused] at frame
        exact ⟨rfl, frame.1, frame.2, .inr ⟨_, _, _, rfl, rfl⟩⟩
      · cases failed

theorem unmoved_of_scored (keeps : scheduler.KeepsLog) (before : Stage σ) {sets : List FlagSet}
    {result : Except Halt (List Scored)} {bench : Bench σ}
    (scored : scheduler sets before.bench = (result, bench)) :
    Unmoved before { before with bench } := by
  have log := keeps.log_eq sets before.bench
  have step := keeps.step_eq sets before.bench
  rw [scored] at log step
  exact ⟨rfl, log, step, .inl rfl⟩

theorem roam_unmoved (keeps : scheduler.KeepsLog) {visited : TabuList} {before after : Stage σ}
    {halt : Halt} (failed : roam scheduler visited before = (.error halt, after)) :
    Unmoved before after := by
  unfold roam at failed
  split at failed
  · cases failed
    exact .refl _
  · cases failed
    exact .refl _
  · split at failed
    next bench refused =>
      cases failed
      exact unmoved_of_scored keeps before refused
    next bench nothing =>
      cases failed
      exact unmoved_of_scored keeps before nothing
    · cases failed

theorem sweepOnce_unmoved (keeps : scheduler.KeepsLog) {swept : Bool} {before after : Stage σ}
    {halt : Halt} (failed : sweepOnce scheduler swept before = (.error halt, after)) :
    Unmoved before after := by
  unfold sweepOnce at failed
  split at failed
  · cases failed
    exact .refl _
  · split at failed
    · cases failed
      exact .refl _
    · split at failed
      next bench refused =>
        cases failed
        exact unmoved_of_scored keeps before refused
      · cases failed

theorem unmoved_of_advance (keeps : scheduler.KeepsLog) {before after : Stage σ} {halt : Halt}
    (failed : before.advance u evaluator scheduler = (.error halt, after)) :
    Unmoved before after := by
  obtain ⟨strategy, position, bench⟩ := before
  cases strategy with
  | hillClimb flips draws => exact climb_unmoved failed
  | tabu visited => exact roam_unmoved keeps failed
  | sweep swept => exact sweepOnce_unmoved keeps failed

end Stage

end FlagSearch
