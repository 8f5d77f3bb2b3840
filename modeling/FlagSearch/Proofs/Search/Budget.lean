import FlagSearch.Proofs.Search.Accepted
import FlagSearch.Proofs.Search.Best

/-!
# Smaller budgets

The budget of a run only says when its steps end: nothing that a step does depends on it.  So a run
with a smaller budget is the beginning of the run with the larger one, and what it reports is the
report of the other with everything left out that came later.

* `Walk.Reached.cut` — the walks on the way to a walk show its beginnings.
* `Course.exists_shortened` — the course of the run with the smaller budget.
* `runWith_budget_prefix` — its report.
-/

namespace FlagSearch

variable {σ : Type} {u : Universe} {evaluator : Evaluator σ} {scheduler : Scheduler σ}

/-! ## Walks -/

namespace Walk

variable {stage : Stage σ} {walk : Walk σ} {n : Nat}

theorem Reached.step_le (keeps : scheduler.KeepsLog) (blank : stage.bench.log = #[])
    (reached : Reached u evaluator scheduler (.ofStage stage) n walk) :
    ∀ entry ∈ walk.stage.bench.log.toList, entry.step ≤ n := by
  induction reached with
  | start => simp [ofStage, blank]
  | @step n walk next before done ih =>
    obtain ⟨batch, completes, _⟩ := step_ok done
    rw [completes.log_eq keeps]
    intro entry member
    rcases List.mem_append.1 member with earlier | added
    · exact Nat.le_succ_of_le (ih entry earlier)
    · obtain ⟨scored, _, rfl⟩ := List.mem_map.1 added
      exact Nat.le_refl _

/-- A walk passed through a walk after each of its steps.  That one has the same beginning of the
trajectory, and it has recorded what bears the number of a step up to there. -/
theorem Reached.cut (keeps : scheduler.KeepsLog) (blank : stage.bench.log = #[])
    (reached : Reached u evaluator scheduler (.ofStage stage) n walk) {m : Nat} (inside : m ≤ n) :
    ∃ earlier, Reached u evaluator scheduler (.ofStage stage) m earlier ∧
      earlier.stage.bench.log.toList = walk.stage.bench.log.toList.filter (·.step ≤ m) ∧
      earlier.trajectory.toList = walk.trajectory.toList.take m := by
  induction reached with
  | start =>
    cases Nat.le_zero.1 inside
    exact ⟨.ofStage stage, .start, by simp [ofStage, blank], by simp [ofStage]⟩
  | @step n walk next before done ih =>
    have size := before.size_trajectory
    rw [show (ofStage stage).trajectory.size = 0 from rfl, Nat.zero_add] at size
    obtain ⟨batch, completes, grown⟩ := step_ok done
    -- Either the walk was cut before its last step, and what that step recorded is filtered out, or
    -- after it, and everything stays.
    rcases Nat.le_succ_iff.1 inside with less | rfl
    · obtain ⟨earlier, reached, log, trajectory⟩ := ih less
      have later : (batch.map (·.entry (n + 1))).filter (·.step ≤ m) = [] := by
        refine List.filter_eq_nil_iff.2 fun entry member kept => ?_
        obtain ⟨scored, _, rfl⟩ := List.mem_map.1 member
        have early : n + 1 ≤ m := of_decide_eq_true kept
        omega
      refine ⟨earlier, reached, ?_, ?_⟩
      · have added := completes.log_eq keeps
        rw [added, List.filter_append, log]
        exact (List.append_nil _).symm.trans (congrArg _ later.symm)
      · rw [trajectory, grown, Array.toList_push, List.take_append_of_le_length]
        simpa [size] using less
    · have whole := (before.step done).step_le keeps blank
      refine ⟨next, before.step done, ?_, ?_⟩
      · exact (List.filter_eq_self.2 fun entry member => by simpa using whole entry member).symm
      · rw [List.take_of_length_le]
        simp [grown, size]

end Walk

/-! ## Courses -/

variable {settings : Settings} {entropy : UInt64} {world : σ}

theorem Settings.Accepted.shortened {flags budget : Nat} (accepted : settings.Accepted flags)
    (some : 0 < budget) (inside : budget ≤ settings.iterations) :
    Settings.Accepted { settings with iterations := budget } flags := by
  obtain ⟨flags_pos, _, poolWidth_pos, cacheCapacity_pos, fits, initial_fits⟩ := accepted
  refine ⟨flags_pos, some, poolWidth_pos, cacheCapacity_pos, ?_, initial_fits⟩
  unfold strategyProblem? at fits ⊢
  cases kind : settings.strategy with
  | hillClimb given => simpa [kind] using fits
  | tabu => rfl
  | sweep =>
    rw [kind] at fits
    have one : settings.iterations = 1 := by simpa using fits
    have same : budget = 1 := by omega
    simp [same]

namespace Course

variable (course : Course settings u evaluator scheduler entropy world)

theorem exists_last (keeps : scheduler.KeepsLog) :
    ∃ last, Walk.Reached u evaluator scheduler course.start course.completed last ∧
      last.stage.bench.log.toList = course.log ∧ last.trajectory = course.walk.trajectory := by
  rcases course.cases with ⟨_, _, reached⟩ | ⟨before, stop, _, reached, failed, _⟩
  · exact ⟨course.walk, reached, rfl, rfl⟩
  · obtain ⟨advanced, trajectory⟩ := Walk.step_error failed
    have log := (Stage.unmoved_of_advance keeps advanced).log_eq
    exact ⟨before, reached, by rw [Course.log, log]; rfl, trajectory.symm⟩

theorem exists_shortened (keeps : scheduler.KeepsLog)
    (seeded : ∀ flips, settings.strategy = .hillClimb flips → settings.seed.isSome)
    (entropy' : UInt64) {budget : Nat} (some : 0 < budget) (inside : budget ≤ course.completed) :
    ∃ short : Course { settings with iterations := budget } u evaluator scheduler entropy' world,
      short.halt = none ∧ short.baseline = course.baseline ∧
      short.log = course.log.filter (·.step ≤ budget) ∧
      short.walk.trajectory.toList = course.walk.trajectory.toList.take budget := by
  have fits := course.completed_le
  obtain ⟨last, reached, log, trajectory⟩ := course.exists_last keeps
  obtain ⟨earlier, passed, beginning, shown⟩ :=
    reached.cut keeps (Bench.log_of_request course.scored) inside
  have room : reserve budget trajectorySlot = .ok () := by
    have whole := course.room
    unfold reserve at whole ⊢
    split at whole
    next holds =>
      refine if_pos ?_
      unfold trajectorySlot at holds ⊢
      omega
    · cases whole
  refine ⟨⟨course.strategy, course.memo, course.baseline, course.bench, none, earlier,
    ((Settings.accepted_of_validate course.valid).shortened some (by omega)).validate,
    (Strategy.ofKind_entropy seeded entropy' entropy).trans course.chosen, course.sized,
    course.scored, room, passed.steps_eq⟩, rfl, rfl, beginning.trans (by rw [log]),
    shown.trans (by rw [trajectory])⟩

end Course

/-! ## Runs -/

/-- A run that left a report, complete or cut short, tells how every run ends whose budget is some
of its completed steps and that differs from it in nothing else: it is complete, with the same
starting set, the same beginning of the trajectory, and those of the results, in the same order,
that come from its steps; the best of these and of the starting set is its best.  In particular the
report of a run that was cut short shows what the run shows whose budget it completed. -/
theorem runWith_budget_prefix (settings : Settings) (u : Universe) (evaluator : Evaluator σ)
    (scheduler : Scheduler σ) (keeps : scheduler.KeepsLog)
    (seeded : ∀ flips, settings.strategy = .hillClimb flips → settings.seed.isSome)
    (entropy entropy' : UInt64) (world : σ) {report : Report}
    (left : (runWith settings u evaluator scheduler entropy world).1.report? = some report)
    {budget : Nat} (some : 0 < budget) (inside : budget ≤ report.stepsCompleted) :
    ∃ short, (runWith { settings with iterations := budget } u evaluator scheduler entropy'
        world).1 = .complete short ∧
      short.baseline = report.baseline ∧
      short.trajectory = report.trajectory.take budget ∧
      short.results = report.results.filter (·.step ≤ budget) ∧
      FirstCheapest Entry.cost (short.baseline :: short.results) short.best ∧
      (budget = report.stepsCompleted → short.best = report.best ∧
        short.trajectory = report.trajectory ∧ short.results = report.results) := by
  obtain ⟨course, failure, _, rfl⟩ := exists_course_of_report left
  obtain ⟨short, whole, baseline, log, trajectory⟩ :=
    course.exists_shortened keeps seeded entropy' some inside
  have results : ranked short.log = (ranked course.log).filter (·.step ≤ budget) := by
    rw [log, ranked_filter]
  have best := (short.tracks keeps).best
  refine ⟨short.walk.report evaluator { settings with iterations := budget } short.baseline none,
    ?_, congrArg (Scored.entry · 0) baseline, trajectory, results, best.cons_ranked, ?_⟩
  · rw [short.runWith_eq, whole]
    rfl
  · rintro rfl
    obtain ⟨last, reached, logged, _⟩ := course.exists_last keeps
    have bounded := reached.step_le keeps (Bench.log_of_request course.scored)
    have all : short.log = course.log := by
      rw [log]
      exact List.filter_eq_self.2 fun entry member =>
        decide_eq_true (bounded entry (logged ▸ member))
    refine ⟨?_, trajectory.trans (List.take_of_length_le (Nat.le_refl _)), ?_⟩
    · change FirstCheapest Entry.cost (_ :: short.log) _ at best
      rw [all, baseline] at best
      exact best.unique (course.tracks keeps).best
    · exact congrArg ranked all

/-- The first two steps of hill climbing that breaks down at its fourth. -/
theorem runWith_budget_prefix_fickle :
    ∃ report short,
      (runWith crampedClimb flagPair fickle (Bench.requestAll flagPair fickle) 0 []).1.report? =
        some report ∧ report.stepsCompleted = 3 ∧
      (runWith { crampedClimb with iterations := 2 } flagPair fickle
        (Bench.requestAll flagPair fickle) 1 []).1 = .complete short ∧
      short.trajectory = report.trajectory.take 2 ∧
      short.results = report.results.filter (·.step ≤ 2) ∧
      FirstCheapest Entry.cost (short.baseline :: short.results) short.best := by
  have cut : ((runWith crampedClimb flagPair fickle (Bench.requestAll flagPair fickle) 0
      []).1.report?.map (·.stepsCompleted)) = some 3 := by decide
  obtain ⟨report, left, completed⟩ := Option.map_eq_some_iff.1 cut
  have seeded : ∀ flips, crampedClimb.strategy = .hillClimb flips → crampedClimb.seed.isSome :=
    fun _ _ => rfl
  have inside : 2 ≤ report.stepsCompleted := by
    rw [completed]
    decide
  obtain ⟨short, whole, _, trajectory, results, best, _⟩ :=
    runWith_budget_prefix crampedClimb flagPair fickle (Bench.requestAll flagPair fickle)
      (Bench.requestAll_keepsLog flagPair fickle) seeded 0 1 [] left Nat.two_pos inside
  exact ⟨report, short, left, completed, whole, trajectory, results, best⟩

end FlagSearch
