import FlagSearch.Proofs.Pool.Lawful
import FlagSearch.Proofs.Pool.Serial
import FlagSearch.Proofs.Search.Standing

/-!
# How runs are aborted

Strategies, neighbours, the memo and the workers all look at their parameters again, but what they
would reject was rejected before the run began.  So a run with wrong settings is the only one that
ends with a wrong parameter, and it ends before anything is scored.

* `source_of_aborted` — what aborts any other run.
* `runWith_abort_classified` — what is left of a run that was aborted, and of one that was not.
-/

namespace FlagSearch

variable {σ : Type} {settings : Settings} {u : Universe} {evaluator : Evaluator σ}
  {scheduler : Scheduler σ} {entropy : UInt64} {world : σ}

theorem Settings.eq_invalidParameter_of_validate {flags : Nat} {e : SearchError}
    (invalid : settings.validate flags = .error e) : ∃ what, e = .invalidParameter what := by
  unfold validate at invalid
  split at invalid
  · cases invalid
    exact ⟨_, rfl⟩
  · cases invalid

theorem SearchError.keepsReport_iff {e : SearchError} :
    e.keepsReport = true ↔ e ≠ .interrupted ∧ ∀ what, e ≠ .invalidParameter what := by
  cases e <;> simp [keepsReport]

/-- The starting set of a run gets scored. -/
def StartScored (settings : Settings) (u : Universe) (evaluator : Evaluator σ) (world : σ) : Prop :=
  ∃ memo baseline bench, Memo.ofCapacity settings.cacheCapacity = .ok memo ∧
    (Bench.ofWorld world memo).request u evaluator (settings.initial.getD u.emptySet) =
      (.ok baseline, bench)

/-- The evaluator never blames the settings. -/
def Evaluator.Blameless (evaluator : Evaluator σ) : Prop :=
  ∀ flags world what, (evaluator.score flags world).1 ≠ .error (.invalidParameter what)

namespace Course

variable (course : Course settings u evaluator scheduler entropy world)

include course in
theorem startScored : StartScored settings u evaluator world :=
  ⟨course.memo, course.baseline, course.bench, course.sized, course.scored⟩

end Course

/-! ## Errors -/

/-- What aborts a run that was accepted is a cancellation, the want of a move or an error that the
evaluator came to. -/
theorem source_of_aborted (valid : settings.validate u.size = .ok ())
    (lawful : scheduler.Lawful evaluator) {e : SearchError} {seen : Option Report}
    (aborted : (runWith settings u evaluator scheduler entropy world).1 = .aborted e seen) :
    e = .interrupted ∨ (∃ step, e = .noAvailableMove step) ∨
      ∃ flags world, (evaluator.score flags world).1 = .error e := by
  obtain ⟨memo, _, ⟨halt, bench, refused, ended⟩ | ⟨fault, bench, _, ended⟩ | ⟨⟨course⟩⟩⟩ :=
    runWith_cases_of_valid valid evaluator scheduler entropy world
  · rw [ended] at aborted
    cases halt with
    | fault f => cases aborted
    | error e =>
      cases aborted
      exact (Bench.request_error refused).imp_right .inr
  · rw [ended] at aborted
    cases aborted
  · have halted := (course.halt_of_aborted aborted).1
    rcases course.source_of_error lawful halted with interrupted | ⟨_, closed⟩ | answer
    · exact .inl interrupted
    · exact .inr (.inl ⟨_, closed⟩)
    · exact .inr (.inr answer)

theorem runWith_ne_invalidParameter (valid : settings.validate u.size = .ok ())
    (lawful : scheduler.Lawful evaluator) (blameless : evaluator.Blameless) (what : String)
    (seen : Option Report) :
    (runWith settings u evaluator scheduler entropy world).1 ≠
      .aborted (.invalidParameter what) seen := by
  intro aborted
  rcases source_of_aborted valid lawful aborted with stopped | ⟨step, closed⟩ |
    ⟨flags, world, came⟩
  · cases stopped
  · cases closed
  · exact blameless flags world what came

/-! ## Reports -/

/-- A run that is aborted otherwise leaves a report if its starting set was scored and it was not
interrupted, and only then. -/
theorem isSome_iff_of_aborted {e : SearchError} {seen : Option Report}
    (aborted : (runWith settings u evaluator scheduler entropy world).1 = .aborted e seen)
    (other : ∀ what, e ≠ .invalidParameter what) :
    seen.isSome ↔ StartScored settings u evaluator world ∧ e ≠ .interrupted := by
  cases valid : settings.validate u.size with
  | error e' =>
    obtain ⟨what, rfl⟩ := Settings.eq_invalidParameter_of_validate valid
    rw [runWith_of_invalid valid] at aborted
    cases aborted
    exact absurd rfl (other what)
  | ok _ =>
    obtain ⟨memo, sized, ⟨halt, bench, refused, ended⟩ | ⟨fault, bench, _, ended⟩ | ⟨⟨course⟩⟩⟩ :=
      runWith_cases_of_valid valid evaluator scheduler entropy world
    · rw [ended] at aborted
      cases halt with
      | fault f => cases aborted
      | error e =>
        cases aborted
        have unscored : ¬StartScored settings u evaluator world := by
          rintro ⟨memo', baseline, bench', sized', scored⟩
          cases sized.symm.trans sized'
          cases refused.symm.trans scored
        simp [unscored]
    · rw [ended] at aborted
      cases aborted
    · obtain ⟨_, rfl⟩ := course.halt_of_aborted aborted
      have keeps : e.keepsReport = true ↔ e ≠ .interrupted :=
        SearchError.keepsReport_iff.trans (and_iff_left other)
      rw [and_iff_right course.startScored, ← keeps]
      split
      next kept => exact iff_of_true rfl kept
      next lost => exact iff_of_false Bool.false_ne_true lost

theorem report_of_aborted {e : SearchError} {report : Report}
    (aborted : (runWith settings u evaluator scheduler entropy world).1 =
      .aborted e (some report)) :
    report.complete = false ∧ report.error = some e.message ∧
      report.stepsCompleted = report.trajectory.length ∧
      report.stepsCompleted < settings.iterations := by
  have left : (runWith settings u evaluator scheduler entropy world).1.report? = some report := by
    rw [aborted]
    rfl
  obtain ⟨course, failure, halted, rfl⟩ := exists_course_of_report left
  rw [course.runWith_eq, halted] at aborted
  cases failure with
  | none => cases aborted
  | some e' =>
    obtain ⟨rfl, _⟩ := Ended.aborted.inj aborted
    refine ⟨rfl, rfl, Array.length_toList.symm, ?_⟩
    rcases course.cases with ⟨none, _⟩ | ⟨_, _, few, _⟩
    · cases none.symm.trans halted
    · exact few

theorem report_of_complete {report : Report}
    (complete : (runWith settings u evaluator scheduler entropy world).1 = .complete report) :
    report.complete = true ∧ report.error = none ∧
      report.stepsCompleted = report.trajectory.length ∧
      report.stepsCompleted = settings.iterations := by
  have left : (runWith settings u evaluator scheduler entropy world).1.report? = some report := by
    rw [complete]
    rfl
  obtain ⟨course, failure, halted, rfl⟩ := exists_course_of_report left
  rw [course.runWith_eq, halted] at complete
  cases failure with
  | some e => cases complete
  | none =>
    refine ⟨rfl, rfl, Array.length_toList.symm, ?_⟩
    rcases course.cases with ⟨_, all, _⟩ | ⟨_, _, _, _, _, some⟩
    · exact all
    · cases some.symm.trans halted

/-- Take an evaluator that never blames the settings itself, and any order in which workers may
score the candidates.  A run ends with a wrong parameter if and only if its settings are rejected;
then it ends with what they are rejected for, leaves no report, and its evaluator has noticed
nothing.  Any other run that is aborted leaves a report if and only if its starting set was scored
and it was not interrupted; the report is incomplete, names the error, and counts fewer steps than
the budget.  A run that is not aborted reports that it is complete, with no error and as many steps
as the budget has. -/
theorem runWith_abort_classified (settings : Settings) (u : Universe) (evaluator : Evaluator σ)
    (scheduler : Scheduler σ) (lawful : scheduler.Lawful evaluator)
    (blameless : evaluator.Blameless) (entropy : UInt64) (world : σ) :
    ((∃ what seen, (runWith settings u evaluator scheduler entropy world).1 =
        .aborted (.invalidParameter what) seen) ↔ ∃ e, settings.validate u.size = .error e) ∧
    (∀ e, settings.validate u.size = .error e →
      runWith settings u evaluator scheduler entropy world = (.aborted e none, world)) ∧
    (∀ e seen, (runWith settings u evaluator scheduler entropy world).1 = .aborted e seen →
      (∀ what, e ≠ .invalidParameter what) →
        (seen.isSome ↔ StartScored settings u evaluator world ∧ e ≠ .interrupted) ∧
        ∀ report, seen = some report → report.complete = false ∧ report.error = some e.message ∧
          report.stepsCompleted = report.trajectory.length ∧
          report.stepsCompleted < settings.iterations) ∧
    ∀ report, (runWith settings u evaluator scheduler entropy world).1 = .complete report →
      report.complete = true ∧ report.error = none ∧
        report.stepsCompleted = report.trajectory.length ∧
        report.stepsCompleted = settings.iterations := by
  refine ⟨⟨?_, ?_⟩, fun e invalid => runWith_of_invalid invalid, ?_,
    fun report => report_of_complete⟩
  · rintro ⟨what, seen, aborted⟩
    cases valid : settings.validate u.size with
    | error e => exact ⟨e, rfl⟩
    | ok _ => exact absurd aborted (runWith_ne_invalidParameter valid lawful blameless what seen)
  · rintro ⟨e, invalid⟩
    obtain ⟨what, rfl⟩ := Settings.eq_invalidParameter_of_validate invalid
    exact ⟨what, none, congrArg Prod.fst (runWith_of_invalid invalid)⟩
  · intro e seen aborted other
    refine ⟨isSome_iff_of_aborted aborted other, ?_⟩
    rintro report rfl
    exact report_of_aborted aborted

/-- Hill climbing whose evaluator breaks down, and the same with a budget of no steps. -/
theorem runWith_abort_classified_fickle :
    (∃ report, (runWith crampedClimb flagPair fickle (Bench.requestAll flagPair fickle) 0 []).1 =
        .aborted (.evaluatorUnavailable "gone") (some report) ∧ report.complete = false ∧
      report.error = some (SearchError.evaluatorUnavailable "gone").message ∧
      report.stepsCompleted = report.trajectory.length ∧ report.stepsCompleted < 9) ∧
    runWith { crampedClimb with iterations := 0 } flagPair fickle
        (Bench.requestAll flagPair fickle) 0 [] =
      (.aborted (.invalidParameter "iteration budget must be > 0") none, []) := by
  have lawful := (Bench.requestAll_pooled Nat.one_pos flagPair fickle).lawful
  have blameless : fickle.Blameless := by
    intro flags world what
    simp only [fickle, Evaluator.ofHistory]
    split <;> simp
  have cut : ∃ report, (runWith crampedClimb flagPair fickle (Bench.requestAll flagPair fickle) 0
      []).1 = .aborted (.evaluatorUnavailable "gone") (some report) := ⟨_, rfl⟩
  obtain ⟨report, cut⟩ := cut
  obtain ⟨_, _, aborted, _⟩ := runWith_abort_classified crampedClimb flagPair fickle _ lawful
    blameless 0 []
  obtain ⟨_, fields⟩ := aborted _ _ cut (by simp)
  obtain ⟨_, rejected, _⟩ := runWith_abort_classified { crampedClimb with iterations := 0 } flagPair
    fickle _ lawful blameless 0 []
  exact ⟨⟨report, cut, fields report rfl⟩, rejected _ rfl⟩

end FlagSearch
