import FlagSearch.Proofs.Search.Steps
import FlagSearch.Search.Run

/-!
# The course of a run

A run that leaves a report has scored its starting set and taken steps; the report shows the end of
that walk only.  A `Course` is the walk itself, with the equations that make it the walk of the run.

* `Walk.Reached` — the walks that completed steps lead to.
* `Walk.steps_cases` — steps end with the budget or at the first step that fails.
* `Settings.prepare_cases` — settings are rejected, or a strategy and a memo are made.
* `Course`, `Course.runWith_eq` — the course of a run, and the run that has it.
* `runWith_cases` — a run that has no course was rejected, could not score its start, or asked for
  too much memory.
* `exists_course_of_report`, `exists_course_of_aborted` — reports and errors come from a course.
-/

namespace FlagSearch

variable {σ : Type}

/-! ## Walks -/

namespace Walk

variable {u : Universe} {evaluator : Evaluator σ} {scheduler : Scheduler σ}

/-- `Reached start n walk`: the first `n` steps from `start` were completed and led to `walk`. -/
inductive Reached (u : Universe) (evaluator : Evaluator σ) (scheduler : Scheduler σ)
    (start : Walk σ) : Nat → Walk σ → Prop where
  | start : Reached u evaluator scheduler start 0 start
  | step {n : Nat} {walk next : Walk σ} (before : Reached u evaluator scheduler start n walk)
      (done : walk.step u evaluator scheduler (n + 1) = (.ok (), next)) :
      Reached u evaluator scheduler start (n + 1) next

def entering (walk : Walk σ) (number : Nat) : Stage σ :=
  { walk.stage with bench := { walk.stage.bench with step := number } }

theorem step_eq (walk : Walk σ) (number : Nat) :
    walk.step u evaluator scheduler number =
      match (walk.entering number).advance u evaluator scheduler with
      | (.error halt, stage) => (.error halt, { walk with stage })
      | (.ok (), stage) =>
          (.ok (), ⟨stage, walk.trajectory.push (finite? stage.position.best.cost)⟩) := rfl

theorem advance_of_step {walk next : Walk σ} {number : Nat}
    (done : walk.step u evaluator scheduler number = (.ok (), next)) :
    (walk.entering number).advance u evaluator scheduler = (.ok (), next.stage) ∧
      next.trajectory = walk.trajectory.push (finite? next.stage.position.best.cost) := by
  rw [step_eq] at done
  split at done
  · cases done
  next stage advanced =>
    cases done
    exact ⟨advanced, rfl⟩

theorem step_ok {walk next : Walk σ} {number : Nat}
    (done : walk.step u evaluator scheduler number = (.ok (), next)) :
    ∃ batch, Stage.Completes u evaluator scheduler (walk.entering number) batch next.stage ∧
      next.trajectory = walk.trajectory.push (finite? next.stage.position.best.cost) := by
  obtain ⟨advanced, grown⟩ := advance_of_step done
  obtain ⟨batch, completes⟩ := Stage.completes_of_advance advanced
  exact ⟨batch, completes, grown⟩

theorem step_error {walk last : Walk σ} {number : Nat} {halt : Halt}
    (failed : walk.step u evaluator scheduler number = (.error halt, last)) :
    (walk.entering number).advance u evaluator scheduler = (.error halt, last.stage) ∧
      last.trajectory = walk.trajectory := by
  rw [step_eq] at failed
  split at failed
  next stage advanced =>
    cases failed
    exact ⟨advanced, rfl⟩
  · cases failed

theorem Reached.steps_add {start walk : Walk σ} {n : Nat}
    (reached : Reached u evaluator scheduler start n walk) (count : Nat) :
    start.steps u evaluator scheduler (n + count) 1 =
      walk.steps u evaluator scheduler count (n + 1) := by
  induction reached generalizing count with
  | start => rw [Nat.zero_add]
  | @step n walk next before done ih =>
    rw [show n + 1 + count = n + (count + 1) by omega, ih, steps, done]

theorem Reached.steps_eq {start walk : Walk σ} {n : Nat}
    (reached : Reached u evaluator scheduler start n walk) :
    start.steps u evaluator scheduler n 1 = (none, walk) :=
  reached.steps_add 0

theorem Reached.size_trajectory {start walk : Walk σ} {n : Nat}
    (reached : Reached u evaluator scheduler start n walk) :
    walk.trajectory.size = start.trajectory.size + n := by
  induction reached with
  | start => rfl
  | step before done ih =>
    obtain ⟨_, _, grown⟩ := step_ok done
    rw [grown, Array.size_push, ih]
    omega

theorem Reached.passed {start walk : Walk σ} {m n : Nat}
    (reached : Reached u evaluator scheduler start n walk) (before : m ≤ n) :
    ∃ walk, Reached u evaluator scheduler start m walk := by
  induction reached with
  | start =>
    cases Nat.le_zero.1 before
    exact ⟨_, .start⟩
  | step reached done ih =>
    rcases Nat.le_succ_iff.1 before with less | rfl
    · exact ih less
    · exact ⟨_, reached.step done⟩

theorem Reached.steps_cases {start walk last : Walk σ} {n count : Nat} {halt : Option Halt}
    (reached : Reached u evaluator scheduler start n walk)
    (ended : walk.steps u evaluator scheduler count (n + 1) = (halt, last)) :
    (halt = none ∧ Reached u evaluator scheduler start (n + count) last) ∨
      ∃ m before stop, m < n + count ∧ Reached u evaluator scheduler start m before ∧
        before.step u evaluator scheduler (m + 1) = (.error stop, last) ∧ halt = some stop := by
  induction count generalizing n walk with
  | zero =>
    cases ended
    exact .inl ⟨rfl, reached⟩
  | succ count ih =>
    rw [steps] at ended
    split at ended
    next stop final failed =>
      cases ended
      exact .inr ⟨n, walk, stop, by omega, reached, failed, rfl⟩
    next next done =>
      rw [show n + (count + 1) = n + 1 + count by omega]
      exact ih (reached.step done) ended

end Walk

/-! ## Preparing -/

namespace Settings

variable {settings : Settings} {flags : Nat} {entropy : UInt64}

theorem checkWidth_of_validate (valid : settings.validate flags = .ok ()) :
    Scheduler.checkWidth settings.poolWidth = .ok () := by
  refine if_neg fun noWorkers => ?_
  obtain ⟨problem, found⟩ : ∃ problem, settings.problem? flags = some problem := by
    rw [problem?, if_pos noWorkers]
    split
    · exact ⟨_, rfl⟩
    · split <;> exact ⟨_, rfl⟩
  rw [validate, found] at valid
  cases valid

theorem prepare_eq_ok {strategy : Strategy} {memo : Memo FlagSet}
    (valid : settings.validate flags = .ok ())
    (chosen : Strategy.ofKind settings.strategy settings.tabuCapacity
      (settings.seed.getD entropy) = .ok strategy)
    (sized : Memo.ofCapacity settings.cacheCapacity = .ok memo) :
    settings.prepare flags entropy = .ok (strategy, memo) := by
  rw [prepare, valid, chosen, sized, checkWidth_of_validate valid]
  rfl

theorem prepare_cases (settings : Settings) (flags : Nat) (entropy : UInt64) :
    (∃ what, settings.prepare flags entropy = .error (.invalidParameter what)) ∨
      ∃ strategy memo, settings.validate flags = .ok () ∧
        Strategy.ofKind settings.strategy settings.tabuCapacity (settings.seed.getD entropy) =
          .ok strategy ∧
        Memo.ofCapacity (κ := FlagSet) settings.cacheCapacity = .ok memo := by
  unfold prepare
  cases valid : settings.validate flags with
  | error e =>
    left
    unfold Settings.validate at valid
    split at valid
    · cases valid
      exact ⟨_, rfl⟩
    · cases valid
  | ok _ =>
    cases chosen : Strategy.ofKind settings.strategy settings.tabuCapacity
      (settings.seed.getD entropy) with
    | error e =>
      left
      unfold Strategy.ofKind at chosen
      split at chosen
      · split at chosen
        · cases chosen
          exact ⟨_, rfl⟩
        · cases chosen
      · cases chosen
      · cases chosen
    | ok strategy =>
      cases sized : Memo.ofCapacity (κ := FlagSet) settings.cacheCapacity with
      | error e =>
        left
        unfold Memo.ofCapacity at sized
        split at sized
        · cases sized
          exact ⟨_, rfl⟩
        · cases sized
      | ok memo => exact .inr ⟨strategy, memo, rfl, rfl, rfl⟩

end Settings

/-! ## Courses -/

/-- The course of a run that scored its starting set and had room for its trajectory. -/
structure Course (settings : Settings) (u : Universe) (evaluator : Evaluator σ)
    (scheduler : Scheduler σ) (entropy : UInt64) (world : σ) where
  strategy : Strategy
  memo : Memo FlagSet
  baseline : Scored
  /-- The bench after the starting set was scored. -/
  bench : Bench σ
  /-- What stopped the steps, if it was not the budget. -/
  halt : Option Halt
  walk : Walk σ
  valid : settings.validate u.size = .ok ()
  chosen : Strategy.ofKind settings.strategy settings.tabuCapacity
    (settings.seed.getD entropy) = .ok strategy
  sized : Memo.ofCapacity settings.cacheCapacity = .ok memo
  scored : (Bench.ofWorld world memo).request u evaluator (settings.initial.getD u.emptySet) =
    (.ok baseline, bench)
  room : reserve settings.iterations trajectorySlot = .ok ()
  walked : (Walk.ofStage ⟨strategy.begin (.start baseline), .start baseline, bench⟩).steps u
    evaluator scheduler settings.iterations 1 = (halt, walk)

def Ended.report? : Ended → Option Report
  | .complete report => some report
  | .aborted _ seen => seen
  | .fault _ => none

def Ended.ofHalt : Halt → Ended
  | .error e => .aborted e none
  | .fault f => .fault f

variable {settings : Settings} {u : Universe} {evaluator : Evaluator σ} {scheduler : Scheduler σ}
  {entropy : UInt64} {world : σ}

namespace Course

variable (course : Course settings u evaluator scheduler entropy world)

def start : Walk σ :=
  .ofStage ⟨course.strategy.begin (.start course.baseline), .start course.baseline, course.bench⟩

def completed : Nat := course.walk.trajectory.size

def log : List Entry := course.walk.stage.bench.log.toList

instance : Subsingleton (Course settings u evaluator scheduler entropy world) where
  allEq := by
    rintro ⟨strategy, memo, baseline, bench, halt, walk, _, chosen, sized, scored, _, walked⟩
      ⟨strategy', memo', baseline', bench', halt', walk', _, chosen', sized', scored', _, walked'⟩
    cases chosen.symm.trans chosen'
    cases sized.symm.trans sized'
    cases scored.symm.trans scored'
    cases walked.symm.trans walked'
    rfl

theorem runWith_eq :
    runWith settings u evaluator scheduler entropy world =
      (.ofWalk evaluator settings course.baseline course.halt course.walk,
        course.walk.stage.bench.world) := by
  obtain ⟨strategy, memo, baseline, bench, halt, walk, valid, chosen, sized, scored, room,
    walked⟩ := course
  simp only [runWith, Settings.prepare_eq_ok valid chosen sized, scored, runFrom, room, walked]

theorem cases :
    (course.halt = none ∧ course.completed = settings.iterations ∧
      Walk.Reached u evaluator scheduler course.start course.completed course.walk) ∨
    ∃ before stop, course.completed < settings.iterations ∧
      Walk.Reached u evaluator scheduler course.start course.completed before ∧
      before.step u evaluator scheduler (course.completed + 1) = (.error stop, course.walk) ∧
      course.halt = some stop := by
  -- The trajectory starts empty and gains a cost with each completed step, so its size counts them.
  rcases Walk.Reached.steps_cases .start course.walked with ⟨none, reached⟩ |
    ⟨m, before, stop, inside, reached, failed, some⟩
  · have size := reached.size_trajectory
    have completed : course.completed = settings.iterations := by
      simpa [Walk.ofStage, Course.completed] using size
    rw [Nat.zero_add] at reached
    exact .inl ⟨none, completed, completed ▸ reached⟩
  · have size := reached.size_trajectory
    have same := (Walk.step_error failed).2
    have completed : course.completed = m := by
      simpa [Walk.ofStage, Course.completed, same] using size
    exact .inr ⟨before, stop, by omega, completed ▸ reached, completed ▸ failed, some⟩

theorem completed_le : course.completed ≤ settings.iterations := by
  rcases course.cases with ⟨_, all, _⟩ | ⟨_, _, few, _⟩
  · exact Nat.le_of_eq all
  · exact Nat.le_of_lt few

/-- A run with a course is aborted with the error of a step, and leaves a report unless the error
forbids it. -/
theorem halt_of_aborted {e : SearchError} {seen : Option Report}
    (aborted : (runWith settings u evaluator scheduler entropy world).1 = .aborted e seen) :
    course.halt = some (.error e) ∧ seen = if e.keepsReport then
      some (course.walk.report evaluator settings course.baseline (some e)) else none := by
  rw [course.runWith_eq] at aborted
  rcases halted : course.halt with _ | e' | f
  · rw [halted] at aborted
    cases aborted
  · rw [halted] at aborted
    cases aborted
    exact ⟨rfl, rfl⟩
  · rw [halted] at aborted
    cases aborted

theorem halt_of_fault {fault : Fault}
    (faulted : (runWith settings u evaluator scheduler entropy world).1 = .fault fault) :
    course.halt = some (.fault fault) := by
  rw [course.runWith_eq] at faulted
  rcases halted : course.halt with _ | e | f
  · rw [halted] at faulted
    cases faulted
  · rw [halted] at faulted
    cases faulted
  · rw [halted] at faulted
    cases faulted
    rfl

end Course

theorem runFrom_of_full {strategy : Strategy} {baseline : Scored} {bench : Bench σ} {fault : Fault}
    (full : reserve settings.iterations trajectorySlot = .error fault) :
    runFrom settings u evaluator scheduler strategy baseline bench =
      (.fault fault, bench.world) := by
  simp only [runFrom, full]

theorem runFrom_of_room {strategy : Strategy} {baseline : Scored} {bench : Bench σ}
    (room : reserve settings.iterations trajectorySlot = .ok ()) {halt : Option Halt}
    {walk : Walk σ}
    (walked : (Walk.ofStage ⟨strategy.begin (.start baseline), .start baseline, bench⟩).steps u
      evaluator scheduler settings.iterations 1 = (halt, walk)) :
    runFrom settings u evaluator scheduler strategy baseline bench =
      (.ofWalk evaluator settings baseline halt walk, walk.stage.bench.world) := by
  simp only [runFrom, room, walked]

theorem runWith_of_rejected {e : SearchError} (rejected : settings.prepare u.size entropy = .error e) :
    runWith settings u evaluator scheduler entropy world = (.aborted e none, world) := by
  rw [runWith, rejected]

theorem runWith_of_invalid {e : SearchError} (invalid : settings.validate u.size = .error e) :
    runWith settings u evaluator scheduler entropy world = (.aborted e none, world) := by
  have rejected : settings.prepare u.size entropy = .error e := by
    rw [Settings.prepare, invalid]
    rfl
  exact runWith_of_rejected rejected

theorem runWith_of_prepared {strategy : Strategy} {memo : Memo FlagSet}
    (valid : settings.validate u.size = .ok ())
    (chosen : Strategy.ofKind settings.strategy settings.tabuCapacity
      (settings.seed.getD entropy) = .ok strategy)
    (sized : Memo.ofCapacity settings.cacheCapacity = .ok memo) :
    runWith settings u evaluator scheduler entropy world =
      match (Bench.ofWorld world memo).request u evaluator (settings.initial.getD u.emptySet) with
      | (.error halt, bench) => (.ofHalt halt, bench.world)
      | (.ok baseline, bench) =>
          runFrom settings u evaluator scheduler strategy baseline bench := by
  simp only [runWith, Settings.prepare_eq_ok valid chosen sized]
  cases (Bench.ofWorld world memo).request u evaluator (settings.initial.getD u.emptySet) with
  | mk result bench =>
    rcases result with (_ | _) | _ <;> rfl

theorem runWith_cases_of_prepared {strategy : Strategy} {memo : Memo FlagSet}
    (valid : settings.validate u.size = .ok ())
    (chosen : Strategy.ofKind settings.strategy settings.tabuCapacity
      (settings.seed.getD entropy) = .ok strategy)
    (sized : Memo.ofCapacity settings.cacheCapacity = .ok memo) (evaluator : Evaluator σ)
    (scheduler : Scheduler σ) (world : σ) :
    (∃ (halt : Halt) (bench : Bench σ),
      (Bench.ofWorld world memo).request u evaluator (settings.initial.getD u.emptySet) =
        (.error halt, bench) ∧
      runWith settings u evaluator scheduler entropy world = (.ofHalt halt, bench.world)) ∨
    (∃ (fault : Fault) (bench : Bench σ),
      reserve settings.iterations trajectorySlot = .error fault ∧
      runWith settings u evaluator scheduler entropy world = (.fault fault, bench.world)) ∨
    Nonempty (Course settings u evaluator scheduler entropy world) := by
  rw [runWith_of_prepared valid chosen sized]
  cases scored : (Bench.ofWorld world memo).request u evaluator
    (settings.initial.getD u.emptySet) with
  | mk result bench =>
    cases result with
    | error halt => exact .inl ⟨halt, bench, rfl, rfl⟩
    | ok baseline =>
      cases room : reserve settings.iterations trajectorySlot with
      | error fault => exact .inr (.inl ⟨fault, bench, rfl, runFrom_of_full room⟩)
      | ok _ =>
        exact .inr (.inr
          ⟨strategy, memo, baseline, bench, _, _, valid, chosen, sized, scored, room, rfl⟩)

/-- Every run is rejected, or cannot score its start, or has no room for its trajectory, or has a
course. -/
theorem runWith_cases (settings : Settings) (u : Universe) (evaluator : Evaluator σ)
    (scheduler : Scheduler σ) (entropy : UInt64) (world : σ) :
    (∃ what, runWith settings u evaluator scheduler entropy world =
      (.aborted (.invalidParameter what) none, world)) ∨
    (∃ (memo : Memo FlagSet) (halt : Halt) (bench : Bench σ),
      (Bench.ofWorld world memo).request u evaluator (settings.initial.getD u.emptySet) =
        (.error halt, bench) ∧
      runWith settings u evaluator scheduler entropy world = (.ofHalt halt, bench.world)) ∨
    (∃ (fault : Fault) (bench : Bench σ),
      reserve settings.iterations trajectorySlot = .error fault ∧
      runWith settings u evaluator scheduler entropy world = (.fault fault, bench.world)) ∨
    Nonempty (Course settings u evaluator scheduler entropy world) := by
  rcases settings.prepare_cases u.size entropy with ⟨what, refused⟩ |
    ⟨strategy, memo, valid, chosen, sized⟩
  · exact .inl ⟨what, runWith_of_rejected refused⟩
  · rcases runWith_cases_of_prepared valid chosen sized evaluator scheduler world with
      ⟨halt, bench, scored, ended⟩ | started
    · exact .inr (.inl ⟨memo, halt, bench, scored, ended⟩)
    · exact .inr (.inr started)

theorem exists_course_of_report {report : Report}
    (left : (runWith settings u evaluator scheduler entropy world).1.report? = some report) :
    ∃ (course : Course settings u evaluator scheduler entropy world) (failure : Option SearchError),
      course.halt = failure.map .error ∧
      report = course.walk.report evaluator settings course.baseline failure := by
  rcases runWith_cases settings u evaluator scheduler entropy world with ⟨what, ended⟩ |
    ⟨memo, halt, bench, _, ended⟩ | ⟨fault, bench, _, ended⟩ | ⟨⟨course⟩⟩
  · rw [ended] at left
    cases left
  · rw [ended] at left
    cases halt <;> cases left
  · rw [ended] at left
    cases left
  · rw [course.runWith_eq] at left
    refine ⟨course, ?_⟩
    cases halted : course.halt with
    | none =>
      rw [halted] at left
      cases left
      exact ⟨none, rfl, rfl⟩
    | some halt =>
      rw [halted] at left
      cases halt with
      | fault f => cases left
      | error e =>
        simp only [Ended.ofWalk, Ended.report?] at left
        split at left
        · cases left
          exact ⟨some e, rfl, rfl⟩
        · cases left

/-- An error that neither the settings nor a cancellation nor the evaluator is the source of comes
from a step. -/
theorem exists_course_of_aborted {e : SearchError} {seen : Option Report}
    (ended : (runWith settings u evaluator scheduler entropy world).1 = .aborted e seen)
    (accepted : ∀ what, e ≠ .invalidParameter what) (running : e ≠ .interrupted)
    (silent : ∀ flags world, (evaluator.score flags world).1 ≠ .error e) :
    ∃ course : Course settings u evaluator scheduler entropy world,
      course.halt = some (.error e) := by
  rcases runWith_cases settings u evaluator scheduler entropy world with ⟨what, rejected⟩ |
    ⟨memo, halt, bench, refused, unscored⟩ | ⟨fault, bench, _, faulted⟩ | ⟨⟨course⟩⟩
  · rw [rejected] at ended
    cases ended
    exact absurd rfl (accepted what)
  · rw [unscored] at ended
    cases halt with
    | fault f => cases ended
    | error e =>
      cases ended
      rcases Bench.request_error refused with interrupted | ⟨flags, world, answer⟩
      · exact absurd interrupted running
      · exact absurd answer (silent flags world)
  · rw [faulted] at ended
    cases ended
  · exact ⟨course, (course.halt_of_aborted ended).1⟩

end FlagSearch
