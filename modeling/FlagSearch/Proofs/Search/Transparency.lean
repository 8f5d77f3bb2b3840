import FlagSearch.Proofs.Search.Plain
import FlagSearch.Proofs.Search.Refusals

/-!
# The memo has no say

A run whose evaluator is a function of the flags is the run of the search without a memo, the marks
of the memo erased.  That search is not told the capacity of the memo, so two runs that differ in it
end alike.

* `Course.plain` — the course of a run, as the search without a memo takes it.
* `runWith_unmarked` — the run.
* `runWith_ne_fault` — a run with room for its trajectory asks for nothing impossible.
* `run_unmarked_cacheCapacity` — runs that differ in the capacity of the memo.
-/

namespace FlagSearch

section Runs

variable {σ : Type} {settings : Settings} {u : Universe} {evaluator : Evaluator σ}
  {scheduler : Scheduler σ} {answer : List String → Except SearchError Outcome}
  {entropy : UInt64} {world : σ}

theorem runWith_of_refused (valid : settings.validate u.size = .ok ()) {memo : Memo FlagSet}
    (sized : Memo.ofCapacity settings.cacheCapacity = .ok memo) {halt : Halt} {bench : Bench σ}
    (refused : (Bench.ofWorld world memo).request u evaluator
      (settings.initial.getD u.emptySet) = (.error halt, bench)) :
    (runWith settings u evaluator scheduler entropy world).1 = .ofHalt halt := by
  obtain ⟨strategy, _, chosen, _⟩ :=
    (Settings.accepted_of_validate valid).exists_prepared (settings.seed.getD entropy)
  rw [runWith_of_prepared valid chosen sized, refused]

theorem request_start_plain (publishes : evaluator.Publishes answer)
    (accepted : settings.Accepted u.size) {memo : Memo FlagSet}
    (sized : Memo.ofCapacity settings.cacheCapacity = .ok memo) {result : Except Halt Scored}
    {bench : Bench σ}
    (requested : (Bench.ofWorld world memo).request u evaluator
      (settings.initial.getD u.emptySet) = (result, bench)) :
    bench.Ready u answer ∧ bench.bare = .ofWorld () ⟨0, [], 0, 0⟩ ∧
      u.score answer (settings.initial.getD u.emptySet) = result.map Scored.unmarked := by
  have within := Memo.within_of_ofCapacity sized
  have begins : (Bench.ofWorld world memo).Ready u answer :=
    ⟨⟨rfl, Memo.agrees_of_ofCapacity sized⟩, within.capacity_eq.symm ▸ within⟩
  obtain ⟨ready, scored⟩ := Bench.request_answers publishes accepted.length_start begins
  obtain ⟨log, step⟩ := Bench.request_frame u evaluator (settings.initial.getD u.emptySet)
    (Bench.ofWorld world memo)
  rw [requested] at ready scored log step
  refine ⟨ready, ?_, scored.symm⟩
  simp only at log step
  simp [Bench.bare, log, step, Bench.ofWorld]

theorem Course.plain (publishes : evaluator.Publishes answer)
    (answers : scheduler.Answers u answer)
    (course : Course settings u evaluator scheduler entropy world) :
    u.score answer (settings.initial.getD u.emptySet) = .ok course.baseline.unmarked ∧
      Plain.steps u answer settings.iterations 1
        (Plain.start course.strategy course.baseline.unmarked) =
          (course.halt, course.walk.bare) ∧
      course.start.Settled u answer := by
  have accepted := Settings.accepted_of_validate course.valid
  obtain ⟨ready, bare, scored⟩ := request_start_plain publishes accepted course.sized
    course.scored
  have begins : course.start.Settled u answer := by
    refine ⟨ready, ?_⟩
    change course.baseline.set.length = u.size
    rw [(Bench.request_ok course.scored).1]
    exact accepted.length_start
  have start : course.start.bare = Plain.start course.strategy course.baseline.unmarked := by
    have strategy : course.strategy.begin (.start course.baseline) =
        course.strategy.begin (.start course.baseline.unmarked) := by
      cases course.strategy <;> rfl
    simp only [Course.start, Walk.ofStage, Walk.bare, Stage.bare, Plain.start, bare, strategy]
    rfl
  refine ⟨scored, ?_, begins⟩
  rw [← start]
  exact (begins.steps publishes answers accepted.flags_pos course.walked).1

theorem Course.settled (publishes : evaluator.Publishes answer)
    (answers : scheduler.Answers u answer)
    (course : Course settings u evaluator scheduler entropy world) :
    course.walk.Settled u answer := by
  have accepted := Settings.accepted_of_validate course.valid
  have begins := (course.plain publishes answers).2.2
  exact (begins.steps publishes answers accepted.flags_pos course.walked).2

/-- A run is the run of the search without a memo, the marks of the memo erased: it ends in the same
way, and its report shows the same, whatever its memo holds and however its batches are scheduled. -/
theorem runWith_unmarked (publishes : evaluator.Publishes answer)
    (answers : scheduler.Answers u answer) (valid : settings.validate u.size = .ok ())
    (entropy : UInt64) (world : σ) :
    (runWith settings u evaluator scheduler entropy world).1.unmarked =
      Plain.run settings u answer evaluator.name (settings.seed.getD entropy) := by
  have accepted := Settings.accepted_of_validate valid
  obtain ⟨strategy, memo, chosen, sized⟩ :=
    accepted.exists_prepared (settings.seed.getD entropy)
  cases requested : (Bench.ofWorld world memo).request u evaluator
    (settings.initial.getD u.emptySet) with
  | mk result bench =>
    obtain ⟨_, _, scored⟩ := request_start_plain publishes accepted sized requested
    cases result with
    | error halt =>
      rw [runWith_of_refused valid sized requested, Plain.run, chosen]
      simp only [scored, Except.map, Ended.unmarked_ofHalt]
    | ok baseline =>
      rcases Nat.lt_or_ge maxBlock (settings.iterations * trajectorySlot) with full | room
      · have refused : reserve settings.iterations trajectorySlot = .error .capacityOverflow :=
          if_neg (Nat.not_le.2 full)
        rw [runWith_of_prepared valid chosen sized, requested, Plain.run, chosen]
        simp only [scored, Except.map, refused, runFrom_of_full refused]
        rfl
      · have fits : reserve settings.iterations trajectorySlot = .ok () := if_pos room
        let course : Course settings u evaluator scheduler entropy world :=
          ⟨strategy, memo, baseline, bench, _, _, valid, chosen, sized, requested, fits, rfl⟩
        obtain ⟨_, walked, _⟩ := course.plain publishes answers
        rw [course.runWith_eq, Ended.ofWalk_unmarked, Plain.run, chosen]
        simp only [scored, Except.map, fits]
        rw [walked]

/-! ## Faults -/

/-- A step of a search whose evaluator is a function of the flags fails with an error, never in a
fault. -/
theorem Stage.Settled.error_of_advance (publishes : evaluator.Publishes answer)
    (answers : scheduler.Answers u answer) (some : 0 < u.size) {before after : Stage σ}
    (settled : before.Settled u answer) {halt : Halt}
    (failed : before.advance u evaluator scheduler = (.error halt, after)) :
    ∃ e, halt = .error e := by
  have plain := congrArg Prod.fst (settled.advance publishes answers some failed).1
  rw [Plain.advance, tries_bare] at plain
  cases chosen : before.tries u with
  | error stop =>
    rw [chosen] at plain
    cases plain
    exact tries_error some settled.length_eq chosen
  | ok sets =>
    simp only [chosen] at plain
    split at plain
    next stop failed =>
      cases plain
      exact Universe.scoreAll_error failed
    · cases plain

theorem Walk.Settled.error_of_steps (publishes : evaluator.Publishes answer)
    (answers : scheduler.Answers u answer) (some : 0 < u.size) {walk last : Walk σ}
    {count number : Nat} (settled : walk.Settled u answer) {halt : Halt}
    (stopped : walk.steps u evaluator scheduler count number = (.some halt, last)) :
    ∃ e, halt = .error e := by
  induction count generalizing walk number with
  | zero => cases stopped
  | succ count ih =>
    rw [Walk.steps] at stopped
    split at stopped
    next stop next failed =>
      cases stopped
      exact (settled.entering number).error_of_advance publishes answers some (Walk.step_error failed).1
    next next done => exact ih (settled.step publishes answers some done).2 stopped

theorem runWith_ne_fault (publishes : evaluator.Publishes answer)
    (answers : scheduler.Answers u answer) (valid : settings.validate u.size = .ok ())
    (room : settings.iterations * trajectorySlot ≤ maxBlock) (entropy : UInt64) (world : σ)
    (f : Fault) : (runWith settings u evaluator scheduler entropy world).1 ≠ .fault f := by
  have accepted := Settings.accepted_of_validate valid
  obtain ⟨strategy, memo, chosen, sized⟩ :=
    accepted.exists_prepared (settings.seed.getD entropy)
  cases requested : (Bench.ofWorld world memo).request u evaluator
    (settings.initial.getD u.emptySet) with
  | mk result bench =>
    obtain ⟨_, _, scored⟩ := request_start_plain publishes accepted sized requested
    cases result with
    | error halt =>
      obtain ⟨e, rfl⟩ := Universe.score_error scored
      rw [runWith_of_refused valid sized requested]
      exact Ended.noConfusion
    | ok baseline =>
      let course : Course settings u evaluator scheduler entropy world :=
        ⟨strategy, memo, baseline, bench, _, _, valid, chosen, sized, requested, if_pos room, rfl⟩
      have begins := (course.plain publishes answers).2.2
      intro faulted
      have stopped : course.start.steps u evaluator scheduler settings.iterations 1 =
          (some (.fault f), course.walk) := course.halt_of_fault faulted ▸ course.walked
      obtain ⟨e, same⟩ := begins.error_of_steps publishes answers accepted.flags_pos stopped
      cases same

/-! ## The capacity of the memo -/

theorem Plain.run_entropy
    (seeded : ∀ flips, settings.strategy = .hillClimb flips → settings.seed.isSome) (name : String)
    (entropy entropy' : UInt64) :
    Plain.run settings u answer name (settings.seed.getD entropy) =
      Plain.run settings u answer name (settings.seed.getD entropy') := by
  simp only [Plain.run, Strategy.ofKind_entropy seeded entropy entropy']

/-- For an evaluator that is a function of the flags, the capacity of the memo has no say in a run:
runs of any strategy that differ in it only end in the same way, with the same error if there is
one, and show the same, up to the marks and counts of the memo and the time.  That holds whatever
the entropy and the world they start from, as long as hill climbing is given its seed.  With room
for the trajectory they end with a report or with an error; without it, both are abandoned. -/
theorem run_unmarked_cacheCapacity (publishes : evaluator.Publishes answer)
    (valid : settings.validate u.size = .ok ()) {capacity : Nat} (positive : 0 < capacity)
    (seeded : ∀ flips, settings.strategy = .hillClimb flips → settings.seed.isSome)
    (entropy entropy' : UInt64) (world world' : σ) :
    (run { settings with cacheCapacity := capacity } u evaluator entropy' world').1.unmarked =
        (run settings u evaluator entropy world).1.unmarked ∧
      (settings.iterations * trajectorySlot ≤ maxBlock →
        ∀ f, (run settings u evaluator entropy world).1 ≠ .fault f) := by
  have accepted := Settings.accepted_of_validate valid
  have changed : Settings.Accepted { settings with cacheCapacity := capacity } u.size :=
    { accepted with cacheCapacity_pos := positive }
  have answers := Bench.requestAll_answers (u := u) publishes
  refine ⟨?_, fun room f => runWith_ne_fault publishes answers valid room entropy world f⟩
  rw [run, run, runWith_unmarked publishes answers changed.validate,
    runWith_unmarked publishes answers valid, Plain.run_entropy seeded _ entropy entropy']
  rfl

end Runs

/-- Every way in which an evaluation can end, by the flags: a success, a failed build, a panic, and
an error that stops the run. -/
def brittle (flags : List String) : Reply :=
  match flags with
  | [] => .outcome (.success (.ofPattern 3) none [])
  | ["-a"] => .panic "out of memory"
  | ["-b"] => .outcome .buildFailure
  | _ => .error (.evaluatorUnavailable "gone")

/-- A climb that tries one set again after room for another one was needed. -/
def brittleClimb : Settings :=
  { Settings.hillClimb 1 with iterations := 9, cacheCapacity := 1, seed := some 4 }

theorem run_unmarked_cacheCapacity_brittle :
    ∃ report report',
      (run brittleClimb Stage.flagTrio (.ofFunction "brittle" brittle) 0 []).1.report? = some report ∧
      (run { brittleClimb with cacheCapacity := 4 } Stage.flagTrio (.ofFunction "brittle" brittle) 1
        []).1.report? = some report' ∧
      report'.unmarked = report.unmarked ∧ report' ≠ report ∧
      report.error = some "evaluator unavailable: gone" := by
  have valid : brittleClimb.validate Stage.flagTrio.size = .ok () := by decide
  have seeded : ∀ flips, brittleClimb.strategy = .hillClimb flips → brittleClimb.seed.isSome :=
    fun _ _ => rfl
  have positive : 0 < 4 := by decide
  have alike := congrArg Ended.report? (run_unmarked_cacheCapacity
    (Evaluator.ofFunction_publishes "brittle" brittle) valid positive seeded 0 1 [] []).1
  have error : (run brittleClimb Stage.flagTrio (.ofFunction "brittle" brittle) 0 []).1.report?.map
      (·.error) = some (some "evaluator unavailable: gone") := by decide
  have marked : (run { brittleClimb with cacheCapacity := 4 } Stage.flagTrio
      (.ofFunction "brittle" brittle) 1 []).1.report? ≠
        (run brittleClimb Stage.flagTrio (.ofFunction "brittle" brittle) 0 []).1.report? := by decide
  obtain ⟨report, left, error⟩ := Option.map_eq_some_iff.1 error
  rw [Ended.report?_unmarked, Ended.report?_unmarked, left] at alike
  obtain ⟨report', left', alike⟩ := Option.map_eq_some_iff.1 alike
  rw [left, left'] at marked
  exact ⟨report, report', left, left', alike, fun same => marked (congrArg some same), error⟩

end FlagSearch
