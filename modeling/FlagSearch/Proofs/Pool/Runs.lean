import FlagSearch.Proofs.Search.Accounts

/-!
# Runs with a pool of workers

A run with a pool of workers ends as the run with one worker does.  What the memo holds depends on
the order that the workers find, and so may the marks and counts of the memo; nothing else does.  If
the memo has room for all the sets that the run asks for, not even those do.

* `Report.timeless`, `Ended.timeless` — what a run shows, marks and counts included.
* `Pool.Reached.yields_sequential` — batches.
* `Walk.report_timeless_eq`, `Course.timeless_eq`, `runWith_timeless` — runs with room.
* `pooled_eq_sequential` — a pool does what one worker does.
-/

namespace FlagSearch

def Report.timeless (report : Report) : Report := { report with generatedAt := 0 }

def Ended.timeless : Ended → Ended
  | .complete report => .complete report.timeless
  | .aborted e seen => .aborted e (seen.map Report.timeless)
  | .fault f => .fault f

section Runs

variable {σ : Type} {width : Nat} {settings : Settings} {u : Universe} {evaluator : Evaluator σ}
  {scheduler scheduler' : Scheduler σ} {outcomes : List String → Outcome}
  {entropy entropy' : UInt64} {world world' : σ}

theorem Scored.eq_of_unmarked {left right : Scored} (same : left.unmarked = right.unmarked)
    (marks : left.cached = right.cached) : left = right := by
  obtain ⟨set, flags, outcome, cached⟩ := left
  obtain ⟨set', flags', outcome', cached'⟩ := right
  cases marks
  cases same
  rfl

theorem Course.bare_eq (publishes : evaluator.Publishes fun flags => .ok (outcomes flags))
    (pooled : scheduler.Pooled width u evaluator) (pooled' : scheduler'.Pooled width u evaluator)
    (seeded : ∀ flips, settings.strategy = .hillClimb flips → settings.seed.isSome)
    (course : Course settings u evaluator scheduler entropy world)
    (course' : Course settings u evaluator scheduler' entropy' world') :
    course.baseline.unmarked = course'.baseline.unmarked ∧ course.halt = course'.halt ∧
      course.walk.bare = course'.walk.bare := by
  obtain ⟨scored, walked, _⟩ := course.plain publishes (pooled.answers publishes)
  obtain ⟨scored', walked', _⟩ := course'.plain publishes (pooled'.answers publishes)
  have baseline := Except.ok.inj (scored.symm.trans scored')
  have strategy : course.strategy = course'.strategy := by
    have chosen := course.chosen
    rw [Strategy.ofKind_entropy seeded entropy entropy', course'.chosen] at chosen
    exact (Except.ok.inj chosen).symm
  rw [baseline, strategy, walked'] at walked
  exact ⟨baseline, (congrArg Prod.fst walked).symm, (congrArg Prod.snd walked).symm⟩

theorem Bench.asked_bare (start : FlagSet) (bench : Bench σ) :
    bench.bare.asked start = bench.asked start := by
  simp [asked, bare, Entry.unmarked, Function.comp_def]

theorem Walk.report_timeless_eq (evaluator : Evaluator σ) (settings : Settings) {start : FlagSet}
    {capacity : Nat} {walk walk' : Walk σ} (same : walk.bare = walk'.bare)
    (accounts : walk.stage.bench.Accounts start capacity)
    (accounts' : walk'.stage.bench.Accounts start capacity)
    (within : walk.stage.bench.memo.Within capacity)
    (within' : walk'.stage.bench.memo.Within capacity)
    {baseline : Scored} (tracks : walk.stage.Tracks baseline) (tracks' : walk'.stage.Tracks baseline)
    (failure : Option SearchError) :
    (walk.report evaluator settings baseline failure).timeless =
      (walk'.report evaluator settings baseline failure).timeless := by
  obtain ⟨stage, trajectory⟩ := Walk.mk.inj same
  obtain ⟨strategy, _, bench⟩ := Stage.mk.inj stage
  -- Without the marks the logs are the same, and the marks can be read off the log.
  have log : walk.stage.bench.log.toList = walk'.stage.bench.log.toList := by
    have unmarked := congrArg (fun bench : Bench Unit => bench.log.toList) bench
    simp only [Bench.bare, Array.toList_map] at unmarked
    rw [accounts.log_eq, accounts'.log_eq, ← remarked_unmarked, unmarked, remarked_unmarked]
  have best := tracks.best
  rw [log] at best
  have best := best.unique tracks'.best
  have stats : walk.stage.bench.memo.stats = walk'.stage.bench.memo.stats := by
    rw [Memo.stats, Memo.stats, accounts.hits_eq, accounts.misses_eq, accounts.capacity_eq,
      accounts.size_eq within, Bench.asked, accounts'.hits_eq, accounts'.misses_eq,
      accounts'.capacity_eq, accounts'.size_eq within', Bench.asked, log]
  simp only [Walk.report, Report.timeless, trajectory, strategy, log, best, stats]

/-- With room for all the sets that a run asks for, the schedule has no say in how it ends, marks and
counts of the memo included. -/
theorem Course.timeless_eq (wide : 0 < width)
    (publishes : evaluator.Publishes fun flags => .ok (outcomes flags))
    (pooled : scheduler.Pooled width u evaluator) (pooled' : scheduler'.Pooled width u evaluator)
    (seeded : ∀ flips, settings.strategy = .hillClimb flips → settings.seed.isSome)
    (course : Course settings u evaluator scheduler entropy world)
    (course' : Course settings u evaluator scheduler' entropy' world')
    (room : (course.walk.stage.bench.asked course.baseline.set).toFinset.card ≤
      settings.cacheCapacity) :
    (runWith settings u evaluator scheduler entropy world).1.timeless =
      (runWith settings u evaluator scheduler' entropy' world').1.timeless := by
  obtain ⟨baseline, halt, walk⟩ := course.bare_eq publishes pooled pooled' seeded course'
  have start : course.baseline.set = course'.baseline.set := by
    simpa using congrArg Scored.set baseline
  have asked := calc course.walk.stage.bench.asked course.baseline.set
      _ = course.walk.bare.stage.bench.asked course.baseline.set := (Bench.asked_bare _ _).symm
      _ = course'.walk.bare.stage.bench.asked course'.baseline.set := by rw [walk, start]
      _ = course'.walk.stage.bench.asked course'.baseline.set := Bench.asked_bare _ _
  obtain ⟨computed, accounts⟩ := course.accounts wide publishes pooled room
  obtain ⟨computed', accounts'⟩ := course'.accounts wide publishes pooled' (asked ▸ room)
  have within := (course.settled publishes (pooled.answers publishes)).bench.within
  have within' := (course'.settled publishes (pooled'.answers publishes)).bench.within
  have tracks' := course'.tracks pooled'.keepsLog
  have same := Scored.eq_of_unmarked baseline (computed.trans computed'.symm)
  rw [accounts.capacity_eq] at within
  rw [accounts'.capacity_eq] at within'
  rw [← same] at accounts' tracks'
  have reports := Walk.report_timeless_eq evaluator settings walk accounts accounts' within within'
    (course.tracks pooled.keepsLog) tracks'
  rw [course.runWith_eq, course'.runWith_eq, ← halt, ← same]
  rcases course.halt with _ | e | f
  · exact congrArg Ended.complete (reports none)
  · simp only [Ended.ofWalk, Ended.timeless]
    split
    · rw [Option.map_some, Option.map_some, reports]
    · rfl
  · rfl

theorem runWith_poolWidth (valid : settings.validate u.size = .ok ()) {workers : Nat}
    (positive : 0 < workers) :
    runWith { settings with poolWidth := workers } u evaluator scheduler entropy world =
      runWith settings u evaluator scheduler entropy world := by
  have changed : Settings.Accepted { settings with poolWidth := workers } u.size :=
    { Settings.accepted_of_validate valid with poolWidth_pos := positive }
  have prepared : Settings.prepare { settings with poolWidth := workers } u.size entropy =
      settings.prepare u.size entropy := by
    rw [Settings.prepare, Settings.prepare, valid, changed.validate,
      Settings.checkWidth_of_validate valid, Settings.checkWidth_of_validate changed.validate]
  rw [runWith, runWith, prepared]
  rfl

theorem Course.exists_other (publishes : evaluator.Publishes fun flags => .ok (outcomes flags))
    (course : Course settings u evaluator scheduler entropy world) :
    Nonempty (Course settings u evaluator scheduler' entropy' world') := by
  have accepted := Settings.accepted_of_validate course.valid
  obtain ⟨strategy, memo, chosen, sized⟩ :=
    accepted.exists_prepared (settings.seed.getD entropy')
  have begins : (Bench.ofWorld world' memo).Settled u fun flags => .ok (outcomes flags) :=
    ⟨rfl, Memo.agrees_of_ofCapacity sized⟩
  obtain ⟨baseline, bench, scored⟩ := Bench.exists_scored publishes begins accepted.length_start
  exact ⟨strategy, memo, baseline, bench, _, _, course.valid, chosen, sized, scored, course.room,
    rfl⟩

/-- What a batch comes to differs from what it comes to one candidate after the other in the marks at
most. -/
theorem Pool.Reached.yields_sequential
    (publishes : evaluator.Publishes fun flags => .ok (outcomes flags)) {batch : List FlagSet}
    (lengths : ∀ set ∈ batch, set.length = u.size) {bench : Bench σ}
    (ready : bench.Ready u fun flags => .ok (outcomes flags)) {n : Nat} {pool : Pool σ}
    (reached : Reached width u evaluator batch (ofBench bench) n pool)
    {result : Except Halt (List Scored)} (yields : pool.Yields u batch result) :
    ∃ scored sequential, result = .ok scored ∧
      (Bench.requestAll u evaluator batch bench).1 = .ok sequential ∧
      scored.map (·.set) = batch ∧ scored.map Scored.unmarked = sequential.map Scored.unmarked := by
  obtain ⟨events, calm⟩ := reached.calm publishes lengths ready.running
  obtain ⟨scored, rfl, unmarked⟩ :=
    calm.yields_ok ready.within ready.agrees reached.tidy lengths yields
  have answers := (Bench.requestAll_answers publishes).answers lengths ready
  rw [Universe.scoreAll_eq] at answers
  cases came : (Bench.requestAll u evaluator batch bench).1 with
  | error halt =>
    rw [came] at answers
    cases answers
  | ok sequential =>
    rw [came] at answers
    have sets := congrArg (List.map (·.set)) unmarked
    refine ⟨scored, sequential, rfl, rfl, ?_, unmarked.trans (Except.ok.inj answers).symm⟩
    simpa [Function.comp_def, Universe.marked] using sets

/-- If a run leaves a report and there was room for all the sets that it asked for, the schedule has
no say in the marks and counts either. -/
theorem runWith_timeless (wide : 0 < width)
    (publishes : evaluator.Publishes fun flags => .ok (outcomes flags))
    (pooled : scheduler.Pooled width u evaluator) (pooled' : scheduler'.Pooled width u evaluator)
    (seeded : ∀ flips, settings.strategy = .hillClimb flips → settings.seed.isSome)
    (entropy' : UInt64) (world' : σ) {report : Report}
    (left : (runWith settings u evaluator scheduler entropy world).1.report? = some report)
    (room : (report.baseline.set :: report.results.map (·.set)).toFinset.card ≤
      settings.cacheCapacity) :
    (runWith settings u evaluator scheduler entropy world).1.timeless =
      (runWith settings u evaluator scheduler' entropy' world').1.timeless := by
  obtain ⟨course, failure, _, rfl⟩ := exists_course_of_report left
  obtain ⟨course'⟩ : Nonempty (Course settings u evaluator scheduler' entropy' world') :=
    course.exists_other publishes
  refine course.timeless_eq wide publishes pooled pooled' seeded course' ?_
  have asked := ((ranked_perm course.log).map (·.set)).cons course.baseline.set
  exact (congrArg Finset.card (List.toFinset_eq_of_perm _ _ asked)).ge.trans room

/-- For an evaluator that is a function of the flags and always comes to an outcome, a panic read as
a runtime error, a pool of workers does what one worker does.

Whatever order the workers of a pool find on a batch, they get done after three steps for a candidate
at most, and as long as they are not done one of them can take a step.  When they are done, the batch
comes to one result for each candidate, in the order of the batch and with the set, the flags and the
outcome that one worker comes to from the same memo.

So a run whose batches are scheduled on a pool, each in an order of its own, ends as the run with one
worker does, with the same error if there is one, and shows the same, up to the marks and counts of
the memo and the time.  That holds for any strategy, as long as hill climbing is given its seed.  If
the memo has room for all the sets that the run asks for, the marks and counts are the same too. -/
theorem pooled_eq_sequential (publishes : evaluator.Publishes fun flags => .ok (outcomes flags)) :
    (∀ {width : Nat} {batch : List FlagSet} {bench : Bench σ} {n : Nat} {pool : Pool σ},
      1 < width → (∀ set ∈ batch, set.length = u.size) →
      bench.Ready u (fun flags => .ok (outcomes flags)) →
      Pool.Reached width u evaluator batch (.ofBench bench) n pool →
        n ≤ 3 * batch.length ∧
        (pool.Finished batch ∨ ∃ next, Pool.Step width u evaluator batch pool next) ∧
        (pool.Finished batch → (∃ result, pool.Yields u batch result) ∧
          ∀ result, pool.Yields u batch result → ∃ scored sequential, result = .ok scored ∧
            (Bench.requestAll u evaluator batch bench).1 = .ok sequential ∧
            scored.map (·.set) = batch ∧
            scored.map Scored.unmarked = sequential.map Scored.unmarked)) ∧
    (∀ {settings : Settings} {scheduler : Scheduler σ}, 1 < settings.poolWidth →
      settings.validate u.size = .ok () →
      (∀ flips, settings.strategy = .hillClimb flips → settings.seed.isSome) →
      scheduler.Pooled settings.poolWidth u evaluator → ∀ entropy entropy' world world',
        (runWith settings u evaluator scheduler entropy world).1.unmarked =
          (run { settings with poolWidth := 1 } u evaluator entropy' world').1.unmarked ∧
        ∀ report, (runWith settings u evaluator scheduler entropy world).1.report? = some report →
          (report.baseline.set :: report.results.map (·.set)).toFinset.card ≤
            settings.cacheCapacity →
          (runWith settings u evaluator scheduler entropy world).1.timeless =
            (run { settings with poolWidth := 1 } u evaluator entropy' world').1.timeless) := by
  constructor
  · intro width batch bench n pool wide lengths ready reached
    obtain ⟨events, calm⟩ := reached.calm publishes lengths ready.running
    have tidy := reached.tidy
    refine ⟨reached.le_three_mul, ?_, fun finished => ⟨?_, fun result yields => ?_⟩⟩
    · exact calm.exists_step (Nat.zero_lt_of_lt wide) publishes lengths ready.within ready.agrees
        tidy
    · obtain ⟨scored, yields⟩ :=
        calm.exists_yields ready.within ready.agrees tidy lengths finished
      exact ⟨_, yields⟩
    · exact reached.yields_sequential publishes lengths ready yields
  · intro settings scheduler wide valid seeded pooled entropy entropy' world world'
    have positive := Nat.zero_lt_of_lt wide
    have sequential : Scheduler.Pooled settings.poolWidth u evaluator (Bench.requestAll u evaluator) :=
      Bench.requestAll_pooled positive u evaluator
    rw [run, runWith_poolWidth valid Nat.one_pos]
    refine ⟨?_, fun report left room => ?_⟩
    · rw [runWith_unmarked publishes (pooled.answers publishes) valid,
        runWith_unmarked publishes (sequential.answers publishes) valid,
        Plain.run_entropy seeded _ entropy entropy']
    · exact runWith_timeless positive publishes pooled sequential seeded entropy' world' left room

end Runs

/-- How an evaluation comes out, by the flags. -/
def moods : List String → Outcome
  | [] => .success (.ofPattern 3) none []
  | ["-a"] => .runtimeError
  | _ => .buildFailure

/-- An evaluator that panics where its flags lead to a runtime error. -/
def moody : Evaluator (List (List String)) := .ofFunction "moody" fun flags =>
  match moods flags with
  | .runtimeError => .panic "out of memory"
  | outcome => .outcome outcome

theorem moody_publishes : moody.Publishes fun flags => .ok (moods flags) where
  steady _ := rfl
  published_eq flags _ := by
    change (match moods flags with
      | .runtimeError => Reply.panic "out of memory"
      | outcome => Reply.outcome outcome).published = _
    cases moods flags <;> rfl

def panicking : FlagSet := (FlagSet.zeros 3).toggle 0

def spare : Bench (List (List String)) := .ofWorld [] ⟨1, [], 0, 0⟩

/-- Two workers that took the same candidate up, where the one that took it up last led. -/
def overtaken : Pool (List (List String)) :=
  ⟨[["-a"]], false, ⟨⟨⟨1, [(panicking, .runtimeError)], 1, 1⟩, [], [some (.ok .runtimeError)]⟩,
    [⟨panicking, .lead 0, some (.found ⟨.runtimeError, false⟩)⟩,
      ⟨panicking, .follow 0, some (.found ⟨.runtimeError, true⟩)⟩]⟩, [], [1, 0], []⟩

theorem reached_overtaken :
    Pool.Reached 2 Stage.flagTrio moody [panicking, panicking] (.ofBench spare) 6 overtaken := by
  have one : Pool.Reached 2 Stage.flagTrio moody [panicking, panicking] (.ofBench spare) 1
      { Pool.ofBench spare with admitted := [0] } :=
    Pool.Reached.start.step (.takeUp (by decide) (by decide) (by rfl) (by rfl))
  have two : Pool.Reached 2 Stage.flagTrio moody [panicking, panicking] (.ofBench spare) 2
      { Pool.ofBench spare with admitted := [1, 0] } :=
    one.step (.takeUp (by decide) (by decide) (by rfl) (by rfl))
  have three : Pool.Reached 2 Stage.flagTrio moody [panicking, panicking] (.ofBench spare) 3
      ⟨[], false, ⟨⟨⟨1, [], 0, 1⟩, [(panicking, 0)], [none]⟩, [⟨panicking, .lead 0, none⟩]⟩,
        [0], [1], []⟩ :=
    two.step (@Pool.Step.enter _ _ _ _ _ _ 1 panicking _ _ List.mem_cons_self rfl (.enter _ _))
  have four : Pool.Reached 2 Stage.flagTrio moody [panicking, panicking] (.ofBench spare) 4
      ⟨[], false, ⟨⟨⟨1, [], 0, 1⟩, [(panicking, 0)], [none]⟩,
        [⟨panicking, .lead 0, none⟩, ⟨panicking, .follow 0, none⟩]⟩, [], [1, 0], []⟩ :=
    three.step (@Pool.Step.enter _ _ _ _ _ _ 0 panicking _ _ List.mem_cons_self rfl (.enter _ _))
  have five : Pool.Reached 2 Stage.flagTrio moody [panicking, panicking] (.ofBench spare) 5
      ⟨[["-a"]], false, ⟨⟨⟨1, [(panicking, .runtimeError)], 0, 1⟩, [], [some (.ok .runtimeError)]⟩,
        [⟨panicking, .lead 0, some (.found ⟨.runtimeError, false⟩)⟩, ⟨panicking, .follow 0, none⟩]⟩,
        [], [1, 0], []⟩ :=
    four.step (.land (by rfl : Stage.flagTrio.resolve panicking = .ok ["-a"])
      (@Traffic.Step.land _ _ _ 0 panicking 0 _ rfl))
  exact five.step (.wake (@Traffic.Step.wake _ _ _ 1 panicking 0 (.ok .runtimeError) _ rfl rfl))

theorem yields_overtaken : overtaken.Yields Stage.flagTrio [panicking, panicking] (.ok
    [⟨panicking, ["-a"], .runtimeError, true⟩, ⟨panicking, ["-a"], .runtimeError, false⟩]) := by
  refine .scored rfl fun {place candidate} at_ => ?_
  match place, at_ with
  | 0, at_ =>
    cases at_
    exact ⟨1, .follow 0, rfl, rfl, rfl⟩
  | 1, at_ =>
    cases at_
    exact ⟨0, .lead 0, rfl, rfl, rfl⟩

def paired : Settings := { Settings.sweep with poolWidth := 2, cacheCapacity := 4 }

theorem pooled_eq_sequential_overtaken :
    ∃ scheduler : Scheduler (List (List String)), scheduler.Pooled 2 Stage.flagTrio moody ∧
      (∃ scored sequential, (scheduler [panicking, panicking] spare).1 = .ok scored ∧
        (Bench.requestAll Stage.flagTrio moody [panicking, panicking] spare).1 = .ok sequential ∧
        scored.map Scored.unmarked = sequential.map Scored.unmarked ∧ scored ≠ sequential) ∧
      (runWith paired Stage.flagTrio moody scheduler 0 []).1.timeless =
        (run { paired with poolWidth := 1 } Stage.flagTrio moody 1 []).1.timeless := by
  have finished : overtaken.Finished [panicking, panicking] :=
    ⟨rfl, by decide, .inr (by decide)⟩
  obtain ⟨scheduler, pooled, there⟩ := Scheduler.Pooled.exists_of_finished Nat.two_pos
    reached_overtaken finished yields_overtaken
  obtain ⟨batches, runs⟩ := @pooled_eq_sequential _ Stage.flagTrio _ _ moody_publishes
  have lengths : ∀ set ∈ [panicking, panicking], set.length = Stage.flagTrio.size := by decide
  have ready : spare.Ready Stage.flagTrio fun flags => .ok (moods flags) :=
    ⟨⟨rfl, by simp [spare, Bench.ofWorld, Memo.Agrees]⟩, ⟨by decide, rfl, by decide, by decide⟩⟩
  obtain ⟨_, _, results⟩ := batches Nat.one_lt_two lengths ready reached_overtaken
  obtain ⟨scored, sequential, same, came, _, unmarked⟩ := (results finished).2 _ yields_overtaken
  have valid : paired.validate Stage.flagTrio.size = .ok () := by decide
  have seeded : ∀ flips, paired.strategy = .hillClimb flips → paired.seed.isSome := by
    intro flips climbing
    cases climbing
  obtain ⟨alike, timeless⟩ := @runs paired scheduler Nat.one_lt_two valid seeded pooled 0 1 [] []
  refine ⟨scheduler, pooled, ⟨scored, sequential, ?_, came, unmarked, ?_⟩, ?_⟩
  · rw [there]
    exact same
  · rintro rfl
    cases same
    exact absurd came (by decide)
  let course : Course { paired with poolWidth := 1 } Stage.flagTrio moody
      (Bench.requestAll Stage.flagTrio moody) 1 [] :=
    ⟨_, _, _, _, none, _, rfl, rfl, rfl, rfl, rfl, rfl⟩
  rw [run, course.runWith_eq] at alike
  have reports := congrArg Ended.report? alike
  rw [Ended.report?_unmarked] at reports
  obtain ⟨report, left, shown⟩ := Option.map_eq_some_iff.1 reports
  have count : (report.results.map Entry.unmarked).length =
      ((ranked course.log).map Entry.unmarked).length :=
    congrArg (fun report : Report => report.results.length) shown
  have three : course.log.length = 3 := rfl
  rw [List.length_map, List.length_map, (ranked_perm course.log).length_eq, three] at count
  refine timeless report left ((List.toFinset_card_le _).trans ?_)
  rw [List.length_cons, List.length_map, count]
  exact Nat.le_refl 4

end FlagSearch
