import FlagSearch.Proofs.Pool.Counts
import FlagSearch.Proofs.Pool.Serial
import FlagSearch.Proofs.Search.Standing

/-!
# The books of a run

Between its steps a run is square: the memo has counted a hit for each entry of the log that is
marked as known and a miss for each other entry and for the starting set, and the evaluator was
called once for each miss.  A step that fails at one of its candidates counts its requests and
records nothing, so after it only the memo and the evaluator still agree.

* `Bench.Balanced`, `Stage.advance_balanced`, `Walk.Reached.balanced` — the books between steps.
* `Bench.Ordered`, `Stage.advance_ordered`, `Walk.Reached.ordered` — the calls of a run that scores
  one candidate after the other.
* `Course.balanced`, `Course.failed_counts`, `Course.counts` — how the last step leaves the books.
* `runWith_cache_balance` — the books of a report.
-/

namespace FlagSearch

variable {σ : Type} {u : Universe} {evaluator : Evaluator σ}
  {scheduler : Scheduler (σ × List Contact)} {capacity : Nat}

/-! ## Benches -/

namespace Bench

variable {bench : Bench (σ × List Contact)}

/-- The counts agree with each other and with the log, in which the starting set is missing. -/
structure Balanced (capacity : Nat) (bench : Bench (σ × List Contact)) : Prop where
  counts : bench.Counts capacity
  hits_eq : bench.memo.hits = bench.log.toList.countP (·.cached)
  misses_eq : bench.memo.misses = 1 + bench.log.toList.countP fun entry => !entry.cached

/-- The evaluator was called for the starting set, and then for the entries of the log that it was
called for, in their order. -/
def Ordered (first : List String) (bench : Bench (σ × List Contact)) : Prop :=
  Contact.calls bench.world.2 =
    first :: (bench.log.toList.filter fun entry => !entry.cached).map (·.flags)

theorem Counts.recordAll (counts : bench.Counts capacity) (batch : List Scored) :
    (bench.recordAll batch).Counts capacity where
  running := (recordAll_cancelled bench batch).trans counts.running
  within := (recordAll_memo bench batch).symm ▸ counts.within
  size_le := (recordAll_memo bench batch).symm ▸ counts.size_le
  misses_eq := by rw [recordAll_memo, recordAll_world, counts.misses_eq]
  requests_eq := by rw [recordAll_memo, recordAll_world, counts.requests_eq]

theorem Counts.enter (counts : bench.Counts capacity) (number : Nat) :
    Counts capacity { bench with step := number } :=
  ⟨counts.running, counts.within, counts.size_le, counts.misses_eq, counts.requests_eq⟩

theorem Balanced.enter (balanced : bench.Balanced capacity) (number : Nat) :
    Balanced capacity { bench with step := number } :=
  ⟨balanced.counts.enter number, balanced.hits_eq, balanced.misses_eq⟩

end Bench

/-! ## Steps -/

namespace Stage

variable {before after : Stage (σ × List Contact)}

theorem scorer_tallies (tallies : scheduler.Tallies u) (steady : evaluator.Steady)
    (stage : Stage (σ × List Contact)) :
    (stage.scorer u evaluator.traced scheduler).Tallies u := by
  unfold scorer
  split
  · exact (Bench.requestAll_pooled Nat.one_pos u evaluator.traced).tallies steady
  · exact tallies
  · exact tallies

theorem advance_balanced (lawful : scheduler.Lawful evaluator.traced)
    (tallies : scheduler.Tallies u) (steady : evaluator.Steady) (some : 0 < u.size)
    (length : before.position.current.set.length = u.size)
    (balanced : before.bench.Balanced capacity)
    (done : before.advance u evaluator.traced scheduler = (.ok (), after)) :
    after.bench.Balanced capacity := by
  obtain ⟨sets, batch, bench, chosen, scored, rfl⟩ := advance_ok lawful done
  have lengths := length_of_tries some length chosen
  have tallies := before.scorer_tallies tallies steady
  have log := (before.scorer_lawful (u := u) lawful).log_eq sets before.bench
  have counts := tallies.counts lengths balanced.counts
  obtain ⟨hits, misses⟩ := tallies.hits_eq lengths balanced.counts scored
  rw [scored] at log counts
  refine ⟨counts.recordAll batch, ?_, ?_⟩
  · change (bench.recordAll batch).memo.hits = _
    rw [Bench.recordAll_memo, hits, balanced.hits_eq, moved, Bench.recordAll_log, log,
      List.countP_append, List.countP_map]
    rfl
  · change (bench.recordAll batch).memo.misses = _
    rw [Bench.recordAll_memo, misses, balanced.misses_eq, moved, Bench.recordAll_log, log,
      List.countP_append, List.countP_map, Nat.add_assoc]
    rfl

theorem advance_ordered {first : List String} (ordered : before.bench.Ordered first)
    (done : before.advance u evaluator.traced (Bench.requestAll u evaluator.traced) =
      (.ok (), after)) : after.bench.Ordered first := by
  obtain ⟨sets, batch, bench, _, scored, rfl⟩ :=
    advance_ok (Bench.requestAll_lawful u evaluator.traced) done
  have log := (Bench.requestAll_keepsLog u evaluator.traced).log_eq sets before.bench
  rw [scorer_requestAll] at scored
  rw [scored] at log
  obtain ⟨_, world⟩ := Bench.requestAll_traced scored
  change Contact.calls (bench.recordAll batch).world.2 = _
  rw [Bench.recordAll_world, world, Evaluator.traced_hear, Contact.calls_append, ordered,
    Contact.calls_contacts, moved, Bench.recordAll_log, log, List.filter_append,
    List.map_append, List.filter_map, List.map_map]
  rfl

end Stage

/-! ## Walks -/

theorem Walk.Reached.balanced (lawful : scheduler.Lawful evaluator.traced)
    (tallies : scheduler.Tallies u) (steady : evaluator.Steady) (some : 0 < u.size)
    {kind : StrategyKind} {start walk : Walk (σ × List Contact)} {n : Nat}
    (reached : Reached u evaluator.traced scheduler start n walk)
    (stands : start.stage.Stands u kind) (balanced : start.stage.bench.Balanced capacity) :
    walk.stage.bench.Balanced capacity := by
  induction reached with
  | start => exact balanced
  | @step n walk next before done ih =>
    have length : (walk.entering (n + 1)).position.current.set.length = u.size :=
      (before.stands lawful some stands).length_eq
    exact Stage.advance_balanced lawful tallies steady some length (ih.enter (n + 1))
      (advance_of_step done).1

theorem Walk.Reached.ordered {first : List String} {start walk : Walk (σ × List Contact)} {n : Nat}
    (reached : Reached u evaluator.traced (Bench.requestAll u evaluator.traced) start n walk)
    (ordered : start.stage.bench.Ordered first) : walk.stage.bench.Ordered first := by
  induction reached with
  | start => exact ordered
  | @step n walk next before done ih =>
    have entered : (walk.entering (n + 1)).bench.Ordered first := ih
    exact Stage.advance_ordered entered (advance_of_step done).1

/-! ## Courses -/

namespace Course

variable {settings : Settings} {entropy : UInt64} {world : σ}
  (course : Course settings u evaluator.traced scheduler entropy (world, []))

theorem baseline_cached : course.baseline.cached = false := by
  have held := (Bench.request_traced course.scored).2.2
  have empty : (Bench.ofWorld (world, ([] : List Contact)) course.memo).memo.peek?
      (settings.initial.getD u.emptySet) = none := by
    rw [(Memo.eq_of_ofCapacity course.sized).2]
    rfl
  rw [empty] at held
  simpa using held

theorem balanced_start (steady : evaluator.Steady) :
    course.start.stage.bench.Balanced settings.cacheCapacity := by
  have log := Bench.log_of_request course.scored
  have memo := (Memo.eq_of_ofCapacity course.sized).2
  have tallies := (Bench.requestAll_pooled Nat.one_pos u evaluator.traced).tallies steady
  have lengths : ∀ set ∈ [settings.initial.getD u.emptySet], set.length = u.size := by
    simpa using course.accepted.length_start
  have begins : (Bench.ofWorld (world, ([] : List Contact)) course.memo).Counts
      settings.cacheCapacity := by
    refine ⟨rfl, Memo.within_of_ofCapacity course.sized, ?_, ?_, ?_⟩ <;>
      simp [Bench.ofWorld, memo, Memo.size]
  have counts := tallies.counts lengths begins
  rw [course.requestAll_start] at counts
  obtain ⟨hits, misses⟩ := tallies.hits_eq lengths begins course.requestAll_start
  refine ⟨counts, ?_, ?_⟩
  · change course.bench.memo.hits = course.bench.log.toList.countP _
    rw [hits, log]
    simp [Bench.ofWorld, memo, course.baseline_cached]
  · change course.bench.memo.misses = 1 + course.bench.log.toList.countP _
    rw [misses, log]
    simp [Bench.ofWorld, memo, course.baseline_cached]

theorem ordered_start : course.start.stage.bench.Ordered course.baseline.flags := by
  have log := Bench.log_of_request course.scored
  have world := (Bench.requestAll_traced course.requestAll_start).2
  change Contact.calls course.bench.world.2 =
    course.baseline.flags :: (course.bench.log.toList.filter _).map _
  rw [world, log, Evaluator.traced_hear, Contact.calls_append, Contact.calls_contacts]
  simp [Bench.ofWorld, course.baseline_cached]

variable {width n : Nat} {before : Walk (σ × List Contact)}

theorem balanced (pooled : scheduler.Pooled width u evaluator.traced) (steady : evaluator.Steady)
    (reached : Walk.Reached u evaluator.traced scheduler course.start n before) :
    before.stage.bench.Balanced settings.cacheCapacity :=
  reached.balanced pooled.lawful (pooled.tallies steady) steady course.accepted.flags_pos
    course.stands_start (course.balanced_start steady)

theorem failed_counts (pooled : scheduler.Pooled width u evaluator.traced)
    (steady : evaluator.Steady)
    (reached : Walk.Reached u evaluator.traced scheduler course.start n before) {number : Nat}
    {sets : List FlagSet} {halt : Halt} {after : Bench (σ × List Contact)}
    (chosen : (before.entering number).tries u = .ok sets)
    (failed : (before.entering number).scorer u evaluator.traced scheduler sets
      (before.entering number).bench = (.error halt, after)) :
    after.Counts settings.cacheCapacity ∧ ∃ later,
      after.world.2 = before.stage.bench.world.2 ++ later ∧
      after.memo.hits + after.memo.misses =
        1 + after.log.toList.length + Contact.requests later := by
  have balanced := course.balanced pooled steady reached
  have some := course.accepted.flags_pos
  have length : (before.entering number).position.current.set.length = u.size :=
    (reached.stands pooled.lawful some course.stands_start).length_eq
  have lengths := Stage.length_of_tries some length chosen
  have tallies := (before.entering number).scorer_tallies (pooled.tallies steady) steady
  have entered : (before.entering number).bench.Counts settings.cacheCapacity :=
    balanced.counts.enter number
  have counts := tallies.counts lengths entered
  have log : after.log = before.stage.bench.log := by
    have kept := ((before.entering number).scorer_lawful (u := u) pooled.lawful).log_eq sets
      (before.entering number).bench
    rwa [failed] at kept
  obtain ⟨later, record⟩ := tallies.grows sets (before.entering number).bench
  change before.stage.bench.world.2 ++ later = _ at record
  rw [failed] at counts record
  refine ⟨counts, later, record.symm, ?_⟩
  have all := List.length_eq_countP_add_countP (·.cached) (l := before.stage.bench.log.toList)
  have hits := balanced.hits_eq
  have misses := balanced.misses_eq
  have requests := balanced.counts.requests_eq
  simp only [Bool.not_eq_true, Bool.decide_eq_false] at all
  rw [counts.requests_eq, ← record, Contact.requests_append, log]
  omega

theorem counts (pooled : scheduler.Pooled width u evaluator.traced) (steady : evaluator.Steady) :
    course.walk.stage.bench.Counts settings.cacheCapacity := by
  obtain ⟨before, reached, ⟨_, number, bench⟩ | ⟨_, sets, halt, chosen, failed⟩⟩ :=
    course.ends pooled.lawful
  · exact bench ▸ (course.balanced pooled steady reached).counts.enter number
  · exact (course.failed_counts pooled steady reached chosen failed).1

theorem complete_report {failure : Option SearchError}
    (halted : course.halt = failure.map .error) :
    (course.walk.report evaluator.traced settings course.baseline failure).complete = true ↔
      course.halt = none := by
  rw [halted]
  cases failure <;> simp [Walk.report]

end Course

/-- Let an evaluator that is not cancelled write down how a run turns to it, and let the run leave a
report.  Then the memo holds no more than it has room for and than it missed, and it missed once for
each call of the evaluator.

If the report is complete or tabu search itself ended the run, the memo hit once for each entry of
the results that is marked as known, and missed once for each other entry and for the starting set;
and if the run has one worker, the calls are those for the starting set and for the entries that are
not marked, in the order in which they were recorded.  Otherwise the candidates of the last step were
not all scored, and hits and misses come to the starting set, the entries and the requests of that
step. -/
theorem runWith_cache_balance (settings : Settings) (u : Universe) (evaluator : Evaluator σ)
    (steady : evaluator.Steady) (scheduler : Scheduler (σ × List Contact))
    (pooled : scheduler.Pooled settings.poolWidth u evaluator.traced) (entropy : UInt64) (world : σ)
    {ended : Ended} {after : σ} {record : List Contact} {report : Report}
    (ran : runWith settings u evaluator.traced scheduler entropy (world, []) =
      (ended, after, record))
    (left : ended.report? = some report) :
    ∃ course : Course settings u evaluator.traced scheduler entropy (world, []),
      report.results = ranked course.log ∧ report.baseline = course.baseline.entry 0 ∧
      report.baseline.cached = false ∧
      report.cache.misses = (Contact.calls record).length ∧
      report.cache.entries ≤ min report.cache.capacity report.cache.misses ∧
      ((report.complete = true ∨ course.OutOfMoves) →
        report.cache.hits = report.results.countP (·.cached) ∧
        report.cache.misses = 1 + report.results.countP (fun entry => !entry.cached) ∧
        (Scheduler.ofWidth u evaluator.traced 1 = .ok scheduler →
          Contact.calls record = report.baseline.flags ::
            (course.log.filter fun entry => !entry.cached).map (·.flags))) ∧
      (¬(report.complete = true ∨ course.OutOfMoves) → ∃ before later,
        Walk.Reached u evaluator.traced scheduler course.start course.completed before ∧
        record = before.stage.bench.world.2 ++ later ∧
        report.cache.hits + report.cache.misses =
          1 + report.results.length + Contact.requests later) := by
  have came : (runWith settings u evaluator.traced scheduler entropy (world, [])).1.report? =
      some report := by rwa [ran]
  obtain ⟨course, failure, halted, rfl⟩ := exists_course_of_report came
  have complete := course.complete_report halted
  obtain rfl : course.walk.stage.bench.world.2 = record := by
    rw [course.runWith_eq] at ran
    exact congrArg (·.2.2) ran
  have perm := ranked_perm course.log
  have counts := course.counts pooled steady
  obtain ⟨before, reached, ending⟩ := course.ends pooled.lawful
  refine ⟨course, rfl, rfl, course.baseline_cached, counts.misses_eq,
    Nat.le_min.2 ⟨?_, counts.size_le⟩, ?_, ?_⟩
  · exact Nat.le_trans counts.within.size_le (Nat.le_of_eq counts.within.capacity_eq.symm)
  · intro orderly
    rw [complete] at orderly
    obtain ⟨_, number, bench⟩ | ⟨failed, _⟩ := ending
    · have last : course.walk.stage.bench.Balanced settings.cacheCapacity :=
        bench ▸ (course.balanced pooled steady reached).enter number
      refine ⟨last.hits_eq.trans (perm.countP_eq _).symm,
        last.misses_eq.trans (congrArg _ (perm.countP_eq _).symm), fun alone => ?_⟩
      cases alone
      have ordered : (before.entering number).bench.Ordered course.baseline.flags :=
        reached.ordered course.ordered_start
      rw [← bench] at ordered
      exact ordered
    · exact absurd orderly failed
  · intro failed
    rw [complete] at failed
    obtain ⟨orderly, _⟩ | ⟨_, sets, halt, chosen, scored⟩ := ending
    · exact absurd orderly failed
    · obtain ⟨_, later, record, requests⟩ :=
        course.failed_counts pooled steady reached chosen scored
      exact ⟨before, later, reached, record, perm.length_eq.symm ▸ requests⟩

/-- Hill climbing over two flags with room for two outcomes meets sets again, and an evaluator that
panics on the way; with room for one outcome it turns to the evaluator until that breaks down. -/
theorem runWith_cache_balance_fickle :
    (∃ report after record, runWith { crampedClimb with cacheCapacity := 2 } flagPair fickle.traced
        (Bench.requestAll flagPair fickle.traced) 0 ([], []) = (.complete report, after, record) ∧
      report.cache.hits = 7 ∧ report.results.countP (·.cached) = 7 ∧
      report.cache.misses = 1 + report.results.countP (fun entry => !entry.cached) ∧
      report.cache.misses = (Contact.calls record).length ∧
      ∃ log, report.results = ranked log ∧ Contact.calls record =
        report.baseline.flags :: (log.filter fun entry => !entry.cached).map (·.flags)) ∧
    ∃ report after earlier later, runWith crampedClimb flagPair fickle.traced
        (Bench.requestAll flagPair fickle.traced) 0 ([], []) =
      (.aborted (.evaluatorUnavailable "gone") (some report), after, earlier ++ later) ∧
      report.cache.misses = (Contact.calls (earlier ++ later)).length ∧
      report.cache.hits + report.cache.misses =
        1 + report.results.length + Contact.requests later := by
  have steady : fickle.Steady := fun _ => rfl
  have pooled := Bench.requestAll_pooled Nat.one_pos flagPair fickle.traced
  have done : ∃ report after record,
      runWith { crampedClimb with cacheCapacity := 2 } flagPair fickle.traced
        (Bench.requestAll flagPair fickle.traced) 0 ([], []) = (.complete report, after, record) ∧
      report.complete = true ∧ report.cache.hits = 7 := ⟨_, _, _, rfl, rfl, rfl⟩
  have cut : ∃ report after record, runWith crampedClimb flagPair fickle.traced
      (Bench.requestAll flagPair fickle.traced) 0 ([], []) =
        (.aborted (.evaluatorUnavailable "gone") (some report), after, record) ∧
      report.complete = false := ⟨_, _, _, rfl, rfl⟩
  constructor
  · obtain ⟨report, after, record, ran, complete, seven⟩ := done
    obtain ⟨course, results, _, _, calls, _, squared, _⟩ :=
      runWith_cache_balance _ flagPair fickle steady _ pooled 0 [] ran rfl
    obtain ⟨hits, misses, order⟩ := squared (.inl complete)
    exact ⟨report, after, record, ran, seven, hits.symm.trans seven, misses, calls, course.log,
      results, order rfl⟩
  · obtain ⟨report, after, record, ran, incomplete⟩ := cut
    obtain ⟨course, _, _, _, calls, _, _, failed⟩ :=
      runWith_cache_balance _ flagPair fickle steady _ pooled 0 [] ran rfl
    have stopped : ¬(report.complete = true ∨ course.OutOfMoves) := by
      rintro (complete | ⟨_, _, _, halted⟩)
      · rw [incomplete] at complete
        cases complete
      · rw [course.runWith_eq, halted] at ran
        cases (Prod.mk.inj ran).1
    obtain ⟨before, later, _, rfl, requests⟩ := failed stopped
    exact ⟨report, after, _, later, ran, calls, requests⟩

end FlagSearch
