import FlagSearch.Proofs.FlagSet.Distance
import FlagSearch.Proofs.Search.Contacts
import FlagSearch.Proofs.Search.Standing

/-!
# Hill climbing

Hill climbing tries one set a step and stands at the best one it has seen.  What it turns over is
drawn before the set is scored, and nothing that the evaluator answers reaches the generator; so two
runs with one seed turn the same positions over, wherever they stand.

* `Evaluator.Unfailing` — an evaluator that scores whatever it is asked for.
* `Bench.exists_request` — so every request is answered.
* `Stage.Climbs`, `Walk.step_climbs` — what hill climbing keeps true from step to step.
* `Walk.Along`, `Walk.exists_along` — where it stands after each of its steps.
* `run_hillClimb` — runs.
-/

namespace FlagSearch

variable {σ : Type} {u : Universe} {evaluator : Evaluator σ} {scheduler : Scheduler σ}

/-! ## Evaluators without errors -/

/-- No one asks the search to stop, and every call ends with an outcome or a panic. -/
structure Evaluator.Unfailing (evaluator : Evaluator σ) : Prop where
  steady : evaluator.Steady
  scores : ∀ flags world e, (evaluator.score flags world).1 ≠ .error e

theorem Bench.exists_request (unfailing : evaluator.Unfailing) {bench : Bench σ}
    (running : bench.cancelled = false) {set : FlagSet} (length : set.length = u.size) :
    ∃ scored after, bench.request u evaluator set = (.ok scored, after) ∧
      after.cancelled = false := by
  have goes : (bench.check evaluator).cancelled = false := by
    simp [check, running, unfailing.steady bench.world]
  cases requested : bench.request u evaluator set with
  | mk result after =>
    cases requested_of_request requested with
    | cancelled stopped => cases goes.symm.trans stopped
    | foreign _ foreign => cases (Universe.resolve_eq length).symm.trans foreign
    | known running resolved held => exact ⟨_, _, rfl, running⟩
    | computed running resolved absent came => exact ⟨_, _, rfl, running⟩
    | failed running resolved absent came => exact absurd came (unfailing.scores _ _ _)

/-! ## Steps -/

section Steps

variable {flips : Nat} {seed : UInt64} {baseline : Scored} {stage : Stage σ} {n : Nat}

namespace Stage

/-- What holds of hill climbing after `n` steps: the generator has drawn as many samples, one entry
was recorded under each step, and the run stands at the best set so far. -/
structure Climbs (u : Universe) (flips : Nat) (seed : UInt64) (baseline : Scored) (n : Nat)
    (stage : Stage σ) : Prop where
  strategy_eq : stage.strategy = .hillClimb flips (Draws.after u.size flips ⟨seed⟩ n)
  length_eq : stage.position.current.set.length = u.size
  running : stage.bench.cancelled = false
  tracks : stage.Tracks baseline
  steps_eq : stage.bench.log.toList.map (·.step) = List.range' 1 n

theorem Climbs.current_eq (climbs : stage.Climbs u flips seed baseline n) :
    stage.position.current = stage.position.best := by
  rcases climbs.tracks.level with ⟨visited, tabu⟩ | level
  · rw [climbs.strategy_eq] at tabu
    cases tabu
  · exact level

theorem Climbs.length_log (climbs : stage.Climbs u flips seed baseline n) :
    stage.bench.log.toList.length = n := by
  have lengths := congrArg List.length climbs.steps_eq
  rwa [List.length_map, List.length_range'] at lengths

theorem Climbs.exists_tries (few : flips ≤ u.size) (climbs : stage.Climbs u flips seed baseline n) :
    ∃ set, stage.tries u = .ok [set] ∧
      FlagSet.TurnedOver (Draws.picked seed u.size flips n) stage.position.current.set set := by
  have inside : ∀ i ∈ Draws.picked seed u.size flips n, i < stage.position.current.set.length :=
    fun i drawn => climbs.length_eq ▸ Draws.sample_lt few _ i drawn
  obtain ⟨set, flipped⟩ := FlagSet.exists_flipAll inside
  refine ⟨set, ?_, FlagSet.turnedOver_of_flipAll (Draws.nodup_sample ..) inside flipped⟩
  unfold Draws.picked at flipped
  simp only [tries, climbs.strategy_eq, Nat.not_lt.2 few, if_false, flipped]

theorem Climbs.strategy_drawn (few : flips ≤ u.size)
    (climbs : stage.Climbs u flips seed baseline n) :
    (stage.drawn u).strategy = .hillClimb flips (Draws.after u.size flips ⟨seed⟩ (n + 1)) := by
  simp only [drawn, climbs.strategy_eq, Nat.not_lt.2 few, if_false]
  rfl

theorem Climbs.exists_moved (unfailing : evaluator.Unfailing) (few : flips ≤ u.size)
    (some : 0 < u.size) (climbs : stage.Climbs u flips seed baseline n) :
    ∃ candidate after, stage.bench.request u evaluator candidate.set = (.ok candidate, after) ∧
      after.cancelled = false ∧
      (∀ scheduler, stage.advance u evaluator scheduler =
        (.ok (), (stage.drawn u).moved [candidate] after)) ∧
      FlagSet.TurnedOver (Draws.picked seed u.size flips n) stage.position.current.set
        candidate.set := by
  obtain ⟨set, chosen, turned⟩ := climbs.exists_tries few
  have length := length_of_tries some climbs.length_eq chosen set List.mem_cons_self
  obtain ⟨candidate, after, scored, running⟩ :=
    Bench.exists_request unfailing climbs.running length
  obtain rfl := (Bench.request_ok scored).1
  refine ⟨candidate, after, scored, running, fun scheduler => ?_, turned⟩
  have answer : stage.scorer u evaluator scheduler [candidate.set] stage.bench =
      (.ok [candidate], after) := by
    simp only [scorer, climbs.strategy_eq]
    rw [requestAll_singleton, scored]
    rfl
  exact advance_of_scored chosen answer rfl

theorem Climbs.advance (unfailing : evaluator.Unfailing) (few : flips ≤ u.size) (some : 0 < u.size)
    (climbs : stage.Climbs u flips seed baseline n) (number : stage.bench.step = n + 1)
    (scheduler : Scheduler σ) :
    ∃ entry next, stage.advance u evaluator scheduler = (.ok (), next) ∧
      next.Climbs u flips seed baseline (n + 1) ∧
      next.bench.log.toList = stage.bench.log.toList ++ [entry] ∧
      FlagSet.TurnedOver (Draws.picked seed u.size flips n) stage.position.current.set
        entry.set := by
  obtain ⟨candidate, after, scored, running, advanced, turned⟩ :=
    climbs.exists_moved unfailing few some
  have sequential := advanced (Bench.requestAll u evaluator)
  have stands : stage.Stands u (.hillClimb flips) :=
    ⟨climbs.length_eq, by rw [climbs.strategy_eq]; rfl⟩
  have arrives := stands.advance (Bench.requestAll_lawful u evaluator) some sequential
  obtain ⟨batch, completes⟩ := completes_of_advance sequential
  have frame := Bench.request_frame u evaluator candidate.set stage.bench
  rw [scored, number] at frame
  have log : ((stage.drawn u).moved [candidate] after).bench.log.toList =
      stage.bench.log.toList ++ [candidate.entry (n + 1)] := by
    rw [moved, Bench.recordAll_log, frame.1, frame.2]
    rfl
  refine ⟨candidate.entry (n + 1), _, advanced scheduler, ⟨?_, arrives.length_eq, ?_, ?_, ?_⟩, log,
    turned⟩
  · simp only [moved, climbs.strategy_drawn few, destination]
  · rw [moved, Bench.recordAll_cancelled, running]
  · exact completes.tracks (Bench.requestAll_keepsLog u evaluator) climbs.tracks
  · rw [log, List.map_append, climbs.steps_eq, List.range'_concat, Nat.one_mul, Nat.add_comm 1 n]
    rfl

end Stage

/-! ## Walks -/

namespace Walk

variable {start walk last : Walk σ} {log : List Entry}

/-- Hill climbing stands where the first `n` entries of the log have led, and the next entry is the
current set with the next positions turned over. -/
structure Along (u : Universe) (flips : Nat) (seed : UInt64) (baseline : Scored) (log : List Entry)
    (n : Nat) (walk : Walk σ) : Prop where
  climbs : walk.stage.Climbs u flips seed baseline n
  log_eq : walk.stage.bench.log.toList = log.take n
  next_entry : ∀ entry, log[n]? = some entry →
    FlagSet.TurnedOver (Draws.picked seed u.size flips n) walk.stage.position.current.set entry.set

theorem Along.append (along : walk.Along u flips seed baseline log n) (inside : n < log.length)
    (entry : Entry) : walk.Along u flips seed baseline (log ++ [entry]) n := by
  refine ⟨along.climbs, ?_, fun other found => along.next_entry other ?_⟩
  · rw [along.log_eq, List.take_append_of_le_length (Nat.le_of_lt inside)]
  · rwa [List.getElem?_append_left inside] at found

theorem step_climbs (unfailing : evaluator.Unfailing) (few : flips ≤ u.size) (some : 0 < u.size)
    (climbs : walk.stage.Climbs u flips seed baseline n) (scheduler : Scheduler σ) :
    ∃ entry next, walk.step u evaluator scheduler (n + 1) = (.ok (), next) ∧
      next.stage.Climbs u flips seed baseline (n + 1) ∧
      next.stage.bench.log.toList = walk.stage.bench.log.toList ++ [entry] ∧
      FlagSet.TurnedOver (Draws.picked seed u.size flips n) walk.stage.position.current.set
        entry.set := by
  have entered : (walk.entering (n + 1)).Climbs u flips seed baseline n :=
    ⟨climbs.strategy_eq, climbs.length_eq, climbs.running,
      ⟨climbs.tracks.best, climbs.tracks.level⟩, climbs.steps_eq⟩
  obtain ⟨entry, next, advanced, climbs, log, turned⟩ :=
    entered.advance unfailing few some rfl scheduler
  exact ⟨entry, ⟨next, _⟩, by rw [step_eq, advanced], climbs, log, turned⟩

theorem exists_along (unfailing : evaluator.Unfailing) (few : flips ≤ u.size) (some : 0 < u.size)
    (climbs : start.stage.Climbs u flips seed baseline 0) (scheduler : Scheduler σ) (count : Nat) :
    ∃ last, Reached u evaluator scheduler start count last ∧
      last.stage.Climbs u flips seed baseline count ∧
      ∀ n ≤ count, ∃ walk, Reached u evaluator scheduler start n walk ∧
        walk.Along u flips seed baseline last.stage.bench.log.toList n := by
  induction count with
  | zero =>
    refine ⟨start, .start, climbs, fun n none => ?_⟩
    obtain rfl := Nat.le_zero.1 none
    have empty : start.stage.bench.log.toList = [] := List.map_eq_nil_iff.1 climbs.steps_eq
    exact ⟨start, .start, climbs, by rw [empty]; rfl, by simp [empty]⟩
  | succ count ih =>
    obtain ⟨last, reached, climbs, along⟩ := ih
    obtain ⟨entry, next, done, climbs', log, turned⟩ :=
      step_climbs unfailing few some climbs scheduler
    have size := climbs.length_log
    have size' := climbs'.length_log
    refine ⟨next, reached.step done, climbs', fun n inside => ?_⟩
    -- Before the last position the log only grows at its end; the last position gets the entry that
    -- follows it; nothing follows the new one yet.
    rcases Nat.le_succ_iff.1 inside with earlier | rfl
    · rcases Nat.lt_or_eq_of_le earlier with less | rfl
      · obtain ⟨walk, passed, along⟩ := along n earlier
        exact ⟨walk, passed, log ▸ along.append (size ▸ less) entry⟩
      · refine ⟨last, reached, climbs, by rw [log, ← size, List.take_left], fun other found => ?_⟩
        rw [log, ← size, List.getElem?_concat_length] at found
        obtain rfl := Option.some.inj found
        exact turned
    · refine ⟨next, reached.step done, climbs', ?_, fun other found => ?_⟩
      · exact (List.take_of_length_le (Nat.le_of_eq size')).symm
      · rw [List.getElem?_eq_none (Nat.le_of_eq size')] at found
        cases found

end Walk

end Steps

/-! ## Runs -/

section Runs

variable {settings : Settings} {flips : Nat} {entropy : UInt64} {world : σ}

theorem Settings.Accepted.flips_le (accepted : settings.Accepted u.size)
    (climbing : settings.strategy = .hillClimb flips) : flips ≤ u.size := by
  have fits := accepted.strategy_fits
  simp only [strategyProblem?, climbing] at fits
  split at fits
  · cases fits
  · omega

theorem exists_scored_of_unfailing (unfailing : evaluator.Unfailing)
    (valid : settings.validate u.size = .ok ()) (world : σ) (memo : Memo FlagSet) :
    ∃ baseline bench, (Bench.ofWorld world memo).request u evaluator
      (settings.initial.getD u.emptySet) = (.ok baseline, bench) := by
  have running : (Bench.ofWorld world memo).cancelled = false := rfl
  obtain ⟨baseline, bench, scored, _⟩ := Bench.exists_request unfailing running
    (Settings.accepted_of_validate valid).length_start
  exact ⟨baseline, bench, scored⟩

theorem Course.climbs_start (unfailing : evaluator.Unfailing)
    (course : Course settings u evaluator scheduler entropy world)
    (climbing : settings.strategy = .hillClimb flips) :
    course.start.stage.Climbs u flips (settings.seed.getD entropy) course.baseline 0 := by
  have running : (Bench.ofWorld world course.memo).cancelled = false := rfl
  obtain ⟨baseline, bench, scored, running⟩ :=
    Bench.exists_request unfailing running course.accepted.length_start
  cases course.scored.symm.trans scored
  have log : course.bench.log = #[] := Bench.log_of_request course.scored
  refine ⟨?_, course.stands_start.length_eq, running, course.tracks_start, ?_⟩
  · have chosen := course.chosen
    rw [climbing, Strategy.ofKind] at chosen
    change course.strategy.begin _ = _
    split at chosen
    · cases chosen
    · rw [← Except.ok.inj chosen]
      rfl
  · change course.bench.log.toList.map _ = _
    rw [log]
    rfl

/-- Hill climbing whose evaluator scores whatever it is asked for completes its steps, provided that
its trajectory fits, whatever the answers are.  Each of them leaves one entry, and after each of them
the current set is the best one: the first cheapest of the starting set and the entries so far.  The
next entry is that set with as many different positions turned over as the settings say, and which
ones they are is a matter of the seed and the number of the step; neither the evaluator nor the
memo, the starting set or the scheduler can tell.  Without the room, the run is abandoned before its
first step. -/
theorem run_hillClimb (unfailing : evaluator.Unfailing)
    (climbing : settings.strategy = .hillClimb flips) (valid : settings.validate u.size = .ok ())
    (scheduler : Scheduler σ) (entropy : UInt64) (world : σ) :
    (settings.iterations * trajectorySlot ≤ maxBlock →
      ∃ (course : Course settings u evaluator scheduler entropy world) (report : Report),
        (runWith settings u evaluator scheduler entropy world).1 = .complete report ∧
        report.baseline = course.baseline.entry 0 ∧ report.results.Perm course.log ∧
        course.log.map (·.step) = List.range' 1 settings.iterations ∧
        ∀ n ≤ settings.iterations, ∃ walk,
          Walk.Reached u evaluator scheduler course.start n walk ∧
          walk.stage.position.current = walk.stage.position.best ∧
          FirstCheapest Entry.cost (report.baseline :: course.log.take n)
            (walk.stage.position.current.entry walk.stage.position.bestStep) ∧
          ∀ entry, course.log[n]? = some entry →
            walk.stage.position.current.set.hamming entry.set = .ok flips ∧
            ∀ i, (walk.stage.position.current.set.bit i ^^ entry.set.bit i) =
              decide (i ∈ Draws.picked (settings.seed.getD entropy) u.size flips n)) ∧
    (maxBlock < settings.iterations * trajectorySlot →
      (runWith settings u evaluator scheduler entropy world).1 = .fault .capacityOverflow) := by
  have accepted := Settings.accepted_of_validate valid
  have scored : ∀ memo, Memo.ofCapacity settings.cacheCapacity = .ok memo → ∃ baseline bench,
      (Bench.ofWorld world memo).request u evaluator (settings.initial.getD u.emptySet) =
        (.ok baseline, bench) := fun memo _ => exists_scored_of_unfailing unfailing valid world memo
  refine ⟨fun room => ?_, runWith_of_no_room valid scored⟩
  have nonempty : Nonempty (Course settings u evaluator scheduler entropy world) :=
    exists_course_of_scored valid scored room
  obtain ⟨course⟩ := nonempty
  obtain ⟨last, reached, climbs, along⟩ := Walk.exists_along unfailing (accepted.flips_le climbing)
    accepted.flags_pos (course.climbs_start unfailing climbing) scheduler settings.iterations
  obtain ⟨halt, rfl⟩ := Prod.mk.inj (course.walked.symm.trans reached.steps_eq)
  refine ⟨course, course.walk.report evaluator settings course.baseline none, ?_, rfl,
    ranked_perm _, climbs.steps_eq, fun n inside => ?_⟩
  · rw [course.runWith_eq, halt]
    rfl
  · obtain ⟨walk, passed, climbs, log, next⟩ := along n inside
    have level := climbs.current_eq
    refine ⟨walk, passed, level, ?_, fun entry found => ?_⟩
    · have best := climbs.tracks.best
      rwa [log, ← level] at best
    · obtain ⟨apart, bits⟩ := next entry found
      exact ⟨apart.trans (congrArg _ (Draws.length_sample ..)), bits⟩

/-- An evaluator that crashes at every third call and takes longer from call to call. -/
def wavering : Evaluator (List (List String)) := .ofHistory "wavering" fun calls =>
  if calls.length % 3 = 0 then .panic "out of memory"
  else .outcome (.success (.ofPattern calls.length) none [])

theorem wavering_unfailing : wavering.Unfailing where
  steady _ := rfl
  scores flags calls e := by
    simp only [wavering, Evaluator.ofHistory]
    split <;> exact Reply.noConfusion

/-- Nine steps over three flags, two of which are turned over each time. -/
theorem run_hillClimb_wavering :
    ∃ (course : Course { crampedClimb with strategy := .hillClimb 2 } Stage.flagTrio wavering
        (Bench.requestAll Stage.flagTrio wavering) 0 []) (report : Report),
      (run { crampedClimb with strategy := .hillClimb 2 } Stage.flagTrio wavering 0 []).1 =
          .complete report ∧
        (report.results.map (·.step)).Perm (List.range' 1 9) ∧
        ∃ held : Entry, FirstCheapest Entry.cost (report.baseline :: course.log.take 4) held ∧
          ∃ entry, course.log[4]? = some entry ∧ held.set.hamming entry.set = .ok 2 := by
  have valid : Settings.validate { crampedClimb with strategy := .hillClimb 2 }
      Stage.flagTrio.size = .ok () := by decide
  obtain ⟨course, report, complete, _, results, steps, along⟩ :=
    (run_hillClimb wavering_unfailing rfl valid (Bench.requestAll Stage.flagTrio wavering) 0 []).1
      (by decide)
  have size := congrArg List.length steps
  rw [List.length_map, List.length_range'] at size
  have fifth : course.log[4]? = some _ := List.getElem?_eq_getElem (size ▸ by decide)
  obtain ⟨walk, _, _, cheapest, next⟩ := along 4 (by decide)
  exact ⟨course, report, complete, steps ▸ results.map _, _, cheapest, _, fifth,
    (next _ fifth).1⟩

def vastClimb : Settings :=
  { Settings.hillClimb 1 with iterations := Nat.pow 2 59, seed := some 7 }

/-- Its settings are accepted and all its requests would be answered, but it leaves no report. -/
theorem hillClimb_run_without_room :
    vastClimb.validate 1 = .ok () ∧ wavering.Unfailing ∧
      (run vastClimb ⟨none, none, ["-a"]⟩ wavering 0 []).1 = .fault .capacityOverflow ∧
      ∀ report, (run vastClimb ⟨none, none, ["-a"]⟩ wavering 0 []).1 ≠ .complete report := by
  have faulted : (run vastClimb ⟨none, none, ["-a"]⟩ wavering 0 []).1 =
      .fault .capacityOverflow := by decide
  refine ⟨by decide, wavering_unfailing, faulted, fun report complete => ?_⟩
  rw [faulted] at complete
  cases complete

end Runs

end FlagSearch
