import FlagSearch.Proofs.Ranking
import FlagSearch.Proofs.Search.Course

/-!
# The best entry of a report

The strategies move their current set in three ways: hill climbing only downwards, tabu search
without looking back, a sweep once and from the start.  All of them promote a set only if it is
strictly cheaper, so the best entry is the first cheapest one of everything that was recorded, the
starting set included (`best_firstCheapest`).

The invariant is `Stage.Tracks`.  Tabu search asks nothing of the current set; the other two rely
on standing at the best set whenever a step begins.
-/

namespace FlagSearch

variable {σ : Type} {u : Universe} {evaluator : Evaluator σ} {scheduler : Scheduler σ}

/-! ## Promotion -/

namespace Position

@[simp] theorem promote_current (position : Position) (step : Nat) :
    (position.promote step).current = position.current := by
  unfold promote
  split <;> rfl

theorem promote_best (position : Position) (step : Nat) :
    (position.promote step).best.entry (position.promote step).bestStep =
      if position.current.cost.order position.best.cost = .lt then position.current.entry step
      else position.best.entry position.bestStep := by
  simp only [promote, improved, Scored.improvesOn_iff, Binary64.order_eq_lt]
  split <;> rfl

/-- A position whose current set is not worse than its best one stands at the best one after a
promotion. -/
theorem promote_level {position : Position} (step : Nat)
    (level : position.current = position.best ∨
      position.current.cost.order position.best.cost = .lt) :
    (position.promote step).current = (position.promote step).best := by
  rw [Binary64.order_eq_lt, ← Scored.improvesOn_iff] at level
  unfold promote improved
  split
  · rfl
  next dear => exact level.resolve_right dear

end Position

/-! ## The invariant -/

/-- A strategy other than tabu search stands at the best set between steps. -/
def Stage.Level (stage : Stage σ) : Prop :=
  (∃ visited, stage.strategy = .tabu visited) ∨ stage.position.current = stage.position.best

theorem Stage.Level.current_eq {stage : Stage σ} (level : stage.Level)
    (other : ∀ visited, stage.strategy ≠ .tabu visited) :
    stage.position.current = stage.position.best :=
  level.resolve_left fun ⟨visited, tabu⟩ => other visited tabu

/-- The best entry is the first cheapest of the starting set and the log. -/
structure Stage.Tracks (baseline : Scored) (stage : Stage σ) : Prop where
  best : FirstCheapest Entry.cost (baseline.entry 0 :: stage.bench.log.toList)
    (stage.position.best.entry stage.position.bestStep)
  level : stage.Level

/-- The first cheapest of a candidate and a batch is the candidate, or the first cheapest of the
batch if that is strictly cheaper. -/
theorem cheapest_cons (current first : Scored) (rest : List Scored) :
    cheapest current (first :: rest) =
      if (cheapest first rest).cost.order current.cost = .lt then cheapest first rest
      else current :=
  (cheapest_firstCheapest current (first :: rest)).unique
    ((FirstCheapest.singleton Scored.cost current).append (cheapest_firstCheapest first rest))

/-- A batch enters the log as the entries of its candidates, so its first cheapest candidate is the
first cheapest entry. -/
theorem cheapest_entry_firstCheapest (first : Scored) (rest : List Scored) (step : Nat) :
    FirstCheapest Entry.cost ((first :: rest).map (·.entry step))
      ((cheapest first rest).entry step) :=
  (cheapest_firstCheapest first rest).map (fun scored => scored.entry step)
    (fun scored _ => Scored.cost_entry scored step)

namespace Stage

variable {before after : Stage σ} {batch : List Scored} {baseline : Scored}

theorem Completes.tracks (keeps : scheduler.KeepsLog)
    (completes : Completes u evaluator scheduler before batch after)
    (tracks : before.Tracks baseline) : after.Tracks baseline := by
  have log := completes.log_eq keeps
  have number := completes.step_eq keeps
  obtain ⟨best, level⟩ := tracks
  cases completes with
  | @climb flips draws position bench between set candidate flipped scored =>
    have level : position.current = position.best := level.current_eq nofun
    have both := best.append (cheapest_entry_firstCheapest candidate [] bench.step)
    have step : between.step = bench.step := number
    split
    next cheaper =>
      have less := Binary64.order_eq_lt.2 (Scored.improvesOn_iff.1 cheaper)
      refine ⟨?_, .inr (Position.promote_level _ (.inr (level ▸ less)))⟩
      rw [log, Position.promote_best, step]
      exact both
    next dear =>
      have notLess : candidate.cost.order position.best.cost ≠ .lt := by
        rwa [← level, Ne, Binary64.order_eq_lt, ← Scored.improvesOn_iff]
      refine ⟨?_, .inr level⟩
      rw [log]
      simpa [cheapest, notLess] using both
  | @roam visited position bench between sets candidate others untried scored =>
    have both := best.append (cheapest_entry_firstCheapest candidate others bench.step)
    have step : between.step = bench.step := (Bench.recordAll_step ..).symm.trans number
    refine ⟨?_, .inl ⟨_, rfl⟩⟩
    rw [log, Position.promote_best, step]
    exact both
  | @sweep position bench between sets batch listed scored =>
    have level : position.current = position.best := level.current_eq nofun
    have step : between.step = bench.step := (Bench.recordAll_step ..).symm.trans number
    cases batch with
    | nil =>
      refine ⟨?_, .inr (Position.promote_level _ (.inl level))⟩
      rw [log, Position.promote_best]
      simpa [cheapest, level, Binary64.order_eq_lt] using best
    | cons first rest =>
      have both := best.append (cheapest_entry_firstCheapest first rest bench.step)
      rw [cheapest_cons, level]
      split
      next less =>
        refine ⟨?_, .inr (Position.promote_level _ (.inr less))⟩
        rw [log, Position.promote_best, step]
        exact both
      next dear =>
        refine ⟨?_, .inr (Position.promote_level _ (.inl rfl))⟩
        rw [log, Position.promote_best]
        simpa [dear, Binary64.order_eq_lt] using both

theorem Unmoved.tracks (unmoved : Unmoved before after) (tracks : before.Tracks baseline) :
    after.Tracks baseline := by
  refine ⟨?_, ?_⟩
  · rw [unmoved.log_eq, unmoved.position_eq]
    exact tracks.best
  · unfold Level
    rw [unmoved.position_eq]
    rcases unmoved.strategy_eq with same | ⟨flips, draws, draws', climbing, _⟩
    · rw [same]
      exact tracks.level
    · rcases tracks.level with ⟨visited, tabu⟩ | level
      · rw [climbing] at tabu
        cases tabu
      · exact .inr level

end Stage

/-! ## Whole runs -/

theorem Walk.Reached.tracks (keeps : scheduler.KeepsLog) {start walk : Walk σ} {n : Nat}
    {baseline : Scored} (reached : Reached u evaluator scheduler start n walk)
    (tracks : start.stage.Tracks baseline) : walk.stage.Tracks baseline := by
  induction reached with
  | start => exact tracks
  | step before done ih =>
    obtain ⟨batch, completes, _⟩ := step_ok done
    exact completes.tracks keeps ⟨ih.best, ih.level⟩

variable {settings : Settings} {entropy : UInt64} {world : σ}

theorem Course.tracks_start (course : Course settings u evaluator scheduler entropy world) :
    course.start.stage.Tracks course.baseline := by
  have logEmpty := Bench.log_of_request course.scored
  refine ⟨?_, .inr rfl⟩
  simpa [Course.start, Walk.ofStage, logEmpty, Position.start] using
    FirstCheapest.singleton Entry.cost (course.baseline.entry 0)

theorem Course.tracks (keeps : scheduler.KeepsLog)
    (course : Course settings u evaluator scheduler entropy world) :
    course.walk.stage.Tracks course.baseline := by
  have start := course.tracks_start
  rcases course.cases with ⟨_, _, reached⟩ | ⟨before, stop, _, reached, failed, _⟩
  · exact reached.tracks keeps start
  · have last := reached.tracks keeps start
    exact (Stage.unmoved_of_advance keeps (Walk.step_error failed).1).tracks
      ⟨last.best, last.level⟩

/-- Of an empty log the starting set is best; of any other, the first entry of the ranking if that
is strictly cheaper than the starting set. -/
theorem FirstCheapest.eq_head_or_baseline {baseline best : Entry} {log : List Entry}
    (first : FirstCheapest Entry.cost (baseline :: log) best) :
    best = match ranked log with
      | head :: _ => if head.outcome.improvesOn baseline.outcome then head else baseline
      | [] => baseline := by
  cases results : ranked log with
  | nil =>
    have empty : log = [] := (results ▸ (ranked_perm log).symm).eq_nil
    subst empty
    exact first.unique (.singleton _ _)
  | cons head rest =>
    have both := (FirstCheapest.singleton Entry.cost baseline).append
      (ranked_firstCheapest log results)
    have improves : head.outcome.improvesOn baseline.outcome = true ↔
        head.cost.order baseline.cost = .lt := beq_iff_eq
    rw [first.unique both]
    by_cases less : head.cost.order baseline.cost = .lt
    · rw [if_pos less]
      exact (if_pos (improves.2 less)).symm
    · rw [if_neg less]
      exact (if_neg (mt improves.1 less)).symm

/-- In every report that a run leaves, complete or cut short, the best entry is the first cheapest
one of the starting set and the log in order of recording.  So it is the head of the ranking if that
is strictly cheaper than the starting set, and the starting set otherwise. -/
theorem best_firstCheapest (settings : Settings) (u : Universe) (evaluator : Evaluator σ)
    (scheduler : Scheduler σ) (keeps : scheduler.KeepsLog) (entropy : UInt64) (world : σ)
    {report : Report}
    (left : (runWith settings u evaluator scheduler entropy world).1.report? = some report) :
    ∃ course : Course settings u evaluator scheduler entropy world,
      report.baseline = course.baseline.entry 0 ∧ report.results = ranked course.log ∧
      FirstCheapest Entry.cost (report.baseline :: course.log) report.best ∧
      report.best = match report.results with
        | head :: _ => if head.outcome.improvesOn report.baseline.outcome then head
            else report.baseline
        | [] => report.baseline := by
  obtain ⟨course, failure, _, rfl⟩ := exists_course_of_report left
  have first := (course.tracks keeps).best
  exact ⟨course, rfl, rfl, first, first.eq_head_or_baseline⟩

def flagPair : Universe := ⟨none, none, ["-a", "-b"]⟩

/-- An evaluator whose first four calls end in a success, a panic, a failed build and a faster
success; then it breaks down. -/
def fickle : Evaluator (List (List String)) := .ofHistory "fickle" fun calls =>
  match calls.length with
  | 1 => .outcome (.success (.ofPattern 3) none [])
  | 2 => .panic "out of memory"
  | 3 => .outcome .buildFailure
  | 4 => .outcome (.success (.ofPattern 2) none [])
  | _ => .error (.evaluatorUnavailable "gone")

def crampedClimb : Settings :=
  { Settings.hillClimb 1 with iterations := 9, cacheCapacity := 1, seed := some 7 }

theorem best_firstCheapest_fickle :
    ∃ report, (runWith crampedClimb flagPair fickle (Bench.requestAll flagPair fickle) 0
        []).1.report? = some report ∧
      ∃ log, report.results = ranked log ∧
        FirstCheapest Entry.cost (report.baseline :: log) report.best := by
  have cut : ((runWith crampedClimb flagPair fickle (Bench.requestAll flagPair fickle) 0
      []).1.report?).isSome = true := by decide
  obtain ⟨report, left⟩ := Option.isSome_iff_exists.1 cut
  obtain ⟨course, _, results, first, _⟩ := best_firstCheapest _ flagPair fickle _
    (Bench.requestAll_keepsLog flagPair fickle) 0 [] left
  exact ⟨report, left, course.log, results, first⟩

end FlagSearch
