import FlagSearch.Proofs.Search.Budget
import FlagSearch.Proofs.Search.Standing

/-!
# The trajectory of a run

A trajectory is written step by step from the best candidate so far, while the results of a report
are ranked by cost.  The number that each entry bears brings the two together: what the trajectory
says of a step is the least cost of the starting set and of the entries up to that step, as long as
that cost is a finite number.

* `LeastCost`, `LeastCost.unique` — the least cost of some entries, one bit pattern.
* `Report.bestCost` — the least cost in a report up to a step.
* `Walk.Reached.recorded_iff` — the steps that were recorded are those that were completed.
* `Walk.Reached.getLast?_trajectory` — the last entry of a trajectory.
* `Course.trajectory_eq`, `Course.bestCost_completed` — a trajectory and its end, read off the results.
* `report_trajectory` — the trajectory of every report.
-/

namespace FlagSearch

/-! ## Least costs -/

/-- `cost` is the cost of one of the entries, and none of them costs less. -/
structure LeastCost (cost : Binary64) (entries : List Entry) : Prop where
  attained : ∃ entry ∈ entries, entry.cost = cost
  least : ∀ entry ∈ entries, cost.order entry.cost ≠ .gt

namespace LeastCost

variable {cost other : Binary64} {entries more : List Entry}

theorem order_ne_gt (least : LeastCost cost more) (least' : LeastCost other entries)
    (subset : entries ⊆ more) : cost.order other ≠ .gt := by
  obtain ⟨entry, member, rfl⟩ := least'.attained
  exact least.least entry (subset member)

theorem unique (least : LeastCost cost entries) (least' : LeastCost other entries) :
    cost = other := by
  have there := Binary64.order_ne_gt.1 (least.order_ne_gt least' (List.Subset.refl _))
  have back := Binary64.order_ne_gt.1 (least'.order_ne_gt least (List.Subset.refl _))
  exact Binary64.eq_of_rank_eq (Int.le_antisymm there back)

theorem perm (least : LeastCost cost entries) (perm : entries.Perm more) : LeastCost cost more :=
  ⟨by simpa [perm.mem_iff] using least.attained, fun entry member =>
    least.least entry (perm.mem_iff.2 member)⟩

end LeastCost

theorem FirstCheapest.leastCost {entries : List Entry} {chosen : Entry}
    (first : FirstCheapest Entry.cost entries chosen) : LeastCost chosen.cost entries :=
  ⟨⟨chosen, first.mem, rfl⟩, fun _ member => Binary64.order_ne_gt.2 (first.rank_le member)⟩

theorem finite?_eq_some {cost finite : Binary64} :
    finite? cost = some finite ↔ finite.isFinite = true ∧ cost = finite := by
  unfold finite?
  split
  next yes =>
    rw [Option.some.injEq]
    exact ⟨fun same => ⟨same ▸ yes, same⟩, fun ⟨_, same⟩ => same⟩
  next no =>
    refine ⟨nofun, fun ⟨yes, same⟩ => ?_⟩
    exact absurd (same ▸ yes) no

namespace Report

def upTo (report : Report) (step : Nat) : List Entry :=
  report.baseline :: report.results.filter (·.step ≤ step)

/-- The least cost of the starting set and of the results of the steps up to the given one. -/
def bestCost (report : Report) (step : Nat) : Binary64 :=
  (cheapest report.baseline.toScored
    ((report.results.filter (·.step ≤ step)).map (·.toScored))).cost

theorem leastCost_bestCost (report : Report) (step : Nat) :
    LeastCost (report.bestCost step) (report.upTo step) := by
  have first := cheapest_firstCheapest report.baseline.toScored
    ((report.results.filter (·.step ≤ step)).map (·.toScored))
  refine ⟨?_, fun entry member => ?_⟩
  · have chosen : _ ∈ (report.upTo step).map (·.toScored) := first.mem
    obtain ⟨entry, member, same⟩ := List.mem_map.1 chosen
    exact ⟨entry, member, congrArg Scored.cost same⟩
  · have there : entry.toScored ∈ (report.upTo step).map (·.toScored) :=
      List.mem_map_of_mem member
    exact Binary64.order_ne_gt.2 (first.rank_le there)

theorem upTo_subset (report : Report) {earlier later : Nat} (before : earlier ≤ later) :
    report.upTo earlier ⊆ report.upTo later := by
  refine List.cons_subset_cons _ fun entry member => ?_
  obtain ⟨there, early⟩ := List.mem_filter.1 member
  exact List.mem_filter.2 ⟨there, decide_eq_true (Nat.le_trans (of_decide_eq_true early) before)⟩

end Report

/-! ## Steps -/

variable {σ : Type} {u : Universe} {evaluator : Evaluator σ} {scheduler : Scheduler σ}

theorem Stage.ne_nil_of_tries {stage : Stage σ} {sets : List FlagSet}
    (some : 0 < stage.position.current.set.length) (chosen : stage.tries u = .ok sets) :
    sets ≠ [] := by
  obtain ⟨strategy, position, bench⟩ := stage
  cases strategy with
  | hillClimb flips draws =>
    obtain ⟨_, set, _, rfl⟩ := tries_climb chosen
    exact List.cons_ne_nil set []
  | tabu visited =>
    obtain ⟨first, rest, _, rfl⟩ := tries_roam chosen
    exact List.cons_ne_nil first rest
  | sweep done =>
    have all := (tries_sweepOnce chosen).2
    rw [singleFlips_eq some] at all
    cases all
    intro none
    have size := congrArg List.length none
    rw [FlagSet.length_flips] at size
    exact Nat.ne_of_gt some size

namespace Walk

variable {stage : Stage σ} {start walk : Walk σ} {kind : StrategyKind} {n : Nat}

theorem Reached.getLast?_trajectory (reached : Reached u evaluator scheduler start (n + 1) walk) :
    walk.trajectory.toList.getLast? = some (finite? walk.stage.position.best.cost) := by
  cases reached with
  | step before done =>
    obtain ⟨_, _, grown⟩ := step_ok done
    rw [grown, Array.toList_push, List.getLast?_concat]

theorem recorded_of_step (lawful : scheduler.Lawful evaluator) (some : 0 < u.size)
    (length : walk.stage.position.current.set.length = u.size) {number : Nat} {next : Walk σ}
    (done : walk.step u evaluator scheduler number = (.ok (), next)) :
    ∃ batch, batch ≠ [] ∧ next.stage.bench.log.toList =
      walk.stage.bench.log.toList ++ batch.map (Scored.entry · number) := by
  obtain ⟨sets, batch, bench, chosen, scored, after⟩ :=
    Stage.advance_ok lawful (advance_of_step done).1
  have scorer := (walk.entering number).scorer_lawful (u := u) lawful
  have log := scorer.log_eq sets (walk.entering number).bench
  have step := scorer.step_eq sets (walk.entering number).bench
  rw [scored] at log step
  refine ⟨batch, ?_, ?_⟩
  · rintro rfl
    have here : 0 < (walk.entering number).position.current.set.length := length ▸ some
    exact Stage.ne_nil_of_tries here chosen (scorer.sets_eq scored).symm
  · rw [after, Stage.moved, Bench.recordAll_log, log, step]
    rfl

theorem Reached.recorded_iff (lawful : scheduler.Lawful evaluator) (some : 0 < u.size)
    (blank : stage.bench.log = #[]) (stands : stage.Stands u kind)
    (reached : Reached u evaluator scheduler (.ofStage stage) n walk) (number : Nat) :
    (∃ entry ∈ walk.stage.bench.log.toList, entry.step = number) ↔ 1 ≤ number ∧ number ≤ n := by
  induction reached with
  | start =>
    simp only [ofStage, blank]
    simp
    omega
  | @step n walk next before done ih =>
    have standing := before.stands lawful some stands
    obtain ⟨batch, nonempty, log⟩ := recorded_of_step lawful some standing.length_eq done
    obtain ⟨first, member⟩ := List.exists_mem_of_ne_nil batch nonempty
    rw [log]
    constructor
    · rintro ⟨entry, there, rfl⟩
      rcases List.mem_append.1 there with earlier | added
      · obtain ⟨positive, inside⟩ := ih.1 ⟨entry, earlier, rfl⟩
        exact ⟨positive, Nat.le_succ_of_le inside⟩
      · obtain ⟨scored, _, rfl⟩ := List.mem_map.1 added
        exact ⟨Nat.succ_pos n, Nat.le_refl _⟩
    · rintro ⟨positive, inside⟩
      rcases Nat.le_succ_iff.1 inside with earlier | rfl
      · obtain ⟨entry, there, same⟩ := ih.2 ⟨positive, earlier⟩
        exact ⟨entry, List.mem_append_left _ there, same⟩
      · exact ⟨first.entry (n + 1), List.mem_append_right _ (List.mem_map_of_mem member), rfl⟩

end Walk

/-! ## Runs -/

variable {settings : Settings} {entropy : UInt64} {world : σ}

namespace Course

variable (course : Course settings u evaluator scheduler entropy world)

theorem trajectory_getElem? (keeps : scheduler.KeepsLog) {i : Nat} (inside : i < course.completed) :
    ∃ cost, course.walk.trajectory.toList[i]? = some (finite? cost) ∧
      LeastCost cost (course.baseline.entry 0 :: course.log.filter (·.step ≤ i + 1)) := by
  obtain ⟨last, reached, log, trajectory⟩ := course.exists_last keeps
  obtain ⟨earlier, passed, beginning, shown⟩ :=
    reached.cut keeps (Bench.log_of_request course.scored) inside
  have best := (passed.tracks keeps course.tracks_start).best
  rw [beginning, log] at best
  refine ⟨earlier.stage.position.best.cost, ?_, best.leastCost⟩
  have ends := passed.getLast?_trajectory
  have there : i < course.walk.trajectory.toList.length := inside
  rw [shown, trajectory, List.getLast?_take, if_neg (Nat.succ_ne_zero i), Nat.succ_sub_one,
    List.getElem?_eq_getElem there, Option.some_or] at ends
  rw [List.getElem?_eq_getElem there]
  exact ends

theorem recorded_iff (lawful : scheduler.Lawful evaluator) (number : Nat) :
    (∃ entry ∈ course.log, entry.step = number) ↔ 1 ≤ number ∧ number ≤ course.completed := by
  obtain ⟨last, reached, log, _⟩ := course.exists_last lawful.toKeepsLog
  rw [← log]
  exact reached.recorded_iff lawful course.accepted.flags_pos
    (Bench.log_of_request course.scored) course.stands_start number

variable (failure : Option SearchError)

def reported : Report := course.walk.report evaluator settings course.baseline failure

theorem upTo_perm (step : Nat) :
    (course.baseline.entry 0 :: course.log.filter (·.step ≤ step)).Perm
      ((course.reported failure).upTo step) :=
  ((ranked_perm course.log).symm.filter _).cons _

theorem mem_results {entry : Entry} : entry ∈ (course.reported failure).results ↔ entry ∈ course.log :=
  (ranked_perm course.log).mem_iff

theorem trajectory_eq (keeps : scheduler.KeepsLog) :
    (course.reported failure).trajectory =
      (List.range course.completed).map fun i =>
        finite? ((course.reported failure).bestCost (i + 1)) := by
  refine List.ext_getElem? fun i => ?_
  rcases Nat.lt_or_ge i course.completed with inside | outside
  · rw [List.getElem?_map, List.getElem?_range inside, Option.map_some]
    obtain ⟨cost, shows, least⟩ := course.trajectory_getElem? keeps inside
    have ranked := least.perm (course.upTo_perm failure (i + 1))
    rw [((course.reported failure).leastCost_bestCost (i + 1)).unique ranked]
    exact shows
  · have size : (course.reported failure).trajectory.length = course.completed :=
      Array.length_toList
    rw [List.getElem?_eq_none (size ▸ outside), List.getElem?_eq_none (by simpa using outside)]

theorem bestCost_completed (lawful : scheduler.Lawful evaluator) :
    (course.reported failure).bestCost course.completed = (course.reported failure).best.cost := by
  have best := (course.tracks lawful.toKeepsLog).best.leastCost
  have whole : (course.reported failure).upTo course.completed =
      (course.reported failure).baseline :: (course.reported failure).results := by
    refine congrArg _ (List.filter_eq_self.2 fun entry member => decide_eq_true ?_)
    have logged := (course.mem_results failure).1 member
    exact ((course.recorded_iff lawful entry.step).1 ⟨entry, logged, rfl⟩).2
  have least := (course.reported failure).leastCost_bestCost course.completed
  rw [whole] at least
  exact least.unique (best.perm ((ranked_perm course.log).symm.cons _))

end Course

/-- Every report, complete or cut short, has a trajectory of as many entries as steps were completed,
and these are no more than the budget has.  For each step it shows a number if and only if that is
finite and the least cost, to the bit, of the starting set and the results up to that step.  The
least costs behind it never increase, and after the last step they have come to the cost of the best
candidate.  The results come from the steps that were completed, and each of these has some. -/
theorem report_trajectory (settings : Settings) (u : Universe) (evaluator : Evaluator σ)
    (scheduler : Scheduler σ) (lawful : scheduler.Lawful evaluator) (entropy : UInt64) (world : σ)
    {report : Report}
    (left : (runWith settings u evaluator scheduler entropy world).1.report? = some report) :
    report.trajectory.length = report.stepsCompleted ∧
    report.stepsCompleted ≤ settings.iterations ∧
    (∀ i < report.stepsCompleted, ∀ cost, report.trajectory[i]? = some (some cost) ↔
      cost.isFinite = true ∧ LeastCost cost (report.upTo (i + 1))) ∧
    report.trajectory =
      (List.range report.stepsCompleted).map (fun i => finite? (report.bestCost (i + 1))) ∧
    (∀ step, LeastCost (report.bestCost step) (report.upTo step)) ∧
    (∀ earlier later, earlier ≤ later →
      (report.bestCost later).order (report.bestCost earlier) ≠ .gt) ∧
    report.bestCost report.stepsCompleted = report.best.cost ∧
    (0 < report.stepsCompleted → report.trajectory.getLast? = some (finite? report.best.cost)) ∧
    ∀ step, (∃ entry ∈ report.results, entry.step = step) ↔
      1 ≤ step ∧ step ≤ report.stepsCompleted := by
  obtain ⟨course, failure, _, same⟩ := exists_course_of_report left
  obtain rfl : report = course.reported failure := same
  have least := (course.reported failure).leastCost_bestCost
  have all := course.trajectory_eq failure lawful.toKeepsLog
  have last := course.bestCost_completed failure lawful
  have costs : ∀ i < course.completed, (course.reported failure).trajectory[i]? =
      some (finite? ((course.reported failure).bestCost (i + 1))) := by
    intro i inside
    rw [all, List.getElem?_map, List.getElem?_range inside, Option.map_some]
  have size : (course.reported failure).trajectory.length = course.completed := Array.length_toList
  refine ⟨size, course.completed_le, fun i inside cost => ?_, all, least,
    fun earlier later before => ?_, last, fun positive => ?_, fun step => ?_⟩
  · rw [costs i inside, Option.some.injEq, finite?_eq_some]
    exact and_congr_right fun _ => ⟨fun same => same ▸ least _, (least _).unique⟩
  · exact (least later).order_ne_gt (least earlier)
      ((course.reported failure).upTo_subset before)
  · have positive : 1 ≤ course.completed := positive
    have inside : course.completed - 1 < course.completed := Nat.sub_one_lt_of_lt positive
    rw [List.getLast?_eq_getElem?, size, costs _ inside, Nat.sub_add_cancel positive, last]
  · refine Iff.trans (exists_congr fun entry => ?_) (course.recorded_iff lawful step)
    exact and_congr_left' (course.mem_results failure)

/-- An evaluator whose first three calls end in a failed build, a time that is no number and a time;
then it breaks down. -/
def thawing : Evaluator (List (List String)) := .ofHistory "thawing" fun calls =>
  match calls.length with
  | 1 => .outcome .buildFailure
  | 2 => .outcome (.success (.ofPattern 9221120237041090560) none [])
  | 3 => .outcome (.success (.ofPattern 5) none [])
  | _ => .error (.evaluatorUnavailable "gone")

/-- Hill climbing that breaks down at its third step, and whose first step shows no number. -/
theorem report_trajectory_thawing :
    ∃ report,
      (runWith crampedClimb flagPair thawing (Bench.requestAll flagPair thawing) 0 []).1.report? =
        some report ∧
      report.trajectory = [none, some (.ofPattern 5)] ∧
      LeastCost (.ofPattern 5) (report.upTo 2) ∧
      report.bestCost 2 = report.best.cost ∧
      ∃ entry ∈ report.results, entry.step = 1 := by
  have cut : ((runWith crampedClimb flagPair thawing (Bench.requestAll flagPair thawing) 0
      []).1.report?.map fun report => (report.stepsCompleted, report.trajectory)) =
        some (2, [none, some (.ofPattern 5)]) := by decide
  obtain ⟨report, left, both⟩ := Option.map_eq_some_iff.1 cut
  obtain ⟨completed, trajectory⟩ := Prod.mk.inj both
  obtain ⟨_, _, shows, _, _, _, last, _, steps⟩ :=
    report_trajectory crampedClimb flagPair thawing (Bench.requestAll flagPair thawing)
      (Bench.requestAll_lawful flagPair thawing) 0 [] left
  rw [completed] at shows last steps
  have second : report.trajectory[1]? = some (some (.ofPattern 5)) := by rw [trajectory]; rfl
  exact ⟨report, left, trajectory, ((shows 1 Nat.one_lt_two (.ofPattern 5)).1 second).2, last,
    (steps 1).2 ⟨Nat.le_refl 1, Nat.le_succ 1⟩⟩

end FlagSearch
