import FlagSearch.Proofs.Pool.Runs
import FlagSearch.Proofs.Search.Aborts
import FlagSearch.Proofs.Search.Contacts

/-!
# Panics of an evaluator

A panic is caught where the evaluator is called, so whatever comes after that cannot tell it from a
runtime error.  An evaluator that never panics stands in for one that does.

* `Evaluator.calmed` — the evaluator with runtime errors in place of its panics.
* `Bench.request_calmed`, `Stage.advance_calmed`, `Walk.steps_calmed` — requests, steps and walks.
* `Evaluator.Alike`, `Scheduler.pooled_calmed` — the orders that workers may find.
* `Bench.request_of_panic`, `Bench.request_of_held` — what becomes of a panic.
* `run_calmed` — runs.
-/

namespace FlagSearch

variable {σ : Type} {u : Universe}

theorem Reply.caught_caught (reply : Reply) : reply.caught.caught = reply.caught := by
  cases reply <;> rfl

/-- The evaluator with a runtime error in place of every panic, and a clock of its own. -/
def Evaluator.calmed (evaluator : Evaluator σ) (clock : σ → Nat) : Evaluator σ where
  name := evaluator.name
  poll := evaluator.poll
  score flags world :=
    ((evaluator.score flags world).1.caught, (evaluator.score flags world).2)
  clock := clock

/-- The evaluators look at a run in the same way, and their calls end in the same way once panics are
caught. -/
structure Evaluator.Alike (evaluator other : Evaluator σ) : Prop where
  poll_eq : evaluator.poll = other.poll
  caught_eq : ∀ flags world,
    (evaluator.score flags world).1.caught = (other.score flags world).1.caught
  world_eq : ∀ flags world, (evaluator.score flags world).2 = (other.score flags world).2

theorem Evaluator.Alike.symm {evaluator other : Evaluator σ} (alike : evaluator.Alike other) :
    other.Alike evaluator :=
  ⟨alike.poll_eq.symm, fun flags world => (alike.caught_eq flags world).symm,
    fun flags world => (alike.world_eq flags world).symm⟩

variable (u) (evaluator : Evaluator σ) (clock : σ → Nat)

theorem Evaluator.alike_calmed : evaluator.Alike (evaluator.calmed clock) :=
  ⟨rfl, fun flags world => (Reply.caught_caught (evaluator.score flags world).1).symm,
    fun _ _ => rfl⟩

theorem Evaluator.calmed_traced :
    (evaluator.calmed clock).traced = evaluator.traced.calmed fun seen => clock seen.1 := rfl

/-! ## Requests -/

namespace Bench

theorem ask_calmed : ask (evaluator.calmed clock) = ask evaluator := by
  funext flags world
  simp only [ask, Evaluator.calmed, Reply.published_caught]

theorem request_calmed (set : FlagSet) (bench : Bench σ) :
    bench.request u (evaluator.calmed clock) set = bench.request u evaluator set := by
  have looks : bench.check (evaluator.calmed clock) = bench.check evaluator := rfl
  simp only [request, ask_calmed, looks]

theorem requestAll_calmed :
    requestAll u (evaluator.calmed clock) = requestAll u evaluator := by
  funext batch bench
  induction batch generalizing bench with
  | nil => rfl
  | cons set rest ih => simp only [requestAll, request_calmed, ih]

variable {u evaluator} {set : FlagSet} {flags : List String} {bench : Bench σ}

theorem request_of_panic {capacity : Nat} (within : bench.memo.Within capacity)
    (running : (bench.check evaluator).cancelled = false) (resolved : u.resolve set = .ok flags)
    (absent : bench.memo.peek? set = none) {message : String}
    (panicked : (evaluator.score flags (bench.check evaluator).world).1 = .panic message) :
    ∃ after, bench.request u evaluator set = (.ok ⟨set, flags, .runtimeError, false⟩, after) ∧
      after.memo.peek? set = some .runtimeError ∧ after.cancelled = false := by
  have published : (ask evaluator flags (bench.check evaluator).world).1 = .ok .runtimeError :=
    congrArg Reply.published panicked
  have started : bench.memo.started.Within capacity := within.recount _ _
  rw [request_of_resolved running resolved (Memo.getOrCompute_of_peek_none absent _ _), published]
  exact ⟨_, rfl, started.peek?_publish_self, running⟩

theorem request_of_held (running : (bench.check evaluator).cancelled = false)
    (resolved : u.resolve set = .ok flags) {outcome : Outcome}
    (held : bench.memo.peek? set = some outcome) :
    ∃ after, bench.request u evaluator set = (.ok ⟨set, flags, outcome, true⟩, after) ∧
      after.world = (evaluator.poll bench.world).2 := by
  rw [request_of_resolved running resolved (Memo.getOrCompute_of_peek_some held _ _)]
  exact ⟨_, rfl, rfl⟩

end Bench

/-! ## Workers -/

namespace Pool

variable {u evaluator} {other : Evaluator σ} {width : Nat} {batch : List FlagSet} {pool next : Pool σ}

theorem Step.of_alike (alike : evaluator.Alike other)
    (step : Step width u evaluator batch pool next) : Step width u other batch pool next := by
  have looks : pool.check evaluator = pool.check other := by rw [check, check, alike.poll_eq]
  cases step with
  | takeUp free fresh there accepted =>
    rw [looks] at accepted ⊢
    exact .takeUp free fresh there accepted
  | refuse free fresh there refused =>
    rw [looks] at refused ⊢
    exact .refuse free fresh there refused
  | enter ready there entered => exact .enter ready there entered
  | land resolved landed =>
    rw [alike.caught_eq] at landed
    rw [alike.world_eq]
    exact .land resolved landed
  | wake woke => exact .wake woke

theorem Reached.of_alike (alike : evaluator.Alike other) {start : Pool σ} {n : Nat}
    (reached : Reached width u evaluator batch start n pool) :
    Reached width u other batch start n pool := by
  induction reached with
  | start => exact .start
  | step _ step ih => exact ih.step (step.of_alike alike)

end Pool

theorem Scheduler.Pooled.of_alike {other : Evaluator σ} (alike : evaluator.Alike other) {width : Nat}
    {scheduler : Scheduler σ} (pooled : scheduler.Pooled width u evaluator) :
    scheduler.Pooled width u other := by
  intro batch bench
  obtain ⟨n, pool, reached, rest⟩ := pooled batch bench
  exact ⟨n, pool, reached.of_alike alike, rest⟩

theorem Scheduler.pooled_calmed {width : Nat} (scheduler : Scheduler σ) :
    scheduler.Pooled width u (evaluator.calmed clock) ↔ scheduler.Pooled width u evaluator := by
  have alike := evaluator.alike_calmed clock
  constructor
  · intro pooled
    exact pooled.of_alike u _ alike.symm
  · intro pooled
    exact pooled.of_alike u _ alike

/-! ## Steps and walks -/

theorem Stage.advance_calmed (scheduler : Scheduler σ) (stage : Stage σ) :
    stage.advance u (evaluator.calmed clock) scheduler = stage.advance u evaluator scheduler := by
  cases stage.strategy <;> simp only [advance, climb, Bench.request_calmed]

theorem Walk.steps_calmed (scheduler : Scheduler σ) (count number : Nat) (walk : Walk σ) :
    walk.steps u (evaluator.calmed clock) scheduler count number =
      walk.steps u evaluator scheduler count number := by
  induction count generalizing number walk with
  | zero => rfl
  | succ count ih => simp only [steps, step, Stage.advance_calmed, ih]

theorem Ended.ofWalk_calmed (settings : Settings) (baseline : Scored) (halt : Option Halt)
    (walk : Walk σ) :
    (Ended.ofWalk (evaluator.calmed clock) settings baseline halt walk).timeless =
      (Ended.ofWalk evaluator settings baseline halt walk).timeless := by
  rcases halt with _ | e | f
  · rfl
  · simp only [Ended.ofWalk]
    split <;> rfl
  · rfl

/-! ## Runs -/

theorem runWith_calmed (settings : Settings) (scheduler : Scheduler σ)
    (seeded : ∀ flips, settings.strategy = .hillClimb flips → settings.seed.isSome)
    (entropy entropy' : UInt64) (world : σ) :
    (runWith settings u (evaluator.calmed clock) scheduler entropy' world).1.timeless =
        (runWith settings u evaluator scheduler entropy world).1.timeless ∧
      (runWith settings u (evaluator.calmed clock) scheduler entropy' world).2 =
        (runWith settings u evaluator scheduler entropy world).2 := by
  rw [runWith, runWith, Settings.prepare_entropy seeded u.size entropy' entropy]
  split
  · exact ⟨rfl, rfl⟩
  next strategy memo prepared =>
    simp only [Bench.request_calmed]
    split
    · exact ⟨rfl, rfl⟩
    · exact ⟨rfl, rfl⟩
    next baseline bench scored =>
      simp only [runFrom, Walk.steps_calmed]
      split
      · exact ⟨rfl, rfl⟩
      · exact ⟨Ended.ofWalk_calmed .., rfl⟩

/-- A run that is given its seed turns to an evaluator in the same ways, and ends in the same way but
for the time, as it does with the evaluator that comes to a runtime error wherever the first one
panics.  A panic is remembered as a runtime error and not computed again while it is held, and the
candidates after it are scored as they would be otherwise; it never aborts a run. -/
theorem run_calmed (settings : Settings)
    (seeded : ∀ flips, settings.strategy = .hillClimb flips → settings.seed.isSome)
    (entropy entropy' : UInt64) (world : σ) :
    (run settings u (evaluator.calmed clock).traced entropy' (world, [])).1.timeless =
      (run settings u evaluator.traced entropy (world, [])).1.timeless ∧
    (run settings u (evaluator.calmed clock).traced entropy' (world, [])).2 =
      (run settings u evaluator.traced entropy (world, [])).2 ∧
    (∀ (bench : Bench σ) capacity set flags message, bench.memo.Within capacity →
      (bench.check evaluator).cancelled = false → u.resolve set = .ok flags →
      bench.memo.peek? set = none →
      (evaluator.score flags (bench.check evaluator).world).1 = .panic message →
      ∃ after, bench.request u evaluator set = (.ok ⟨set, flags, .runtimeError, false⟩, after) ∧
        after.memo.peek? set = some .runtimeError ∧ after.cancelled = false ∧
        ∀ rest, Bench.requestAll u evaluator (set :: rest) bench =
          ((Bench.requestAll u evaluator rest after).1.map
            (⟨set, flags, .runtimeError, false⟩ :: ·), (Bench.requestAll u evaluator rest after).2)) ∧
    (∀ (bench : Bench σ) set flags outcome, (bench.check evaluator).cancelled = false →
      u.resolve set = .ok flags → bench.memo.peek? set = some outcome →
      ∃ after, bench.request u evaluator set = (.ok ⟨set, flags, outcome, true⟩, after) ∧
        after.world = (evaluator.poll bench.world).2) ∧
    (settings.validate u.size = .ok () → ∀ e seen,
      (run settings u evaluator entropy world).1 = .aborted e seen →
      e = .interrupted ∨ (∃ step, e = .noAvailableMove step) ∨
        ∃ flags world, (evaluator.score flags world).1 = .error e) := by
  -- The run with the new evaluator is handed to the old scheduler, which asks it just the same.
  have sequential : Bench.requestAll u (evaluator.calmed clock).traced =
      Bench.requestAll u evaluator.traced := by
    rw [Evaluator.calmed_traced, Bench.requestAll_calmed]
  obtain ⟨same, heard⟩ := runWith_calmed u evaluator.traced (fun seen => clock seen.1) settings
    (Bench.requestAll u evaluator.traced) seeded entropy entropy' (world, [])
  refine ⟨?_, ?_, ?_, ?_, ?_⟩
  · rw [run, sequential]
    exact same
  · rw [run, sequential]
    exact heard
  · intro bench capacity set flags message within running resolved absent panicked
    obtain ⟨after, scored, held, goes⟩ :=
      Bench.request_of_panic within running resolved absent panicked
    exact ⟨after, scored, held, goes, Bench.requestAll_cons_of_ok scored⟩
  · intro bench set flags outcome running resolved held
    exact Bench.request_of_held running resolved held
  · intro valid e seen aborted
    exact source_of_aborted valid (Bench.requestAll_lawful u evaluator) aborted

/-- Hill climbing whose evaluator panics at its second call. -/
theorem run_calmed_fickle :
    (fickle.score ["-b"] [[]]).1 = .panic "out of memory" ∧
    (run crampedClimb flagPair (fickle.calmed List.length).traced 1 ([], [])).1.timeless =
      (run crampedClimb flagPair fickle.traced 0 ([], [])).1.timeless ∧
    (run crampedClimb flagPair (fickle.calmed List.length).traced 1 ([], [])).2 =
      (run crampedClimb flagPair fickle.traced 0 ([], [])).2 := by
  have seeded : ∀ flips, crampedClimb.strategy = .hillClimb flips → crampedClimb.seed.isSome :=
    fun _ _ => rfl
  obtain ⟨same, heard, _⟩ := run_calmed flagPair fickle List.length crampedClimb seeded 0 1 []
  exact ⟨rfl, same, heard⟩

end FlagSearch
