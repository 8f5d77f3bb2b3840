import FlagSearch.Proofs.Search.Contacts
import FlagSearch.Proofs.Tabu.Trail

/-!
# Searches of a single step

A sweep folds over the start and its neighbours; tabu search picks the cheapest neighbour first and
looks at the start afterwards.  After one step they have asked the same questions and found the same
best candidate, whatever the evaluator answered, and a report does not show where they stand.

* `openMoves_singleton` — the first step of a tabu search has every single flip to choose from.
* `Stage.Alike` — stages that reports do not tell apart.
* `Stage.alike_advance` — the first step of both, from the same start.
* `run_tabu_once_is_sweep` — so both runs come to the same, under their own names.
-/

namespace FlagSearch

/-! ## Names -/

def Report.renamed (name : String) (report : Report) : Report := { report with strategy := name }

def Ended.renamed (name : String) : Ended → Ended
  | .complete report => .complete (report.renamed name)
  | .aborted error seen => .aborted error (seen.map (·.renamed name))
  | .fault f => .fault f

def Settings.once (settings : Settings) (strategy : StrategyKind) (tabuCapacity : Nat) : Settings :=
  { settings with strategy, tabuCapacity, iterations := 1 }

/-! ## The candidates of the first step -/

theorem FlagSet.not_mem_flips (set : FlagSet) : set ∉ set.flips := fun flip =>
  (Bool.eq_not_self set.parity).1 (parity_of_mem_flips flip)

theorem openMoves_singleton (capacity : Nat) (set : FlagSet) :
    openMoves capacity [set] = set.flips := by
  refine List.filter_eq_self.2 fun other flip => decide_eq_true ?_
  intro known
  rw [List.mem_singleton.1 (List.mem_of_mem_take known)] at flip
  exact set.not_mem_flips flip

/-! ## One step of both -/

namespace Position

variable {position : Position}

theorem promote_cheapest (level : position.current = position.best) (first : Scored)
    (rest : List Scored) (step : Nat) :
    let fold := { position with current := cheapest position.current (first :: rest) }.promote step
    let pick := { position with current := cheapest first rest }.promote step
    pick.best = fold.best ∧ pick.bestStep = fold.bestStep := by
  -- A fold that keeps the best candidate has nothing to promote, as no cost is less than itself.
  have same : position.best.improvesOn position.best = false := by
    rw [Bool.eq_false_iff, Ne, Scored.improvesOn_iff]
    exact Int.lt_irrefl _
  rw [level, cheapest_cons]
  by_cases cheaper : (cheapest first rest).cost.order position.best.cost = .lt
  · rw [if_pos cheaper]
    exact ⟨rfl, rfl⟩
  · have dear : (cheapest first rest).improvesOn position.best = false := by
      rwa [Bool.eq_false_iff, Ne, Scored.improvesOn_iff, ← Binary64.order_eq_lt]
    simp [cheaper, promote, improved, same, dear]

end Position

namespace Stage

variable {σ : Type} {u : Universe} {evaluator : Evaluator σ}

/-- The stages of a sweep and of a tabu search with the same best candidate and the same bench. -/
structure Alike (swept roamed : Stage σ) : Prop where
  name_eq : roamed.strategy.name = StrategyKind.tabu.name
  best_eq : roamed.position.best = swept.position.best
  bestStep_eq : roamed.position.bestStep = swept.position.bestStep
  bench_eq : roamed.bench = swept.bench

variable {position : Position} {bench : Bench σ} {capacity : Nat} {visited : TabuList}

theorem tries_sweep (some : 0 < position.current.set.length) :
    tries u ⟨.sweep false, position, bench⟩ = .ok position.current.set.flips :=
  singleFlips_eq some

theorem tries_tabu (some : 0 < position.current.set.length)
    (remembers : visited.Remembers capacity [position.current.set]) :
    tries u ⟨.tabu visited, position, bench⟩ = .ok position.current.set.flips := by
  have listed := admissible_eq some remembers
  rw [openMoves_singleton] at listed
  cases flips : position.current.set.flips with
  | nil =>
    have none := congrArg List.length flips
    rw [FlagSet.length_flips] at none
    exact absurd none (Nat.ne_of_gt some)
  | cons first rest => simp only [tries, listed, flips]

theorem alike_advance (u : Universe) (evaluator : Evaluator σ)
    (some : 0 < position.current.set.length) (level : position.current = position.best)
    (remembers : visited.Remembers capacity [position.current.set]) (bench : Bench σ) :
    ∃ result swept roamed,
      advance u evaluator (Bench.requestAll u evaluator) ⟨.sweep false, position, bench⟩ =
        (result, swept) ∧
      advance u evaluator (Bench.requestAll u evaluator) ⟨.tabu visited, position, bench⟩ =
        (result, roamed) ∧
      swept.Alike roamed := by
  rw [advance_requestAll (tries_sweep some), advance_requestAll (tries_tabu some remembers)]
  cases answer : Bench.requestAll u evaluator position.current.set.flips bench with
  | mk result after =>
    cases result with
    | error halt => exact ⟨.error halt, _, _, rfl, rfl, rfl, rfl, rfl, rfl⟩
    | ok batch =>
      have sets := (Bench.requestAll_lawful u evaluator).sets_eq answer
      cases batch with
      | nil =>
        have none := congrArg List.length sets
        rw [FlagSet.length_flips] at none
        exact absurd none (Nat.ne_of_lt some)
      | cons first rest =>
        obtain ⟨best, bestStep⟩ :=
          Position.promote_cheapest level first rest after.step
        exact ⟨.ok (), _, _, rfl, rfl, rfl, best, bestStep, rfl⟩

end Stage

/-! ## Whole runs -/

section Runs

variable {σ : Type} {u : Universe} {evaluator : Evaluator σ} {settings : Settings}
  {capacity capacity' : Nat} {baseline : Scored}

theorem runFrom_once {kind : StrategyKind} {scheduler : Scheduler σ} (strategy : Strategy)
    {bench : Bench σ} {result : Except Halt Unit} {last : Stage σ}
    (advanced : Stage.advance u evaluator scheduler
      ⟨strategy.begin (.start baseline), .start baseline, { bench with step := 1 }⟩ =
        (result, last)) :
    runFrom (settings.once kind capacity) u evaluator scheduler strategy baseline bench =
      match result with
      | .error halt =>
          (.ofWalk evaluator (settings.once kind capacity) baseline (some halt) ⟨last, #[]⟩,
            last.bench.world)
      | .ok () =>
          (.ofWalk evaluator (settings.once kind capacity) baseline none
            ⟨last, #[finite? last.position.best.cost]⟩, last.bench.world) := by
  have one : reserve 1 trajectorySlot = .ok () := by decide
  have room : reserve (settings.once kind capacity).iterations trajectorySlot = .ok () := one
  have entered : ((Walk.ofStage ⟨strategy.begin (.start baseline), .start baseline,
      bench⟩).entering 1).advance u evaluator scheduler = (result, last) := advanced
  cases result with
  | error halt =>
    refine runFrom_of_room room ?_
    simp only [Settings.once, Walk.steps, Walk.step_eq, entered]
    rfl
  | ok _ =>
    refine runFrom_of_room room ?_
    simp only [Settings.once, Walk.steps, Walk.step_eq, entered]
    rfl

theorem Ended.ofWalk_alike {swept roamed : Stage σ} (alike : swept.Alike roamed)
    (halt : Option Halt) (trajectory : Array (Option Binary64)) :
    ofWalk evaluator (settings.once .tabu capacity) baseline halt ⟨roamed, trajectory⟩ =
      (ofWalk evaluator (settings.once .sweep capacity') baseline halt
        ⟨swept, trajectory⟩).renamed StrategyKind.tabu.name := by
  have reports (failure : Option SearchError) :
      Walk.report evaluator (settings.once .tabu capacity) baseline failure ⟨roamed, trajectory⟩ =
        (Walk.report evaluator (settings.once .sweep capacity') baseline failure
          ⟨swept, trajectory⟩).renamed StrategyKind.tabu.name := by
    simp only [Walk.report, Report.renamed, alike.name_eq, alike.best_eq, alike.bestStep_eq,
      alike.bench_eq]
    rfl
  rcases halt with _ | e | f
  · exact congrArg Ended.complete (reports none)
  · simp only [ofWalk, renamed, reports (some e)]
    split <;> rfl
  · rfl

theorem runFrom_tabu_once (inhabited : 0 < baseline.set.length) (bench : Bench σ) :
    runFrom (settings.once .tabu capacity) u evaluator (Bench.requestAll u evaluator)
        (.tabu (.ofCapacity capacity)) baseline bench =
      (runFrom (settings.once .sweep capacity') u evaluator (Bench.requestAll u evaluator)
        (.sweep false) baseline bench).map (Ended.renamed StrategyKind.tabu.name) id := by
  have fresh : baseline.set ∉ ([] : List FlagSet).take capacity := by simp
  have remembers := (TabuList.remembers_ofCapacity capacity).insert fresh
  have level : (Position.start baseline).current = (Position.start baseline).best := rfl
  obtain ⟨result, swept, roamed, sweeps, roams, alike⟩ :=
    Stage.alike_advance u evaluator inhabited level remembers { bench with step := 1 }
  rw [runFrom_once (.sweep false) sweeps, runFrom_once (.tabu (.ofCapacity capacity)) roams]
  cases result with
  | error halt =>
    refine Prod.ext ?_ (congrArg Bench.world alike.bench_eq)
    exact Ended.ofWalk_alike alike (some halt) #[]
  | ok _ =>
    refine Prod.ext ?_ (congrArg Bench.world alike.bench_eq)
    rw [alike.best_eq]
    exact Ended.ofWalk_alike alike none _

theorem run_tabu_once_eq (settings : Settings) (capacity capacity' : Nat) (u : Universe)
    (evaluator : Evaluator σ) (entropy entropy' : UInt64) (world : σ) :
    run (settings.once .tabu capacity) u evaluator entropy world =
      (run (settings.once .sweep capacity') u evaluator entropy' world).map
        (Ended.renamed StrategyKind.tabu.name) id := by
  have checked : (settings.once .tabu capacity).validate u.size =
      (settings.once .sweep capacity').validate u.size := rfl
  cases valid : (settings.once .sweep capacity').validate u.size with
  | error e =>
    rw [run, run, runWith_of_invalid valid, runWith_of_invalid (checked.trans valid)]
    rfl
  | ok _ =>
    have accepted := Settings.accepted_of_validate valid
    obtain ⟨strategy, memo, _, sized⟩ := accepted.exists_prepared 0
    rw [run, run, runWith_of_prepared valid rfl sized,
      runWith_of_prepared (checked.trans valid) rfl sized]
    simp only [Settings.once]
    cases scored : (Bench.ofWorld world memo).request u evaluator
        (settings.initial.getD u.emptySet) with
    | mk result bench =>
      cases result with
      | error halt => cases halt <;> rfl
      | ok baseline =>
        have length : baseline.set.length = u.size :=
          (Bench.request_ok scored).1 ▸ accepted.length_start
        exact runFrom_tabu_once (length ▸ accepted.flags_pos) bench

/-- A tabu search of one step and a sweep turn to their evaluator in the same way and come to the
same: they fail with the same error, and their reports differ only in the name of the strategy.  The
evaluator may answer by all that happened before, and break down or be stopped at any time. -/
theorem run_tabu_once_is_sweep (settings : Settings) (capacity capacity' : Nat) (u : Universe)
    (evaluator : Evaluator σ) (entropy entropy' : UInt64) (world : σ) :
    (run (settings.once .tabu capacity) u evaluator.traced entropy (world, [])).2 =
        (run (settings.once .sweep capacity') u evaluator.traced entropy' (world, [])).2 ∧
      run (settings.once .tabu capacity) u evaluator entropy world =
        (run (settings.once .sweep capacity') u evaluator entropy' world).map
          (Ended.renamed StrategyKind.tabu.name) id := by
  refine ⟨?_, run_tabu_once_eq settings capacity capacity' u evaluator entropy entropy' world⟩
  rw [run_tabu_once_eq settings capacity capacity' u evaluator.traced entropy entropy']
  rfl

end Runs

end FlagSearch
