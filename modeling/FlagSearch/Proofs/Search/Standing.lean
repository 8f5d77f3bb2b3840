import FlagSearch.Proofs.Search.Accepted
import FlagSearch.Proofs.Search.Best
import FlagSearch.Proofs.Search.Phases

/-!
# Where a run stands

However its steps end, a run that was accepted stands at a set over its universe and keeps to the
kind of strategy it began with.  So what the settings promise holds at each of its steps, and of the
errors that the strategies have of their own one is left: tabu search may have nowhere to go.

* `Stage.Stands`, `Stage.Stands.advance`, `Walk.Reached.stands` — the invariant.
* `Stage.Stands.error_of_tries` — the error that is left.
* `Course.failed_cases`, `Course.OutOfMoves`, `Course.ends` — what it is that stops a run.
* `Course.source_of_error` — where the error comes from.
-/

namespace FlagSearch

def Strategy.kind : Strategy → StrategyKind
  | hillClimb flips _ => .hillClimb flips
  | tabu _ => .tabu
  | sweep _ => .sweep

theorem Strategy.kind_begin (strategy : Strategy) (position : Position) :
    (strategy.begin position).kind = strategy.kind := by
  cases strategy <;> rfl

theorem Strategy.kind_of_ofKind {kind : StrategyKind} {capacity : Nat} {seed : UInt64}
    {strategy : Strategy} (chosen : ofKind kind capacity seed = .ok strategy) :
    strategy.kind = kind ∧ strategy ≠ .sweep true := by
  unfold ofKind at chosen
  split at chosen
  · split at chosen
    · cases chosen
    · cases chosen
      exact ⟨rfl, Strategy.noConfusion⟩
  · cases chosen
    exact ⟨rfl, Strategy.noConfusion⟩
  · cases chosen
    refine ⟨rfl, fun swept => ?_⟩
    cases swept

variable {σ : Type} {u : Universe} {evaluator : Evaluator σ} {scheduler : Scheduler σ}
  {settings : Settings}

/-! ## Steps -/

namespace Stage

variable {kind : StrategyKind} {before after stage : Stage σ}

theorem destination_current (strategy : Strategy) (position : Position) (step : Nat)
    (batch : List Scored) :
    (destination strategy position step batch).2.current ∈ position.current :: batch := by
  cases strategy with
  | hillClimb flips draws =>
    cases batch with
    | nil => exact List.mem_cons_self
    | cons candidate others =>
      simp only [destination]
      split
      · simp
      · exact List.mem_cons_self
  | tabu visited =>
    cases batch with
    | nil => exact List.mem_cons_self
    | cons candidate others =>
      simp only [destination, Position.promote_current]
      exact List.mem_cons_of_mem _ (cheapest_firstCheapest candidate others).mem
  | sweep done =>
    simp only [destination, Position.promote_current]
    exact (cheapest_firstCheapest position.current batch).mem

theorem kind_destination (strategy : Strategy) (position : Position) (step : Nat)
    (batch : List Scored) : (destination strategy position step batch).1.kind = strategy.kind := by
  cases strategy with
  | hillClimb flips draws => cases batch <;> rfl
  | tabu visited => cases batch <;> rfl
  | sweep done => rfl

theorem kind_drawn (stage : Stage σ) : (stage.drawn u).strategy.kind = stage.strategy.kind := by
  obtain ⟨strategy, position, bench⟩ := stage
  cases strategy with
  | hillClimb flips draws =>
    simp only [drawn]
    split <;> rfl
  | tabu visited => rfl
  | sweep done => rfl

/-- The stage has a strategy of the kind, and stands at a set over the universe. -/
structure Stands (u : Universe) (kind : StrategyKind) (stage : Stage σ) : Prop where
  length_eq : stage.position.current.set.length = u.size
  kind_eq : stage.strategy.kind = kind

theorem Stands.advance (lawful : scheduler.Lawful evaluator) (some : 0 < u.size)
    (stands : before.Stands u kind) {result : Except Halt Unit}
    (advanced : before.advance u evaluator scheduler = (result, after)) : after.Stands u kind := by
  cases result with
  | error halt =>
    have still : (before.drawn u).Stands u kind :=
      ⟨by rw [drawn_position, stands.length_eq], by rw [kind_drawn, stands.kind_eq]⟩
    rcases advance_error lawful advanced with ⟨_, rfl⟩ | ⟨_, _, _, _, rfl⟩
    · exact still
    · exact ⟨still.length_eq, still.kind_eq⟩
  | ok _ =>
    obtain ⟨sets, batch, bench, chosen, scored, rfl⟩ := advance_ok lawful advanced
    refine ⟨?_, (kind_destination ..).trans ((kind_drawn before).trans stands.kind_eq)⟩
    have lengths := length_of_tries some stands.length_eq chosen
    have arrived := destination_current (before.drawn u).strategy (before.drawn u).position
      bench.step batch
    rcases List.mem_cons.1 arrived with same | member
    · rw [moved, same, drawn_position, stands.length_eq]
    · refine lengths _ ?_
      rw [← (before.scorer_lawful (u := u) lawful).sets_eq scored]
      exact List.mem_map_of_mem member

/-- A strategy that fits the universe and was not used up chooses its candidates, unless it is tabu
search and they are all on the list. -/
theorem Stands.error_of_tries (accepted : settings.Accepted u.size)
    (stands : stage.Stands u settings.strategy) (fresh : stage.strategy ≠ .sweep true) {halt : Halt}
    (failed : stage.tries u = .error halt) :
    settings.strategy = .tabu ∧ halt = .error (.noAvailableMove stage.bench.step) := by
  obtain ⟨strategy, position, bench⟩ := stage
  obtain ⟨length_eq, kind_eq⟩ := stands
  have some := accepted.flags_pos
  have listed := singleFlips_eq (length_eq ▸ some : 0 < position.current.set.length)
  cases strategy with
  | hillClimb flips draws =>
    have few : ¬u.size < flips := fun many => by
      have fits := accepted.strategy_fits
      rw [Settings.strategyProblem?, ← kind_eq] at fits
      simp [Strategy.kind, many] at fits
    have inside := Draws.sample_lt (Nat.not_lt.1 few) draws
    obtain ⟨set, flipped⟩ := FlagSet.exists_flipAll fun i drawn => length_eq ▸ inside i drawn
    simp only [tries, few, if_false, flipped] at failed
    cases failed
  | tabu visited =>
    simp only [tries, admissible, listed, Except.map] at failed
    split at failed
    next nothing => cases nothing
    · cases failed
      exact ⟨kind_eq.symm, rfl⟩
    · cases failed
  | sweep done =>
    cases done with
    | true => exact absurd rfl fresh
    | false =>
      simp only [tries, listed] at failed
      cases failed

end Stage

/-! ## Walks -/

theorem Walk.Reached.stands (lawful : scheduler.Lawful evaluator) (some : 0 < u.size)
    {kind : StrategyKind} {start walk : Walk σ} {n : Nat}
    (reached : Reached u evaluator scheduler start n walk) (stands : start.stage.Stands u kind) :
    walk.stage.Stands u kind := by
  induction reached with
  | start => exact stands
  | @step n walk next before done ih =>
    have entered : (walk.entering (n + 1)).Stands u kind := ⟨ih.length_eq, ih.kind_eq⟩
    exact entered.advance lawful some (advance_of_step done).1

/-! ## Courses -/

variable {entropy : UInt64} {world : σ}

namespace Course

variable (course : Course settings u evaluator scheduler entropy world)

include course in
theorem accepted : settings.Accepted u.size := Settings.accepted_of_validate course.valid

theorem stands_start : course.start.stage.Stands u settings.strategy where
  length_eq := by
    change course.baseline.set.length = _
    rw [(Bench.request_ok course.scored).1]
    exact course.accepted.length_start
  kind_eq := (Strategy.kind_begin ..).trans (Strategy.kind_of_ofKind course.chosen).1

theorem requestAll_start :
    Bench.requestAll u evaluator [settings.initial.getD u.emptySet] (.ofWorld world course.memo) =
      (.ok [course.baseline], course.bench) := by
  rw [Stage.requestAll_singleton, course.scored]
  rfl

theorem strategy_ne_swept (lawful : scheduler.Lawful evaluator) {before : Walk σ} {n : Nat}
    (reached : Walk.Reached u evaluator scheduler course.start n before)
    (few : n < settings.iterations) : before.stage.strategy ≠ .sweep true := by
  intro swept
  have kind := (reached.stands lawful course.accepted.flags_pos course.stands_start).kind_eq
  rw [swept] at kind
  have fits := course.accepted.strategy_fits
  have one : settings.iterations = 1 := by
    rw [Settings.strategyProblem?, ← kind] at fits
    simpa [Strategy.kind] using fits
  obtain rfl : n = 0 := by omega
  cases reached
  have fresh := (Strategy.kind_of_ofKind course.chosen).2
  change course.strategy.begin _ = _ at swept
  cases begun : course.strategy with
  | hillClimb flips draws =>
    rw [begun] at swept
    cases swept
  | tabu visited =>
    rw [begun] at swept
    cases swept
  | sweep done =>
    rw [begun] at swept
    exact fresh (begun.trans swept)

/-- The steps of a run end with its budget, or tabu search has nowhere to go, or the candidates of a
step are not all scored. -/
theorem failed_cases (lawful : scheduler.Lawful evaluator) :
    (course.halt = none ∧ course.completed = settings.iterations) ∨
    ∃ before, course.completed < settings.iterations ∧
      Walk.Reached u evaluator scheduler course.start course.completed before ∧
      ((settings.strategy = .tabu ∧
        (before.entering (course.completed + 1)).tries u =
          .error (.error (.noAvailableMove (course.completed + 1))) ∧
        course.walk.stage.bench = (before.entering (course.completed + 1)).bench ∧
        course.halt = some (.error (.noAvailableMove (course.completed + 1)))) ∨
      ∃ sets halt, (before.entering (course.completed + 1)).tries u = .ok sets ∧
        (before.entering (course.completed + 1)).scorer u evaluator scheduler sets
          (before.entering (course.completed + 1)).bench = (.error halt, course.walk.stage.bench) ∧
        course.halt = some halt) := by
  rcases course.cases with ⟨none, all, _⟩ | ⟨before, stop, few, reached, failed, halted⟩
  · exact .inl ⟨none, all⟩
  right
  refine ⟨before, few, reached, ?_⟩
  have stands := reached.stands lawful course.accepted.flags_pos course.stands_start
  rcases Stage.advance_error lawful (Walk.step_error failed).1 with ⟨chosen, last⟩ |
    ⟨sets, bench, chosen, scored, last⟩
  · left
    have entered : (before.entering (course.completed + 1)).Stands u settings.strategy :=
      ⟨stands.length_eq, stands.kind_eq⟩
    have fresh := course.strategy_ne_swept lawful reached few
    obtain ⟨tabu, rfl⟩ := entered.error_of_tries course.accepted fresh chosen
    exact ⟨tabu, chosen, by rw [last, Stage.drawn_bench], halted⟩
  · right
    exact ⟨sets, stop, chosen, by rw [scored, last], halted⟩

/-- Tabu search itself ended the run: after the steps that were completed it had nowhere to go. -/
def OutOfMoves : Prop :=
  ∃ before, Walk.Reached u evaluator scheduler course.start course.completed before ∧
    (before.entering (course.completed + 1)).tries u =
      .error (.error (.noAvailableMove (course.completed + 1))) ∧
    course.halt = some (.error (.noAvailableMove (course.completed + 1)))

/-- An error that ends a run is a cancellation, the want of a move, or one that the evaluator came
to. -/
theorem source_of_error (lawful : scheduler.Lawful evaluator) {e : SearchError}
    (halted : course.halt = some (.error e)) :
    e = .interrupted ∨ (course.OutOfMoves ∧ e = .noAvailableMove (course.completed + 1)) ∨
      ∃ flags world, (evaluator.score flags world).1 = .error e := by
  rcases course.failed_cases lawful with ⟨none, _⟩ | ⟨before, _, reached, stuck | failed⟩
  · rw [halted] at none
    cases none
  · obtain ⟨_, nowhere, _, halted'⟩ := stuck
    cases halted.symm.trans halted'
    exact .inr (.inl ⟨⟨before, reached, nowhere, halted⟩, rfl⟩)
  · obtain ⟨sets, halt, _, scored, halted'⟩ := failed
    cases halted.symm.trans halted'
    have scorer := (before.entering (course.completed + 1)).scorer_lawful (u := u) lawful
    exact (scorer.error_source scored).imp_right .inr

theorem ends (lawful : scheduler.Lawful evaluator) :
    ∃ before, Walk.Reached u evaluator scheduler course.start course.completed before ∧
      ((course.halt = none ∨ course.OutOfMoves) ∧
          (∃ number, course.walk.stage.bench = (before.entering number).bench) ∨
        ¬(course.halt = none ∨ course.OutOfMoves) ∧
          ∃ sets halt, (before.entering (course.completed + 1)).tries u = .ok sets ∧
            (before.entering (course.completed + 1)).scorer u evaluator scheduler sets
                (before.entering (course.completed + 1)).bench =
              (.error halt, course.walk.stage.bench)) := by
  rcases course.cases with ⟨none, _, reached⟩ | ⟨_, _, less, _⟩
  · exact ⟨course.walk, reached, .inl ⟨.inl none, course.walk.stage.bench.step, rfl⟩⟩
  rcases course.failed_cases lawful with ⟨_, all⟩ | ⟨before, _, reached, stuck | failed⟩
  · exact absurd all (Nat.ne_of_lt less)
  · obtain ⟨_, nowhere, bench, halted⟩ := stuck
    exact ⟨before, reached, .inl ⟨.inr ⟨before, reached, nowhere, halted⟩, _, bench⟩⟩
  · obtain ⟨sets, halt, chosen, scored, halted⟩ := failed
    refine ⟨before, reached, .inr ⟨?_, sets, halt, chosen, scored⟩⟩
    rintro (none | ⟨before', reached', nowhere, _⟩)
    · rw [halted] at none
      cases none
    · obtain rfl : before' = before :=
        congrArg Prod.snd (reached'.steps_eq.symm.trans reached.steps_eq)
      rw [chosen] at nowhere
      cases nowhere

end Course

end FlagSearch
