import FlagSearch.Proofs.Search.Published
import FlagSearch.Proofs.Search.Standing
import FlagSearch.Proofs.Search.Unmarked

/-!
# The search without a memo

An evaluator that is a function of the flags needs no memo: every set could as well be scored by the
function, each time it is asked for.  The search that does so has neither a memo nor a world nor
workers, and it is what every run comes down to.

The invariant is `Stage.Settled`: the bench is ready, which is to say that nobody interrupted and
what the memo holds agrees with the function, and the search stands at a set over the universe.  It
holds whatever the memo evicted.

* `Universe.score`, `Universe.scoreAll` — candidates scored by the function.
* `Bench.Ready`, `Scheduler.Answers` — schedulers that come to the same, whatever the memo holds.
* `Plain.advance`, `Plain.step`, `Plain.steps`, `Plain.run` — the search without a memo.
* `Stage.Settled.advance`, `Walk.Settled.steps` — a step and a walk are those of that search, the
  marks of the memo erased.
-/

namespace FlagSearch

/-! ## Scoring by the function -/

namespace Universe

variable {u : Universe} {answer : List String → Except SearchError Outcome}

def score (u : Universe) (answer : List String → Except SearchError Outcome) (set : FlagSet) :
    Except Halt Scored :=
  Bench.answered set (u.select set) ((answer (u.select set)).map fun outcome => ⟨outcome, false⟩)

def scoreAll (u : Universe) (answer : List String → Except SearchError Outcome) :
    List FlagSet → Except Halt (List Scored)
  | [] => .ok []
  | set :: rest =>
      match u.score answer set with
      | .error halt => .error halt
      | .ok scored => (u.scoreAll answer rest).map (scored :: ·)

theorem score_ok {set : FlagSet} {scored : Scored} (found : u.score answer set = .ok scored) :
    scored.set = set := by
  unfold score at found
  cases reply : answer (u.select set) with
  | error e =>
    rw [reply] at found
    cases found
  | ok outcome =>
    rw [reply] at found
    cases found
    rfl

theorem score_error {set : FlagSet} {halt : Halt} (failed : u.score answer set = .error halt) :
    ∃ e, halt = .error e := by
  unfold score at failed
  cases reply : answer (u.select set) with
  | error e =>
    rw [reply] at failed
    cases failed
    exact ⟨e, rfl⟩
  | ok outcome =>
    rw [reply] at failed
    cases failed

theorem scoreAll_ok {batch : List FlagSet} {scored : List Scored}
    (found : u.scoreAll answer batch = .ok scored) : scored.map (·.set) = batch := by
  induction batch generalizing scored with
  | nil =>
    cases found
    rfl
  | cons set rest ih =>
    rw [scoreAll] at found
    split at found
    · cases found
    next candidate one =>
      cases others : u.scoreAll answer rest with
      | error halt =>
        rw [others] at found
        cases found
      | ok later =>
        rw [others] at found
        cases found
        rw [List.map_cons, score_ok one, ih others]

theorem scoreAll_error {batch : List FlagSet} {halt : Halt}
    (failed : u.scoreAll answer batch = .error halt) : ∃ e, halt = .error e := by
  induction batch with
  | nil => cases failed
  | cons set rest ih =>
    rw [scoreAll] at failed
    split at failed
    next halt' one =>
      cases failed
      exact score_error one
    · cases others : u.scoreAll answer rest with
      | error halt' =>
        rw [others] at failed
        cases failed
        exact ih others
      | ok later =>
        rw [others] at failed
        cases failed

end Universe

/-! ## Schedulers that answer by the function -/

/-- A bench that the function can take over. -/
structure Bench.Ready {σ : Type} (u : Universe)
    (answer : List String → Except SearchError Outcome) (bench : Bench σ) : Prop
    extends bench.Settled u answer where
  within : bench.memo.Within bench.memo.capacity

/-- Whatever the memo holds, a batch is scored by the function. -/
structure Scheduler.Answers {σ : Type} (u : Universe)
    (answer : List String → Except SearchError Outcome) (scheduler : Scheduler σ) : Prop
    extends scheduler.KeepsLog where
  ready : ∀ {batch bench}, (∀ set ∈ batch, set.length = u.size) → bench.Ready u answer →
    (scheduler batch bench).2.Ready u answer
  answers : ∀ {batch bench}, (∀ set ∈ batch, set.length = u.size) → bench.Ready u answer →
    (scheduler batch bench).1.map (List.map Scored.unmarked) = u.scoreAll answer batch

namespace Bench

variable {σ : Type} {u : Universe} {evaluator : Evaluator σ}
  {answer : List String → Except SearchError Outcome}

theorem Ready.entering {bench : Bench σ} (ready : bench.Ready u answer) (number : Nat) :
    Ready u answer { bench with step := number } :=
  ⟨⟨ready.running, ready.agrees⟩, ready.within⟩

theorem Ready.recordAll {bench : Bench σ} (ready : bench.Ready u answer) (batch : List Scored) :
    (bench.recordAll batch).Ready u answer where
  running := (recordAll_cancelled bench batch).trans ready.running
  agrees := (recordAll_memo bench batch).symm ▸ ready.agrees
  within := (recordAll_memo bench batch).symm ▸ ready.within

theorem request_answers (publishes : evaluator.Publishes answer) {bench : Bench σ} {set : FlagSet}
    (length : set.length = u.size) (ready : bench.Ready u answer) :
    (bench.request u evaluator set).2.Ready u answer ∧
      (bench.request u evaluator set).1.map Scored.unmarked = u.score answer set := by
  have within := request_within ready.within u evaluator set
  cases requested : bench.request u evaluator set with
  | mk result after =>
    obtain ⟨settled, cached, rfl⟩ :=
      request_published publishes ready.toSettled length requested
    rw [requested] at within
    refine ⟨⟨settled, within.capacity_eq ▸ within⟩, ?_⟩
    rw [Universe.score]
    cases answer (u.select set) <;> rfl

theorem requestAll_answers (publishes : evaluator.Publishes answer) :
    Scheduler.Answers u answer (requestAll u evaluator) := by
  -- One induction for both, since the next candidate needs the bench that the last one left.
  suffices both : ∀ {batch : List FlagSet} {bench : Bench σ},
      (∀ set ∈ batch, set.length = u.size) → bench.Ready u answer →
        (requestAll u evaluator batch bench).2.Ready u answer ∧
          (requestAll u evaluator batch bench).1.map (List.map Scored.unmarked) =
            u.scoreAll answer batch from
    ⟨requestAll_keepsLog u evaluator, fun lengths ready => (both lengths ready).1,
      fun lengths ready => (both lengths ready).2⟩
  intro batch
  induction batch with
  | nil => exact fun _ ready => ⟨ready, rfl⟩
  | cons set rest ih =>
    intro bench lengths ready
    have one := request_answers publishes (lengths set List.mem_cons_self) ready
    cases first : bench.request u evaluator set with
    | mk result between =>
      rw [first] at one
      obtain ⟨ready, scored⟩ := one
      cases result with
      | error halt =>
        rw [requestAll_cons_of_error first, Universe.scoreAll, ← scored]
        exact ⟨ready, rfl⟩
      | ok candidate =>
        obtain ⟨ready, others⟩ :=
          ih (fun set member => lengths set (List.mem_cons_of_mem _ member)) ready
        rw [requestAll_cons_of_ok first, Universe.scoreAll, ← scored, ← others]
        refine ⟨ready, ?_⟩
        cases (requestAll u evaluator rest between).1 <;> rfl

end Bench

/-! ## The search -/

namespace Plain

def advance (u : Universe) (answer : List String → Except SearchError Outcome)
    (stage : Stage Unit) : Except Halt Unit × Stage Unit :=
  match stage.tries u with
  | .error halt => (.error halt, stage.drawn u)
  | .ok sets =>
      match u.scoreAll answer sets with
      | .error halt => (.error halt, stage.drawn u)
      | .ok batch => (.ok (), (stage.drawn u).moved batch stage.bench)

def step (u : Universe) (answer : List String → Except SearchError Outcome) (number : Nat)
    (walk : Walk Unit) : Except Halt Unit × Walk Unit :=
  match advance u answer (walk.entering number) with
  | (.error halt, stage) => (.error halt, { walk with stage })
  | (.ok (), stage) =>
      (.ok (), ⟨stage, walk.trajectory.push (finite? stage.position.best.cost)⟩)

def steps (u : Universe) (answer : List String → Except SearchError Outcome) :
    (count number : Nat) → Walk Unit → Option Halt × Walk Unit
  | 0, _, walk => (none, walk)
  | count + 1, number, walk =>
      match step u answer number walk with
      | (.error halt, walk) => (some halt, walk)
      | (.ok (), walk) => steps u answer count (number + 1) walk

def start (strategy : Strategy) (baseline : Scored) : Walk Unit :=
  .ofStage ⟨strategy.begin (.start baseline), .start baseline, .ofWorld () ⟨0, [], 0, 0⟩⟩

def run (settings : Settings) (u : Universe) (answer : List String → Except SearchError Outcome)
    (name : String) (seed : UInt64) : Ended :=
  match Strategy.ofKind settings.strategy settings.tabuCapacity seed with
  | .error e => .aborted e none
  | .ok strategy =>
      match u.score answer (settings.initial.getD u.emptySet) with
      | .error halt => .ofHalt halt
      | .ok baseline =>
          match reserve settings.iterations trajectorySlot with
          | .error fault => .fault fault
          | .ok () =>
              let (halt, walk) := steps u answer settings.iterations 1 (start strategy baseline)
              .ofWalk (.named name) settings baseline halt walk

end Plain

/-! ## Steps -/

section Steps

variable {σ : Type} {u : Universe} {evaluator : Evaluator σ} {scheduler : Scheduler σ}
  {answer : List String → Except SearchError Outcome}

/-- A stage that the function can take over. -/
structure Stage.Settled (u : Universe) (answer : List String → Except SearchError Outcome)
    (stage : Stage σ) : Prop where
  bench : stage.bench.Ready u answer
  length_eq : stage.position.current.set.length = u.size

theorem Stage.scorer_answers (publishes : evaluator.Publishes answer)
    (answers : scheduler.Answers u answer) (stage : Stage σ) :
    Scheduler.Answers u answer (stage.scorer u evaluator scheduler) := by
  unfold scorer
  split
  · exact Bench.requestAll_answers publishes
  · exact answers
  · exact answers

theorem Stage.Settled.advance (publishes : evaluator.Publishes answer)
    (answers : scheduler.Answers u answer) (some : 0 < u.size) {before after : Stage σ}
    (settled : before.Settled u answer) {result : Except Halt Unit}
    (advanced : before.advance u evaluator scheduler = (result, after)) :
    Plain.advance u answer before.bare = (result, after.bare) ∧ after.Settled u answer := by
  cases chosen : before.tries u with
  | error halt =>
    rw [advance_of_tries_error chosen] at advanced
    cases advanced
    refine ⟨?_, ?_, ?_⟩
    · rw [Plain.advance, tries_bare, chosen, drawn_bare]
    · rw [drawn_bench]
      exact settled.bench
    · rw [drawn_position]
      exact settled.length_eq
  | ok sets =>
    have lengths := length_of_tries some settled.length_eq chosen
    have scorer := scorer_answers publishes answers before
    have kept := scorer.ready lengths settled.bench
    have scores := scorer.answers lengths settled.bench
    have log := scorer.log_eq sets before.bench
    have step := scorer.step_eq sets before.bench
    cases scored : before.scorer u evaluator scheduler sets before.bench with
    | mk found bench =>
      rw [scored] at kept scores log step
      have bare : bench.bare = before.bench.bare := by
        simp only at log step
        rw [Bench.bare, Bench.bare, log, step]
      cases found with
      | error halt =>
        rw [advance_of_scorer_error chosen scored] at advanced
        cases advanced
        refine ⟨?_, kept, ?_⟩
        · rw [Plain.advance, tries_bare, chosen]
          simp only [← scores, Except.map, ← drawn_bare]
          simp only [Stage.bare, bare, drawn_bench]
        · simp only [drawn_position]
          exact settled.length_eq
      | ok batch =>
        have whole : batch.map (·.set) = sets := by
          have found := Universe.scoreAll_ok scores.symm
          simpa [Function.comp_def] using found
        rw [advance_of_scored chosen scored whole] at advanced
        cases advanced
        refine ⟨?_, kept.recordAll batch, ?_⟩
        · rw [Plain.advance, tries_bare, chosen]
          simp only [← scores, Except.map, ← drawn_bare, moved_bare, bare]
          rfl
        · have member := destination_current (before.drawn u).strategy (before.drawn u).position
            bench.step batch
          rcases List.mem_cons.1 member with stays | moves
          · rw [moved, stays, drawn_position]
            exact settled.length_eq
          · exact lengths _ (whole ▸ List.mem_map_of_mem moves)

def Walk.Settled (u : Universe) (answer : List String → Except SearchError Outcome)
    (walk : Walk σ) : Prop := walk.stage.Settled u answer

theorem Walk.Settled.entering {walk : Walk σ} (settled : walk.Settled u answer) (number : Nat) :
    (walk.entering number).Settled u answer :=
  ⟨settled.bench.entering number, settled.length_eq⟩

theorem Walk.Settled.step (publishes : evaluator.Publishes answer)
    (answers : scheduler.Answers u answer) (some : 0 < u.size) {walk next : Walk σ} {number : Nat}
    (settled : walk.Settled u answer) {result : Except Halt Unit}
    (stepped : walk.step u evaluator scheduler number = (result, next)) :
    Plain.step u answer number walk.bare = (result, next.bare) ∧ next.Settled u answer := by
  have entering := settled.entering number
  cases advanced : (walk.entering number).advance u evaluator scheduler with
  | mk outcome stage =>
    obtain ⟨plain, kept⟩ := entering.advance publishes answers some advanced
    rw [Walk.step_eq, advanced] at stepped
    rw [Plain.step, ← Walk.entering_bare, plain]
    cases outcome with
    | error halt =>
      cases stepped
      exact ⟨rfl, kept⟩
    | ok _ =>
      cases stepped
      exact ⟨rfl, kept⟩

theorem Walk.Reached.settled (publishes : evaluator.Publishes answer)
    (answers : scheduler.Answers u answer) (some : 0 < u.size) {start walk : Walk σ} {n : Nat}
    (settled : start.Settled u answer) (reached : Reached u evaluator scheduler start n walk) :
    walk.Settled u answer := by
  induction reached with
  | start => exact settled
  | step before done ih => exact (ih.step publishes answers some done).2

theorem Walk.Settled.steps (publishes : evaluator.Publishes answer)
    (answers : scheduler.Answers u answer) (some : 0 < u.size) {walk last : Walk σ}
    {count number : Nat} (settled : walk.Settled u answer) {halt : Option Halt}
    (stepped : walk.steps u evaluator scheduler count number = (halt, last)) :
    Plain.steps u answer count number walk.bare = (halt, last.bare) ∧ last.Settled u answer := by
  induction count generalizing walk number with
  | zero =>
    cases stepped
    exact ⟨rfl, settled⟩
  | succ count ih =>
    cases one : walk.step u evaluator scheduler number with
    | mk result next =>
      obtain ⟨plain, kept⟩ := settled.step publishes answers some one
      rw [Walk.steps, one] at stepped
      rw [Plain.steps, plain]
      cases result with
      | error halt =>
        cases stepped
        exact ⟨rfl, kept⟩
      | ok _ => exact ih kept stepped

end Steps

end FlagSearch
