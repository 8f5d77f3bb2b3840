import FlagSearch.Proofs.Draws
import FlagSearch.Proofs.FlagSet.Flips
import FlagSearch.Proofs.Search.Steps

/-!
# The phases of a step

All strategies take a step in three phases: they choose the candidates to try, have them scored, and
move.  Only the second phase turns to the memo and the evaluator, and only the third one records
anything.

* `singleFlips_eq`, `Stage.length_of_tries`, `Stage.nodup_of_tries`, `Stage.tries_error` — the
  candidates are different sets over the universe, and choosing them asks for nothing impossible.
* `Stage.tries`, `Stage.drawn` — the candidates of the next step, and the draws that it takes to
  choose them.
* `Stage.scorer` — who scores them.
* `Stage.moved` — where the step leads.
* `Stage.advance_of_tries_error`, `Stage.advance_of_scorer_error`, `Stage.advance_of_scored` — a step
  is these phases and nothing else.
* `Stage.concluded`, `Stage.advance_of_tries_ok` — the same as an equation, whoever scores.
* `Stage.advance_ok`, `Stage.advance_error` — so these are the ways for a step to end.
-/

namespace FlagSearch

theorem singleFlips_eq {set : FlagSet} (some : 0 < set.length) :
    singleFlips set = .ok set.flips := by
  have fits : ¬(1 = 0 ∨ set.length < 1) := by omega
  have near : neighbours set 1 = .ok ⟨set, 1, [0], false⟩ := by rw [neighbours, if_neg fits]
  simp only [singleFlips, near, Neighbours.toList_single some]

namespace Stage

variable {σ : Type} {u : Universe} {evaluator : Evaluator σ} {scheduler : Scheduler σ}

/-! ## The phases -/

/-- The candidates that the next step tries, or why it tries none. -/
def tries (u : Universe) (stage : Stage σ) : Except Halt (List FlagSet) :=
  match stage.strategy with
  | .hillClimb flips draws =>
      if u.size < flips then .error (.error (flipsError u.size flips))
      else
        match stage.position.current.set.flipAll (draws.sample u.size flips).1 with
        | .error fault => .error (.fault fault)
        | .ok set => .ok [set]
  | .tabu visited =>
      match admissible visited stage.position.current.set with
      | .error halt => .error halt
      | .ok [] => .error (.error (.noAvailableMove stage.bench.step))
      | .ok (first :: rest) => .ok (first :: rest)
  | .sweep done =>
      if done then .error (.error sweptError) else singleFlips stage.position.current.set

def drawn (u : Universe) (stage : Stage σ) : Stage σ :=
  match stage.strategy with
  | .hillClimb flips draws =>
      if u.size < flips then stage
      else { stage with strategy := .hillClimb flips (draws.sample u.size flips).2 }
  | .tabu _ | .sweep _ => stage

def scorer (u : Universe) (evaluator : Evaluator σ) (scheduler : Scheduler σ)
    (stage : Stage σ) : Scheduler σ :=
  match stage.strategy with
  | .hillClimb .. => Bench.requestAll u evaluator
  | .tabu _ | .sweep _ => scheduler

theorem scorer_requestAll (stage : Stage σ) :
    stage.scorer u evaluator (Bench.requestAll u evaluator) = Bench.requestAll u evaluator := by
  unfold scorer
  split <;> rfl

theorem scorer_lawful (stage : Stage σ) (lawful : scheduler.Lawful evaluator) :
    (stage.scorer u evaluator scheduler).Lawful evaluator := by
  unfold scorer
  split
  · exact Bench.requestAll_lawful u evaluator
  · exact lawful
  · exact lawful

/-- Where a strategy moves once its candidates are scored. -/
def destination (strategy : Strategy) (position : Position) (step : Nat) (batch : List Scored) :
    Strategy × Position :=
  match strategy with
  | .hillClimb .. =>
      match batch with
      | [] => (strategy, position)
      | candidate :: _ =>
          (strategy, if candidate.improvesOn position.current then
            { position with current := candidate }.promote step else position)
  | .tabu visited =>
      match batch with
      | [] => (strategy, position)
      | candidate :: others =>
          (.tabu (visited.insert (cheapest candidate others).set).2,
            { position with current := cheapest candidate others }.promote step)
  | .sweep _ =>
      (.sweep true, { position with current := cheapest position.current batch }.promote step)

/-- The stage that a step leads to: the batch is recorded on the bench it was scored on. -/
def moved (stage : Stage σ) (batch : List Scored) (bench : Bench σ) : Stage σ :=
  ⟨(destination stage.strategy stage.position bench.step batch).1,
    (destination stage.strategy stage.position bench.step batch).2, bench.recordAll batch⟩

@[simp] theorem drawn_position (stage : Stage σ) : (stage.drawn u).position = stage.position := by
  unfold drawn
  split
  · split <;> rfl
  · rfl
  · rfl

@[simp] theorem drawn_bench (stage : Stage σ) : (stage.drawn u).bench = stage.bench := by
  unfold drawn
  split
  · split <;> rfl
  · rfl
  · rfl

theorem tries_climb {flips : Nat} {draws : Draws} {position : Position} {bench : Bench σ}
    {sets : List FlagSet} (chosen : tries u ⟨.hillClimb flips draws, position, bench⟩ = .ok sets) :
    ¬u.size < flips ∧ ∃ set,
      position.current.set.flipAll (draws.sample u.size flips).1 = .ok set ∧ sets = [set] := by
  simp only [tries] at chosen
  split at chosen
  · cases chosen
  next few =>
    split at chosen
    · cases chosen
    next set flipped =>
      cases chosen
      exact ⟨few, set, flipped, rfl⟩

theorem tries_roam {visited : TabuList} {position : Position} {bench : Bench σ}
    {sets : List FlagSet} (chosen : tries u ⟨.tabu visited, position, bench⟩ = .ok sets) :
    ∃ first rest, admissible visited position.current.set = .ok (first :: rest) ∧
      sets = first :: rest := by
  simp only [tries] at chosen
  split at chosen
  · cases chosen
  · cases chosen
  next first rest untried =>
    cases chosen
    exact ⟨first, rest, untried, rfl⟩

theorem tries_sweepOnce {done : Bool} {position : Position} {bench : Bench σ}
    {sets : List FlagSet} (chosen : tries u ⟨.sweep done, position, bench⟩ = .ok sets) :
    done = false ∧ singleFlips position.current.set = .ok sets := by
  simp only [tries] at chosen
  split at chosen
  · cases chosen
  next fresh => exact ⟨eq_false_of_ne_true fresh, chosen⟩

theorem tries_cases {stage : Stage σ} {sets : List FlagSet}
    (some : 0 < stage.position.current.set.length) (chosen : stage.tries u = .ok sets) :
    (∃ set, set.length = stage.position.current.set.length ∧ sets = [set]) ∨
      sets.Sublist stage.position.current.set.flips := by
  obtain ⟨strategy, position, bench⟩ := stage
  have listed := singleFlips_eq some
  cases strategy with
  | hillClimb flips draws =>
    obtain ⟨_, set, flipped, rfl⟩ := tries_climb chosen
    exact .inl ⟨set, FlagSet.length_of_flipAll flipped, rfl⟩
  | tabu visited =>
    obtain ⟨first, rest, untried, rfl⟩ := tries_roam chosen
    rw [admissible, listed] at untried
    exact .inr (Except.ok.inj untried ▸ List.filter_sublist)
  | sweep done =>
    have all := (tries_sweepOnce chosen).2
    rw [listed] at all
    exact .inr (Except.ok.inj all ▸ .refl _)

theorem length_of_tries {stage : Stage σ} {sets : List FlagSet} (some : 0 < u.size)
    (length : stage.position.current.set.length = u.size) (chosen : stage.tries u = .ok sets) :
    ∀ set ∈ sets, set.length = u.size := by
  rcases tries_cases (length ▸ some) chosen with ⟨set, same, rfl⟩ | flips
  · simpa [same] using length
  · exact fun set member =>
      (FlagSet.length_of_mem_flips (flips.subset member)).trans length

theorem nodup_of_tries {stage : Stage σ} {sets : List FlagSet}
    (some : 0 < stage.position.current.set.length) (chosen : stage.tries u = .ok sets) :
    sets.Nodup := by
  rcases tries_cases some chosen with ⟨set, _, rfl⟩ | flips
  · exact List.nodup_singleton set
  · exact flips.nodup (FlagSet.nodup_flips _)

theorem tries_error {stage : Stage σ} {halt : Halt} (some : 0 < u.size)
    (length : stage.position.current.set.length = u.size)
    (failed : stage.tries u = .error halt) : ∃ e, halt = .error e := by
  obtain ⟨strategy, position, bench⟩ := stage
  have listed := singleFlips_eq (length ▸ some : 0 < position.current.set.length)
  cases strategy with
  | hillClimb flips draws =>
    simp only [tries] at failed
    split at failed
    · cases failed
      exact ⟨_, rfl⟩
    next few =>
      have inside := Draws.sample_lt (Nat.not_lt.1 few) draws
      obtain ⟨set, flipped⟩ := FlagSet.exists_flipAll fun i drawn => length ▸ inside i drawn
      rw [flipped] at failed
      cases failed
  | tabu visited =>
    simp only [tries, admissible, listed, Except.map] at failed
    split at failed
    next nothing => cases nothing
    · cases failed
      exact ⟨_, rfl⟩
    · cases failed
  | sweep done =>
    simp only [tries, listed] at failed
    split at failed
    · cases failed
      exact ⟨_, rfl⟩
    · cases failed

/-! ## A step is its phases -/

theorem requestAll_singleton (set : FlagSet) (bench : Bench σ) :
    Bench.requestAll u evaluator [set] bench =
      ((bench.request u evaluator set).1.map ([·]), (bench.request u evaluator set).2) := by
  cases scored : bench.request u evaluator set with
  | mk result after =>
    cases result with
    | error halt => rw [Bench.requestAll_cons_of_error scored]; rfl
    | ok candidate => rw [Bench.requestAll_cons_of_ok scored]; rfl

theorem advance_of_tries_error {stage : Stage σ} {halt : Halt}
    (failed : stage.tries u = .error halt) :
    stage.advance u evaluator scheduler = (.error halt, stage.drawn u) := by
  obtain ⟨strategy, position, bench⟩ := stage
  cases strategy with
  | hillClimb flips draws =>
    simp only [tries] at failed
    simp only [advance, climb, drawn]
    split at failed
    next many =>
      cases failed
      simp [many]
    next few =>
      simp only [few, if_false]
      cases flipped : position.current.set.flipAll (draws.sample u.size flips).1 with
      | error fault =>
        rw [flipped] at failed
        cases failed
        rfl
      | ok set =>
        rw [flipped] at failed
        cases failed
  | tabu visited =>
    simp only [tries] at failed
    simp only [advance, roam, drawn]
    cases listed : admissible visited position.current.set with
    | error halt' =>
      rw [listed] at failed
      cases failed
      rfl
    | ok sets =>
      rw [listed] at failed
      cases sets with
      | nil =>
        cases failed
        rfl
      | cons first rest => cases failed
  | sweep done =>
    simp only [tries] at failed
    simp only [advance, sweepOnce, drawn]
    split at failed
    next swept =>
      cases failed
      simp [swept]
    next fresh =>
      simp [fresh, failed]

theorem advance_of_scorer_error {stage : Stage σ} {sets : List FlagSet} {halt : Halt}
    {bench : Bench σ} (chosen : stage.tries u = .ok sets)
    (refused : stage.scorer u evaluator scheduler sets stage.bench = (.error halt, bench)) :
    stage.advance u evaluator scheduler = (.error halt, { stage.drawn u with bench }) := by
  obtain ⟨strategy, position, before⟩ := stage
  cases strategy with
  | hillClimb flips draws =>
    obtain ⟨few, set, flipped, rfl⟩ := tries_climb chosen
    simp only [scorer, requestAll_singleton] at refused
    simp only [advance, climb, drawn, few, if_false, flipped]
    cases scored : before.request u evaluator set with
    | mk result after =>
      rw [scored] at refused
      cases result with
      | error halt' =>
        cases refused
        rfl
      | ok candidate => cases refused
  | tabu visited =>
    obtain ⟨first, rest, untried, rfl⟩ := tries_roam chosen
    simp only [scorer] at refused
    simp only [advance, roam, drawn, untried, refused]
  | sweep done =>
    obtain ⟨rfl, listed⟩ := tries_sweepOnce chosen
    simp only [scorer] at refused
    simp [advance, sweepOnce, drawn, listed, refused]

theorem advance_of_scored {stage : Stage σ} {sets : List FlagSet} {batch : List Scored}
    {bench : Bench σ} (chosen : stage.tries u = .ok sets)
    (scored : stage.scorer u evaluator scheduler sets stage.bench = (.ok batch, bench))
    (whole : batch.map (·.set) = sets) :
    stage.advance u evaluator scheduler = (.ok (), (stage.drawn u).moved batch bench) := by
  obtain ⟨strategy, position, before⟩ := stage
  cases strategy with
  | hillClimb flips draws =>
    obtain ⟨few, set, flipped, rfl⟩ := tries_climb chosen
    simp only [scorer, requestAll_singleton] at scored
    simp only [advance, climb, drawn, few, if_false, flipped]
    cases requested : before.request u evaluator set with
    | mk result after =>
      rw [requested] at scored
      cases result with
      | error halt => cases scored
      | ok candidate =>
        cases scored
        rfl
  | tabu visited =>
    obtain ⟨first, rest, untried, rfl⟩ := tries_roam chosen
    simp only [scorer] at scored
    cases batch with
    | nil => cases whole
    | cons candidate others =>
      simp only [advance, roam, drawn, untried, scored, moved, destination, Bench.recordAll_step]
  | sweep done =>
    obtain ⟨rfl, listed⟩ := tries_sweepOnce chosen
    simp only [scorer] at scored
    simp [advance, sweepOnce, drawn, listed, scored, moved, destination]

def concluded (stage : Stage σ) :
    Except Halt (List Scored) × Bench σ → Except Halt Unit × Stage σ
  | (.error halt, bench) => (.error halt, { stage with bench })
  | (.ok batch, bench) => (.ok (), stage.moved batch bench)

theorem advance_of_tries_ok (lawful : scheduler.Lawful evaluator) {stage : Stage σ}
    {sets : List FlagSet} (chosen : stage.tries u = .ok sets) :
    stage.advance u evaluator scheduler =
      (stage.drawn u).concluded (stage.scorer u evaluator scheduler sets stage.bench) := by
  have lawful := stage.scorer_lawful (u := u) lawful
  cases answer : stage.scorer u evaluator scheduler sets stage.bench with
  | mk result bench =>
    cases result with
    | error halt => exact advance_of_scorer_error chosen answer
    | ok batch => exact advance_of_scored chosen answer (lawful.sets_eq answer)

theorem advance_requestAll {stage : Stage σ} {sets : List FlagSet}
    (chosen : stage.tries u = .ok sets) :
    stage.advance u evaluator (Bench.requestAll u evaluator) =
      (stage.drawn u).concluded (Bench.requestAll u evaluator sets stage.bench) := by
  rw [advance_of_tries_ok (Bench.requestAll_lawful u evaluator) chosen, scorer_requestAll]

theorem advance_ok (lawful : scheduler.Lawful evaluator) {stage after : Stage σ}
    (done : stage.advance u evaluator scheduler = (.ok (), after)) :
    ∃ sets batch bench, stage.tries u = .ok sets ∧
      stage.scorer u evaluator scheduler sets stage.bench = (.ok batch, bench) ∧
      after = (stage.drawn u).moved batch bench := by
  cases chosen : stage.tries u with
  | error halt =>
    rw [advance_of_tries_error chosen] at done
    cases done
  | ok sets =>
    rw [advance_of_tries_ok lawful chosen] at done
    cases answer : stage.scorer u evaluator scheduler sets stage.bench with
    | mk result bench =>
      rw [answer] at done
      cases result with
      | error halt => cases done
      | ok batch =>
        cases done
        exact ⟨sets, batch, bench, rfl, answer, rfl⟩

theorem advance_error (lawful : scheduler.Lawful evaluator) {stage after : Stage σ} {halt : Halt}
    (failed : stage.advance u evaluator scheduler = (.error halt, after)) :
    (stage.tries u = .error halt ∧ after = stage.drawn u) ∨
    ∃ sets bench, stage.tries u = .ok sets ∧
      stage.scorer u evaluator scheduler sets stage.bench = (.error halt, bench) ∧
      after = { stage.drawn u with bench } := by
  cases chosen : stage.tries u with
  | error halt' =>
    rw [advance_of_tries_error chosen] at failed
    cases failed
    exact .inl ⟨rfl, rfl⟩
  | ok sets =>
    rw [advance_of_tries_ok lawful chosen] at failed
    cases answer : stage.scorer u evaluator scheduler sets stage.bench with
    | mk result bench =>
      rw [answer] at failed
      cases result with
      | ok batch => cases failed
      | error halt' =>
        cases failed
        exact .inr ⟨sets, bench, rfl, answer, rfl⟩

end Stage

end FlagSearch
