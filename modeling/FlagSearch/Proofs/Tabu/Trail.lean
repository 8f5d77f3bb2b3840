import FlagSearch.Proofs.Search.Accepted
import FlagSearch.Proofs.Search.Best
import FlagSearch.Proofs.Search.Phases
import FlagSearch.Proofs.Tabu.Memory

/-!
# The trail of a tabu search

Whatever the evaluator answers, a tabu search moves by single flips and never to a set that it
still remembers.  A *trail* is a list of sets visited in this way, latest first; the tabu list is a
function of it.

* `openMoves` — the moves that a search has after a trail.
* `Trail` — the lists of sets that a search can visit.
* `Stage.Trails` — a stage of a tabu search with the sets it has visited.
* `Stage.Trails.tries_cases` — the candidates of a step are the open moves.
* `Stage.Completes.trails`, `Stage.Trails.error_cases` — what a step makes of the trail, and why it
  fails.
-/

namespace FlagSearch

/-- The moves open to a search that visited the given sets, latest first, and remembers `capacity`
of them: the single flips of where it stands, in order, without those it remembers. -/
def openMoves (capacity : Nat) : List FlagSet → List FlagSet
  | [] => []
  | current :: earlier =>
      current.flips.filter fun set => set ∉ (current :: earlier).take capacity

/-- The sets that a tabu search can visit, latest first. -/
inductive Trail (capacity : Nat) : List FlagSet → Prop where
  | start (set : FlagSet) : Trail capacity [set]
  | move {visited : List FlagSet} {next : FlagSet} (before : Trail capacity visited)
      (untried : next ∈ openMoves capacity visited) : Trail capacity (next :: visited)

section Moves

variable {capacity : Nat} {current next : FlagSet} {visited earlier : List FlagSet}

theorem mem_openMoves : next ∈ openMoves capacity (current :: earlier) ↔
    next ∈ current.flips ∧ next ∉ (current :: earlier).take capacity := by
  simp [openMoves]

theorem not_mem_of_mem_openMoves (untried : next ∈ openMoves capacity visited) :
    next ∉ visited.take capacity := by
  cases visited with
  | nil => simp
  | cons current earlier => exact (mem_openMoves.1 untried).2

theorem admissible_eq {list : TabuList} (some : 0 < current.length)
    (remembers : list.Remembers capacity (current :: earlier)) :
    admissible list current = .ok (openMoves capacity (current :: earlier)) := by
  rw [admissible, singleFlips_eq some]
  refine congrArg Except.ok (List.filter_congr ?_)
  intro set _
  by_cases known : list.contains set = true
  · simp [known, (remembers.contains_iff set).1 known]
  · simp [known, mt (remembers.contains_iff set).2 known]

end Moves

namespace Trail

variable {capacity : Nat} {current : FlagSet} {visited earlier : List FlagSet}

theorem isChain_flips (trail : Trail capacity visited) :
    visited.IsChain fun later earlier => later ∈ earlier.flips := by
  induction trail with
  | start set => exact .singleton set
  | @move visited next before untried ih =>
    cases visited with
    | nil => cases untried
    | cons current earlier => exact .cons_cons (mem_openMoves.1 untried).1 ih

theorem parity_chain (trail : Trail capacity visited) :
    visited.IsChain fun later earlier => later.parity = !earlier.parity :=
  trail.isChain_flips.imp fun _ _ => FlagSet.parity_of_mem_flips

theorem nodup_take (trail : Trail capacity visited) : (visited.take capacity).Nodup := by
  induction trail with
  | start set => exact (List.nodup_singleton set).sublist (List.take_sublist _ _)
  | @move visited next before untried ih =>
    cases capacity with
    | zero => exact List.nodup_nil
    | succ less =>
      have new := not_mem_of_mem_openMoves untried
      rw [List.take_succ_cons]
      -- The window is one set longer at the front and one shorter at the end.
      refine List.nodup_cons.2 ⟨?_, ih.sublist (List.take_sublist_take_left (by omega))⟩
      exact fun known => new ((List.take_sublist_take_left (by omega)).subset known)

end Trail

/-! ## Stages of a tabu search -/

namespace Stage

variable {σ : Type} {u : Universe} {evaluator : Evaluator σ} {scheduler : Scheduler σ}
  {capacity flags : Nat} {visited : List FlagSet} {before after : Stage σ} {batch : List Scored}

/-- A stage of a tabu search that has visited the given sets and stands at the latest. -/
structure Trails (capacity flags : Nat) (visited : List FlagSet) (stage : Stage σ) : Prop where
  memory : ∃ list, stage.strategy = .tabu list ∧ list.Remembers capacity visited
  trail : Trail capacity visited
  stands : ∃ earlier, visited = stage.position.current.set :: earlier
  length_eq : stage.position.current.set.length = flags

theorem Trails.admissible_eq (trails : before.Trails capacity flags visited) (some : 0 < flags)
    {list : TabuList} (tabu : before.strategy = .tabu list) :
    admissible list before.position.current.set = .ok (openMoves capacity visited) := by
  obtain ⟨list', tabu', remembers⟩ := trails.memory
  obtain ⟨earlier, rfl⟩ := trails.stands
  cases tabu.symm.trans tabu'
  exact FlagSearch.admissible_eq (trails.length_eq ▸ some) remembers

theorem Trails.length_of_mem (trails : before.Trails capacity flags visited) {set : FlagSet}
    (move : set ∈ openMoves capacity visited) : set.length = flags := by
  obtain ⟨earlier, rfl⟩ := trails.stands
  exact (FlagSet.length_of_mem_flips (mem_openMoves.1 move).1).trans trails.length_eq

/-- The set that a completed step moves to is one of the open moves, and the first cheapest of the
candidates, which are all the open moves. -/
theorem Completes.trails (lawful : scheduler.Lawful evaluator) (some : 0 < flags)
    (trails : before.Trails capacity flags visited)
    (completes : Completes u evaluator scheduler before batch after) :
    after.position.current.set ∈ openMoves capacity visited ∧
      after.Trails capacity flags (after.position.current.set :: visited) ∧
      batch.map (·.set) = openMoves capacity visited ∧
      FirstCheapest Scored.cost batch after.position.current := by
  obtain ⟨list, tabu, remembers⟩ := trails.memory
  cases completes with
  | climb flipped scored => cases tabu
  | sweep listed scored => cases tabu
  | @roam visited' position bench between sets candidate others untried scored =>
    cases tabu
    cases untried.symm.trans (trails.admissible_eq some rfl)
    have sets := lawful.sets_eq scored
    have first := cheapest_firstCheapest candidate others
    have move : (cheapest candidate others).set ∈ openMoves capacity visited :=
      sets ▸ List.mem_map_of_mem first.mem
    rw [Position.promote_current]
    have remembers := remembers.insert (not_mem_of_mem_openMoves move)
    refine ⟨move, ⟨⟨_, rfl, remembers⟩, .move trails.trail move, ?_, ?_⟩, sets, first⟩
    · rw [Position.promote_current]
      exact ⟨visited, rfl⟩
    · rw [Position.promote_current]
      exact trails.length_of_mem move

theorem Trails.tries_cases (u : Universe) (some : 0 < flags)
    (trails : before.Trails capacity flags visited) :
    (openMoves capacity visited = [] ∧
      before.tries u = .error (.error (.noAvailableMove before.bench.step))) ∨
    before.tries u = .ok (openMoves capacity visited) := by
  obtain ⟨list, tabu, _⟩ := trails.memory
  simp only [tries, tabu, trails.admissible_eq some tabu]
  cases openMoves capacity visited with
  | nil => exact .inl ⟨rfl, rfl⟩
  | cons first rest => exact .inr rfl

theorem Trails.eq_of_tries (some : 0 < flags) (trails : before.Trails capacity flags visited)
    {sets : List FlagSet} (chosen : before.tries u = .ok sets) : sets = openMoves capacity visited := by
  rcases trails.tries_cases u some with ⟨_, nowhere⟩ | moves
  · cases nowhere.symm.trans chosen
  · exact Except.ok.inj (chosen.symm.trans moves)

theorem Trails.scorer_eq (trails : before.Trails capacity flags visited) :
    before.scorer u evaluator scheduler = scheduler := by
  obtain ⟨list, tabu, _⟩ := trails.memory
  rw [scorer, tabu]

theorem Trails.error_cases (lawful : scheduler.Lawful evaluator) (some : 0 < flags)
    (trails : before.Trails capacity flags visited) {halt : Halt}
    (failed : before.advance u evaluator scheduler = (.error halt, after)) :
    (openMoves capacity visited = [] ∧ halt = .error (.noAvailableMove before.bench.step)) ∨
      ∃ bench, scheduler (openMoves capacity visited) before.bench = (.error halt, bench) := by
  rcases advance_error lawful failed with ⟨nowhere, _⟩ | ⟨sets, bench, chosen, refused, _⟩
  · rcases trails.tries_cases u some with ⟨closed, stuck⟩ | moves
    · cases nowhere.symm.trans stuck
      exact .inl ⟨closed, rfl⟩
    · cases nowhere.symm.trans moves
  · obtain rfl := trails.eq_of_tries some chosen
    rw [trails.scorer_eq] at refused
    exact .inr ⟨bench, refused⟩

theorem Trails.entering {walk : Walk σ} {number : Nat}
    (trails : walk.stage.Trails capacity flags visited) :
    (walk.entering number).Trails capacity flags visited :=
  ⟨trails.memory, trails.trail, trails.stands, trails.length_eq⟩

end Stage

/-! ## Whole runs -/

section Runs

variable {σ : Type} {u : Universe} {evaluator : Evaluator σ} {scheduler : Scheduler σ}
  {capacity flags : Nat}

theorem Walk.Reached.trails (lawful : scheduler.Lawful evaluator) (some : 0 < flags)
    {start walk : Walk σ} {n : Nat} (reached : Reached u evaluator scheduler start n walk)
    (begins : start.stage.Trails capacity flags [start.stage.position.current.set]) :
    ∃ visited, visited.length = n + 1 ∧ walk.stage.Trails capacity flags visited := by
  induction reached with
  | start => exact ⟨_, rfl, begins⟩
  | step before done ih =>
    obtain ⟨visited, length, trails⟩ := ih
    obtain ⟨batch, completes, _⟩ := step_ok done
    obtain ⟨_, trails, _⟩ := completes.trails lawful some trails.entering
    exact ⟨_, by rw [List.length_cons, length], trails⟩

theorem Course.trails_start {settings : Settings} {entropy : UInt64} {world : σ}
    (course : Course settings u evaluator scheduler entropy world)
    (tabu : settings.strategy = .tabu) :
    course.start.stage.Trails settings.tabuCapacity u.size
      [course.start.stage.position.current.set] := by
  have chosen := course.chosen
  rw [tabu] at chosen
  have strategy : course.strategy = .tabu (.ofCapacity settings.tabuCapacity) :=
    (Except.ok.inj chosen).symm
  have set := (Bench.request_ok course.scored).1
  have fresh : course.baseline.set ∉ ([] : List FlagSet).take settings.tabuCapacity := by simp
  refine ⟨⟨_, ?_, (TabuList.remembers_ofCapacity settings.tabuCapacity).insert fresh⟩, .start _,
    ⟨[], rfl⟩, ?_⟩
  · simp only [start, Walk.ofStage, strategy]
    rfl
  · change course.baseline.set.length = u.size
    rw [set]
    exact (Settings.accepted_of_validate course.valid).length_start

end Runs

end FlagSearch
