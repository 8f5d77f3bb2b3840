import FlagSearch.Proofs.Search.Published
import FlagSearch.Proofs.Tabu.Trail

/-!
# Tabu search as a walk over the sets

For an evaluator that is a function of the flags, all the machinery of a run — the listing of the
neighbours, the tabu list with its evictions, the memo, the scheduler, the fold over a batch —
comes down to a walk over the sets that looks back at the sets visited last and at nothing else.

* `TabuWalk` — that walk, with the candidates of each step.
* `TabuWalk.unique` — the walk is determined by its length.
* `tabu_run_follows_walk` — a run follows it to the end, provided that its trajectory fits.
-/

namespace FlagSearch

/-! ## The walk -/

/-- `TabuWalk capacity cost start visited tried`: a walk from `start` that visited the given sets,
latest first, by moving each time to the first cheapest of the single flips that are not among the
`capacity` sets visited last.  `tried` lists these candidates in order, each under the number of its
step. -/
inductive TabuWalk (capacity : Nat) (cost : FlagSet → Binary64) (start : FlagSet) :
    List FlagSet → List (Nat × FlagSet) → Prop where
  | start : TabuWalk capacity cost start [start] []
  | move {visited : List FlagSet} {tried : List (Nat × FlagSet)} {next : FlagSet}
      (before : TabuWalk capacity cost start visited tried)
      (chosen : FirstCheapest cost (openMoves capacity visited) next) :
      TabuWalk capacity cost start (next :: visited)
        (tried ++ (openMoves capacity visited).map fun set => (visited.length, set))

theorem TabuWalk.unique {capacity : Nat} {cost : FlagSet → Binary64} {start : FlagSet}
    {visited visited' : List FlagSet} {tried tried' : List (Nat × FlagSet)}
    (walk : TabuWalk capacity cost start visited tried)
    (walk' : TabuWalk capacity cost start visited' tried')
    (length : visited.length = visited'.length) : visited = visited' ∧ tried = tried' := by
  induction walk generalizing visited' tried' with
  | start =>
    cases walk' with
    | start => exact ⟨rfl, rfl⟩
    | move before chosen =>
      cases before <;> simp at length
  | move before chosen ih =>
    cases walk' with
    | start => cases before <;> simp at length
    | move before' chosen' =>
      obtain ⟨rfl, rfl⟩ := ih before' (by simpa using length)
      rw [chosen.unique chosen']
      exact ⟨rfl, rfl⟩

/-! ## Following the walk -/

section Following

variable {σ : Type} {u : Universe} {evaluator : Evaluator σ} {answer : List String → Outcome}
  {capacity : Nat} {start : FlagSet} {visited : List FlagSet} {tried : List (Nat × FlagSet)}

def Universe.cost (u : Universe) (answer : List String → Outcome) (set : FlagSet) : Binary64 :=
  (answer (u.select set)).cost

/-- The entry of a log without its mark of the memo. -/
def Entry.recorded (entry : Entry) : Nat × FlagSet × List String × Outcome :=
  (entry.step, entry.set, entry.flags, entry.outcome)

def Universe.expected (u : Universe) (answer : List String → Outcome) :
    Nat × FlagSet → Nat × FlagSet × List String × Outcome
  | (step, set) => (step, set, u.select set, answer (u.select set))

/-- The walk of a run stands where a walk over the sets does, and has recorded its candidates. -/
structure Walk.Shows (u : Universe) (answer : List String → Outcome) (capacity : Nat)
    (start : FlagSet) (visited : List FlagSet) (tried : List (Nat × FlagSet)) (walk : Walk σ) :
    Prop where
  reference : TabuWalk capacity (u.cost answer) start visited tried
  stands : visited.head? = some walk.stage.position.current.set
  log_eq : walk.stage.bench.log.toList.map Entry.recorded = tried.map (u.expected answer)

/-- What carries the next step: the tabu list holds the sets visited last, and the memo agrees with
the function. -/
structure Walk.Follows (u : Universe) (answer : List String → Outcome) (capacity : Nat)
    (start : FlagSet) (visited : List FlagSet) (tried : List (Nat × FlagSet)) (walk : Walk σ) :
    Prop extends walk.Shows u answer capacity start visited tried where
  trails : walk.stage.Trails capacity u.size visited
  settled : walk.stage.bench.Settled u fun flags => .ok (answer flags)

theorem Stage.Completes.published (publishes : evaluator.Publishes fun flags => .ok (answer flags))
    (some : 0 < u.size) {before after : Stage σ} {batch : List Scored}
    (trails : before.Trails capacity u.size visited)
    (settled : before.bench.Settled u fun flags => .ok (answer flags))
    (completes : Completes u evaluator (Bench.requestAll u evaluator) before batch after) :
    after.bench.Settled u (fun flags => .ok (answer flags)) ∧
      ∀ candidate ∈ batch, candidate.flags = u.select candidate.set ∧
        candidate.outcome = answer candidate.flags := by
  obtain ⟨list, tabu, _⟩ := trails.memory
  cases completes with
  | climb flipped scored => cases tabu
  | sweep listed scored => cases tabu
  | @roam _ position bench between sets candidate others untried scored =>
    cases tabu
    cases untried.symm.trans (trails.admissible_eq some rfl)
    obtain ⟨settled, outcomes⟩ := Bench.requestAll_published publishes
      (fun set member => trails.length_of_mem member) settled scored
    refine ⟨⟨?_, ?_⟩, ?_⟩
    · rw [Bench.recordAll_cancelled]
      exact settled.running
    · rw [Bench.recordAll_memo]
      exact settled.agrees
    · intro candidate member
      obtain ⟨flags, outcome⟩ := outcomes candidate member
      exact ⟨flags, (Except.ok.inj outcome).symm⟩

theorem Walk.Follows.settled_entering {walk : Walk σ} (number : Nat)
    (follows : walk.Follows u answer capacity start visited tried) :
    (walk.entering number).bench.Settled u fun flags => .ok (answer flags) :=
  ⟨follows.settled.running, follows.settled.agrees⟩

theorem Walk.Follows.step (publishes : evaluator.Publishes fun flags => .ok (answer flags))
    (some : 0 < u.size) {walk next : Walk σ}
    (follows : walk.Follows u answer capacity start visited tried)
    (done : walk.step u evaluator (Bench.requestAll u evaluator) visited.length = (.ok (), next)) :
    next.Follows u answer capacity start (next.stage.position.current.set :: visited)
      (tried ++ (openMoves capacity visited).map fun set => (visited.length, set)) := by
  have lawful := Bench.requestAll_lawful u evaluator
  obtain ⟨batch, completes, _⟩ := step_ok done
  obtain ⟨_, trails, sets, first⟩ := completes.trails lawful some follows.trails.entering
  have log := completes.log_eq lawful.toKeepsLog
  obtain ⟨settled, outcomes⟩ := completes.published publishes some follows.trails.entering
    (follows.settled_entering _)
  refine ⟨⟨.move follows.reference ?_, rfl, ?_⟩, trails, settled⟩
  · rw [← sets]
    refine first.map (·.set) ?_
    intro candidate member
    obtain ⟨flags, outcome⟩ := outcomes candidate member
    rw [Universe.cost, ← flags, ← outcome]
    rfl
  · rw [log, List.map_append, List.map_append, ← sets]
    congr 1
    · exact follows.log_eq
    · rw [List.map_map, List.map_map, List.map_map]
      refine List.map_congr_left ?_
      intro candidate member
      obtain ⟨flags, outcome⟩ := outcomes candidate member
      simp [Entry.recorded, Universe.expected, Scored.entry, Walk.entering, ← flags, outcome]

theorem Walk.Reached.follows (publishes : evaluator.Publishes fun flags => .ok (answer flags))
    (some : 0 < u.size) {first walk : Walk σ} {n : Nat}
    (reached : Reached u evaluator (Bench.requestAll u evaluator) first n walk)
    (begins : first.Follows u answer capacity start [start] []) :
    ∃ visited tried, visited.length = n + 1 ∧
      walk.Follows u answer capacity start visited tried := by
  induction reached with
  | start => exact ⟨[start], [], rfl, begins⟩
  | step before done ih =>
    obtain ⟨visited, tried, length, follows⟩ := ih
    rw [← length] at done
    exact ⟨_, _, by rw [List.length_cons, length], follows.step publishes some done⟩

theorem Walk.Follows.step_error (publishes : evaluator.Publishes fun flags => .ok (answer flags))
    (some : 0 < u.size) {walk last : Walk σ} {halt : Halt}
    (follows : walk.Follows u answer capacity start visited tried)
    (failed : walk.step u evaluator (Bench.requestAll u evaluator) visited.length =
      (.error halt, last)) :
    openMoves capacity visited = [] ∧ halt = .error (.noAvailableMove visited.length) ∧
      last.Shows u answer capacity start visited tried := by
  have lawful := Bench.requestAll_lawful u evaluator
  have advanced := (Walk.step_error failed).1
  rcases follows.trails.entering.error_cases lawful some advanced with ⟨closed, number⟩ |
    ⟨bench, refused⟩
  · have unmoved := Stage.unmoved_of_advance lawful.toKeepsLog advanced
    refine ⟨closed, number, follows.reference, ?_, ?_⟩
    · rw [unmoved.position_eq]
      exact follows.stands
    · rw [unmoved.log_eq]
      exact follows.log_eq
  · obtain ⟨set, _, e, answered, _⟩ := Bench.requestAll_stops publishes
      (fun set member => follows.trails.length_of_mem member)
      (follows.settled_entering _) refused
    cases answered

theorem TabuWalk.length_le {cost : FlagSet → Binary64} {visited' : List FlagSet}
    {tried' : List (Nat × FlagSet)} (walk : TabuWalk capacity cost start visited tried)
    (closed : openMoves capacity visited = [])
    (other : TabuWalk capacity cost start visited' tried') : visited'.length ≤ visited.length := by
  induction other with
  | start => cases walk <;> simp
  | @move visited' tried' next before chosen ih =>
    rcases Nat.lt_or_eq_of_le ih with shorter | same
    · exact shorter
    · obtain ⟨rfl, _⟩ := before.unique walk same
      rw [closed] at chosen
      cases chosen.mem

/-! ## Whole runs -/

theorem Course.follows_start (publishes : evaluator.Publishes fun flags => .ok (answer flags))
    {settings : Settings} {entropy : UInt64} {world : σ}
    (course : Course settings u evaluator (Bench.requestAll u evaluator) entropy world)
    (tabu : settings.strategy = .tabu) :
    course.start.Follows u answer settings.tabuCapacity (settings.initial.getD u.emptySet)
      [settings.initial.getD u.emptySet] [] := by
  have accepted := Settings.accepted_of_validate course.valid
  have set : course.start.stage.position.current.set = settings.initial.getD u.emptySet :=
    (Bench.request_ok course.scored).1
  have frame := Bench.request_frame u evaluator (settings.initial.getD u.emptySet)
    (Bench.ofWorld world course.memo)
  rw [course.scored] at frame
  obtain ⟨settled, _⟩ := Bench.request_published publishes
    ⟨rfl, Memo.agrees_of_ofCapacity course.sized⟩ accepted.length_start course.scored
  refine ⟨⟨.start, congrArg some set.symm, ?_⟩, set ▸ course.trails_start tabu, settled⟩
  change course.bench.log.toList.map Entry.recorded = _
  rw [frame.1]
  rfl

theorem Course.shows (publishes : evaluator.Publishes fun flags => .ok (answer flags))
    {settings : Settings} {entropy : UInt64} {world : σ}
    (course : Course settings u evaluator (Bench.requestAll u evaluator) entropy world)
    (tabu : settings.strategy = .tabu) :
    ∃ visited tried, visited.length = course.completed + 1 ∧
      course.walk.Shows u answer settings.tabuCapacity (settings.initial.getD u.emptySet)
        visited tried ∧
      (course.halt = none ∧ course.completed = settings.iterations ∨
        course.halt = some (.error (.noAvailableMove (course.completed + 1))) ∧
          course.completed < settings.iterations ∧
          openMoves settings.tabuCapacity visited = []) := by
  have accepted := Settings.accepted_of_validate course.valid
  have begins := course.follows_start publishes tabu
  rcases course.cases with ⟨none, completed, reached⟩ |
    ⟨before, stop, inside, reached, failed, halted⟩
  · obtain ⟨visited, tried, length, follows⟩ :=
      reached.follows publishes accepted.flags_pos begins
    exact ⟨visited, tried, length, follows.toShows, .inl ⟨none, completed⟩⟩
  · obtain ⟨visited, tried, length, follows⟩ :=
      reached.follows publishes accepted.flags_pos begins
    rw [← length] at failed
    obtain ⟨closed, rfl, shows⟩ := follows.step_error publishes accepted.flags_pos failed
    exact ⟨visited, tried, length, shows, .inr ⟨length ▸ halted, inside, closed⟩⟩

end Following

theorem run_noAvailableMove_of_closed {σ : Type} {settings : Settings} {u : Universe}
    {evaluator : Evaluator σ} {answer : List String → Outcome}
    (publishes : evaluator.Publishes fun flags => .ok (answer flags))
    (tabu : settings.strategy = .tabu) (valid : settings.validate u.size = .ok ())
    (room : settings.iterations * trajectorySlot ≤ maxBlock) {visited : List FlagSet}
    {tried : List (Nat × FlagSet)}
    (walk : TabuWalk settings.tabuCapacity (u.cost answer) (settings.initial.getD u.emptySet)
      visited tried)
    (closed : openMoves settings.tabuCapacity visited = [])
    (budget : visited.length ≤ settings.iterations) (entropy : UInt64) (world : σ) :
    ∃ seen, (run settings u evaluator entropy world).1 =
      .aborted (.noAvailableMove visited.length) seen := by
  have nonempty : Nonempty (Course settings u evaluator (Bench.requestAll u evaluator) entropy
      world) := exists_course_of_scored valid (scored_of_publishes publishes valid world) room
  obtain ⟨course⟩ := nonempty
  obtain ⟨visited', tried', length, shown, ended⟩ := course.shows publishes tabu
  have shorter := walk.length_le closed shown.reference
  rw [run, course.runWith_eq]
  rcases ended with ⟨_, completed⟩ | ⟨halted, _, closed'⟩
  · omega
  · have longer := shown.reference.length_le closed' walk
    have same : course.completed + 1 = visited.length := by omega
    rw [halted, same]
    exact ⟨_, rfl⟩

/-- With an evaluator that is a function of the flags, a tabu run with room for its trajectory is
the walk over the sets.  At each step it stands where that walk does and has recorded exactly the
candidates of that walk, in order; it ends with its budget, or at the first step without an open
move and with the error that says so.  Without the room, it is abandoned before the first step. -/
theorem tabu_run_follows_walk {σ : Type} {settings : Settings} {u : Universe}
    {evaluator : Evaluator σ} {answer : List String → Outcome}
    (publishes : evaluator.Publishes fun flags => .ok (answer flags))
    (tabu : settings.strategy = .tabu) (valid : settings.validate u.size = .ok ())
    (entropy : UInt64) (world : σ) :
    (settings.iterations * trajectorySlot ≤ maxBlock →
      ∃ course : Course settings u evaluator (Bench.requestAll u evaluator) entropy world,
        (∀ n ≤ course.completed, ∃ walk visited tried,
          Walk.Reached u evaluator (Bench.requestAll u evaluator) course.start n walk ∧
          visited.length = n + 1 ∧ walk.Shows u answer settings.tabuCapacity
            (settings.initial.getD u.emptySet) visited tried) ∧
        ∃ visited tried, visited.length = course.completed + 1 ∧
          course.walk.Shows u answer settings.tabuCapacity (settings.initial.getD u.emptySet)
            visited tried ∧
          (course.completed = settings.iterations ∧
              (run settings u evaluator entropy world).1 =
                .complete (course.walk.report evaluator settings course.baseline none) ∨
            course.completed < settings.iterations ∧
              openMoves settings.tabuCapacity visited = [] ∧
              (run settings u evaluator entropy world).1 =
                .aborted (.noAvailableMove (course.completed + 1))
                  (some (course.walk.report evaluator settings course.baseline
                    (some (.noAvailableMove (course.completed + 1))))))) ∧
    (maxBlock < settings.iterations * trajectorySlot →
      (run settings u evaluator entropy world).1 = .fault .capacityOverflow) := by
  have accepted := Settings.accepted_of_validate valid
  have scored := scored_of_publishes publishes valid world
  refine ⟨fun room => ?_, runWith_of_no_room valid scored⟩
  have nonempty : Nonempty (Course settings u evaluator (Bench.requestAll u evaluator) entropy
      world) := exists_course_of_scored valid scored room
  obtain ⟨course⟩ := nonempty
  obtain ⟨visited, tried, length, shown, ended⟩ := course.shows publishes tabu
  refine ⟨course, ?_, visited, tried, length, shown, ?_⟩
  · intro n inside
    have passed : ∃ walk, Walk.Reached u evaluator (Bench.requestAll u evaluator) course.start n
        walk := by
      rcases course.cases with ⟨_, _, reached⟩ | ⟨before, _, _, reached, _⟩
      · exact reached.passed inside
      · exact reached.passed inside
    obtain ⟨walk, reached⟩ := passed
    obtain ⟨visited, tried, length, follows⟩ :=
      reached.follows publishes accepted.flags_pos (course.follows_start publishes tabu)
    exact ⟨walk, visited, tried, reached, length, follows.toShows⟩
  · rw [run, course.runWith_eq]
    rcases ended with ⟨none, completed⟩ | ⟨halted, early, closed⟩
    · rw [none]
      exact .inl ⟨completed, rfl⟩
    · rw [halted]
      exact .inr ⟨early, closed, rfl⟩

/-- A flag that is alone crashes the artifact; otherwise fewer flags are faster. -/
def lonely (flags : List String) : Reply :=
  if flags.length = 1 then .panic "out of memory"
  else .outcome (.success (.ofPattern flags.length) none [])

def lonelyOutcome (flags : List String) : Outcome :=
  if flags.length = 1 then .runtimeError else .success (.ofPattern flags.length) none []

theorem lonely_publishes :
    (Evaluator.ofFunction "closure" lonely).Publishes fun flags => .ok (lonelyOutcome flags) where
  steady _ := rfl
  published_eq flags _ := by
    by_cases alone : flags.length = 1
    · simp [Evaluator.ofFunction, lonely, lonelyOutcome, alone, Reply.published]
    · simp [Evaluator.ofFunction, lonely, lonelyOutcome, alone, Reply.published]

/-- Steps of a tabu search that remembers two sets. -/
def forgetful (iterations : Nat) : Settings :=
  { Settings.tabu with iterations, tabuCapacity := 2 }

theorem tabu_run_follows_walk_lonely :
    ∃ (course : Course (forgetful 4) flagPair (.ofFunction "closure" lonely)
        (Bench.requestAll flagPair (.ofFunction "closure" lonely)) 0 []) (visited : List FlagSet)
        (tried : List (Nat × FlagSet)),
      visited.length = course.completed + 1 ∧
        course.walk.Shows flagPair lonelyOutcome 2 flagPair.emptySet visited tried := by
  have tabu : (forgetful 4).strategy = .tabu := rfl
  have valid : (forgetful 4).validate flagPair.size = .ok () := by decide
  have room : (forgetful 4).iterations * trajectorySlot ≤ maxBlock := by decide
  obtain ⟨course, _, visited, tried, length, shown, _⟩ :=
    (tabu_run_follows_walk lonely_publishes tabu valid 0 []).1 room
  exact ⟨course, visited, tried, length, shown⟩

def flagAlone : Universe := ⟨none, none, ["-a"]⟩

theorem TabuWalk.flagAlone (cost : FlagSet → Binary64) :
    TabuWalk 2 cost flagAlone.emptySet [flagAlone.emptySet.toggle 0, flagAlone.emptySet]
        [(1, flagAlone.emptySet.toggle 0)] ∧
      openMoves 2 [flagAlone.emptySet.toggle 0, flagAlone.emptySet] = [] :=
  ⟨.move .start (.singleton cost _), by decide⟩

/-- The walk over one flag is stuck at its second step, but a run whose budget is too large for
memory does not get to report that. -/
theorem tabu_run_without_room :
    (∃ visited tried,
      TabuWalk 2 (flagAlone.cost lonelyOutcome) flagAlone.emptySet visited tried ∧
        visited.length = 2 ∧ openMoves 2 visited = []) ∧
      (run (forgetful (Nat.pow 2 59)) flagAlone (.ofFunction "closure" lonely) 0 []).1 =
        .fault .capacityOverflow ∧
      ∀ seen, (run (forgetful (Nat.pow 2 59)) flagAlone (.ofFunction "closure" lonely) 0 []).1 ≠
        .aborted (.noAvailableMove 2) seen := by
  have faulted : (run (forgetful (Nat.pow 2 59)) flagAlone (.ofFunction "closure" lonely) 0 []).1 =
      .fault .capacityOverflow := by decide
  obtain ⟨walk, closed⟩ := TabuWalk.flagAlone (FlagSearch.flagAlone.cost lonelyOutcome)
  refine ⟨⟨_, _, walk, rfl, closed⟩, faulted, ?_⟩
  intro seen reported
  rw [faulted] at reported
  cases reported

end FlagSearch
