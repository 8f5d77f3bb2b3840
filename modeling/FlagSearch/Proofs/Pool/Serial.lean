import FlagSearch.Proofs.Pool.Basic

/-!
# One candidate after the other

Workers may find any order, and one of them is that of the batch: each candidate is taken up when
the one before it has come out.  So the scheduler of the search, which keeps to that order, does what
a pool of any width may do.

* `Pool.Serial` — a pool between two candidates that keeps to the order of the batch.
* `Bench.requestAll_pooled` — scoring one candidate after the other is a way of a pool.
* `Scheduler.Pooled.exists_of_finished` — every other way of a pool is that of a scheduler, too.
-/

namespace FlagSearch

namespace Pool

variable {σ : Type} {width : Nat} {u : Universe} {evaluator : Evaluator σ} {batch : List FlagSet}
  {start pool : Pool σ} {n : Nat} {bench : Bench σ} {earlier : List Scored} {set : FlagSet}

/-- The candidates so far came out scored, and nobody has taken up the next one. -/
structure Serial (u : Universe) (earlier : List Scored) (pool : Pool σ) : Prop where
  admitted_eq : pool.admitted = []
  refused_eq : pool.refused = []
  places_eq : pool.places = List.range earlier.length
  length_eq : pool.traffic.callers.length = earlier.length
  out : ∀ caller ∈ pool.traffic.callers, caller.ending.isSome
  grounded : pool.traffic.shared.inFlight = []
  found : ∀ {place : Nat} {candidate}, earlier[place]? = some candidate →
    pool.Found u place candidate

theorem serial_ofBench (u : Universe) (bench : Bench σ) : (ofBench bench).Serial u [] where
  admitted_eq := rfl
  refused_eq := rfl
  places_eq := rfl
  length_eq := rfl
  out := by simp [ofBench, Traffic.quiet]
  grounded := rfl
  found at_ := by simp at at_

theorem Serial.free (serial : pool.Serial u earlier) : pool.busy = 0 :=
  busy_eq_zero serial.admitted_eq serial.out

theorem Serial.fresh (serial : pool.Serial u earlier) : earlier.length ∉ pool.taken := by
  simp [taken, serial.admitted_eq, serial.refused_eq, serial.places_eq]

theorem Serial.snoc (serial : pool.Serial u earlier) {candidate : Scored} {role : Role}
    {shared : Shared FlagSet} (resolved : u.resolve candidate.set = .ok candidate.flags)
    (grounded : shared.inFlight = []) (world : σ) (cancelled : Bool) :
    Serial u (earlier ++ [candidate]) ⟨world, cancelled, ⟨shared, pool.traffic.callers ++
      [⟨candidate.set, role, some (.found ⟨candidate.outcome, candidate.cached⟩)⟩]⟩, [],
        pool.places ++ [earlier.length], []⟩ where
  admitted_eq := rfl
  refused_eq := rfl
  places_eq := by
    rw [serial.places_eq, List.length_append, List.length_singleton, List.range_succ]
  length_eq := by
    rw [List.length_append, List.length_append, serial.length_eq]
    rfl
  out := List.forall_mem_append.2 ⟨serial.out, List.forall_mem_singleton.2 rfl⟩
  grounded := grounded
  found {place other} at_ := by
    rcases Nat.lt_or_ge place earlier.length with before | after
    · rw [List.getElem?_append_left before] at at_
      obtain ⟨i, role', called, came, resolved'⟩ := serial.found at_
      refine ⟨i, role', ?_, Traffic.getElem?_append_of_some came, resolved'⟩
      rw [List.getElem?_append_left (List.getElem?_eq_some_iff.1 called).1, called]
    · rw [List.getElem?_append_right after] at at_
      have last : place = earlier.length := by
        have inside := (List.getElem?_eq_some_iff.1 at_).1
        rw [List.length_singleton] at inside
        omega
      subst last
      rw [Nat.sub_self] at at_
      cases at_
      refine ⟨earlier.length, role, ?_, ?_, resolved⟩
      · rw [serial.places_eq, List.getElem?_append_right (by simp)]
        simp
      · rw [← serial.length_eq]
        exact List.getElem?_concat_length

theorem Serial.refuse (wide : 0 < width) (serial : pool.Serial u earlier)
    (reached : Reached width u evaluator batch start n pool)
    (there : batch[earlier.length]? = some set) {halt : Halt}
    (refused : (pool.check evaluator).refusal? u set = some halt) :
    ∃ m next, Reached width u evaluator batch start m next ∧
      (pool.toBench bench).check evaluator = next.toBench bench ∧ next.Finished batch ∧
      next.Yields u batch (.error halt) := by
  refine ⟨_, _, reached.step (.refuse (serial.free.symm ▸ wide) serial.fresh there refused), rfl,
    ⟨serial.admitted_eq, serial.out, .inl (.inl (List.cons_ne_nil _ _))⟩, ?_⟩
  exact .refused List.mem_cons_self

theorem Serial.takeUp (wide : 0 < width) (serial : pool.Serial u earlier)
    (reached : Reached width u evaluator batch start n pool)
    (there : batch[earlier.length]? = some set)
    (running : (pool.check evaluator).cancelled = false) {flags : List String}
    (resolved : u.resolve set = .ok flags) :
    Reached width u evaluator batch start (n + 1 + 1)
      ⟨(pool.check evaluator).world, (pool.check evaluator).cancelled,
        ⟨(pool.traffic.shared.enter set).2, pool.traffic.callers ++ [⟨set,
          (pool.traffic.shared.enter set).1, (pool.traffic.shared.enter set).1.ending?⟩]⟩, [],
        pool.places ++ [earlier.length], []⟩ := by
  have accepted : (pool.check evaluator).refusal? u set = none :=
    (if_neg (Bool.eq_false_iff.1 running)).trans (by rw [resolved])
  have taken := reached.step (.takeUp (serial.free.symm ▸ wide) serial.fresh there accepted)
  have entered := taken.step (.enter List.mem_cons_self there (.enter _ set))
  have admitted : (earlier.length :: pool.admitted).erase earlier.length = [] := by
    rw [List.erase_cons_head, serial.admitted_eq]
  simp only [check, admitted, serial.refused_eq] at entered
  exact entered

theorem Serial.serve (serial : pool.Serial u earlier) {outcome : Outcome}
    (held : pool.traffic.shared.memo.peek? set = some outcome) {world : σ} {cancelled : Bool}
    (entered : Reached width u evaluator batch start n ⟨world, cancelled,
      ⟨(pool.traffic.shared.enter set).2, pool.traffic.callers ++ [⟨set,
        (pool.traffic.shared.enter set).1, (pool.traffic.shared.enter set).1.ending?⟩]⟩, [],
      pool.places ++ [earlier.length], []⟩) {flags : List String}
    (resolved : u.resolve set = .ok flags) :
    ∃ next, Reached width u evaluator batch start n next ∧
      next.Serial u (earlier ++ [⟨set, flags, outcome, true⟩]) ∧ next.world = world ∧
      next.cancelled = cancelled ∧ next.traffic.shared.memo =
        { pool.traffic.shared.memo.publish set outcome with
          hits := pool.traffic.shared.memo.hits + 1 } := by
  rw [Shared.enter_of_held held] at entered
  refine ⟨_, entered, @Serial.snoc _ u pool earlier serial ⟨set, flags, outcome, true⟩
    (.served outcome) _ resolved ?_ world cancelled, rfl, rfl, rfl⟩
  exact serial.grounded

theorem Serial.compute (serial : pool.Serial u earlier)
    (absent : pool.traffic.shared.memo.peek? set = none) {world : σ} {cancelled : Bool}
    (entered : Reached width u evaluator batch start n ⟨world, cancelled,
      ⟨(pool.traffic.shared.enter set).2, pool.traffic.callers ++ [⟨set,
        (pool.traffic.shared.enter set).1, (pool.traffic.shared.enter set).1.ending?⟩]⟩, [],
      pool.places ++ [earlier.length], []⟩) {flags : List String}
    (resolved : u.resolve set = .ok flags) :
    ∃ (role : Role) (shared : Shared FlagSet), shared.inFlight = [] ∧
      shared.memo = pool.traffic.shared.memo.started.settle set
        (evaluator.score flags world).1.published ∧
      Reached width u evaluator batch start (n + 1) ⟨(evaluator.score flags world).2, cancelled,
        ⟨shared, pool.traffic.callers ++ [⟨set, role,
          some (.ofReply (evaluator.score flags world).1.caught)⟩]⟩, [],
        pool.places ++ [earlier.length], []⟩ := by
  have grounded : set ∉ pool.traffic.shared.flying := by simp [Shared.flying, serial.grounded]
  rw [Shared.enter_of_grounded absent grounded] at entered
  have landed := entered.step (.land resolved
    (.land (evaluator.score flags world).1.caught List.getElem?_concat_length))
  rw [List.set_append_right _ _ (Nat.le_refl _), Nat.sub_self, List.set_cons_zero] at landed
  refine ⟨_, _, ?_, ?_, landed⟩
  · simp [Shared.land, serial.grounded]
  · rw [Shared.land, Reply.published_caught]

theorem Serial.request (wide : 0 < width) (serial : pool.Serial u earlier)
    (reached : Reached width u evaluator batch start n pool)
    (there : batch[earlier.length]? = some set) {result : Except Halt Scored} {after : Bench σ}
    (requested : (pool.toBench bench).request u evaluator set = (result, after)) :
    ∃ m next, Reached width u evaluator batch start m next ∧ after = next.toBench bench ∧
      ((∃ candidate, result = .ok candidate ∧ next.Serial u (earlier ++ [candidate])) ∨
        ∃ halt, result = .error halt ∧ next.Finished batch ∧ next.Yields u batch (.error halt)) := by
  cases Bench.requested_of_request requested with
  | cancelled stopped =>
    have refused : (pool.check evaluator).refusal? u set = some (.error .interrupted) :=
      if_pos stopped
    obtain ⟨m, next, reached, checked, finished, yields⟩ := serial.refuse wide reached there refused
    exact ⟨m, next, reached, checked, .inr ⟨_, rfl, finished, yields⟩⟩
  | @foreign fault running foreign =>
    have refused : (pool.check evaluator).refusal? u set = some (.fault fault) :=
      (if_neg (Bool.eq_false_iff.1 running)).trans (by rw [foreign])
    obtain ⟨m, next, reached, checked, finished, yields⟩ := serial.refuse wide reached there refused
    exact ⟨m, next, reached, checked, .inr ⟨_, rfl, finished, yields⟩⟩
  | known running resolved held =>
    have entered := serial.takeUp wide reached there running resolved
    obtain ⟨next, reached, serial, world, cancelled, memo⟩ := serial.serve held entered resolved
    refine ⟨_, next, reached, ?_, .inl ⟨_, rfl, serial⟩⟩
    change _ = Bench.mk next.world next.cancelled next.traffic.shared.memo bench.log bench.step
    rw [world, cancelled, memo]
    rfl
  | @computed flags outcome running resolved absent came =>
    have came : (evaluator.score flags (pool.check evaluator).world).1.published = .ok outcome := came
    have entered := serial.takeUp wide reached there running resolved
    obtain ⟨role, shared, grounded, memo, landed⟩ := serial.compute absent entered resolved
    rw [Reply.caught_eq_outcome came] at landed
    rw [came] at memo
    refine ⟨_, _, landed, ?_, .inl ⟨_, rfl, @Serial.snoc _ u pool earlier serial
      ⟨set, flags, outcome, false⟩ role shared resolved grounded _ _⟩⟩
    change _ = Bench.mk _ _ shared.memo bench.log bench.step
    rw [memo]
    rfl
  | @failed flags e running resolved absent came =>
    have came : (evaluator.score flags (pool.check evaluator).world).1 = .error e := came
    have entered := serial.takeUp wide reached there running resolved
    obtain ⟨role, shared, _, memo, landed⟩ := serial.compute absent entered resolved
    rw [came] at landed memo
    have last : Caller.mk set role (some (.failed e)) ∈
        pool.traffic.callers ++ [⟨set, role, some (.failed e)⟩] :=
      List.mem_append_right _ (List.mem_singleton_self _)
    refine ⟨_, _, landed, ?_, .inr ⟨.error e, rfl, ⟨rfl, ?_, .inl (.inr ⟨_, last, e, rfl⟩)⟩,
      .failed last rfl⟩⟩
    · change _ = Bench.mk _ _ shared.memo bench.log bench.step
      rw [memo]
      rfl
    · exact List.forall_mem_append.2 ⟨serial.out, List.forall_mem_singleton.2 rfl⟩

theorem Serial.requestAll (wide : 0 < width) (serial : pool.Serial u earlier)
    (reached : Reached width u evaluator batch start n pool) {rest : List FlagSet}
    (whole : batch = earlier.map (·.set) ++ rest) {result : Except Halt (List Scored)}
    {after : Bench σ}
    (requested : Bench.requestAll u evaluator rest (pool.toBench bench) = (result, after)) :
    ∃ m last, Reached width u evaluator batch start m last ∧ after = last.toBench bench ∧
      last.Finished batch ∧ last.Yields u batch (result.map (earlier ++ ·)) := by
  -- The candidates so far move over to `earlier` one by one, so the induction is on those that are
  -- left.
  induction rest generalizing n pool earlier result with
  | nil =>
    cases requested
    rw [List.append_nil] at whole
    refine ⟨n, pool, reached, rfl, ⟨serial.admitted_eq, serial.out, .inr ?_⟩, ?_⟩
    · intro place inside
      rw [whole, List.length_map] at inside
      simpa [taken, serial.admitted_eq, serial.refused_eq, serial.places_eq] using inside
    · rw [Except.map, List.append_nil]
      exact .scored whole.symm serial.found
  | cons set rest ih =>
    have there : batch[earlier.length]? = some set := by
      rw [whole, List.getElem?_append_right (by simp)]
      simp
    cases first : (pool.toBench bench).request u evaluator set with
    | mk found between =>
      obtain ⟨m, next, reached, rfl, ⟨candidate, rfl, serial⟩ | ⟨halt, rfl, finished, yields⟩⟩ :=
        serial.request wide reached there first
      · rw [Bench.requestAll_cons_of_ok first] at requested
        have whole' : batch = (earlier ++ [candidate]).map (·.set) ++ rest := by
          rw [whole, List.map_append, List.append_assoc, List.map_singleton,
            (Bench.request_ok first).1]
          rfl
        cases later : Bench.requestAll u evaluator rest (next.toBench bench) with
        | mk others final =>
          rw [later] at requested
          cases requested
          obtain ⟨m', last, reached, came, finished, yields⟩ := ih serial reached whole' later
          refine ⟨m', last, reached, came, finished, ?_⟩
          cases others with
          | error halt => exact yields
          | ok others =>
            rw [Except.map, List.append_assoc] at yields
            exact yields
      · rw [Bench.requestAll_cons_of_error first] at requested
        cases requested
        exact ⟨m, next, reached, rfl, finished, yields⟩

end Pool

theorem Bench.requestAll_pooled {σ : Type} {width : Nat} (wide : 0 < width) (u : Universe)
    (evaluator : Evaluator σ) : Scheduler.Pooled width u evaluator (requestAll u evaluator) := by
  intro batch bench
  cases requested : requestAll u evaluator batch bench with
  | mk result after =>
    obtain ⟨n, pool, reached, came, finished, yields⟩ :=
      (Pool.serial_ofBench u bench).requestAll wide .start (List.nil_append _).symm requested
    refine ⟨n, pool, reached, finished, ?_, came⟩
    cases result <;> exact yields

theorem Scheduler.Pooled.exists_of_finished {σ : Type} {width n : Nat} {u : Universe}
    {evaluator : Evaluator σ} (wide : 0 < width) {batch : List FlagSet} {bench : Bench σ}
    {pool : Pool σ} (reached : Pool.Reached width u evaluator batch (.ofBench bench) n pool)
    (finished : pool.Finished batch) {result : Except Halt (List Scored)}
    (yields : pool.Yields u batch result) :
    ∃ scheduler : Scheduler σ, scheduler.Pooled width u evaluator ∧
      scheduler batch bench = (result, pool.toBench bench) := by
  classical
  refine ⟨fun batch' bench' => if batch' = batch ∧ bench' = bench then
    (result, pool.toBench bench) else Bench.requestAll u evaluator batch' bench', ?_, by simp⟩
  intro batch' bench'
  by_cases same : batch' = batch ∧ bench' = bench
  · obtain ⟨rfl, rfl⟩ := same
    simp only [and_self, if_true]
    exact ⟨n, pool, reached, finished, yields, rfl⟩
  · simp only [if_neg same]
    exact Bench.requestAll_pooled wide u evaluator batch' bench'

end FlagSearch
