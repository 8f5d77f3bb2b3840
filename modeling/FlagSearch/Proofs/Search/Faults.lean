import FlagSearch.Proofs.Neighbours.Advance
import FlagSearch.Proofs.Search.Aborts
import FlagSearch.Proofs.Search.Accounts

/-!
# Runs without faults

Indices into flag sets and universes, the positions of a listing of neighbours and the draws of hill
climbing are all in range because a run stands at a set over its universe.  What is left is the room
for the trajectory, which is set aside as a whole: a budget that does not fit into memory is not
rejected with the settings, and the run ends in a fault once its starting set is scored.

* `Bench.request_ne_fault`, `Scheduler.Pooled.ne_fault` — scoring sets over the universe.
* `Course.halt_ne_fault` — the steps of a run.
* `runWith_fault_iff` — the only fault of a run that was accepted.
-/

namespace FlagSearch

variable {σ : Type} {settings : Settings} {u : Universe} {evaluator : Evaluator σ}
  {scheduler : Scheduler σ} {entropy : UInt64} {world : σ}

/-! ## Scoring -/

theorem FlagSet.lt_size_of_mem_ones {set : FlagSet} (length : set.length = u.size) {i : Nat}
    (one : i ∈ set.ones) : i < u.flags.length := by
  have below := List.mem_range.1 (List.mem_filter.1 one).1
  exact Nat.lt_of_lt_of_eq below length

theorem Bench.request_ne_fault {bench after : Bench σ} {set : FlagSet}
    (length : set.length = u.size) {halt : Halt}
    (refused : bench.request u evaluator set = (.error halt, after)) (fault : Fault) :
    halt ≠ .fault fault := by
  rintro rfl
  cases requested_of_request refused with
  | foreign running foreign => cases (Universe.resolve_eq length).symm.trans foreign

namespace Pool

variable {width n : Nat} {batch : List FlagSet} {bench : Bench σ} {pool : Pool σ}

theorem Reached.refused_ne_fault (lengths : ∀ set ∈ batch, set.length = u.size)
    (reached : Reached width u evaluator batch (ofBench bench) n pool) :
    ∀ entry ∈ pool.refused, ∀ fault, entry.2 ≠ .fault fault := by
  induction reached with
  | start => simp [ofBench]
  | step before step ih =>
    cases step with
    | refuse free fresh there refused =>
      refine List.forall_mem_cons.2 ⟨?_, ih⟩
      rintro fault rfl
      rcases refusal?_cases refused with ⟨stopped, _⟩ | ⟨_, _, foreign⟩
      · cases stopped
      · have length := lengths _ (List.mem_of_getElem? there)
        cases (Universe.resolve_eq length).symm.trans foreign
    | takeUp free fresh there accepted => exact ih
    | enter ready there entered => exact ih
    | land resolved landed => exact ih
    | wake woke => exact ih

end Pool

theorem Scheduler.Pooled.ne_fault {width : Nat} (pooled : scheduler.Pooled width u evaluator)
    {batch : List FlagSet} (lengths : ∀ set ∈ batch, set.length = u.size) {bench after : Bench σ}
    {halt : Halt} (refused : scheduler batch bench = (.error halt, after)) (fault : Fault) :
    halt ≠ .fault fault := by
  rintro rfl
  obtain ⟨_, pool, reached, _, yields, _⟩ := pooled batch bench
  rw [refused] at yields
  -- Callers of the memo come out with errors at worst, so only a refusal can be a fault.
  cases yields with
  | refused turnedAway => exact reached.refused_ne_fault lengths _ turnedAway fault rfl

/-! ## Runs -/

namespace Course

variable (course : Course settings u evaluator scheduler entropy world)

/-- Before each step, whichever candidates the strategy chooses are sets over the universe, and it
chooses them without a fault. -/
theorem tries_inRange (lawful : scheduler.Lawful evaluator) {n : Nat} {before : Walk σ}
    (reached : Walk.Reached u evaluator scheduler course.start n before) (number : Nat) :
    (∀ fault, (before.entering number).tries u ≠ .error (.fault fault)) ∧
      ∀ sets, (before.entering number).tries u = .ok sets → ∀ set ∈ sets, set.length = u.size := by
  have some := course.accepted.flags_pos
  have stands := reached.stands lawful some course.stands_start
  have length : (before.entering number).position.current.set.length = u.size := stands.length_eq
  refine ⟨fun fault chosen => ?_, fun sets chosen => Stage.length_of_tries some length chosen⟩
  obtain ⟨e, same⟩ := Stage.tries_error some length chosen
  cases same

theorem halt_ne_fault (pooled : scheduler.Pooled settings.poolWidth u evaluator) (fault : Fault) :
    course.halt ≠ some (.fault fault) := by
  intro halted
  have lawful := pooled.lawful
  rcases course.failed_cases lawful with ⟨none, _⟩ | ⟨before, _, reached, ⟨_, _, _, closed⟩ |
    ⟨sets, halt, chosen, refused, stopped⟩⟩
  · cases none.symm.trans halted
  · cases closed.symm.trans halted
  · cases stopped.symm.trans halted
    have lengths := (course.tries_inRange lawful reached _).2 sets chosen
    have scorer := (before.entering (course.completed + 1)).scorer_pooled
      course.accepted.poolWidth_pos pooled
    exact scorer.ne_fault lengths refused fault rfl

end Course

theorem StartScored.scored (start : StartScored settings u evaluator world) :
    ∀ memo, Memo.ofCapacity settings.cacheCapacity = .ok memo → ∃ baseline bench,
      (Bench.ofWorld world memo).request u evaluator (settings.initial.getD u.emptySet) =
        (.ok baseline, bench) := by
  obtain ⟨memo, baseline, bench, sized, scored⟩ := start
  intro memo' sized'
  cases sized.symm.trans sized'
  exact ⟨baseline, bench, scored⟩

theorem startScored_of_fault (valid : settings.validate u.size = .ok ()) {fault : Fault}
    (faulted : (runWith settings u evaluator scheduler entropy world).1 = .fault fault) :
    StartScored settings u evaluator world := by
  have accepted := Settings.accepted_of_validate valid
  obtain ⟨strategy, memo, chosen, sized⟩ := accepted.exists_prepared (settings.seed.getD entropy)
  cases scored : (Bench.ofWorld world memo).request u evaluator
    (settings.initial.getD u.emptySet) with
  | mk result bench =>
    cases result with
    | ok baseline => exact ⟨memo, baseline, bench, sized, scored⟩
    | error halt =>
      rw [runWith_of_prepared valid chosen sized, scored] at faulted
      cases halt with
      | error e => cases faulted
      | fault f => exact absurd rfl (Bench.request_ne_fault accepted.length_start scored f)

theorem Course.runWith_ne_fault (course : Course settings u evaluator scheduler entropy world)
    (pooled : scheduler.Pooled settings.poolWidth u evaluator) (fault : Fault) :
    (runWith settings u evaluator scheduler entropy world).1 ≠ .fault fault := by
  intro faulted
  exact course.halt_ne_fault pooled fault (course.halt_of_fault faulted)

/-- A run that was accepted ends in a fault in one case only, whatever its evaluator does: its
starting set is scored, and there is no room for a trajectory as long as the budget.  With room the
run is complete or aborted.  Before each of its steps it stands at a set over the universe, lists
its neighbours in range to the end, and chooses sets over the universe without a fault; so the
positions it selects are those of flags. -/
theorem runWith_fault_iff (settings : Settings) (u : Universe) (evaluator : Evaluator σ)
    (scheduler : Scheduler σ) (pooled : scheduler.Pooled settings.poolWidth u evaluator)
    (valid : settings.validate u.size = .ok ()) (entropy : UInt64) (world : σ) :
    (∀ fault, (runWith settings u evaluator scheduler entropy world).1 = .fault fault ↔
      fault = .capacityOverflow ∧ maxBlock < settings.iterations * trajectorySlot ∧
        StartScored settings u evaluator world) ∧
    (settings.iterations * trajectorySlot ≤ maxBlock →
      (∃ report, (runWith settings u evaluator scheduler entropy world).1 = .complete report) ∨
      ∃ e seen, (runWith settings u evaluator scheduler entropy world).1 = .aborted e seen) ∧
    ∀ (course : Course settings u evaluator scheduler entropy world) n before,
      Walk.Reached u evaluator scheduler course.start n before →
      before.stage.position.current.set.length = u.size ∧
      (∃ listing, neighbours before.stage.position.current.set 1 = .ok listing ∧
        listing.InRange ∧ ∀ fuel, ∃ sets, listing.take fuel = .ok sets) ∧
      (∀ fault, (before.entering (n + 1)).tries u ≠ .error (.fault fault)) ∧
      ∀ sets, (before.entering (n + 1)).tries u = .ok sets → ∀ set ∈ sets,
        set.length = u.size ∧ ∀ i ∈ set.ones, i < u.flags.length := by
  have accepted := Settings.accepted_of_validate valid
  have lawful := pooled.lawful
  have faults : ∀ fault, (runWith settings u evaluator scheduler entropy world).1 = .fault fault ↔
      fault = .capacityOverflow ∧ maxBlock < settings.iterations * trajectorySlot ∧
        StartScored settings u evaluator world := by
    intro fault
    constructor
    · intro faulted
      have start := startScored_of_fault valid faulted
      rcases Nat.lt_or_ge maxBlock (settings.iterations * trajectorySlot) with full | room
      · rw [runWith_of_no_room valid start.scored full] at faulted
        cases faulted
        exact ⟨rfl, full, start⟩
      · obtain ⟨course⟩ := exists_course_of_scored valid start.scored room
        exact absurd faulted (course.runWith_ne_fault pooled fault)
    · rintro ⟨rfl, full, start⟩
      exact runWith_of_no_room valid start.scored full
  refine ⟨faults, fun room => ?_, fun course n before reached => ?_⟩
  · cases ended : (runWith settings u evaluator scheduler entropy world).1 with
    | complete report => exact .inl ⟨report, rfl⟩
    | aborted e seen => exact .inr ⟨e, seen, rfl⟩
    | fault fault => exact absurd ((faults fault).1 ended).2.1 (Nat.not_lt.2 room)
  · have length := (reached.stands lawful accepted.flags_pos course.stands_start).length_eq
    obtain ⟨chooses, lengths⟩ := course.tries_inRange lawful reached (n + 1)
    refine ⟨length, ?_, chooses, fun sets chosen set member => ?_⟩
    · obtain ⟨listing, opened⟩ := Neighbours.exists_neighbours_single (length ▸ accepted.flags_pos)
      have inRange := Neighbours.inRange_of_neighbours opened
      refine ⟨listing, opened, inRange, fun fuel => ?_⟩
      obtain ⟨sets, taken, _⟩ := inRange.exists_take fuel
      exact ⟨sets, taken⟩
    · have length := lengths sets chosen set member
      exact ⟨length, fun i one => FlagSet.lt_size_of_mem_ones length one⟩

/-- Hill climbing whose evaluator panics and breaks down comes to no fault. -/
theorem runWith_fault_iff_fickle :
    (∀ fault, (runWith crampedClimb flagPair fickle (Bench.requestAll flagPair fickle) 0 []).1 ≠
      .fault fault) ∧
    ∃ e seen, (runWith crampedClimb flagPair fickle (Bench.requestAll flagPair fickle) 0 []).1 =
      .aborted e seen := by
  have pooled := Bench.requestAll_pooled Nat.one_pos flagPair fickle
  have valid : crampedClimb.validate flagPair.size = .ok () := by decide
  have room : crampedClimb.iterations * trajectorySlot ≤ maxBlock := by decide
  obtain ⟨faults, ends, _⟩ :=
    runWith_fault_iff crampedClimb flagPair fickle _ pooled valid 0 []
  refine ⟨fun fault faulted => ?_, ?_⟩
  · exact absurd ((faults fault).1 faulted).2.1 (Nat.not_lt.2 room)
  · rcases ends room with ⟨report, complete⟩ | aborted
    · have cut : ((runWith crampedClimb flagPair fickle (Bench.requestAll flagPair fickle) 0
          []).1.report?.map (·.complete)) = some false := by decide
      rw [complete] at cut
      cases (report_of_complete complete).1.symm.trans (Option.some.inj cut)
    · exact aborted

/-- Tabu search over one flag with the largest budget and the largest tabu list there are. -/
def boundless : Settings :=
  { Settings.tabu with iterations := UInt64.size - 1, tabuCapacity := UInt64.size - 1 }

/-- An evaluator of one flag, which takes four seconds, or five and a half with the flag. -/
def patient : Evaluator (List (List String)) := .ofFunction "evaluator" fun flags =>
  .outcome (.success (.ofPattern (if flags = [] then 0x4010000000000000 else 0x4016000000000000))
    none flags)

/-- These settings are accepted, and the run over one flag ends in a fault instead of being complete
or aborted. -/
theorem boundless_run_faults :
    boundless.validate 1 = .ok () ∧
      (run boundless ⟨none, none, ["-a"]⟩ patient 0 []).1 = .fault .capacityOverflow ∧
      ¬((∃ report, (run boundless ⟨none, none, ["-a"]⟩ patient 0 []).1 = .complete report) ∨
        ∃ e seen, (run boundless ⟨none, none, ["-a"]⟩ patient 0 []).1 = .aborted e seen) := by
  have faulted : (run boundless ⟨none, none, ["-a"]⟩ patient 0 []).1 =
      .fault .capacityOverflow := by decide
  refine ⟨by decide, faulted, ?_⟩
  rintro (⟨report, complete⟩ | ⟨e, seen, aborted⟩)
  · rw [faulted] at complete
    cases complete
  · rw [faulted] at aborted
    cases aborted

end FlagSearch
