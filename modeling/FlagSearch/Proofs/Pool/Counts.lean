import FlagSearch.Proofs.Pool.Lawful
import FlagSearch.Proofs.Search.Contacts

/-!
# What a pool counts

Three parties keep count of a batch: the evaluator notices requests and calls, the memo counts hits
and misses, and the candidates that come out are marked.  They do so at different moments, but once
the workers are done their counts agree, whatever order they found and whether or not the batch was
scored.

* `Pool.Reached.record` — the evaluator notices a request for each candidate that was taken up, and
  a call for each computation that ended.
* `Pool.cached_perm` — the marks of a batch that was scored are those of its callers.
* `Bench.Counts`, `Scheduler.Tallies`, `Scheduler.Pooled.tallies` — how the counts agree.
-/

namespace FlagSearch

/-- The caller came out after it ran a computation. -/
def Caller.landed {κ : Type} (caller : Caller κ) : Bool :=
  caller.ending.isSome && caller.role.leads?.isSome

theorem countP_spared_add_landed {κ : Type} (callers : List (Caller κ)) :
    callers.countP Caller.spared + callers.countP Caller.landed =
      callers.countP (·.ending.isSome) := by
  induction callers with
  | nil => rfl
  | cons caller callers ih =>
    have one : (if caller.spared then 1 else 0) + (if caller.landed then 1 else 0) =
        if caller.ending.isSome then 1 else 0 := by
      cases out : caller.ending.isSome <;> cases leads : caller.role.leads? <;>
        simp [Caller.spared, Caller.landed, out, leads]
    simp only [List.countP_cons]
    omega

def Action.ended {κ : Type} : Action κ → Nat
  | .landed .. => 1
  | .entered .. | .woke .. => 0

theorem Traffic.Step.countP_landed {κ : Type} [DecidableEq κ] {traffic next : Traffic κ}
    {action : Action κ} (step : traffic.Step action next) :
    next.callers.countP Caller.landed = traffic.callers.countP Caller.landed + action.ended := by
  cases step with
  | enter key =>
    rw [List.countP_append]
    cases (traffic.shared.enter key).1 <;> rfl
  | land reply leading =>
    rw [countP_set_of_neg _ leading rfl]
    simp [Caller.landed, Role.leads?, Action.ended]
  | wake following woken =>
    rw [countP_set_of_neg _ following rfl]
    rfl

variable {σ : Type} {width : Nat} {u : Universe} {evaluator : Evaluator σ} {batch : List FlagSet}

namespace Pool

variable {bench : Bench (σ × List Contact)} {pool : Pool (σ × List Contact)} {n : Nat}

/-! ## What the evaluator notices -/

theorem Reached.record
    (reached : Reached width u evaluator.traced batch (ofBench bench) n pool) :
    ∃ later, pool.world.2 = bench.world.2 ++ later ∧
      Contact.requests later = pool.taken.length ∧
      (Contact.calls later).length = pool.traffic.callers.countP Caller.landed := by
  induction reached with
  | start => exact ⟨[], (List.append_nil _).symm, rfl, rfl⟩
  | @step n pool next before step ih =>
    obtain ⟨later, record, requests, calls⟩ := ih
    cases step with
    | takeUp free fresh there accepted =>
      refine ⟨later ++ [.poll], ?_, ?_, ?_⟩
      · simp [check, Evaluator.traced, record]
      · simp [requests, taken, check]
      · simpa using calls
    | refuse free fresh there refused =>
      refine ⟨later ++ [.poll], ?_, ?_, ?_⟩
      · simp [check, Evaluator.traced, record]
      · simp [requests, taken, check]
        omega
      · simpa using calls
    | @enter place set role traffic ready there entered =>
      have moved := (taken_enter ready traffic).length_eq
      exact ⟨later, record, requests.trans moved.symm, calls.trans entered.countP_landed.symm⟩
    | @land set flags flight traffic resolved landed =>
      refine ⟨later ++ [.score flags], ?_, by simpa [taken] using requests, ?_⟩
      · simp [Evaluator.traced, record]
      · rw [landed.countP_landed, ← calls]
        simp [Action.ended]
    | wake woke => exact ⟨later, record, requests, calls.trans woke.countP_landed.symm⟩

/-! ## Callers and marks -/

section Marks

variable {σ : Type} {evaluator : Evaluator σ} {pool : Pool σ} {fails : SearchError → Prop}

theorem Finished.countP_spared (finished : pool.Finished batch) :
    pool.traffic.callers.countP Caller.spared =
      pool.traffic.callers.countP fun caller => caller.role.leads?.isNone :=
  List.countP_congr fun caller member => by simp [Caller.spared, finished.out caller member]

theorem Finished.countP_landed (finished : pool.Finished batch) :
    pool.traffic.callers.countP Caller.landed =
      pool.traffic.callers.countP fun caller => caller.role.leads?.isSome :=
  List.countP_congr fun caller member => by simp [Caller.landed, finished.out caller member]

theorem Finished.countP_out (finished : pool.Finished batch) :
    pool.traffic.callers.countP (·.ending.isSome) = pool.traffic.callers.length :=
  List.countP_eq_length.2 finished.out

/-- If each candidate came out scored, they bear the marks of the callers: a candidate is marked as
known unless its caller led. -/
theorem cached_perm (tidy : pool.Tidy batch) (candid : pool.traffic.Candid fails)
    {scored : List Scored} (length : scored.length = batch.length)
    (found : ∀ {place : Nat} {candidate}, scored[place]? = some candidate →
      pool.Found u place candidate) :
    (scored.map (·.cached)).Perm
      (pool.traffic.callers.map fun caller => caller.role.leads?.isNone) := by
  have called : ∀ place < batch.length, place ∈ pool.places := by
    intro place inside
    obtain ⟨i, role, at_, _⟩ := found (List.getElem?_eq_getElem (length ▸ inside))
    exact List.mem_of_getElem? at_
  have whole : (List.range batch.length).map (fun place => scored[place]?.map (·.cached)) =
      scored.map fun candidate => some candidate.cached := by
    refine List.ext_getElem (by simp [length]) fun place inside _ => ?_
    have inside : place < scored.length := by simpa [length] using inside
    simp [List.getElem?_eq_getElem inside]
  have marks : pool.places.map (fun place => scored[place]?.map (·.cached)) =
      pool.traffic.callers.map fun caller => some caller.role.leads?.isNone := by
    refine List.ext_getElem? fun i => ?_
    rw [List.getElem?_map, List.getElem?_map]
    cases at_ : pool.traffic.callers[i]? with
    | none =>
      rw [List.getElem?_eq_none_iff, tidy.length_callers] at at_
      rw [List.getElem?_eq_none at_]
      rfl
    | some caller =>
      obtain ⟨place, there, wanted⟩ := tidy.exists_place at_
      have inside : place < scored.length := by
        rw [length]
        exact (List.getElem?_eq_some_iff.1 wanted).1
      obtain ⟨j, role, there', at', _⟩ := found (List.getElem?_eq_getElem inside)
      obtain rfl : i = j :=
        (List.getElem?_inj (List.getElem?_eq_some_iff.1 there).1 tidy.nodup_places).1
          (there.trans there'.symm)
      cases at_.symm.trans at'
      have mark := candid.callers _ (List.mem_of_getElem? at_)
      simp only [Caller.Candid] at mark
      rw [there, Option.map_some, List.getElem?_eq_getElem inside, Option.map_some, mark]
      rfl
  have perm := (tidy.places_perm called).map fun place => scored[place]?.map (·.cached)
  rw [marks, whole] at perm
  simpa [List.filterMap_map, Function.comp_def] using (perm.filterMap id).symm

end Marks

end Pool

/-! ## Counts that agree -/

/-- The memo and the evaluator agree about how often each of them was turned to, and the memo holds
no more than it has room for and than was computed. -/
structure Bench.Counts (capacity : Nat) (bench : Bench (σ × List Contact)) : Prop where
  running : bench.cancelled = false
  within : bench.memo.Within capacity
  size_le : bench.memo.size ≤ bench.memo.misses
  misses_eq : bench.memo.misses = (Contact.calls bench.world.2).length
  requests_eq : bench.memo.hits + bench.memo.misses = Contact.requests bench.world.2

/-- Scoring a batch adds to what the evaluator noticed and keeps the counts in agreement; and if the
batch is scored, they grow by what the marks of its candidates say. -/
structure Scheduler.Tallies (u : Universe) (scheduler : Scheduler (σ × List Contact)) : Prop where
  grows : ∀ batch bench, bench.world.2 <+: (scheduler batch bench).2.world.2
  counts : ∀ {capacity batch bench}, (∀ set ∈ batch, set.length = u.size) →
    bench.Counts capacity → (scheduler batch bench).2.Counts capacity
  hits_eq : ∀ {capacity batch bench scored after}, (∀ set ∈ batch, set.length = u.size) →
    bench.Counts capacity → scheduler batch bench = (.ok scored, after) →
      after.memo.hits = bench.memo.hits + scored.countP (·.cached) ∧
        after.memo.misses = bench.memo.misses + scored.countP fun candidate => !candidate.cached

theorem Pool.Finished.counts {capacity n : Nat} {bench : Bench (σ × List Contact)}
    {pool : Pool (σ × List Contact)} (steady : evaluator.Steady)
    (lengths : ∀ set ∈ batch, set.length = u.size) (counts : bench.Counts capacity)
    (reached : Reached width u evaluator.traced batch (ofBench bench) n pool)
    (finished : pool.Finished batch) :
    (pool.toBench bench).Counts capacity ∧
      pool.traffic.shared.memo.hits =
        bench.memo.hits + pool.traffic.callers.countP (fun caller => caller.role.leads?.isNone) ∧
      pool.traffic.shared.memo.misses =
        bench.memo.misses + pool.traffic.callers.countP fun caller => caller.role.leads?.isSome := by
  have tidy := reached.tidy
  obtain ⟨running, refused⟩ := reached.quiet steady.traced lengths counts.running
  obtain ⟨events, run, _⟩ := reached.exists_run
  obtain ⟨later, record, requests, calls⟩ := reached.record
  -- The memo counts callers that came out and computations that were started; once all have come
  -- out these are its callers without and with a computation.
  have quiet := Traffic.sound_quiet_of_within counts.within
  have sound := run.sound quiet
  have answered := (Traffic.answered_quiet bench.memo).run quiet run
  have hits := answered.hits_eq
  have misses := answered.misses_eq
  have size := run.size_le_misses quiet counts.size_le
  rw [answered.starts_eq, sound.length_published, ← finished.countP_landed] at misses
  have taken : pool.taken.length = pool.traffic.callers.length := by
    rw [tidy.length_callers]
    simp [Pool.taken, finished.admitted_eq, refused]
  have all := countP_spared_add_landed pool.traffic.callers
  rw [finished.countP_out] at all
  have before := counts.misses_eq
  have before' := counts.requests_eq
  refine ⟨⟨running, sound.within, size, ?_, ?_⟩, ?_, ?_⟩
  · change pool.traffic.shared.memo.misses = (Contact.calls pool.world.2).length
    rw [record, Contact.calls_append, List.length_append]
    omega
  · change pool.traffic.shared.memo.hits + pool.traffic.shared.memo.misses =
      Contact.requests pool.world.2
    rw [record, Contact.requests_append]
    omega
  · rw [hits, finished.countP_spared]
  · rw [misses, finished.countP_landed]

theorem Scheduler.Pooled.tallies {scheduler : Scheduler (σ × List Contact)}
    (pooled : scheduler.Pooled width u evaluator.traced) (steady : evaluator.Steady) :
    scheduler.Tallies u := by
  refine ⟨?_, ?_, ?_⟩
  · intro batch bench
    obtain ⟨n, pool, reached, _, _, after⟩ := pooled batch bench
    obtain ⟨later, record, _⟩ := reached.record
    rw [after]
    exact ⟨later, record.symm⟩
  · intro capacity batch bench lengths counts
    obtain ⟨n, pool, reached, finished, _, after⟩ := pooled batch bench
    rw [after]
    exact (finished.counts steady lengths counts reached).1
  · intro capacity batch bench scored after lengths counts answer
    obtain ⟨n, pool, reached, finished, yields, came⟩ := pooled batch bench
    obtain ⟨_, hits, misses⟩ := finished.counts steady lengths counts reached
    rw [answer] at yields came
    cases came
    cases yields with
    | scored sets found =>
      have length : scored.length = batch.length := by rw [← sets, List.length_map]
      have marks := Pool.cached_perm reached.tidy reached.candid length found
      have known := marks.countP_eq id
      have computed := marks.countP_eq not
      rw [List.countP_map, List.countP_map] at known computed
      refine ⟨hits.trans (congrArg _ known.symm), misses.trans (congrArg _ ?_)⟩
      refine Eq.trans (List.countP_congr fun caller _ => ?_) computed.symm
      simp [Option.isSome_iff_ne_none]

end FlagSearch
