import FlagSearch.Proofs.Pool.Published

/-!
# What the workers find in the memo

If no candidate stands twice in a batch, and the memo has room for the candidates beside what it
holds, the order of the workers has no say in the marks and counts either: a candidate is found in
the memo if and only if it was there before the batch.

* `Bench.Marks` — what such a batch comes to.
* `Pool.Reached.spread` — the callers of a pool on such a batch want keys of their own.
* `Pool.Reached.marks`, `Scheduler.Pooled.marks` — so all pools come to the same.
-/

namespace FlagSearch

/-- A batch comes to one result for each candidate, marked if the memo held it, and the memo holds
the candidates afterwards and counts them. -/
structure Bench.Marks {σ : Type} (u : Universe) (outcomes : List String → Outcome)
    (batch : List FlagSet) (bench : Bench σ) (result : Except Halt (List Scored))
    (after : Bench σ) : Prop where
  result_eq : result =
    .ok (batch.map fun set => u.marked outcomes (decide (set ∈ bench.memo.keys)) set)
  keys : ∀ set, set ∈ after.memo.keys ↔ set ∈ bench.memo.keys ∨ set ∈ batch
  hits_eq : after.memo.hits = bench.memo.hits + batch.countP (· ∈ bench.memo.keys)
  misses_eq : after.memo.misses = bench.memo.misses + batch.countP (· ∉ bench.memo.keys)
  capacity_eq : after.memo.capacity = bench.memo.capacity

namespace Pool

variable {σ : Type} {width : Nat} {u : Universe} {evaluator : Evaluator σ} {batch : List FlagSet}
  {bench : Bench σ} {pool : Pool σ} {n : Nat} {outcomes : List String → Outcome}

theorem Tidy.own_key (tidy : pool.Tidy batch) (nodup : batch.Nodup) {place : Nat} {set : FlagSet}
    (ready : place ∈ pool.admitted) (there : batch[place]? = some set) :
    set ∉ pool.traffic.callers.map (·.key) := by
  intro called
  obtain ⟨caller, member, rfl⟩ := List.mem_map.1 called
  obtain ⟨i, at_⟩ := List.mem_iff_getElem?.1 member
  obtain ⟨other, same, there'⟩ := tidy.exists_place at_
  have inside := (List.getElem?_eq_some_iff.1 there).1
  obtain rfl := (List.getElem?_inj inside nodup).1 (there.trans there'.symm)
  exact tidy.fresh_of_admitted ready (List.mem_of_getElem? same)

theorem Reached.spread (publishes : evaluator.Publishes fun flags => .ok (outcomes flags))
    (within : bench.memo.Within bench.memo.capacity) (nodup : batch.Nodup)
    (fits : (bench.memo.keys ++ batch).toFinset.card ≤ bench.memo.capacity)
    (reached : Reached width u evaluator batch (ofBench bench) n pool) :
    pool.traffic.Spread bench.memo.keys (bench.memo.keys ++ batch).toFinset := by
  have known : ∀ set ∈ bench.memo.keys, set ∈ (bench.memo.keys ++ batch).toFinset :=
    fun set member => List.mem_toFinset.2 (List.mem_append_left _ member)
  induction reached with
  | start => exact Traffic.spread_quiet bench.memo _
  | @step n pool next before step ih =>
    have tidy := before.tidy
    obtain ⟨events, run, _⟩ := before.exists_run
    have sound := run.sound (Traffic.sound_quiet_of_within within)
    cases step with
    | takeUp free fresh there accepted => exact ih
    | refuse free fresh there refused => exact ih
    | enter ready there entered =>
      refine ih.step sound fits known entered ?_ ?_
      · rintro _ _ ⟨⟩
        have member := List.mem_append_right bench.memo.keys (List.mem_of_getElem? there)
        exact ⟨List.mem_toFinset.2 member, tidy.own_key nodup ready there⟩
      · rintro _ _ _ ⟨⟩
    | land resolved landed =>
      refine ih.step sound fits known landed ?_ ?_
      · rintro _ _ ⟨⟩
      · rintro _ _ _ ⟨⟩
        exact ⟨_, (Reply.published_caught _).trans (publishes.published_eq _ _)⟩
    | wake woke =>
      refine ih.step sound fits known woke ?_ ?_
      · rintro _ _ ⟨⟩
      · rintro _ _ _ ⟨⟩

theorem Calm.cached_iff {memo : Memo FlagSet} {capacity : Nat} {events : List (Event FlagSet)}
    {room : Finset FlagSet} (within : memo.Within capacity)
    (agrees : memo.Agrees fun set => .ok (outcomes (u.select set)))
    (calm : pool.Calm u outcomes memo events) (spread : pool.traffic.Spread memo.keys room)
    {place : Nat} {candidate : Scored} (found : pool.Found u place candidate) :
    candidate.cached ↔ candidate.set ∈ memo.keys := by
  obtain ⟨i, role, _, out, _⟩ := found
  have told := Ending.found.inj (calm.told_eq within agrees out)
  have mark : candidate.cached = role.leads?.isNone := congrArg Lookup.cached told
  rw [mark]
  exact spread.leads _ (List.mem_of_getElem? out)

theorem Reached.marks (publishes : evaluator.Publishes fun flags => .ok (outcomes flags))
    (lengths : ∀ set ∈ batch, set.length = u.size)
    (ready : bench.Ready u fun flags => .ok (outcomes flags)) (nodup : batch.Nodup)
    (fits : (bench.memo.keys ++ batch).toFinset.card ≤ bench.memo.capacity)
    (reached : Reached width u evaluator batch (ofBench bench) n pool)
    (finished : pool.Finished batch) {result : Except Halt (List Scored)}
    (yields : pool.Yields u batch result) :
    bench.Marks u outcomes batch result (pool.toBench bench) := by
  obtain ⟨events, calm⟩ := reached.calm publishes lengths ready.running
  have tidy := reached.tidy
  have sound := calm.sound ready.within
  have answered := calm.answered ready.within
  have spread := reached.spread publishes ready.within nodup fits
  have perm := calm.keys_perm ready.within ready.agrees tidy finished
  refine ⟨?_, fun set => ?_, ?_, ?_, sound.within.capacity_eq⟩
  · obtain ⟨scored, rfl, _⟩ := calm.yields_ok ready.within ready.agrees tidy lengths yields
    obtain ⟨sets, found⟩ := yields
    rw [← sets, List.map_map]
    refine congrArg Except.ok ((List.map_id scored).symm.trans (List.map_congr_left ?_))
    intro candidate member
    obtain ⟨place, at_⟩ := List.mem_iff_getElem?.1 member
    have marked := (calm.eq_marked ready.within ready.agrees tidy lengths (found at_)).2
    have cached := calm.cached_iff ready.within ready.agrees spread (found at_)
    rw [Function.comp_apply, ← decide_eq_decide.2 cached, Bool.decide_coe]
    exact marked
  · refine (spread.keys set).trans (or_congr_right ?_)
    rw [← perm.mem_iff, List.mem_map]
    exact exists_congr fun caller => and_congr_right fun member =>
      and_iff_left (finished.out caller member)
  · exact (spread.hits_eq answered finished.out).trans (congrArg _ (perm.countP_eq _))
  · exact (spread.misses_eq sound answered).trans (congrArg _ (perm.countP_eq _))

end Pool

theorem Scheduler.Pooled.marks {σ : Type} {width : Nat} {u : Universe} {evaluator : Evaluator σ}
    {outcomes : List String → Outcome} {scheduler : Scheduler σ} {batch : List FlagSet}
    {bench : Bench σ} (pooled : scheduler.Pooled width u evaluator)
    (publishes : evaluator.Publishes fun flags => .ok (outcomes flags))
    (lengths : ∀ set ∈ batch, set.length = u.size)
    (ready : bench.Ready u fun flags => .ok (outcomes flags)) (nodup : batch.Nodup)
    (fits : (bench.memo.keys ++ batch).toFinset.card ≤ bench.memo.capacity) :
    bench.Marks u outcomes batch (scheduler batch bench).1 (scheduler batch bench).2 := by
  obtain ⟨n, pool, reached, finished, yields, after⟩ := pooled batch bench
  rw [after]
  exact reached.marks publishes lengths ready nodup fits finished yields

end FlagSearch
