import FlagSearch.Proofs.Memo.Truth
import FlagSearch.Proofs.Pool.Lawful
import FlagSearch.Proofs.Search.Plain

/-!
# A pool whose evaluator is a function of the flags

If the evaluator is a function of the flags and always comes to an outcome, the order that the
workers find has no say in what a batch comes to: every candidate is scored by the function, and the
results come in the order of the batch.

* `Pool.Calm` — nobody is turned away, and every landing is one of the function.
* `Pool.Calm.exists_step` — the workers never get stuck before they are done.
* `Pool.Calm.exists_yields`, `Pool.Calm.yields_ok` — when they are, the batch comes to one result
  for each candidate, scored by the function.
* `Scheduler.Pooled.answers` — so pools are among the schedulers that answer by the function.
-/

namespace FlagSearch

def Universe.marked (u : Universe) (outcomes : List String → Outcome) (cached : Bool)
    (set : FlagSet) : Scored :=
  ⟨set, u.select set, outcomes (u.select set), cached⟩

theorem Universe.scoreAll_eq (u : Universe) (outcomes : List String → Outcome)
    (batch : List FlagSet) :
    u.scoreAll (fun flags => .ok (outcomes flags)) batch =
      .ok (batch.map (u.marked outcomes false)) := by
  induction batch with
  | nil => rfl
  | cons set rest ih =>
    rw [scoreAll, ih]
    rfl

namespace Pool

variable {σ : Type} {width : Nat} {u : Universe} {evaluator : Evaluator σ} {batch : List FlagSet}
  {bench : Bench σ} {pool : Pool σ} {n : Nat} {outcomes : List String → Outcome}

/-- Nobody was turned away, and to the memo the workers are a run of its traffic in which every
landing is one of the function. -/
structure Calm (u : Universe) (outcomes : List String → Outcome) (memo : Memo FlagSet)
    (pool : Pool σ) (events : List (Event FlagSet)) : Prop where
  running : pool.cancelled = false
  refused_eq : pool.refused = []
  run : Traffic.Run (.quiet memo) events pool.traffic
  truthful : Traffic.Truthful (fun set => outcomes (u.select set)) events

theorem Reached.calm (publishes : evaluator.Publishes fun flags => .ok (outcomes flags))
    (lengths : ∀ set ∈ batch, set.length = u.size) (running : bench.cancelled = false)
    (reached : Reached width u evaluator batch (ofBench bench) n pool) :
    ∃ events, pool.Calm u outcomes bench.memo events := by
  have quiet := reached.quiet publishes.steady lengths running
  obtain ⟨events, run, called⟩ := reached.exists_run
  refine ⟨events, quiet.1, quiet.2, run, fun event member set flight reply acted => ?_⟩
  obtain ⟨flags, world, resolved, rfl⟩ := called event member set flight reply acted
  rw [Universe.flags_eq_select resolved]
  exact Reply.caught_eq_outcome (publishes.published_eq _ _)

namespace Calm

variable {events : List (Event FlagSet)} {memo : Memo FlagSet} {capacity : Nat}

theorem sound (calm : pool.Calm u outcomes memo events) (within : memo.Within capacity) :
    pool.traffic.Sound capacity :=
  calm.run.sound (Traffic.sound_quiet_of_within within)

theorem answered (calm : pool.Calm u outcomes memo events) (within : memo.Within capacity) :
    pool.traffic.Answered memo events := by
  have answered := (Traffic.answered_quiet memo).run (Traffic.sound_quiet_of_within within) calm.run
  rwa [List.nil_append] at answered

theorem holds (calm : pool.Calm u outcomes memo events)
    (agrees : memo.Agrees fun set => .ok (outcomes (u.select set))) :
    pool.traffic.Holds fun set => outcomes (u.select set) :=
  (Traffic.holds_quiet agrees).run calm.run calm.truthful

/-! ## Progress -/

theorem exists_step (wide : 0 < width)
    (publishes : evaluator.Publishes fun flags => .ok (outcomes flags))
    (lengths : ∀ set ∈ batch, set.length = u.size) (within : memo.Within capacity)
    (agrees : memo.Agrees fun set => .ok (outcomes (u.select set))) (tidy : pool.Tidy batch)
    (calm : pool.Calm u outcomes memo events) :
    pool.Finished batch ∨ ∃ next, Step width u evaluator batch pool next := by
  by_cases idle : pool.admitted = []
  case neg =>
    obtain ⟨place, ready⟩ := List.exists_mem_of_ne_nil _ idle
    have inside := tidy.inside place (List.mem_append_left _ ready)
    exact .inr ⟨_, .enter ready (List.getElem?_eq_getElem inside) (.enter _ _)⟩
  by_cases out : ∀ caller ∈ pool.traffic.callers, caller.ending.isSome
  case neg =>
    simp only [not_forall, Option.not_isSome_iff_eq_none] at out
    obtain ⟨⟨key, role, _⟩, member, rfl⟩ := out
    obtain ⟨i, waiting⟩ := List.mem_iff_getElem?.1 member
    rcases (calm.answered within).exists_step_of_waiting (calm.holds agrees) waiting with
      ⟨j, flight, leading⟩ | ⟨flight, traffic, woke⟩
    · obtain ⟨place, _, there⟩ := tidy.exists_place leading
      have length := lengths key (List.mem_of_getElem? there)
      exact .inr ⟨_, .land (Universe.resolve_eq length) (.land _ leading)⟩
    · exact .inr ⟨_, .wake woke⟩
  by_cases all : ∀ place < batch.length, place ∈ pool.taken
  case neg =>
    simp only [not_forall] at all
    obtain ⟨place, inside, fresh⟩ := all
    have there := List.getElem?_eq_getElem inside
    have accepted := refusal?_check publishes.steady calm.running
      (lengths _ (List.mem_of_getElem? there))
    exact .inr ⟨_, .takeUp (busy_eq_zero idle out ▸ wide) fresh there accepted⟩
  exact .inl ⟨idle, out, .inr all⟩

/-! ## Results -/

section Results

variable (within : memo.Within capacity)
  (agrees : memo.Agrees fun set => .ok (outcomes (u.select set)))
  (calm : pool.Calm u outcomes memo events)

include within agrees calm

theorem told_eq {i : Nat} {set : FlagSet} {role : Role} {told : Ending}
    (out : pool.traffic.callers[i]? = some ⟨set, role, some told⟩) :
    told = .found ⟨outcomes (u.select set), role.leads?.isNone⟩ :=
  calm.run.told_answer within agrees calm.truthful out

theorem not_failed : ¬ pool.Failed := by
  rintro (refused | ⟨⟨set, role, _⟩, member, e, rfl⟩)
  · exact refused calm.refused_eq
  · obtain ⟨i, out⟩ := List.mem_iff_getElem?.1 member
    cases calm.told_eq within agrees out

variable (tidy : pool.Tidy batch)

include tidy

theorem places_perm (finished : pool.Finished batch) :
    pool.places.Perm (List.range batch.length) := by
  have all := finished.all.resolve_left (calm.not_failed within agrees)
  have taken : pool.taken = pool.places := by
    simp [Pool.taken, finished.admitted_eq, calm.refused_eq]
  exact tidy.places_perm (taken ▸ all)

theorem keys_perm (finished : pool.Finished batch) :
    (pool.traffic.callers.map (·.key)).Perm batch := by
  have perm := (calm.places_perm within agrees tidy finished).map (batch[·]?)
  have whole : (List.range batch.length).map (batch[·]?) = batch.map some := by
    refine List.ext_getElem (by simp) fun place _ _ => ?_
    simp
  rw [tidy.keys_eq, whole] at perm
  simpa [List.filterMap_map] using perm.filterMap id

variable (lengths : ∀ set ∈ batch, set.length = u.size)

include lengths

theorem eq_marked {place : Nat} {candidate : Scored} (found : pool.Found u place candidate) :
    batch[place]? = some candidate.set ∧
      candidate = u.marked outcomes candidate.cached candidate.set := by
  obtain ⟨i, role, called, out, resolved⟩ := found
  obtain ⟨_, same, there⟩ := tidy.exists_place out
  cases called.symm.trans same
  rw [Universe.resolve_eq (lengths _ (List.mem_of_getElem? there))] at resolved
  have told := calm.told_eq within agrees out
  obtain ⟨set, flags, outcome, cached⟩ := candidate
  obtain rfl : u.select set = flags := Except.ok.inj resolved
  obtain rfl : outcome = outcomes (u.select set) := congrArg Lookup.outcome (Ending.found.inj told)
  exact ⟨there, rfl⟩

theorem exists_found (finished : pool.Finished batch) {place : Nat} {set : FlagSet}
    (there : batch[place]? = some set) :
    ∃ cached, pool.Found u place (u.marked outcomes cached set) := by
  have inside := List.mem_range.2 (List.getElem?_eq_some_iff.1 there).1
  have called := (calm.places_perm within agrees tidy finished).mem_iff.2 inside
  obtain ⟨i, called⟩ := List.mem_iff_getElem?.1 called
  obtain ⟨role, ending, caller⟩ := tidy.exists_caller called there
  obtain ⟨told, rfl⟩ := Option.isSome_iff_exists.1
    (finished.out _ (List.mem_of_getElem? caller))
  have length := lengths set (List.mem_of_getElem? there)
  obtain rfl := calm.told_eq within agrees caller
  exact ⟨_, i, role, called, caller, Universe.resolve_eq length⟩

theorem exists_yields (finished : pool.Finished batch) :
    ∃ scored, pool.Yields u batch (.ok scored) := by
  have each : ∀ place, ∃ cached, ∀ set, batch[place]? = some set →
      pool.Found u place (u.marked outcomes cached set) := by
    intro place
    cases there : batch[place]? with
    | none => exact ⟨false, by simp⟩
    | some set =>
      obtain ⟨cached, found⟩ := calm.exists_found within agrees tidy lengths finished there
      exact ⟨cached, fun _ same => Option.some.inj same ▸ found⟩
  choose cached found using each
  refine ⟨batch.mapIdx fun place => u.marked outcomes (cached place), .scored ?_ ?_⟩
  · refine List.ext_getElem? fun place => ?_
    simp [List.getElem?_mapIdx, Universe.marked, Function.comp_def]
  · intro place candidate at_
    rw [List.getElem?_mapIdx] at at_
    obtain ⟨set, there, rfl⟩ := Option.map_eq_some_iff.1 at_
    exact found place set there

theorem yields_ok {result : Except Halt (List Scored)} (yields : pool.Yields u batch result) :
    ∃ scored, result = .ok scored ∧
      scored.map Scored.unmarked = batch.map (u.marked outcomes false) := by
  cases yields with
  | @scored scored sets found =>
    refine ⟨scored, rfl, ?_⟩
    rw [← sets, List.map_map]
    refine List.map_congr_left fun candidate member => ?_
    obtain ⟨place, at_⟩ := List.mem_iff_getElem?.1 member
    have same := (calm.eq_marked within agrees tidy lengths (found at_)).2
    rw [same]
    rfl
  | refused refused =>
    exact (calm.not_failed within agrees (.inl (List.ne_nil_of_mem refused))).elim
  | failed called failed =>
    exact (calm.not_failed within agrees (.inr ⟨_, called, _, failed⟩)).elim

end Results

end Calm

end Pool

theorem Scheduler.Pooled.answers {σ : Type} {width : Nat} {u : Universe} {evaluator : Evaluator σ}
    {outcomes : List String → Outcome} {scheduler : Scheduler σ}
    (pooled : scheduler.Pooled width u evaluator)
    (publishes : evaluator.Publishes fun flags => .ok (outcomes flags)) :
    Scheduler.Answers u (fun flags => .ok (outcomes flags)) scheduler where
  toKeepsLog := pooled.keepsLog
  ready {batch bench} lengths ready := by
    obtain ⟨n, pool, reached, _, _, after⟩ := pooled batch bench
    obtain ⟨events, calm⟩ := reached.calm publishes lengths ready.running
    have within := (calm.sound ready.within).within
    rw [after]
    exact ⟨⟨calm.running, (calm.holds ready.agrees).agrees⟩, within.capacity_eq.symm ▸ within⟩
  answers {batch bench} lengths ready := by
    obtain ⟨n, pool, reached, _, yields, _⟩ := pooled batch bench
    obtain ⟨events, calm⟩ := reached.calm publishes lengths ready.running
    obtain ⟨scored, same, unmarked⟩ :=
      calm.yields_ok ready.within ready.agrees reached.tidy lengths yields
    rw [same, Universe.scoreAll_eq, Except.map, unmarked]

end FlagSearch
