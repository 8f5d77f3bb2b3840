import FlagSearch.Proofs.Search.Course
import FlagSearch.Proofs.Search.Published

/-!
# Accepted settings

Settings without a problem leave two obstacles to a run: its starting set may not get scored, and
its trajectory may not fit into memory.

* `Settings.Accepted` — what settings without a problem promise to the run, and nothing more.
* `Settings.Accepted.exists_prepared` — its strategy and its memo are made.
* `Strategy.ofKind_entropy` — a run that is given its seed has no use for another one.
* `scored_of_publishes` — an evaluator that always gives outcomes scores the starting set.
* `exists_course_of_scored`, `runWith_of_no_room` — what the room for the trajectory decides.
-/

namespace FlagSearch

namespace Settings

structure Accepted (settings : Settings) (flags : Nat) : Prop where
  flags_pos : 0 < flags
  iterations_pos : 0 < settings.iterations
  poolWidth_pos : 0 < settings.poolWidth
  cacheCapacity_pos : 0 < settings.cacheCapacity
  strategy_fits : settings.strategyProblem? flags = none
  initial_fits : settings.initialProblem? flags = none

theorem accepted_of_validate {settings : Settings} {flags : Nat}
    (valid : settings.validate flags = .ok ()) : settings.Accepted flags := by
  have none : settings.problem? flags = none := by
    unfold validate at valid
    split at valid
    · cases valid
    next none => exact none
  unfold problem? at none
  split at none
  · cases none
  split at none
  · cases none
  split at none
  · cases none
  split at none
  · cases none
  next flags_pos iterations_pos poolWidth_pos cacheCapacity_pos =>
    cases strategy : settings.strategyProblem? flags with
    | some problem =>
      rw [strategy] at none
      cases none
    | none =>
      rw [strategy] at none
      exact ⟨by omega, by omega, by omega, by omega, strategy, none⟩

theorem Accepted.validate {settings : Settings} {flags : Nat} (accepted : settings.Accepted flags) :
    settings.validate flags = .ok () := by
  have none : settings.problem? flags = none := by
    rw [problem?, if_neg (Nat.ne_of_gt accepted.flags_pos),
      if_neg (Nat.ne_of_gt accepted.iterations_pos), if_neg (Nat.ne_of_gt accepted.poolWidth_pos),
      if_neg (Nat.ne_of_gt accepted.cacheCapacity_pos), accepted.strategy_fits,
      accepted.initial_fits]
    rfl
  rw [Settings.validate, none]

theorem Accepted.length_start {settings : Settings} {u : Universe}
    (accepted : settings.Accepted u.size) : (settings.initial.getD u.emptySet).length = u.size := by
  have fits := accepted.initial_fits
  unfold initialProblem? at fits
  cases given : settings.initial with
  | none => rfl
  | some set =>
    rw [given] at fits
    simp only at fits
    split at fits
    next length => exact length
    · cases fits

theorem Accepted.exists_prepared {settings : Settings} {flags : Nat}
    (accepted : settings.Accepted flags) (seed : UInt64) :
    ∃ strategy memo, Strategy.ofKind settings.strategy settings.tabuCapacity seed = .ok strategy ∧
      Memo.ofCapacity (κ := FlagSet) settings.cacheCapacity = .ok memo := by
  have fits := accepted.strategy_fits
  have sized : Memo.ofCapacity (κ := FlagSet) settings.cacheCapacity =
      .ok ⟨settings.cacheCapacity, [], 0, 0⟩ := by
    rw [Memo.ofCapacity, if_neg (Nat.ne_of_gt accepted.cacheCapacity_pos)]
  unfold strategyProblem? at fits
  cases kind : settings.strategy with
  | tabu => exact ⟨_, _, rfl, sized⟩
  | sweep => exact ⟨_, _, rfl, sized⟩
  | hillClimb given =>
    rw [kind] at fits
    have positive : given ≠ 0 := by
      rintro rfl
      simp at fits
    exact ⟨.hillClimb given ⟨seed⟩, _, if_neg positive, sized⟩

end Settings

/-! ## Seeds -/

theorem Strategy.ofKind_entropy {settings : Settings}
    (seeded : ∀ flips, settings.strategy = .hillClimb flips → settings.seed.isSome)
    (entropy entropy' : UInt64) :
    ofKind settings.strategy settings.tabuCapacity (settings.seed.getD entropy) =
      ofKind settings.strategy settings.tabuCapacity (settings.seed.getD entropy') := by
  cases kind : settings.strategy with
  | hillClimb flips =>
    obtain ⟨seed, given⟩ := Option.isSome_iff_exists.1 (seeded flips kind)
    rw [given]
    rfl
  | tabu => rfl
  | sweep => rfl

theorem Settings.prepare_entropy {settings : Settings}
    (seeded : ∀ flips, settings.strategy = .hillClimb flips → settings.seed.isSome) (flags : Nat)
    (entropy entropy' : UInt64) :
    settings.prepare flags entropy = settings.prepare flags entropy' := by
  rw [prepare, prepare, Strategy.ofKind_entropy seeded entropy entropy']

/-! ## Room for the trajectory -/

section Room

variable {σ : Type} {settings : Settings} {u : Universe} {evaluator : Evaluator σ}
  {scheduler : Scheduler σ} {entropy : UInt64} {world : σ}

theorem scored_of_publishes {answer : List String → Outcome}
    (publishes : evaluator.Publishes fun flags => .ok (answer flags))
    (valid : settings.validate u.size = .ok ()) (world : σ) :
    ∀ memo, Memo.ofCapacity settings.cacheCapacity = .ok memo → ∃ baseline bench,
      (Bench.ofWorld world memo).request u evaluator (settings.initial.getD u.emptySet) =
        (.ok baseline, bench) := fun _ sized =>
  Bench.exists_scored publishes ⟨rfl, Memo.agrees_of_ofCapacity sized⟩
    (Settings.accepted_of_validate valid).length_start

/-- A run that is accepted cannot score its start, or has no room for its trajectory, or has a
course. -/
theorem runWith_cases_of_valid (valid : settings.validate u.size = .ok ()) (evaluator : Evaluator σ)
    (scheduler : Scheduler σ) (entropy : UInt64) (world : σ) :
    ∃ memo : Memo FlagSet, Memo.ofCapacity settings.cacheCapacity = .ok memo ∧
      ((∃ (halt : Halt) (bench : Bench σ), (Bench.ofWorld world memo).request u evaluator
          (settings.initial.getD u.emptySet) = (.error halt, bench) ∧
        runWith settings u evaluator scheduler entropy world = (.ofHalt halt, bench.world)) ∨
      (∃ (fault : Fault) (bench : Bench σ),
        reserve settings.iterations trajectorySlot = .error fault ∧
        runWith settings u evaluator scheduler entropy world = (.fault fault, bench.world)) ∨
      Nonempty (Course settings u evaluator scheduler entropy world)) := by
  obtain ⟨strategy, memo, chosen, sized⟩ :=
    (Settings.accepted_of_validate valid).exists_prepared (settings.seed.getD entropy)
  exact ⟨memo, sized, runWith_cases_of_prepared valid chosen sized evaluator scheduler world⟩

theorem exists_course_of_scored (valid : settings.validate u.size = .ok ())
    (scored : ∀ memo, Memo.ofCapacity settings.cacheCapacity = .ok memo → ∃ baseline bench,
      (Bench.ofWorld world memo).request u evaluator (settings.initial.getD u.emptySet) =
        (.ok baseline, bench))
    (room : settings.iterations * trajectorySlot ≤ maxBlock) :
    Nonempty (Course settings u evaluator scheduler entropy world) := by
  obtain ⟨strategy, memo, chosen, sized⟩ :=
    (Settings.accepted_of_validate valid).exists_prepared (settings.seed.getD entropy)
  obtain ⟨baseline, bench, scored⟩ := scored memo sized
  exact ⟨strategy, memo, baseline, bench, _, _, valid, chosen, sized, scored, if_pos room, rfl⟩

theorem runWith_of_no_room (valid : settings.validate u.size = .ok ())
    (scored : ∀ memo, Memo.ofCapacity settings.cacheCapacity = .ok memo → ∃ baseline bench,
      (Bench.ofWorld world memo).request u evaluator (settings.initial.getD u.emptySet) =
        (.ok baseline, bench))
    (full : maxBlock < settings.iterations * trajectorySlot) :
    (runWith settings u evaluator scheduler entropy world).1 = .fault .capacityOverflow := by
  obtain ⟨strategy, memo, chosen, sized⟩ :=
    (Settings.accepted_of_validate valid).exists_prepared (settings.seed.getD entropy)
  obtain ⟨baseline, bench, scored⟩ := scored memo sized
  have refused : reserve settings.iterations trajectorySlot = .error .capacityOverflow :=
    if_neg (by omega)
  rw [runWith_of_prepared valid chosen sized, scored]
  exact congrArg Prod.fst (runFrom_of_full refused)

end Room

end FlagSearch
