import FlagSearch.Proofs.FlagSet.Distance
import FlagSearch.Proofs.Pool.Lawful
import FlagSearch.Proofs.Pool.Serial
import FlagSearch.Proofs.Search.Climbing
import FlagSearch.Proofs.Tabu.Reference
import Mathlib.Data.Fintype.BigOperators
import Mathlib.Data.List.Chain

/-!
# How long a tabu search stays away from where it was

A tabu search moves by single flips, and it comes back to a set only after it has forgotten it: as
many sets as it remembers, and the one it moves to, are always different.  There are `2 ^ n` sets
over `n` flags, so a search that forgets nothing has no move left after fewer steps than that.

* `FlagSet.hamming_of_mem_flips`, `FlagSet.length_le_two_pow` — flips, and how many sets there are.
* `Trail.nodup_window` — the sets in a window of the trail are different.
* `Walk.Reached.exists_trail` — the trail of a walk, with the walks along it.
* `Scheduler.Pooled.exists_scored` — a pool scores what its evaluator does.
* `tabu_run_selfAvoiding` — runs.
-/

namespace FlagSearch

/-! ## Sets -/

namespace FlagSet

variable {set other : FlagSet}

theorem hamming_of_mem_flips (flip : other ∈ set.flips) : set.hamming other = .ok 1 := by
  obtain ⟨i, inside, rfl⟩ := mem_flips.1 flip
  have turned : set.flipAll [i] = .ok (set.toggle i) := by
    simp [flipAll, FlagSet.flip, inside]
  exact hamming_flipAll turned (List.nodup_singleton i) (by simpa using inside)

theorem length_le_two_pow {flags : Nat} {sets : List FlagSet} (nodup : sets.Nodup)
    (lengths : ∀ set ∈ sets, set.length = flags) : sets.length ≤ 2 ^ flags := by
  have different : (sets.map fun set (i : Fin flags) => set.bit i).Nodup := by
    refine nodup.map_on fun set member other member' same => ?_
    have length := lengths set member
    refine ext_bit (length.trans (lengths other member').symm) fun i => ?_
    by_cases inside : i < flags
    · exact congrFun same ⟨i, inside⟩
    · rw [set.bit_eq_false_of_length_le (by omega),
        other.bit_eq_false_of_length_le (lengths other member' ▸ Nat.not_lt.1 inside)]
  simpa using different.length_le_card

end FlagSet

/-! ## Trails -/

namespace Trail

variable {capacity : Nat} {current : FlagSet} {visited later earlier : List FlagSet}

theorem of_cons (trail : Trail capacity (current :: visited)) (some : visited ≠ []) :
    Trail capacity visited := by
  cases trail with
  | start => exact absurd rfl some
  | move before untried => exact before

theorem of_append (trail : Trail capacity (later ++ visited)) (some : visited ≠ []) :
    Trail capacity visited := by
  induction later with
  | nil => exact trail
  | cons latest later ih => exact ih (trail.of_cons (by simp [some]))

theorem nodup_take_succ (trail : Trail capacity visited) : (visited.take (capacity + 1)).Nodup := by
  cases trail with
  | start set => exact (List.nodup_singleton set).sublist (List.take_sublist _ _)
  | move before untried =>
    rw [List.take_succ_cons]
    exact List.nodup_cons.2 ⟨not_mem_of_mem_openMoves untried, before.nodup_take⟩

theorem nodup_window (trail : Trail capacity visited) (place : Nat) :
    ((visited.drop place).take (capacity + 1)).Nodup := by
  by_cases none : visited.drop place = []
  · simp [none]
  · rw [← List.take_append_drop place visited] at trail
    exact (trail.of_append none).nodup_take_succ

theorem nodup_window_reverse (trail : Trail capacity visited) (place : Nat) :
    ((visited.reverse.drop place).take (capacity + 1)).Nodup := by
  rw [List.drop_reverse, List.take_reverse, List.nodup_reverse, List.drop_take]
  refine (trail.nodup_window _).sublist (List.take_sublist_take_left ?_)
  rw [List.length_take]
  omega

theorem length_of_mem (trail : Trail capacity (current :: earlier)) :
    ∀ set ∈ current :: earlier, set.length = current.length := by
  have chain := trail.isChain_flips
  induction earlier generalizing current with
  | nil => simp
  | cons before earlier ih =>
    obtain ⟨flip, chain⟩ := List.isChain_cons_cons.1 chain
    have same := FlagSet.length_of_mem_flips flip
    refine List.forall_mem_cons.2 ⟨rfl, fun set member => ?_⟩
    exact (ih (trail.of_cons (List.cons_ne_nil _ _)) chain set member).trans same.symm

theorem length_le_two_pow (trail : Trail capacity (current :: earlier))
    (remembered : earlier.length ≤ capacity) :
    (current :: earlier).length ≤ 2 ^ current.length := by
  have whole := trail.nodup_take_succ
  rw [List.take_of_length_le (Nat.succ_le_succ remembered)] at whole
  exact FlagSet.length_le_two_pow whole trail.length_of_mem

end Trail

/-! ## Walks -/

section Walks

variable {σ : Type} {u : Universe} {evaluator : Evaluator σ} {scheduler : Scheduler σ}
  {capacity flags width n : Nat} {visited : List FlagSet} {start walk : Walk σ}

theorem Walk.Reached.exists_trail (lawful : scheduler.Lawful evaluator) (some : 0 < flags)
    (reached : Reached u evaluator scheduler start n walk)
    (begins : start.stage.Trails capacity flags [start.stage.position.current.set]) :
    ∃ visited, visited.length = n + 1 ∧ walk.stage.Trails capacity flags visited ∧
      ∀ m ≤ n, ∃ passed, Reached u evaluator scheduler start m passed ∧
        passed.stage.Trails capacity flags (visited.drop (n - m)) := by
  induction reached with
  | start =>
    refine ⟨_, rfl, begins, fun m none => ?_⟩
    obtain rfl := Nat.le_zero.1 none
    exact ⟨start, .start, begins⟩
  | @step n walk next before done ih =>
    obtain ⟨visited, length, trails, passed⟩ := ih
    obtain ⟨batch, completes, _⟩ := step_ok done
    obtain ⟨_, trails, _⟩ := completes.trails lawful some trails.entering
    refine ⟨_, by rw [List.length_cons, length], trails, fun m inside => ?_⟩
    rcases Nat.le_succ_iff.1 inside with earlier | rfl
    · rw [Nat.succ_sub earlier, List.drop_succ_cons]
      exact passed m earlier
    · rw [Nat.sub_self, List.drop_zero]
      exact ⟨next, before.step done, trails⟩

/-- The tabu list holds where the search stands, and as many sets as there are, up to its
capacity. -/
theorem Stage.Trails.exists_list {stage : Stage σ}
    (trails : stage.Trails capacity flags visited) (remembering : 0 < capacity) :
    ∃ list, stage.strategy = .tabu list ∧ list.Coherent ∧
      list.contains stage.position.current.set = true ∧
      list.size = min capacity visited.length := by
  obtain ⟨list, tabu, remembers⟩ := trails.memory
  obtain ⟨earlier, stands⟩ := trails.stands
  refine ⟨list, tabu, remembers.coherent, (remembers.contains_iff _).2 ?_, ?_⟩
  · obtain ⟨less, rfl⟩ := Nat.exists_eq_succ_of_ne_zero (Nat.ne_of_gt remembering)
    rw [stands, List.take_succ_cons]
    exact List.mem_cons_self
  · rw [TabuList.size, remembers.queue_eq, List.length_reverse, List.length_take]

/-! ## Pools -/

theorem Scheduler.Pooled.exists_scored (pooled : scheduler.Pooled width u evaluator)
    (unfailing : evaluator.Unfailing) {batch : List FlagSet}
    (lengths : ∀ set ∈ batch, set.length = u.size) {bench : Bench σ}
    (running : bench.cancelled = false) :
    ∃ scored after, scheduler batch bench = (.ok scored, after) ∧ after.cancelled = false := by
  obtain ⟨_, pool, reached, _, yields, left⟩ := pooled batch bench
  obtain ⟨still, none⟩ := reached.quiet unfailing.steady lengths running
  cases answer : scheduler batch bench with
  | mk result after =>
    rw [answer] at yields left
    cases yields with
    | scored sets found =>
      obtain rfl : after = pool.toBench bench := left
      exact ⟨_, _, rfl, still⟩
    | refused refused =>
      rw [none] at refused
      cases refused
    | failed called failed =>
      have candid := reached.candid.callers _ called
      rw [Caller.Candid, failed] at candid
      obtain ⟨flags, world, came⟩ := candid
      exact absurd came (unfailing.scores flags world _)

theorem Stage.Trails.running_of_advance (pooled : scheduler.Pooled width u evaluator)
    (unfailing : evaluator.Unfailing) (some : 0 < u.size) {before after : Stage σ}
    (trails : before.Trails capacity u.size visited) (running : before.bench.cancelled = false)
    {result : Except Halt Unit}
    (advanced : before.advance u evaluator scheduler = (result, after)) :
    (result = .ok () ∧ after.bench.cancelled = false) ∨
      (openMoves capacity visited = [] ∧
        result = .error (.error (.noAvailableMove before.bench.step))) := by
  obtain ⟨scored, bench, answer, still⟩ := pooled.exists_scored unfailing
    (fun set move => trails.length_of_mem move) running
  cases result with
  | error halt =>
    rcases trails.error_cases pooled.lawful some advanced with ⟨closed, rfl⟩ | ⟨bench', refused⟩
    · exact .inr ⟨closed, rfl⟩
    · cases answer.symm.trans refused
  | ok _ =>
    obtain ⟨sets, batch, bench', chosen, scored', rfl⟩ := advance_ok pooled.lawful advanced
    obtain rfl := trails.eq_of_tries some chosen
    rw [trails.scorer_eq] at scored'
    cases answer.symm.trans scored'
    exact .inl ⟨rfl, (Bench.recordAll_cancelled ..).trans still⟩

theorem Walk.Reached.running (pooled : scheduler.Pooled width u evaluator)
    (unfailing : evaluator.Unfailing) (some : 0 < u.size)
    (reached : Reached u evaluator scheduler start n walk)
    (begins : start.stage.Trails capacity u.size [start.stage.position.current.set])
    (running : start.stage.bench.cancelled = false) : walk.stage.bench.cancelled = false := by
  induction reached with
  | start => exact running
  | @step n walk next before done ih =>
    obtain ⟨visited, _, trails⟩ := before.trails pooled.lawful some begins
    have entered : (walk.entering (n + 1)).Trails capacity u.size visited := trails.entering
    rcases entered.running_of_advance pooled unfailing some ih (advance_of_step done).1 with
      ⟨_, still⟩ | ⟨_, failed⟩
    · exact still
    · cases failed

end Walks

/-! ## Runs -/

section Runs

variable {σ : Type} {settings : Settings} {u : Universe} {evaluator : Evaluator σ}
  {scheduler : Scheduler σ} {width : Nat} {entropy : UInt64} {world : σ}

namespace Course

variable (course : Course settings u evaluator scheduler entropy world)

theorem exists_reached :
    ∃ walk, Walk.Reached u evaluator scheduler course.start course.completed walk := by
  rcases course.cases with ⟨_, _, reached⟩ | ⟨before, _, _, reached, _⟩
  · exact ⟨_, reached⟩
  · exact ⟨before, reached⟩

theorem completed_lt_two_pow (lawful : scheduler.Lawful evaluator)
    (tabu : settings.strategy = .tabu)
    (unforgetting : settings.iterations ≤ settings.tabuCapacity) :
    course.completed < 2 ^ u.size := by
  obtain ⟨walk, reached⟩ := course.exists_reached
  have some := course.accepted.flags_pos
  obtain ⟨visited, length, trails⟩ := reached.trails lawful some (course.trails_start tabu)
  obtain ⟨earlier, rfl⟩ := trails.stands
  have few := course.completed_le
  have count := trails.trail.length_le_two_pow
    (by rw [List.length_cons] at length; omega)
  rw [trails.length_eq, length] at count
  exact count

/-- If it has more steps to take than there are sets, and the evaluator scores whatever it is asked
for, it runs out of moves. -/
theorem halt_of_unfailing (pooled : scheduler.Pooled width u evaluator)
    (unfailing : evaluator.Unfailing) (tabu : settings.strategy = .tabu)
    (unforgetting : settings.iterations ≤ settings.tabuCapacity)
    (enough : 2 ^ u.size ≤ settings.iterations) :
    course.halt = some (.error (.noAvailableMove (course.completed + 1))) := by
  have some := course.accepted.flags_pos
  have begins := course.trails_start tabu
  have few := course.completed_lt_two_pow pooled.lawful tabu unforgetting
  have goes : course.start.stage.bench.cancelled = false := by
    have free : (Bench.ofWorld world course.memo).cancelled = false := rfl
    obtain ⟨_, bench, scored, running⟩ :=
      Bench.exists_request unfailing free course.accepted.length_start
    cases course.scored.symm.trans scored
    exact running
  rcases course.cases with ⟨_, all, _⟩ | ⟨before, stop, _, reached, failed, halted⟩
  · omega
  · obtain ⟨visited, _, trails⟩ := reached.trails pooled.lawful some begins
    have running := reached.running pooled unfailing some begins goes
    have entered : (before.entering (course.completed + 1)).Trails settings.tabuCapacity u.size
        visited := trails.entering
    rcases entered.running_of_advance pooled unfailing some running (Walk.step_error failed).1 with
      ⟨done, _⟩ | ⟨_, closed⟩
    · cases done
    · rw [halted, Except.error.inj closed]
      rfl

end Course

/-- A tabu search that remembers something moves from set to set by turning one position over.  Any
set that it comes to differs from as many of the sets before it as its list has room for; its list
holds the set it stands at, and as many sets as it has been to, up to its capacity.  So a search
that forgets nothing takes fewer steps than there are sets, whatever it is told; and if its budget
is larger, no one stops it and its trajectory fits, it ends because no move is left.  Without the
room, it is abandoned before its first step. -/
theorem tabu_run_selfAvoiding (pooled : scheduler.Pooled width u evaluator)
    (tabu : settings.strategy = .tabu) (remembering : 0 < settings.tabuCapacity)
    (entropy : UInt64) (world : σ) :
    (∀ course : Course settings u evaluator scheduler entropy world, ∃ states : List FlagSet,
      states.length = course.completed + 1 ∧
      (∀ n ≤ course.completed, ∃ walk list,
        Walk.Reached u evaluator scheduler course.start n walk ∧
        states[n]? = some walk.stage.position.current.set ∧
        walk.stage.strategy = .tabu list ∧ list.Coherent ∧
        list.contains walk.stage.position.current.set = true ∧
        list.size = min settings.tabuCapacity (n + 1)) ∧
      states.IsChain (fun before after => before.hamming after = .ok 1) ∧
      (∀ place, ((states.drop place).take (settings.tabuCapacity + 1)).Nodup) ∧
      (settings.iterations ≤ settings.tabuCapacity → course.completed ≤ 2 ^ u.size - 1)) ∧
    (evaluator.Unfailing → settings.validate u.size = .ok () →
      settings.iterations ≤ settings.tabuCapacity → 2 ^ u.size ≤ settings.iterations →
      (settings.iterations * trajectorySlot ≤ maxBlock → ∃ step report, step ≤ 2 ^ u.size ∧
        (runWith settings u evaluator scheduler entropy world).1 =
          .aborted (.noAvailableMove step) (some report) ∧ report.stepsCompleted + 1 = step) ∧
      (maxBlock < settings.iterations * trajectorySlot →
        (runWith settings u evaluator scheduler entropy world).1 = .fault .capacityOverflow)) := by
  have lawful := pooled.lawful
  refine ⟨fun course => ?_, fun unfailing valid unforgetting enough => ⟨fun room => ?_, ?_⟩⟩
  · have some := course.accepted.flags_pos
    obtain ⟨walk, reached⟩ := course.exists_reached
    obtain ⟨visited, length, trails, passed⟩ :=
      reached.exists_trail lawful some (course.trails_start tabu)
    refine ⟨visited.reverse, by rw [List.length_reverse, length], fun n inside => ?_, ?_,
      trails.trail.nodup_window_reverse, fun unforgetting => ?_⟩
    · obtain ⟨walk, reached, trails⟩ := passed n inside
      obtain ⟨list, tabu, coherent, held, size⟩ := trails.exists_list remembering
      obtain ⟨earlier, stands⟩ := trails.stands
      refine ⟨walk, list, reached, ?_, tabu, coherent, held, ?_⟩
      · have place := congrArg (·[0]?) stands
        rw [List.getElem?_reverse (by omega), length]
        simpa [Nat.add_sub_cancel] using place
      · rw [size, List.length_drop, length]
        congr 1
        omega
    · rw [List.isChain_reverse]
      exact trails.trail.isChain_flips.imp fun _ _ => FlagSet.hamming_of_mem_flips
    · exact Nat.le_sub_one_of_lt (course.completed_lt_two_pow lawful tabu unforgetting)
  · have nonempty : Nonempty (Course settings u evaluator scheduler entropy world) :=
      exists_course_of_scored valid
        (fun memo _ => exists_scored_of_unfailing unfailing valid world memo) room
    obtain ⟨course⟩ := nonempty
    have halted := course.halt_of_unfailing pooled unfailing tabu unforgetting enough
    refine ⟨course.completed + 1, course.walk.report evaluator settings course.baseline
      (some (.noAvailableMove (course.completed + 1))),
      course.completed_lt_two_pow lawful tabu unforgetting, ?_, rfl⟩
    rw [course.runWith_eq, halted]
    rfl
  · exact runWith_of_no_room valid
      fun memo _ => exists_scored_of_unfailing unfailing valid world memo

def retentive (iterations : Nat) : Settings :=
  { Settings.tabu with iterations, tabuCapacity := iterations }

/-- Two flags and a budget of seven steps. -/
theorem tabu_run_selfAvoiding_wavering :
    ∃ step report, step ≤ 4 ∧ (run (retentive 7) flagPair wavering 0 []).1 =
      .aborted (.noAvailableMove step) (some report) ∧ report.stepsCompleted + 1 = step := by
  have pooled := Bench.requestAll_pooled Nat.one_pos flagPair wavering
  have tabu : (retentive 7).strategy = .tabu := rfl
  have valid : (retentive 7).validate flagPair.size = .ok () := by decide
  exact ((tabu_run_selfAvoiding pooled tabu (by decide) 0 []).2 wavering_unfailing valid
    (by decide) (by decide)).1 (by decide)

/-- A search over one flag with two sets to go to, a list that has room for both of them and
settings that are accepted does not get to say that no move is left if its budget is too large for
memory. -/
theorem unforgetting_run_without_room :
    (retentive (Nat.pow 2 59)).validate flagAlone.size = .ok () ∧ wavering.Unfailing ∧
      (retentive (Nat.pow 2 59)).iterations ≤ (retentive (Nat.pow 2 59)).tabuCapacity ∧
      2 ^ flagAlone.size ≤ (retentive (Nat.pow 2 59)).iterations ∧
      (run (retentive (Nat.pow 2 59)) flagAlone wavering 0 []).1 = .fault .capacityOverflow ∧
      ∀ step seen, (run (retentive (Nat.pow 2 59)) flagAlone wavering 0 []).1 ≠
        .aborted (.noAvailableMove step) seen := by
  have faulted : (run (retentive (Nat.pow 2 59)) flagAlone wavering 0 []).1 =
      .fault .capacityOverflow := by decide
  refine ⟨by decide, wavering_unfailing, Nat.le_refl _, by decide, faulted, ?_⟩
  intro step seen reported
  rw [faulted] at reported
  cases reported

end Runs

end FlagSearch
