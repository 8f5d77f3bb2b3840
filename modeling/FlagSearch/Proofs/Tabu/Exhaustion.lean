import FlagSearch.Proofs.Search.Standing
import FlagSearch.Proofs.Tabu.Reference
import Mathlib.Data.List.Chain
import Mathlib.Data.List.Perm.Subperm

/-!
# When a tabu search runs out of moves

A search stops with no move left only if it remembers every single flip of where it stands.
Successive sets differ in parity, so only every second set of the trail can be such a flip: with
`n` flags the search must remember, and must have visited, at least `2 * n` sets.

* `Trail.two_mul_length_le` — the count, for any trail.
* `two_mul_size_le_of_noAvailableMove` — the count, for any run.
-/

namespace FlagSearch

/-! ## Every second set of a trail -/

/-- The elements of a list at odd places, the head being at place zero. -/
def oddPlaces {α : Type} : List α → List α
  | [] => []
  | [_] => []
  | _ :: second :: rest => second :: oddPlaces rest

theorem two_mul_length_oddPlaces {α : Type} : ∀ items : List α,
    2 * (oddPlaces items).length ≤ items.length
  | [] => by simp [oddPlaces]
  | [_] => by simp [oddPlaces]
  | _ :: _ :: rest => by
    have ih := two_mul_length_oddPlaces rest
    simp only [oddPlaces, List.length_cons]
    omega

/-- In a list whose parities alternate, whatever differs in parity from the head is at an odd
place. -/
theorem mem_oddPlaces : ∀ {current : FlagSet} {earlier : List FlagSet} {set : FlagSet},
    (current :: earlier).IsChain (fun later earlier => later.parity = !earlier.parity) →
    set ∈ current :: earlier → set.parity = !current.parity → set ∈ oddPlaces (current :: earlier)
  | current, [], set, _, member, opposite => by
    rw [List.mem_singleton.1 member] at opposite
    simp at opposite
  | current, [second], set, _, member, opposite => by
    rcases List.mem_cons.1 member with rfl | member
    · simp at opposite
    · simpa [oddPlaces] using member
  | current, second :: third :: rest, set, chain, member, opposite => by
    obtain ⟨first, chain⟩ := List.isChain_cons_cons.1 chain
    obtain ⟨next, chain⟩ := List.isChain_cons_cons.1 chain
    rcases List.mem_cons.1 member with rfl | member
    · simp at opposite
    · rcases List.mem_cons.1 member with rfl | member
      · simp [oddPlaces]
      · have same : set.parity = !third.parity := by rw [opposite, first, next, Bool.not_not]
        exact List.mem_cons_of_mem _ (mem_oddPlaces chain member same)

theorem Trail.two_mul_length_le {capacity : Nat} {current : FlagSet} {earlier : List FlagSet}
    (trail : Trail capacity (current :: earlier))
    (closed : openMoves capacity (current :: earlier) = []) :
    2 * current.length ≤ min capacity (current :: earlier).length := by
  have remembered : ∀ set ∈ current.flips, set ∈ (current :: earlier).take capacity := by
    intro set flip
    by_contra new
    have untried := mem_openMoves.2 ⟨flip, new⟩
    rw [closed] at untried
    cases untried
  cases capacity with
  | zero =>
    have none : current.flips = [] := by
      refine List.eq_nil_iff_forall_not_mem.2 fun set flip => ?_
      cases remembered set flip
    rw [← FlagSet.length_flips, none]
    simp
  | succ less =>
    rw [List.take_succ_cons] at remembered
    have chain : (current :: earlier.take less).IsChain
        (fun later earlier => later.parity = !earlier.parity) := by
      rw [← List.take_succ_cons]
      exact trail.parity_chain.take _
    -- The flips are distinct and all of them stand at odd places of what is remembered.
    have places : current.flips ⊆ oddPlaces (current :: earlier.take less) := fun set flip =>
      mem_oddPlaces chain (remembered set flip) (FlagSet.parity_of_mem_flips flip)
    have count := (current.nodup_flips.subperm places).length_le
    have half := two_mul_length_oddPlaces (current :: earlier.take less)
    rw [FlagSet.length_flips] at count
    simp only [List.length_cons, List.length_take] at half ⊢
    omega

/-! ## Whole runs -/

/-- If a tabu search over `n` flags ends because no move is left, it does so at step `2 * n` or
later, and with room for at least `2 * n` sets on its list.  So a search with a shorter list never
runs out of moves, and no search does so earlier. -/
theorem two_mul_size_le_of_noAvailableMove {σ : Type} {settings : Settings} {u : Universe}
    {evaluator : Evaluator σ} {scheduler : Scheduler σ} (lawful : scheduler.Lawful evaluator)
    (tabu : settings.strategy = .tabu)
    (silent : ∀ flags world step, (evaluator.score flags world).1 ≠ .error (.noAvailableMove step))
    {entropy : UInt64} {world : σ} {step : Nat} {seen : Option Report}
    (ended : (runWith settings u evaluator scheduler entropy world).1 =
      .aborted (.noAvailableMove step) seen) :
    2 * u.size ≤ step ∧ 2 * u.size ≤ settings.tabuCapacity := by
  obtain ⟨course, halted⟩ := exists_course_of_aborted ended (fun _ => SearchError.noConfusion)
    SearchError.noConfusion (fun flags world => silent flags world step)
  rcases course.source_of_error lawful halted with interrupted | ⟨stuck, number⟩ |
    ⟨flags, world, answer⟩
  · cases interrupted
  · obtain ⟨before, reached, nowhere, _⟩ := stuck
    have some := course.accepted.flags_pos
    obtain ⟨visited, length, trails⟩ := reached.trails lawful some (course.trails_start tabu)
    have entered : (before.entering (course.completed + 1)).Trails settings.tabuCapacity u.size
        visited := trails.entering
    rcases entered.tries_cases u some with ⟨closed, _⟩ | moves
    · obtain ⟨earlier, rfl⟩ := trails.stands
      have bound := trails.trail.two_mul_length_le closed
      rw [trails.length_eq] at bound
      have step_eq : step = course.completed + 1 := by
        cases number
        rfl
      omega
    · cases nowhere.symm.trans moves
  · exact absurd answer (silent flags world step)

theorem two_mul_size_le_of_noAvailableMove_lonely :
    (∃ seen, (run (forgetful 3) flagAlone (.ofFunction "closure" lonely) 0 []).1 =
      .aborted (.noAvailableMove 2) seen) ∧
      2 * flagAlone.size ≤ 2 ∧ 2 * flagAlone.size ≤ (forgetful 3).tabuCapacity := by
  have tabu : (forgetful 3).strategy = .tabu := rfl
  have valid : (forgetful 3).validate flagAlone.size = .ok () := by decide
  have room : (forgetful 3).iterations * trajectorySlot ≤ maxBlock := by decide
  have budget : 2 ≤ (forgetful 3).iterations := by decide
  obtain ⟨walk, closed⟩ := TabuWalk.flagAlone (flagAlone.cost lonelyOutcome)
  obtain ⟨seen, ended⟩ :=
    run_noAvailableMove_of_closed lonely_publishes tabu valid room walk closed budget 0 []
  have silent : ∀ flags world step, ((Evaluator.ofFunction "closure" lonely).score flags world).1 ≠
      .error (.noAvailableMove step) := by
    intro flags world step
    change lonely flags ≠ _
    unfold lonely
    split <;> simp
  exact ⟨⟨seen, ended⟩, two_mul_size_le_of_noAvailableMove (Bench.requestAll_lawful _ _) tabu silent
    ended⟩

end FlagSearch
