import FlagSearch.Proofs.Memo.Endings
import FlagSearch.Proofs.Pool.Basic
import FlagSearch.Proofs.Search.Published

/-!
# Pools have no errors of their own

Whatever order the workers of a pool find, an error that a batch comes to is one that the evaluator
came to, or the run was cancelled.  If no one cancels it, nobody is turned away.

* `Pool.Reached.quiet` — nobody is turned away.
* `Pool.Reached.refused_cases`, `Pool.Reached.candid` — why a candidate does not come out scored.
* `Scheduler.Pooled.lawful` — so pools are among the schedulers that keep to that.
-/

namespace FlagSearch

variable {σ : Type} {width : Nat} {u : Universe} {evaluator : Evaluator σ} {batch : List FlagSet}

namespace Pool

variable {bench : Bench σ} {pool : Pool σ} {n : Nat}

/-- A candidate is turned away from a run that was cancelled, or because it is foreign to the
universe. -/
theorem refusal?_cases {set : FlagSet} {halt : Halt} (refused : pool.refusal? u set = some halt) :
    (halt = .error .interrupted ∧ pool.cancelled = true) ∨
      ∃ fault, halt = .fault fault ∧ u.resolve set = .error fault := by
  unfold refusal? at refused
  split at refused
  next stopped =>
    cases refused
    exact .inl ⟨rfl, stopped⟩
  · split at refused
    next fault foreign =>
      cases refused
      exact .inr ⟨fault, rfl, foreign⟩
    · cases refused

theorem Reached.refused_cases
    (reached : Reached width u evaluator batch (ofBench bench) n pool) :
    ∀ entry ∈ pool.refused, entry.2 = .error .interrupted ∨ ∃ fault, entry.2 = .fault fault := by
  induction reached with
  | start => simp [ofBench]
  | step before step ih =>
    cases step with
    | refuse free fresh there refused =>
      refine List.forall_mem_cons.2 ⟨?_, ih⟩
      rcases refusal?_cases refused with ⟨stopped, _⟩ | ⟨fault, foreign, _⟩
      · exact .inl stopped
      · exact .inr ⟨fault, foreign⟩
    | takeUp free fresh there accepted => exact ih
    | enter ready there entered => exact ih
    | land resolved landed => exact ih
    | wake woke => exact ih

theorem refusal?_check (steady : evaluator.Steady) (running : pool.cancelled = false)
    {set : FlagSet} (length : set.length = u.size) :
    (pool.check evaluator).refusal? u set = none := by
  have still : (pool.check evaluator).cancelled = false := by
    simp [check, running, steady pool.world]
  rw [refusal?, if_neg (Bool.eq_false_iff.1 still), Universe.resolve_eq length]

theorem Reached.quiet (steady : evaluator.Steady) (lengths : ∀ set ∈ batch, set.length = u.size)
    (running : bench.cancelled = false)
    (reached : Reached width u evaluator batch (ofBench bench) n pool) :
    pool.cancelled = false ∧ pool.refused = [] := by
  induction reached with
  | start => exact ⟨running, rfl⟩
  | @step n pool next before step ih =>
    have still : (pool.check evaluator).cancelled = false := by
      simp [check, ih.1, steady pool.world]
    cases step with
    | takeUp free fresh there accepted => exact ⟨still, ih.2⟩
    | refuse free fresh there refused =>
      have accepted := refusal?_check (u := u) steady ih.1 (lengths _ (List.mem_of_getElem? there))
      cases accepted.symm.trans refused
    | enter ready there entered => exact ih
    | land resolved landed => exact ih
    | wake woke => exact ih

theorem Reached.candid (reached : Reached width u evaluator batch (ofBench bench) n pool) :
    pool.traffic.Candid fun e => ∃ flags world, (evaluator.score flags world).1 = .error e := by
  obtain ⟨events, run, called⟩ := reached.exists_run
  refine run.candid (Traffic.candid_quiet _ _) fun event member set flight reply acted e failed => ?_
  obtain ⟨flags, world, _, rfl⟩ := called event member set flight reply acted
  refine ⟨flags, world, ?_⟩
  cases came : (evaluator.score flags world).1 with
  | outcome o =>
    rw [came] at failed
    cases failed
  | error e' =>
    rw [came] at failed
    cases failed
    rfl
  | panic message =>
    rw [came] at failed
    cases failed

end Pool

theorem Scheduler.Pooled.lawful {scheduler : Scheduler σ}
    (pooled : scheduler.Pooled width u evaluator) : scheduler.Lawful evaluator where
  toKeepsLog := pooled.keepsLog
  sets_eq {batch bench scored after} answer := by
    obtain ⟨_, pool, _, _, yields, _⟩ := pooled batch bench
    rw [answer] at yields
    cases yields with
    | scored sets found => exact sets
  error_source {batch bench e after} refusal := by
    obtain ⟨_, pool, reached, _, yields, _⟩ := pooled batch bench
    rw [refusal] at yields
    cases yields with
    | refused refused =>
      rcases reached.refused_cases _ refused with stopped | ⟨fault, foreign⟩
      · exact .inl (Halt.error.inj stopped)
      · cases foreign
    | failed called failed =>
      have candid := reached.candid.callers _ called
      rw [Caller.Candid, failed] at candid
      exact .inr candid

end FlagSearch
