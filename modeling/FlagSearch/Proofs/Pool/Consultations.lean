import FlagSearch.Proofs.Memo.Provenance
import FlagSearch.Proofs.Pool.Counts

/-!
# What an evaluator is consulted for

An evaluator is given flags and not told which set they were selected by, and two sets may select the
same flags.  The workers know the set, though, and pass the answer on under that set only.  A
*consultation* notes the set as well; what workers leave behind is read off their consultations.

* `Consultation`, `Backed` — one call of the evaluator, and the outcomes that calls came to.
* `Pool.Consulted`, `Pool.exists_consulted_iff` — the steps of a pool, with the calls among them.
* `Pool.Consulted.exists_run` — to the memo each call is a landing, and there are no others.
* `Pool.Consulted.record` — the evaluator notices the same calls.
* `Bench.Worked`, `Scheduler.Pooled.exists_worked` — the calls for a batch.
* `Bench.Worked.sourced`, `Bench.Worked.backed` — what a batch leaves in the memo, and comes to.
-/

namespace FlagSearch

/-- One call of an evaluator. -/
structure Consultation (σ : Type) where
  set : FlagSet
  flags : List String
  world : σ

variable {σ : Type} {width : Nat} {u : Universe} {evaluator : Evaluator σ} {batch : List FlagSet}

/-- What a call comes to for everyone who waits for it. -/
def Consultation.result (evaluator : Evaluator σ) (call : Consultation σ) :
    Except SearchError Outcome :=
  (evaluator.score call.flags call.world).1.published

/-- One of the calls was made for the set, with the flags that it selects, and came to the
outcome. -/
def Backed (u : Universe) (evaluator : Evaluator σ) (calls : List (Consultation σ)) (set : FlagSet)
    (outcome : Outcome) : Prop :=
  ∃ call ∈ calls, call.set = set ∧ u.resolve set = .ok call.flags ∧
    call.result evaluator = .ok outcome

theorem Backed.mono {calls more : List (Consultation σ)} (subset : calls ⊆ more) (set : FlagSet)
    (outcome : Outcome) (backed : Backed u evaluator calls set outcome) :
    Backed u evaluator more set outcome := by
  obtain ⟨call, member, rest⟩ := backed
  exact ⟨call, subset member, rest⟩

/-! ## Workers -/

namespace Pool

variable {bench : Bench σ} {pool next start : Pool σ} {calls : List (Consultation σ)}

/-- Between the two pools no computation ends. -/
def Silent (pool next : Pool σ) : Prop :=
  next.traffic.callers.countP Caller.landed = pool.traffic.callers.countP Caller.landed

theorem Step.silent_or_lands (step : Step width u evaluator batch pool next) :
    pool.Silent next ∨ ∃ set flags flight traffic, u.resolve set = .ok flags ∧
      pool.traffic.Step (.landed set flight (evaluator.score flags pool.world).1.caught) traffic ∧
      next = { pool with traffic, world := (evaluator.score flags pool.world).2 } := by
  cases step with
  | takeUp free fresh there accepted => exact .inl rfl
  | refuse free fresh there refused => exact .inl rfl
  | enter ready there entered => exact .inl entered.countP_landed
  | land resolved landed => exact .inr ⟨_, _, _, _, resolved, landed, rfl⟩
  | wake woke => exact .inl woke.countP_landed

theorem not_silent_of_landed {set : FlagSet} {flight : Nat} {reply : Reply}
    (landed : pool.traffic.Step (.landed set flight reply) next.traffic) : ¬pool.Silent next := by
  rw [Silent, landed.countP_landed]
  exact Nat.succ_ne_self _

/-- `Consulted start calls pool`: steps lead from `start` to `pool`, and the evaluator was called
among them as in `calls`, in that order. -/
inductive Consulted (width : Nat) (u : Universe) (evaluator : Evaluator σ) (batch : List FlagSet)
    (start : Pool σ) : List (Consultation σ) → Pool σ → Prop where
  | start : Consulted width u evaluator batch start [] start
  | silent {calls : List (Consultation σ)} {pool next : Pool σ}
      (before : Consulted width u evaluator batch start calls pool)
      (step : Step width u evaluator batch pool next) (silent : pool.Silent next) :
      Consulted width u evaluator batch start calls next
  | land {calls : List (Consultation σ)} {pool : Pool σ} {set : FlagSet} {flags : List String}
      {flight : Nat} {traffic : Traffic FlagSet}
      (before : Consulted width u evaluator batch start calls pool)
      (resolved : u.resolve set = .ok flags)
      (landed : pool.traffic.Step
        (.landed set flight (evaluator.score flags pool.world).1.caught) traffic) :
      Consulted width u evaluator batch start (calls ++ [⟨set, flags, pool.world⟩])
        { pool with traffic, world := (evaluator.score flags pool.world).2 }

theorem exists_consulted_iff : (∃ calls, Consulted width u evaluator batch start calls pool) ↔
    ∃ n, Reached width u evaluator batch start n pool := by
  constructor
  · rintro ⟨calls, consulted⟩
    induction consulted with
    | start => exact ⟨0, .start⟩
    | silent before step silent ih =>
      obtain ⟨n, reached⟩ := ih
      exact ⟨n + 1, reached.step step⟩
    | land before resolved landed ih =>
      obtain ⟨n, reached⟩ := ih
      exact ⟨n + 1, reached.step (.land resolved landed)⟩
  · rintro ⟨n, reached⟩
    induction reached with
    | start => exact ⟨[], .start⟩
    | step before step ih =>
      obtain ⟨calls, consulted⟩ := ih
      rcases step.silent_or_lands with silent | ⟨_, _, _, _, resolved, landed, rfl⟩
      · exact ⟨calls, consulted.silent step silent⟩
      · exact ⟨_, consulted.land resolved landed⟩

theorem Consulted.exists_run
    (consulted : Consulted width u evaluator batch (ofBench bench) calls pool) :
    ∃ events, Traffic.Run (.quiet bench.memo) events pool.traffic ∧
      Traffic.Lands (Backed u evaluator calls) events := by
  induction consulted with
  | start => exact ⟨[], .stop _, List.forall_mem_nil _⟩
  | silent before step silent ih =>
    obtain ⟨events, run, lands⟩ := ih
    cases step with
    | takeUp free fresh there accepted => exact ⟨events, run, lands⟩
    | refuse free fresh there refused => exact ⟨events, run, lands⟩
    | enter ready there entered =>
      refine ⟨_, run.snoc entered, List.forall_mem_append.2 ⟨lands, ?_⟩⟩
      simp
    | land resolved landed => exact absurd silent (not_silent_of_landed landed)
    | wake woke =>
      refine ⟨_, run.snoc woke, List.forall_mem_append.2 ⟨lands, ?_⟩⟩
      simp
  | land before resolved landed ih =>
    obtain ⟨events, run, lands⟩ := ih
    refine ⟨_, run.snoc landed, List.forall_mem_append.2
      ⟨lands.mono (Backed.mono (List.subset_append_left _ _)), ?_⟩⟩
    simp only [List.mem_singleton, forall_eq]
    rintro _ _ _ ⟨⟩ outcome published
    rw [Reply.published_caught] at published
    exact ⟨_, List.mem_append_right _ (List.mem_singleton_self _), rfl, resolved, published⟩

theorem Consulted.record {bench : Bench (σ × List Contact)} {pool : Pool (σ × List Contact)}
    {calls : List (Consultation (σ × List Contact))}
    (consulted : Consulted width u evaluator.traced batch (ofBench bench) calls pool) :
    Contact.calls pool.world.2 = Contact.calls bench.world.2 ++ calls.map (·.flags) := by
  induction consulted with
  | start => exact (List.append_nil _).symm
  | silent before step silent ih =>
    cases step with
    | takeUp free fresh there accepted => simpa [check, Evaluator.traced] using ih
    | refuse free fresh there refused => simpa [check, Evaluator.traced] using ih
    | enter ready there entered => exact ih
    | land resolved landed => exact absurd silent (not_silent_of_landed landed)
    | wake woke => exact ih
  | land before resolved landed ih => simp [Evaluator.traced, ih]

end Pool

/-! ## Batches -/

namespace Bench

variable {bench after : Bench σ} {past calls : List (Consultation σ)} {capacity : Nat}
  {result : Except Halt (List Scored)}

/-- Workers on a batch call the evaluator as in `calls`; the batch comes to `result`, and the bench
they leave behind is `after`. -/
def Worked (width : Nat) (u : Universe) (evaluator : Evaluator σ) (batch : List FlagSet)
    (bench : Bench σ) (calls : List (Consultation σ)) (result : Except Halt (List Scored))
    (after : Bench σ) : Prop :=
  ∃ pool, Pool.Consulted width u evaluator batch (.ofBench bench) calls pool ∧
    pool.Finished batch ∧ pool.Yields u batch result ∧ after = pool.toBench bench

/-- What the memo holds is what the calls came to. -/
structure Sourced (capacity : Nat) (u : Universe) (evaluator : Evaluator σ)
    (calls : List (Consultation σ)) (bench : Bench σ) : Prop where
  within : bench.memo.Within capacity
  knows : bench.memo.Knows (Backed u evaluator calls)

theorem Worked.sourced (worked : Worked width u evaluator batch bench calls result after)
    (sourced : bench.Sourced capacity u evaluator past) :
    after.Sourced capacity u evaluator (past ++ calls) := by
  obtain ⟨pool, consulted, _, _, rfl⟩ := worked
  obtain ⟨events, run, lands⟩ := consulted.exists_run
  have knows := sourced.knows.mono (Backed.mono (List.subset_append_left past calls))
  refine ⟨(run.sound (Traffic.sound_quiet_of_within sourced.within)).within, ?_⟩
  have lands := lands.mono (Backed.mono (List.subset_append_right past calls))
  exact ((Traffic.known_quiet knows).run run lands).held

/-- Whatever candidate comes out scored, its outcome is what a call for it came to, made for this
batch or before. -/
theorem Worked.backed {scored : List Scored}
    (worked : Worked width u evaluator batch bench calls (.ok scored) after)
    (sourced : bench.Sourced capacity u evaluator past) :
    ∀ candidate ∈ scored, u.resolve candidate.set = .ok candidate.flags ∧
      Backed u evaluator (past ++ calls) candidate.set candidate.outcome := by
  obtain ⟨pool, consulted, _, yields, rfl⟩ := worked
  obtain ⟨events, run, lands⟩ := consulted.exists_run
  cases yields with
  | scored sets found =>
    intro candidate member
    obtain ⟨place, at_⟩ := List.mem_iff_getElem?.1 member
    obtain ⟨i, role, _, out, resolved⟩ := found at_
    refine ⟨resolved, ?_⟩
    have knows := sourced.knows.mono (Backed.mono (List.subset_append_left past calls))
    have lands := lands.mono (Backed.mono (List.subset_append_right past calls))
    exact run.known_of_found sourced.within knows lands out

end Bench

theorem Scheduler.Pooled.exists_worked {scheduler : Scheduler σ}
    (pooled : scheduler.Pooled width u evaluator) (batch : List FlagSet) (bench : Bench σ) :
    ∃ calls, Bench.Worked width u evaluator batch bench calls (scheduler batch bench).1
      (scheduler batch bench).2 := by
  obtain ⟨n, pool, reached, finished, yields, after⟩ := pooled batch bench
  obtain ⟨calls, consulted⟩ := Pool.exists_consulted_iff.2 ⟨n, reached⟩
  exact ⟨calls, pool, consulted, finished, yields, after⟩

end FlagSearch
