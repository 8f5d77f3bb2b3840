import FlagSearch.Proofs.Memo.Distinct
import FlagSearch.Proofs.Search.Scoring

/-!
# A pool of workers

A batch may be scored by several workers at once.  A worker takes up a candidate that no one has
taken up, looks whether the run was cancelled, and calls the memo they all share; it is free again
when its candidate has come out.  The steps of the workers come in any order, and so do the
candidates.  Once a candidate has failed, those not yet taken up may be left alone.

* `Pool`, `Pool.Step`, `Pool.Reached` — the workers on a batch, and what their steps lead to.
* `Pool.Finished`, `Pool.Yields` — when all of them are free again, and what the batch comes to.
* `Scheduler.Pooled` — the schedulers that such a pool may be.
* `Pool.Tidy` — each place of the batch is taken up once, and its caller wants its candidate.
* `Pool.Reached.busy_le`, `Pool.Reached.le_three_mul` — no more workers than `width` are at work, and
  they take three steps for a candidate at most.
* `Pool.Reached.exists_run` — to the memo a pool is a run of its traffic.
-/

namespace FlagSearch

/-- The reply as a worker sees it: a panic is caught where the evaluator is called. -/
def Reply.caught : Reply → Reply
  | .panic _ => .outcome .runtimeError
  | .outcome o => .outcome o
  | .error e => .error e

@[simp] theorem Reply.published_caught (reply : Reply) : reply.caught.published = reply.published := by
  cases reply <;> rfl

theorem Reply.caught_eq_outcome {reply : Reply} {outcome : Outcome}
    (published : reply.published = .ok outcome) : reply.caught = .outcome outcome := by
  cases reply with
  | outcome o =>
    cases published
    rfl
  | error e => cases published
  | panic message =>
    cases published
    rfl

/-- Workers on a batch. -/
structure Pool (σ : Type) where
  world : σ
  cancelled : Bool
  traffic : Traffic FlagSet
  /-- The places in the batch of candidates that were taken up and have not called the memo. -/
  admitted : List Nat
  /-- The places of those that have, in the order of their calls. -/
  places : List Nat
  /-- The places of those that were turned away before that, with the reason. -/
  refused : List (Nat × Halt)

namespace Pool

variable {σ : Type}

/-- The workers before they take anything up. -/
def ofBench (bench : Bench σ) : Pool σ :=
  ⟨bench.world, bench.cancelled, .quiet bench.memo, [], [], []⟩

def toBench (pool : Pool σ) (bench : Bench σ) : Bench σ :=
  { bench with world := pool.world, cancelled := pool.cancelled, memo := pool.traffic.shared.memo }

def taken (pool : Pool σ) : List Nat :=
  pool.admitted ++ (pool.places ++ pool.refused.map (·.1))

def busy (pool : Pool σ) : Nat :=
  pool.admitted.length + pool.traffic.callers.countP fun caller => caller.ending.isNone

def check (evaluator : Evaluator σ) (pool : Pool σ) : Pool σ :=
  { pool with
    world := (evaluator.poll pool.world).2
    cancelled := pool.cancelled || (evaluator.poll pool.world).1 }

/-- Why a candidate is turned away. -/
def refusal? (u : Universe) (pool : Pool σ) (set : FlagSet) : Option Halt :=
  if pool.cancelled then some (.error .interrupted)
  else
    match u.resolve set with
    | .error fault => some (.fault fault)
    | .ok _ => none

/-- One of at most `width` workers does what it does at once. -/
inductive Step (width : Nat) (u : Universe) (evaluator : Evaluator σ) (batch : List FlagSet) :
    Pool σ → Pool σ → Prop where
  | takeUp {pool : Pool σ} {place : Nat} {set : FlagSet} (free : pool.busy < width)
      (fresh : place ∉ pool.taken) (there : batch[place]? = some set)
      (accepted : (pool.check evaluator).refusal? u set = none) :
      Step width u evaluator batch pool
        { pool.check evaluator with admitted := place :: pool.admitted }
  | refuse {pool : Pool σ} {place : Nat} {set : FlagSet} {halt : Halt} (free : pool.busy < width)
      (fresh : place ∉ pool.taken) (there : batch[place]? = some set)
      (refused : (pool.check evaluator).refusal? u set = some halt) :
      Step width u evaluator batch pool
        { pool.check evaluator with refused := (place, halt) :: pool.refused }
  | enter {pool : Pool σ} {place : Nat} {set : FlagSet} {role : Role} {traffic : Traffic FlagSet}
      (ready : place ∈ pool.admitted) (there : batch[place]? = some set)
      (entered : pool.traffic.Step (.entered set role) traffic) :
      Step width u evaluator batch pool
        { pool with
          traffic
          admitted := pool.admitted.erase place
          places := pool.places ++ [place] }
  | land {pool : Pool σ} {set : FlagSet} {flags : List String} {flight : Nat}
      {traffic : Traffic FlagSet} (resolved : u.resolve set = .ok flags)
      (landed : pool.traffic.Step
        (.landed set flight (evaluator.score flags pool.world).1.caught) traffic) :
      Step width u evaluator batch pool
        { pool with traffic, world := (evaluator.score flags pool.world).2 }
  | wake {pool : Pool σ} {set : FlagSet} {flight : Nat} {traffic : Traffic FlagSet}
      (woke : pool.traffic.Step (.woke set flight) traffic) :
      Step width u evaluator batch pool { pool with traffic }

inductive Reached (width : Nat) (u : Universe) (evaluator : Evaluator σ) (batch : List FlagSet)
    (start : Pool σ) : Nat → Pool σ → Prop where
  | start : Reached width u evaluator batch start 0 start
  | step {n : Nat} {pool next : Pool σ} (before : Reached width u evaluator batch start n pool)
      (step : Step width u evaluator batch pool next) :
      Reached width u evaluator batch start (n + 1) next

/-- Some candidate was turned away or came out with an error. -/
def Failed (pool : Pool σ) : Prop :=
  pool.refused ≠ [] ∨ ∃ caller ∈ pool.traffic.callers, ∃ e, caller.ending = some (.failed e)

/-- All workers are free, and none of them has to take anything up. -/
structure Finished (batch : List FlagSet) (pool : Pool σ) : Prop where
  admitted_eq : pool.admitted = []
  out : ∀ caller ∈ pool.traffic.callers, caller.ending.isSome
  all : pool.Failed ∨ ∀ place < batch.length, place ∈ pool.taken

def Found (u : Universe) (pool : Pool σ) (place : Nat) (candidate : Scored) : Prop :=
  ∃ (i : Nat) (role : Role), pool.places[i]? = some place ∧
    pool.traffic.callers[i]? = some
      ⟨candidate.set, role, some (.found ⟨candidate.outcome, candidate.cached⟩)⟩ ∧
    u.resolve candidate.set = .ok candidate.flags

/-- What a batch comes to: what its candidates came out with, in the order of the batch, or the
reason why one of them did not. -/
inductive Yields (u : Universe) (batch : List FlagSet) (pool : Pool σ) :
    Except Halt (List Scored) → Prop where
  | scored {scored : List Scored} (sets : scored.map (·.set) = batch)
      (found : ∀ {place : Nat} {candidate}, scored[place]? = some candidate →
        pool.Found u place candidate) :
      Yields u batch pool (.ok scored)
  | refused {place : Nat} {halt : Halt} (refused : (place, halt) ∈ pool.refused) :
      Yields u batch pool (.error halt)
  | failed {caller : Caller FlagSet} {e : SearchError} (called : caller ∈ pool.traffic.callers)
      (failed : caller.ending = some (.failed e)) : Yields u batch pool (.error (.error e))

end Pool

/-- Whatever order its workers find, the scheduler does what a pool of `width` workers may do. -/
def Scheduler.Pooled {σ : Type} (width : Nat) (u : Universe) (evaluator : Evaluator σ)
    (scheduler : Scheduler σ) : Prop :=
  ∀ batch bench, ∃ n pool, Pool.Reached width u evaluator batch (.ofBench bench) n pool ∧
    pool.Finished batch ∧ pool.Yields u batch (scheduler batch bench).1 ∧
    (scheduler batch bench).2 = pool.toBench bench

theorem Scheduler.Pooled.keepsLog {σ : Type} {width : Nat} {u : Universe} {evaluator : Evaluator σ}
    {scheduler : Scheduler σ} (pooled : scheduler.Pooled width u evaluator) :
    scheduler.KeepsLog where
  log_eq batch bench := by
    obtain ⟨_, _, _, _, _, after⟩ := pooled batch bench
    rw [after]
    rfl
  step_eq batch bench := by
    obtain ⟨_, _, _, _, _, after⟩ := pooled batch bench
    rw [after]
    rfl

namespace Pool

variable {σ : Type} {width : Nat} {u : Universe} {evaluator : Evaluator σ} {batch : List FlagSet}
  {bench : Bench σ} {pool next : Pool σ} {n : Nat}

@[simp] theorem check_traffic (pool : Pool σ) : (pool.check evaluator).traffic = pool.traffic := rfl

/-! ## Places -/

/-- Each place is taken up once, and whoever calls for it wants the candidate there. -/
structure Tidy (batch : List FlagSet) (pool : Pool σ) : Prop where
  nodup : pool.taken.Nodup
  inside : ∀ place ∈ pool.taken, place < batch.length
  keys_eq : pool.places.map (batch[·]?) = (pool.traffic.callers.map (·.key)).map some

theorem tidy_ofBench (batch : List FlagSet) (bench : Bench σ) : (ofBench bench).Tidy batch where
  nodup := List.nodup_nil
  inside := by simp [ofBench, taken]
  keys_eq := rfl

theorem taken_enter {place : Nat} (ready : place ∈ pool.admitted) (traffic : Traffic FlagSet) :
    (taken { pool with
      traffic
      admitted := pool.admitted.erase place
      places := pool.places ++ [place] }).Perm pool.taken := by
  have together := (List.perm_cons_erase ready).symm.append_right
    (pool.places ++ pool.refused.map (·.1))
  refine List.Perm.trans ?_ together
  simp only [taken, List.append_assoc, List.cons_append, List.nil_append]
  rw [← List.append_assoc, ← List.append_assoc]
  exact List.perm_middle

theorem Tidy.fresh_of_admitted (tidy : pool.Tidy batch) {place : Nat}
    (ready : place ∈ pool.admitted) : place ∉ pool.places := fun called =>
  (List.nodup_append.1 tidy.nodup).2.2 place ready place (List.mem_append_left _ called) rfl

theorem Tidy.exists_caller (tidy : pool.Tidy batch) {i place : Nat} {set : FlagSet}
    (called : pool.places[i]? = some place) (there : batch[place]? = some set) :
    ∃ role ending, pool.traffic.callers[i]? = some ⟨set, role, ending⟩ := by
  have keys := congrArg (·[i]?) tidy.keys_eq
  simp only [List.getElem?_map, called, Option.map_some, there] at keys
  cases caller : pool.traffic.callers[i]? with
  | none =>
    rw [caller] at keys
    cases keys
  | some found =>
    rw [caller] at keys
    cases keys
    exact ⟨found.role, found.ending, rfl⟩

theorem Tidy.exists_place (tidy : pool.Tidy batch) {i : Nat} {caller : Caller FlagSet}
    (at_ : pool.traffic.callers[i]? = some caller) :
    ∃ place, pool.places[i]? = some place ∧ batch[place]? = some caller.key := by
  have keys := congrArg (·[i]?) tidy.keys_eq
  simp only [List.getElem?_map, at_, Option.map_some] at keys
  exact Option.map_eq_some_iff.1 keys

theorem Tidy.length_callers (tidy : pool.Tidy batch) :
    pool.traffic.callers.length = pool.places.length := by
  simpa using (congrArg List.length tidy.keys_eq).symm

theorem Tidy.nodup_places (tidy : pool.Tidy batch) : pool.places.Nodup :=
  (List.nodup_append.1 (List.nodup_append.1 tidy.nodup).2.1).1

theorem Tidy.places_perm (tidy : pool.Tidy batch)
    (called : ∀ place < batch.length, place ∈ pool.places) :
    pool.places.Perm (List.range batch.length) := by
  refine (List.perm_ext_iff_of_nodup tidy.nodup_places List.nodup_range).2 fun place => ?_
  rw [List.mem_range]
  have inside := tidy.inside place
  simp only [taken, List.mem_append] at inside
  exact ⟨fun member => inside (.inr (.inl member)), called place⟩

theorem Step.tidy (step : Step width u evaluator batch pool next) (tidy : pool.Tidy batch) :
    next.Tidy batch := by
  cases step with
  | @takeUp place set free fresh there accepted =>
    refine ⟨List.nodup_cons.2 ⟨fresh, tidy.nodup⟩, ?_, tidy.keys_eq⟩
    exact List.forall_mem_cons.2 ⟨(List.getElem?_eq_some_iff.1 there).1, tidy.inside⟩
  | @refuse place set halt free fresh there refused =>
    have moved : (pool.admitted ++ (pool.places ++ place :: pool.refused.map (·.1))).Perm
        (place :: pool.taken) := by
      rw [taken, ← List.append_assoc, ← List.append_assoc]
      exact List.perm_middle
    refine ⟨moved.nodup_iff.2 (List.nodup_cons.2 ⟨fresh, tidy.nodup⟩), fun other member => ?_,
      tidy.keys_eq⟩
    rcases List.mem_cons.1 (moved.mem_iff.1 member) with rfl | earlier
    · exact (List.getElem?_eq_some_iff.1 there).1
    · exact tidy.inside other earlier
  | @enter place set role traffic ready there entered =>
    have moved := taken_enter ready traffic
    refine ⟨moved.nodup_iff.2 tidy.nodup,
      fun other member => tidy.inside other (moved.mem_iff.1 member), ?_⟩
    cases entered
    simp [List.map_append, tidy.keys_eq, there]
  | land resolved landed =>
    refine ⟨tidy.nodup, tidy.inside, ?_⟩
    cases landed with
    | land reply leading => exact (Traffic.map_key_set leading).symm ▸ tidy.keys_eq
  | wake woke =>
    refine ⟨tidy.nodup, tidy.inside, ?_⟩
    cases woke with
    | wake following woken => exact (Traffic.map_key_set following).symm ▸ tidy.keys_eq

theorem Reached.tidy (reached : Reached width u evaluator batch (ofBench bench) n pool) :
    pool.Tidy batch := by
  induction reached with
  | start => exact tidy_ofBench batch bench
  | step before step ih => exact step.tidy ih

/-! ## The number of workers -/

theorem busy_eq_zero (admitted_eq : pool.admitted = [])
    (out : ∀ caller ∈ pool.traffic.callers, caller.ending.isSome) : pool.busy = 0 := by
  have none : pool.traffic.callers.countP (fun caller => caller.ending.isNone) = 0 :=
    List.countP_eq_zero.2 fun caller member => by
      simpa [← Option.isSome_iff_ne_none] using out caller member
  rw [busy, none, admitted_eq]
  rfl

theorem countP_waiting_enter (callers : List (Caller FlagSet)) (key : FlagSet) (role : Role) :
    (callers ++ [Caller.mk key role role.ending?]).countP (·.ending.isNone) ≤
      callers.countP (·.ending.isNone) + 1 := by
  rw [List.countP_append]
  exact Nat.add_le_add_left List.countP_le_length _

theorem countP_waiting_set {callers : List (Caller FlagSet)} {i : Nat} {key : FlagSet} {role : Role}
    (told : Ending) (was : callers[i]? = some ⟨key, role, none⟩) :
    (callers.set i ⟨key, role, some told⟩).countP (·.ending.isNone) ≤
      callers.countP (·.ending.isNone) := by
  obtain ⟨inside, same⟩ := List.getElem?_eq_some_iff.1 was
  rw [List.countP_set inside, same]
  simp

theorem Step.busy_le (step : Step width u evaluator batch pool next) (few : pool.busy ≤ width) :
    next.busy ≤ width := by
  cases step with
  | takeUp free fresh there accepted =>
    simp only [busy, check, List.length_cons] at free ⊢
    omega
  | refuse free fresh there refused => exact few
  | @enter place set role traffic ready there entered =>
    have one := List.length_erase_of_mem ready
    have some := List.length_pos_of_mem ready
    cases entered with
    | enter key =>
      have more := countP_waiting_enter pool.traffic.callers set
        (pool.traffic.shared.enter set).1
      simp only [busy] at few ⊢
      omega
  | land resolved landed =>
    cases landed with
    | land reply leading =>
      exact (Nat.add_le_add_left (countP_waiting_set _ leading) _).trans few
  | wake woke =>
    cases woke with
    | wake following woken =>
      exact (Nat.add_le_add_left (countP_waiting_set _ following) _).trans few

theorem Reached.busy_le (reached : Reached width u evaluator batch (ofBench bench) n pool) :
    pool.busy ≤ width := by
  induction reached with
  | start => exact Nat.zero_le _
  | step before step ih => exact step.busy_le ih

/-! ## The number of steps -/

/-- The steps that were taken for the candidates so far: one for each that was taken up, one more if
it called the memo, and one more if it came out later than that. -/
def effort (pool : Pool σ) : Nat :=
  pool.taken.length + pool.places.length +
    pool.traffic.callers.countP fun caller => caller.ending.isSome

theorem countP_out_set {callers : List (Caller FlagSet)} {i : Nat} {key : FlagSet} {role : Role}
    (told : Ending) (was : callers[i]? = some ⟨key, role, none⟩) :
    (callers.set i ⟨key, role, some told⟩).countP (·.ending.isSome) =
      callers.countP (·.ending.isSome) + 1 :=
  Traffic.countP_set_of_neg _ was rfl

theorem Step.effort_lt (step : Step width u evaluator batch pool next) :
    pool.effort < next.effort := by
  cases step with
  | takeUp free fresh there accepted =>
    simp only [effort, check, taken, List.length_append, List.length_cons]
    omega
  | refuse free fresh there refused =>
    simp only [effort, check, taken, List.length_append, List.map_cons, List.length_cons]
    omega
  | @enter place set role traffic ready there entered =>
    have moved := (taken_enter ready traffic).length_eq
    have more : pool.traffic.callers.countP (·.ending.isSome) ≤
        traffic.callers.countP (·.ending.isSome) := by
      cases entered
      rw [List.countP_append]
      omega
    simp only [effort, moved, List.length_append, List.length_singleton]
    omega
  | land resolved landed =>
    cases landed with
    | land reply leading =>
      simp only [effort, taken, countP_out_set _ leading]
      omega
  | wake woke =>
    cases woke with
    | wake following woken =>
      simp only [effort, taken, countP_out_set _ following]
      omega

theorem Reached.le_three_mul (reached : Reached width u evaluator batch (ofBench bench) n pool) :
    n ≤ 3 * batch.length := by
  have tidy := reached.tidy
  -- Every step adds to the effort, and the effort is bounded by the places there are.
  have spent : n ≤ pool.effort := by
    clear tidy
    induction reached with
    | start => exact Nat.zero_le _
    | step before step ih => exact Nat.lt_of_le_of_lt ih step.effort_lt
  have taken : pool.taken.length ≤ batch.length := by
    have inside : pool.taken ⊆ List.range batch.length := fun place member =>
      List.mem_range.2 (tidy.inside place member)
    simpa using (tidy.nodup.subperm inside).length_le
  have called : pool.places.length ≤ pool.taken.length := by
    simp only [Pool.taken, List.length_append]
    omega
  have out := List.countP_le_length (p := fun caller : Caller FlagSet => caller.ending.isSome)
    (l := pool.traffic.callers)
  rw [tidy.length_callers] at out
  simp only [effort] at spent
  omega

/-! ## The traffic of the memo -/

/-- To the memo, what the workers do is a run of its traffic, in which every landing is a call of
the evaluator. -/
theorem Reached.exists_run (reached : Reached width u evaluator batch (ofBench bench) n pool) :
    ∃ events, Traffic.Run (.quiet bench.memo) events pool.traffic ∧
      ∀ event ∈ events, ∀ set flight reply, event.action = .landed set flight reply →
        ∃ flags world, u.resolve set = .ok flags ∧
          reply = (evaluator.score flags world).1.caught := by
  induction reached with
  | start => exact ⟨[], .stop _, by simp⟩
  | @step n pool next before step ih =>
    obtain ⟨events, run, called⟩ := ih
    cases step with
    | takeUp free fresh there accepted => exact ⟨events, run, called⟩
    | refuse free fresh there refused => exact ⟨events, run, called⟩
    | enter ready there entered =>
      refine ⟨_, run.snoc entered, List.forall_mem_append.2 ⟨called, ?_⟩⟩
      simp
    | @land set flags flight traffic resolved landed =>
      refine ⟨_, run.snoc landed, List.forall_mem_append.2 ⟨called, ?_⟩⟩
      simp only [List.mem_singleton, forall_eq]
      rintro _ _ _ ⟨⟩
      exact ⟨flags, pool.world, resolved, rfl⟩
    | wake woke =>
      refine ⟨_, run.snoc woke, List.forall_mem_append.2 ⟨called, ?_⟩⟩
      simp

end Pool

end FlagSearch
