import FlagSearch.Proofs.Memo.Keys
import FlagSearch.Search.Bench

/-!
# What scoring may touch

A strategy hands candidates to a scheduler and gets them back scored.  Workers may finish in any
order and the memo may answer for the evaluator, but the bench comes back with its log and its
step number as they were, and the candidates come back in the order of the batch.

* `Memo.getOrCompute_of_peek_some`, `Memo.getOrCompute_of_peek_none` — the two ways of an access.
* `Bench.Requested`, `Bench.requested_of_request` — the ways in which a request ends.
* `Bench.request_ok`, `Bench.request_error` — what an answered and a refused request tell.
* `Scheduler.KeepsLog`, `Scheduler.Lawful` — what every scheduler keeps to.
* `Bench.requestAll_lawful` — scoring one after the other is such a scheduler.
-/

namespace FlagSearch

/-! ## An access to the memo -/

section Access

variable {κ σ : Type} [DecidableEq κ] {memo : Memo κ} {key : κ}

theorem Memo.getOrCompute_of_peek_some {outcome : Outcome} (held : memo.peek? key = some outcome)
    (compute : σ → Except SearchError Outcome × σ) (world : σ) :
    memo.getOrCompute key compute world =
      (.ok ⟨outcome, true⟩, { memo.publish key outcome with hits := memo.hits + 1 }, world) := by
  simp [Memo.getOrCompute, Memo.lookup, held]

theorem Memo.getOrCompute_of_peek_none (absent : memo.peek? key = none)
    (compute : σ → Except SearchError Outcome × σ) (world : σ) :
    memo.getOrCompute key compute world =
      ((compute world).1.map fun outcome => ⟨outcome, false⟩,
        memo.started.settle key (compute world).1, (compute world).2) := by
  simp [Memo.getOrCompute, Memo.lookup, absent]

end Access

/-! ## One request -/

def Evaluator.Steady {σ : Type} (evaluator : Evaluator σ) : Prop :=
  ∀ world, (evaluator.poll world).1 = false

namespace Bench

variable {σ : Type} {u : Universe} {evaluator : Evaluator σ} {set : FlagSet}
  {bench after : Bench σ}

@[simp] theorem check_memo : (bench.check evaluator).memo = bench.memo := rfl

theorem request_of_cancelled (stopped : (bench.check evaluator).cancelled = true) :
    bench.request u evaluator set = (.error (.error .interrupted), bench.check evaluator) := by
  simp [request, stopped]

theorem request_of_foreign {fault : Fault} (running : (bench.check evaluator).cancelled = false)
    (foreign : u.resolve set = .error fault) :
    bench.request u evaluator set = (.error (.fault fault), bench.check evaluator) := by
  simp [request, running, foreign]

/-- What a request makes of an access to the memo. -/
def answered (set : FlagSet) (flags : List String) :
    Except SearchError Lookup → Except Halt Scored
  | .ok hit => .ok ⟨set, flags, hit.outcome, hit.cached⟩
  | .error e => .error (.error e)

theorem request_of_resolved {flags : List String}
    (running : (bench.check evaluator).cancelled = false) (resolved : u.resolve set = .ok flags)
    {found : Except SearchError Lookup} {memo : Memo FlagSet} {world : σ}
    (access : bench.memo.getOrCompute set (ask evaluator flags) (bench.check evaluator).world =
      (found, memo, world)) :
    bench.request u evaluator set =
      (answered set flags found, { bench.check evaluator with memo, world }) := by
  simp only [request, running, resolved, check_memo, access, Bool.false_eq_true, ↓reduceIte]
  cases found <;> rfl

theorem request_cases (u : Universe) (evaluator : Evaluator σ) (set : FlagSet) (bench : Bench σ) :
    (bench.check evaluator).cancelled = true ∨
    ((bench.check evaluator).cancelled = false ∧ ∃ fault, u.resolve set = .error fault) ∨
    ((bench.check evaluator).cancelled = false ∧ ∃ flags, u.resolve set = .ok flags) := by
  cases (bench.check evaluator).cancelled with
  | true => exact .inl rfl
  | false =>
    cases u.resolve set with
    | error fault => exact .inr (.inl ⟨rfl, fault, rfl⟩)
    | ok flags => exact .inr (.inr ⟨rfl, flags, rfl⟩)

/-- The ways in which a request ends: it is cancelled, its set is foreign to the universe, the memo
holds the outcome, or the evaluator comes to an outcome or to an error. -/
inductive Requested (u : Universe) (evaluator : Evaluator σ) (set : FlagSet) (bench : Bench σ) :
    Except Halt Scored → Bench σ → Prop
  | cancelled (stopped : (bench.check evaluator).cancelled = true) :
      Requested u evaluator set bench (.error (.error .interrupted)) (bench.check evaluator)
  | foreign {fault : Fault} (running : (bench.check evaluator).cancelled = false)
      (foreign : u.resolve set = .error fault) :
      Requested u evaluator set bench (.error (.fault fault)) (bench.check evaluator)
  | known {flags : List String} {outcome : Outcome}
      (running : (bench.check evaluator).cancelled = false) (resolved : u.resolve set = .ok flags)
      (held : bench.memo.peek? set = some outcome) :
      Requested u evaluator set bench (.ok ⟨set, flags, outcome, true⟩)
        { bench.check evaluator with
          memo := { bench.memo.publish set outcome with hits := bench.memo.hits + 1 } }
  | computed {flags : List String} {outcome : Outcome}
      (running : (bench.check evaluator).cancelled = false) (resolved : u.resolve set = .ok flags)
      (absent : bench.memo.peek? set = none)
      (came : (evaluator.score flags (bench.check evaluator).world).1.published = .ok outcome) :
      Requested u evaluator set bench (.ok ⟨set, flags, outcome, false⟩)
        { bench.check evaluator with
          memo := bench.memo.started.publish set outcome
          world := (evaluator.score flags (bench.check evaluator).world).2 }
  | failed {flags : List String} {e : SearchError}
      (running : (bench.check evaluator).cancelled = false) (resolved : u.resolve set = .ok flags)
      (absent : bench.memo.peek? set = none)
      (came : (evaluator.score flags (bench.check evaluator).world).1 = .error e) :
      Requested u evaluator set bench (.error (.error e))
        { bench.check evaluator with
          memo := bench.memo.started
          world := (evaluator.score flags (bench.check evaluator).world).2 }

theorem requested_of_request {result : Except Halt Scored}
    (requested : bench.request u evaluator set = (result, after)) :
    bench.Requested u evaluator set result after := by
  rcases request_cases u evaluator set bench with stopped | ⟨running, fault, foreign⟩ |
    ⟨running, flags, resolved⟩
  · rw [request_of_cancelled stopped] at requested
    cases requested
    exact .cancelled stopped
  · rw [request_of_foreign running foreign] at requested
    cases requested
    exact .foreign running foreign
  · cases held : bench.memo.peek? set with
    | some outcome =>
      rw [request_of_resolved running resolved (Memo.getOrCompute_of_peek_some held _ _)]
        at requested
      cases requested
      exact .known running resolved held
    | none =>
      rw [request_of_resolved running resolved (Memo.getOrCompute_of_peek_none held _ _)]
        at requested
      cases requested
      simp only [ask]
      cases reply : (evaluator.score flags (bench.check evaluator).world).1 with
      | outcome o => exact .computed running resolved held (congrArg Reply.published reply)
      | panic message => exact .computed running resolved held (congrArg Reply.published reply)
      | error e => exact .failed running resolved held reply

theorem request_frame (u : Universe) (evaluator : Evaluator σ) (set : FlagSet) (bench : Bench σ) :
    (bench.request u evaluator set).2.log = bench.log ∧
      (bench.request u evaluator set).2.step = bench.step := by
  cases requested : bench.request u evaluator set with
  | mk result after => cases requested_of_request requested <;> exact ⟨rfl, rfl⟩

theorem log_of_request {world : σ} {memo : Memo FlagSet} {set : FlagSet}
    {result : Except Halt Scored} {bench : Bench σ}
    (requested : (ofWorld world memo).request u evaluator set = (result, bench)) :
    bench.log = #[] := by
  have frame := (request_frame u evaluator set (ofWorld world memo)).1
  rwa [requested] at frame

theorem request_within {capacity : Nat} (within : bench.memo.Within capacity) (u : Universe)
    (evaluator : Evaluator σ) (set : FlagSet) :
    (bench.request u evaluator set).2.memo.Within capacity := by
  have started : bench.memo.started.Within capacity := within.recount _ _
  cases requested : bench.request u evaluator set with
  | mk result after =>
    cases requested_of_request requested with
    | cancelled stopped => exact within
    | foreign running foreign => exact within
    | known running resolved held => exact within.publish.recount _ _
    | computed running resolved absent came => exact started.publish
    | failed running resolved absent came => exact started

theorem request_ok {scored : Scored}
    (answer : bench.request u evaluator set = (.ok scored, after)) :
    scored.set = set ∧ u.resolve set = .ok scored.flags := by
  cases requested_of_request answer with
  | known running resolved held => exact ⟨rfl, resolved⟩
  | computed running resolved absent came => exact ⟨rfl, resolved⟩

theorem request_error {e : SearchError}
    (refusal : bench.request u evaluator set = (.error (.error e), after)) :
    e = .interrupted ∨ ∃ flags world, (evaluator.score flags world).1 = .error e := by
  cases requested_of_request refusal with
  | cancelled stopped => exact .inl rfl
  | failed running resolved absent came => exact .inr ⟨_, _, came⟩

end Bench

/-! ## Batches -/

namespace Scheduler

variable {σ : Type}

/-- Workers see the world and the memo, but neither the log nor the step number. -/
structure KeepsLog (scheduler : Scheduler σ) : Prop where
  log_eq : ∀ batch bench, (scheduler batch bench).2.log = bench.log
  step_eq : ∀ batch bench, (scheduler batch bench).2.step = bench.step

/-- Every order in which workers may score a batch keeps to this: the results come in the order of
the batch, and only the evaluator or a cancellation is the source of an error. -/
structure Lawful (evaluator : Evaluator σ) (scheduler : Scheduler σ) : Prop
    extends scheduler.KeepsLog where
  /-- A batch that is scored is scored as a whole and in order. -/
  sets_eq : ∀ {batch bench scored after}, scheduler batch bench = (.ok scored, after) →
    scored.map (·.set) = batch
  /-- Schedulers have no errors of their own. -/
  error_source : ∀ {batch bench e after}, scheduler batch bench = (.error (.error e), after) →
    e = .interrupted ∨ ∃ flags world, (evaluator.score flags world).1 = .error e

end Scheduler

namespace Bench

variable {σ : Type} {u : Universe} {evaluator : Evaluator σ}

theorem requestAll_cons_of_error {set : FlagSet} {bench after : Bench σ} {halt : Halt}
    (first : bench.request u evaluator set = (.error halt, after)) (rest : List FlagSet) :
    requestAll u evaluator (set :: rest) bench = (.error halt, after) := by
  simp [requestAll, first]

theorem requestAll_cons_of_ok {set : FlagSet} {bench between : Bench σ} {scored : Scored}
    (first : bench.request u evaluator set = (.ok scored, between)) (rest : List FlagSet) :
    requestAll u evaluator (set :: rest) bench =
      ((requestAll u evaluator rest between).1.map (scored :: ·),
        (requestAll u evaluator rest between).2) := by
  simp only [requestAll, first]
  split <;> rename_i equal <;> rw [equal] <;> rfl

theorem requestAll_keepsLog (u : Universe) (evaluator : Evaluator σ) :
    Scheduler.KeepsLog (requestAll u evaluator) := by
  suffices frame : ∀ batch bench, (requestAll u evaluator batch bench).2.log = bench.log ∧
      (requestAll u evaluator batch bench).2.step = bench.step from
    ⟨fun batch bench => (frame batch bench).1, fun batch bench => (frame batch bench).2⟩
  intro batch
  induction batch with
  | nil => exact fun bench => ⟨rfl, rfl⟩
  | cons set rest ih =>
    intro bench
    have one := request_frame u evaluator set bench
    cases first : bench.request u evaluator set with
    | mk result between =>
      rw [first] at one
      cases result with
      | error halt =>
        rw [requestAll_cons_of_error first]
        exact one
      | ok scored =>
        rw [requestAll_cons_of_ok first]
        exact ⟨(ih between).1.trans one.1, (ih between).2.trans one.2⟩

theorem requestAll_cons_ok {set : FlagSet} {rest : List FlagSet} {bench after : Bench σ}
    {scored : List Scored}
    (answer : requestAll u evaluator (set :: rest) bench = (.ok scored, after)) :
    ∃ candidate others between, bench.request u evaluator set = (.ok candidate, between) ∧
      requestAll u evaluator rest between = (.ok others, after) ∧ scored = candidate :: others := by
  cases first : bench.request u evaluator set with
  | mk result between =>
    cases result with
    | error halt =>
      rw [requestAll_cons_of_error first] at answer
      cases answer
    | ok candidate =>
      rw [requestAll_cons_of_ok first] at answer
      cases later : requestAll u evaluator rest between with
      | mk result final =>
        rw [later] at answer
        cases result with
        | error halt => cases answer
        | ok others =>
          cases answer
          exact ⟨candidate, others, between, rfl, later, rfl⟩

theorem requestAll_cons_error {set : FlagSet} {rest : List FlagSet} {bench after : Bench σ}
    {halt : Halt} (refusal : requestAll u evaluator (set :: rest) bench = (.error halt, after)) :
    bench.request u evaluator set = (.error halt, after) ∨
      ∃ candidate between, bench.request u evaluator set = (.ok candidate, between) ∧
        requestAll u evaluator rest between = (.error halt, after) := by
  cases first : bench.request u evaluator set with
  | mk result between =>
    cases result with
    | error halt =>
      rw [requestAll_cons_of_error first] at refusal
      cases refusal
      exact .inl rfl
    | ok candidate =>
      rw [requestAll_cons_of_ok first] at refusal
      cases later : requestAll u evaluator rest between with
      | mk result final =>
        rw [later] at refusal
        cases result with
        | error halt =>
          cases refusal
          exact .inr ⟨candidate, between, rfl, later⟩
        | ok others => cases refusal

theorem requestAll_sets {batch : List FlagSet} {bench after : Bench σ} {scored : List Scored}
    (answer : requestAll u evaluator batch bench = (.ok scored, after)) :
    scored.map (·.set) = batch := by
  induction batch generalizing bench scored with
  | nil =>
    cases answer
    rfl
  | cons set rest ih =>
    obtain ⟨candidate, others, between, first, later, rfl⟩ := requestAll_cons_ok answer
    simp [(request_ok first).1, ih later]

theorem requestAll_error {batch : List FlagSet} {bench after : Bench σ} {e : SearchError}
    (refusal : requestAll u evaluator batch bench = (.error (.error e), after)) :
    e = .interrupted ∨ ∃ flags world, (evaluator.score flags world).1 = .error e := by
  induction batch generalizing bench with
  | nil => cases refusal
  | cons set rest ih =>
    rcases requestAll_cons_error refusal with first | ⟨candidate, between, _, later⟩
    · exact request_error first
    · exact ih later

theorem requestAll_lawful (u : Universe) (evaluator : Evaluator σ) :
    Scheduler.Lawful evaluator (requestAll u evaluator) where
  toKeepsLog := requestAll_keepsLog u evaluator
  sets_eq := requestAll_sets
  error_source := requestAll_error

end Bench

end FlagSearch
