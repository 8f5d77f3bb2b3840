import FlagSearch.Proofs.Search.Scoring

/-!
# Evaluators that are functions of the flags

If the evaluator gives every list of flags one answer, so does the memo in front of it: whatever was
evicted or remembered, a request is answered by the function.

* `Evaluator.Publishes` — the evaluator is a function of the flags, a panic read as the runtime
  error it is published as.
* `Memo.Agrees` — what the memo holds is what the function gives.
* `Bench.request_published`, `Bench.requestAll_published`, `Bench.requestAll_stops` — requests and
  batches.
-/

namespace FlagSearch

def Universe.select (u : Universe) (set : FlagSet) : List String :=
  set.ones.filterMap fun i => u.flags[i]?

theorem Universe.resolve_eq {u : Universe} {set : FlagSet} (length : set.length = u.size) :
    u.resolve set = .ok (u.select set) := by
  simp [resolve, length, select]

theorem Universe.length_of_resolve {u : Universe} {set : FlagSet} {flags : List String}
    (resolved : u.resolve set = .ok flags) : set.length = u.size := by
  unfold resolve at resolved
  split at resolved
  next same => exact same
  · cases resolved

theorem Universe.flags_eq_select {u : Universe} {set : FlagSet} {flags : List String}
    (resolved : u.resolve set = .ok flags) : flags = u.select set := by
  rw [resolve_eq (length_of_resolve resolved)] at resolved
  exact (Except.ok.inj resolved).symm

/-- Every list of flags has one answer, and no one interrupts. -/
structure Evaluator.Publishes {σ : Type} (evaluator : Evaluator σ)
    (answer : List String → Except SearchError Outcome) : Prop where
  steady : ∀ world, (evaluator.poll world).1 = false
  published_eq : ∀ flags world, (evaluator.score flags world).1.published = answer flags

theorem Evaluator.ofFunction_publishes (name : String) (reply : List String → Reply) :
    (ofFunction name reply).Publishes fun flags => (reply flags).published :=
  ⟨fun _ => rfl, fun _ _ => rfl⟩

/-! ## The memo -/

namespace Memo

variable {κ : Type} {memo : Memo κ} {answer : κ → Except SearchError Outcome}

/-- Every outcome held is the answer to its key. -/
def Agrees (memo : Memo κ) (answer : κ → Except SearchError Outcome) : Prop :=
  ∀ entry ∈ memo.entries, answer entry.1 = .ok entry.2

theorem agrees_iff_knows :
    memo.Agrees answer ↔ memo.Knows fun key outcome => answer key = .ok outcome := Iff.rfl

theorem agrees_of_ofCapacity {capacity : Nat} (sized : ofCapacity capacity = .ok memo) :
    memo.Agrees answer :=
  agrees_iff_knows.2 (knows_of_ofCapacity sized)

variable [DecidableEq κ]

theorem Agrees.peek (agrees : memo.Agrees answer) {key : κ} {outcome : Outcome}
    (held : memo.peek? key = some outcome) : answer key = .ok outcome :=
  (agrees_iff_knows.1 agrees).of_peek? held

theorem Agrees.publish (agrees : memo.Agrees answer) {key : κ} {outcome : Outcome}
    (right : answer key = .ok outcome) : (memo.publish key outcome).Agrees answer :=
  agrees_iff_knows.2 ((agrees_iff_knows.1 agrees).publish right)

end Memo

/-! ## Requests -/

namespace Bench

variable {σ : Type} {u : Universe} {evaluator : Evaluator σ}
  {answer : List String → Except SearchError Outcome} {bench after : Bench σ}

/-- A bench that nobody interrupted, with a memo that agrees with the evaluator. -/
structure Settled (u : Universe) (answer : List String → Except SearchError Outcome)
    (bench : Bench σ) : Prop where
  running : bench.cancelled = false
  agrees : bench.memo.Agrees fun set => answer (u.select set)

theorem request_published (publishes : evaluator.Publishes answer)
    (settled : bench.Settled u answer) {set : FlagSet} (length : set.length = u.size)
    {result : Except Halt Scored}
    (requested : bench.request u evaluator set = (result, after)) :
    after.Settled u answer ∧ ∃ cached, result = answered set (u.select set)
      ((answer (u.select set)).map fun outcome => ⟨outcome, cached⟩) := by
  have running : (bench.check evaluator).cancelled = false := by
    change (bench.cancelled || (evaluator.poll bench.world).1) = false
    rw [settled.running, publishes.steady]
    rfl
  cases requested_of_request requested with
  | cancelled stopped => cases running.symm.trans stopped
  | foreign _ foreign => cases (Universe.resolve_eq length).symm.trans foreign
  | known _ resolved held =>
    obtain rfl := Universe.flags_eq_select resolved
    have right := settled.agrees.peek held
    exact ⟨⟨running, settled.agrees.publish right⟩, true, by rw [right]; rfl⟩
  | computed _ resolved absent came =>
    obtain rfl := Universe.flags_eq_select resolved
    have right := (publishes.published_eq _ _).symm.trans came
    exact ⟨⟨running, settled.agrees.publish right⟩, false, by rw [right]; rfl⟩
  | failed _ resolved absent came =>
    obtain rfl := Universe.flags_eq_select resolved
    have right := (publishes.published_eq _ _).symm.trans (congrArg Reply.published came)
    exact ⟨⟨running, settled.agrees⟩, false, by rw [right]; rfl⟩

theorem exists_scored {outcomes : List String → Outcome}
    (publishes : evaluator.Publishes fun flags => .ok (outcomes flags))
    (settled : bench.Settled u fun flags => .ok (outcomes flags)) {set : FlagSet}
    (length : set.length = u.size) :
    ∃ scored after, bench.request u evaluator set = (.ok scored, after) := by
  cases requested : bench.request u evaluator set with
  | mk result after =>
    obtain ⟨_, cached, rfl⟩ := request_published publishes settled length requested
    exact ⟨_, after, rfl⟩

theorem requestAll_published (publishes : evaluator.Publishes answer) {batch : List FlagSet}
    (lengths : ∀ set ∈ batch, set.length = u.size) (settled : bench.Settled u answer)
    {scored : List Scored}
    (requested : requestAll u evaluator batch bench = (.ok scored, after)) :
    after.Settled u answer ∧ ∀ candidate ∈ scored, candidate.flags = u.select candidate.set ∧
      answer candidate.flags = .ok candidate.outcome := by
  induction batch generalizing bench scored with
  | nil =>
    cases requested
    exact ⟨settled, by simp⟩
  | cons set rest ih =>
    obtain ⟨candidate, others, between, first, later, rfl⟩ := requestAll_cons_ok requested
    obtain ⟨settled, cached, result⟩ :=
      request_published publishes settled (lengths set (by simp)) first
    obtain ⟨settled, others⟩ := ih (fun set member => lengths set (by simp [member])) settled later
    refine ⟨settled, List.forall_mem_cons.2 ⟨?_, others⟩⟩
    cases right : answer (u.select set) with
    | error e =>
      rw [right] at result
      cases result
    | ok outcome =>
      rw [right] at result
      cases result
      exact ⟨rfl, right⟩

theorem requestAll_stops (publishes : evaluator.Publishes answer) {batch : List FlagSet}
    (lengths : ∀ set ∈ batch, set.length = u.size) (settled : bench.Settled u answer) {halt : Halt}
    (requested : requestAll u evaluator batch bench = (.error halt, after)) :
    ∃ set ∈ batch, ∃ e, answer (u.select set) = .error e ∧ halt = .error e := by
  induction batch generalizing bench with
  | nil => cases requested
  | cons set rest ih =>
    have length := lengths set (by simp)
    rcases requestAll_cons_error requested with first | ⟨candidate, between, first, later⟩
    · obtain ⟨_, cached, result⟩ := request_published publishes settled length first
      refine ⟨set, by simp, ?_⟩
      cases right : answer (u.select set) with
      | error e =>
        rw [right] at result
        cases result
        exact ⟨e, rfl, rfl⟩
      | ok outcome =>
        rw [right] at result
        cases result
    · obtain ⟨settled, _⟩ := request_published publishes settled length first
      obtain ⟨other, member, stopped⟩ :=
        ih (fun set member => lengths set (by simp [member])) settled later
      exact ⟨other, by simp [member], stopped⟩

end Bench

end FlagSearch
