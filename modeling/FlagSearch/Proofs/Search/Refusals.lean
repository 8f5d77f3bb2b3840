import FlagSearch.Proofs.Search.Phases

/-!
# What a failed step leaves behind

A step may fail at any candidate of its batch, when some were scored and remembered already.  Of
such a step nothing is recorded and the search does not move (`Stage.unmoved_of_advance`); what is
left is in the memo and in the world of the evaluator, and both show exactly the candidates up to
the one that failed.

* `Contact`, `Evaluator.hear` — what an evaluator notices of a run.
* `Memo.served` — what one answered request does to the memo.
* `Bench.request_traced`, `Bench.request_refused` — one request, seen from both.
* `Bench.requestAll_traced`, `Bench.requestAll_refused` — a batch.
* `Stage.advance_error_atomic` — failed steps.
-/

namespace FlagSearch

/-! ## Traces -/

/-- One way in which a run turns to its evaluator. -/
inductive Contact where
  /-- It looks whether it has been cancelled. -/
  | poll
  /-- It has a list of flags scored. -/
  | score (flags : List String)
  deriving DecidableEq

/-- The world after the evaluator was turned to in the given ways, in order. -/
def Evaluator.hear {σ : Type} (evaluator : Evaluator σ) (world : σ) (contacts : List Contact) : σ :=
  contacts.foldl (fun world contact =>
    match contact with
    | .poll => (evaluator.poll world).2
    | .score flags => (evaluator.score flags world).2) world

/-- What the evaluator notices of a request that was answered. -/
def Scored.contacts (scored : Scored) : List Contact :=
  if scored.cached then [.poll] else [.poll, .score scored.flags]

/-- The memo after a request that was answered: the outcome was looked up or published, and is the
one touched last. -/
def Memo.served (memo : Memo FlagSet) (scored : Scored) : Memo FlagSet :=
  { memo.publish scored.set scored.outcome with
    hits := memo.hits + if scored.cached then 1 else 0
    misses := memo.misses + if scored.cached then 0 else 1 }

namespace Bench

variable {σ : Type} {u : Universe} {evaluator : Evaluator σ} {set : FlagSet}
  {bench after : Bench σ}

/-! ## One request -/

/-- A request that was answered served one outcome, and the evaluator scored the flags unless the
outcome was held. -/
theorem request_traced {scored : Scored}
    (answer : bench.request u evaluator set = (.ok scored, after)) :
    after.memo = bench.memo.served scored ∧
      after.world = evaluator.hear bench.world scored.contacts ∧
      (scored.cached = true ↔ bench.memo.peek? set = some scored.outcome) := by
  cases requested_of_request answer with
  | known running resolved held => exact ⟨rfl, rfl, by simp [held]⟩
  | computed running resolved absent came => exact ⟨rfl, rfl, by simp [absent]⟩

/-- A request that ended in an error found the run cancelled, or the evaluator was asked for a set
that is not held and refused to score it. -/
theorem request_refused {e : SearchError}
    (refusal : bench.request u evaluator set = (.error (.error e), after)) :
    (e = .interrupted ∧ after.cancelled = true ∧ after.memo = bench.memo ∧
      after.world = evaluator.hear bench.world [.poll]) ∨
    ∃ flags, u.resolve set = .ok flags ∧ bench.memo.peek? set = none ∧
      (evaluator.score flags (evaluator.hear bench.world [.poll])).1 = .error e ∧
      after.memo = bench.memo.started ∧
      after.world = evaluator.hear bench.world [.poll, .score flags] := by
  cases requested_of_request refusal with
  | cancelled stopped => exact .inl ⟨rfl, stopped, rfl, rfl⟩
  | failed running resolved absent came => exact .inr ⟨_, resolved, absent, came, rfl, rfl⟩

/-! ## Batches -/

/-- A batch that was scored served its outcomes one after the other, and the evaluator noticed the
candidates in their order. -/
theorem requestAll_traced {batch : List FlagSet} {scored : List Scored}
    (answer : requestAll u evaluator batch bench = (.ok scored, after)) :
    after.memo = scored.foldl Memo.served bench.memo ∧
      after.world = evaluator.hear bench.world (scored.flatMap Scored.contacts) := by
  induction batch generalizing bench scored with
  | nil =>
    cases answer
    exact ⟨rfl, rfl⟩
  | cons set rest ih =>
    obtain ⟨candidate, others, between, first, later, rfl⟩ := requestAll_cons_ok answer
    obtain ⟨memo, world, _⟩ := request_traced first
    obtain ⟨memo', world'⟩ := ih later
    rw [memo', world', memo, world]
    exact ⟨rfl, by rw [List.flatMap_cons, Evaluator.hear, Evaluator.hear, ← List.foldl_append]; rfl⟩

/-- A batch fails at one of its candidates: those before it were scored, those after it were not
even looked at. -/
theorem requestAll_refused {batch : List FlagSet} {halt : Halt}
    (refusal : requestAll u evaluator batch bench = (.error halt, after)) :
    ∃ earlier failing later scored between, batch = earlier ++ failing :: later ∧
      requestAll u evaluator earlier bench = (.ok scored, between) ∧
      between.request u evaluator failing = (.error halt, after) := by
  induction batch generalizing bench with
  | nil => cases refusal
  | cons set rest ih =>
    rcases requestAll_cons_error refusal with first | ⟨candidate, between, first, later⟩
    · exact ⟨[], set, rest, [], bench, rfl, rfl, first⟩
    · obtain ⟨earlier, failing, others, scored, last, rfl, answered, failed⟩ := ih later
      refine ⟨set :: earlier, failing, others, candidate :: scored, last, rfl, ?_, failed⟩
      rw [requestAll_cons_of_ok first, answered]
      rfl

theorem requestAll_flags {batch : List FlagSet} {scored : List Scored}
    (answer : requestAll u evaluator batch bench = (.ok scored, after)) :
    ∀ candidate ∈ scored, u.resolve candidate.set = .ok candidate.flags := by
  induction batch generalizing bench scored with
  | nil =>
    cases answer
    simp
  | cons set rest ih =>
    obtain ⟨candidate, others, between, first, later, rfl⟩ := requestAll_cons_ok answer
    obtain ⟨same, resolved⟩ := request_ok first
    exact List.forall_mem_cons.2 ⟨same ▸ resolved, ih later⟩

end Bench

/-! ## Failed steps -/

/-- What a step that scores its candidates one after the other shows when it fails at the candidate
`failing` with the error `e`: the candidates `scored` before it were served by the memo, and the
evaluator was asked for those of them that were not held.  The failing one left no outcome in the
memo, and the evaluator noticed nothing after it. -/
def Stage.StoppedAt {σ : Type} (u : Universe) (evaluator : Evaluator σ) (e : SearchError)
    (scored : List Scored) (failing : FlagSet) (before after : Bench σ) : Prop :=
  (e = .interrupted ∧ after.cancelled = true ∧
    after.memo = scored.foldl Memo.served before.memo ∧
    after.world = evaluator.hear before.world (scored.flatMap Scored.contacts ++ [.poll])) ∨
  ∃ flags, u.resolve failing = .ok flags ∧
    (scored.foldl Memo.served before.memo).peek? failing = none ∧
    (evaluator.score flags
      (evaluator.hear before.world (scored.flatMap Scored.contacts ++ [.poll]))).1 = .error e ∧
    after.memo = (scored.foldl Memo.served before.memo).started ∧
    after.world =
      evaluator.hear before.world (scored.flatMap Scored.contacts ++ [.poll, .score flags])

namespace Stage

variable {σ : Type} {u : Universe} {evaluator : Evaluator σ} {before after : Stage σ}

theorem stoppedAt_of_requestAll {batch : List FlagSet} {bench last : Bench σ} {e : SearchError}
    (refusal : Bench.requestAll u evaluator batch bench = (.error (.error e), last)) :
    ∃ scored failing later, batch = scored.map (·.set) ++ failing :: later ∧
      (∀ candidate ∈ scored, u.resolve candidate.set = .ok candidate.flags) ∧
      StoppedAt u evaluator e scored failing bench last := by
  obtain ⟨earlier, failing, later, scored, between, rfl, answered, failed⟩ :=
    Bench.requestAll_refused refusal
  obtain ⟨memo, world⟩ := Bench.requestAll_traced answered
  refine ⟨scored, failing, later, by rw [Bench.requestAll_sets answered],
    Bench.requestAll_flags answered, ?_⟩
  have hear : ∀ contacts, evaluator.hear between.world contacts =
      evaluator.hear bench.world (scored.flatMap Scored.contacts ++ contacts) := by
    intro contacts
    rw [world, Evaluator.hear, Evaluator.hear, ← List.foldl_append]
    rfl
  rcases Bench.request_refused failed with ⟨rfl, stopped, kept, heard⟩ |
    ⟨flags, resolved, absent, reply, kept, heard⟩
  · exact .inl ⟨rfl, stopped, kept.trans memo, heard.trans (hear _)⟩
  · rw [hear] at reply heard
    rw [memo] at absent kept
    exact .inr ⟨flags, resolved, absent, reply, kept, heard⟩

/-- A step that fails with an error moves nothing and records nothing, whoever scores its
candidates.  If they are scored one after the other, either the step chose no candidates and left
the bench alone, or it stopped at one of them: the outcomes of the candidates before that one were
looked up or published, that one left nothing in the memo, and the evaluator noticed none of those
after it. -/
theorem advance_error_atomic (u : Universe) (evaluator : Evaluator σ) {e : SearchError} :
    (∀ scheduler : Scheduler σ, scheduler.KeepsLog →
      before.advance u evaluator scheduler = (.error (.error e), after) → before.Unmoved after) ∧
    (before.advance u evaluator (Bench.requestAll u evaluator) = (.error (.error e), after) →
      (before.tries u = .error (.error e) ∧ after.bench = before.bench) ∨
      ∃ scored failing later, before.tries u = .ok (scored.map (·.set) ++ failing :: later) ∧
        (∀ candidate ∈ scored, u.resolve candidate.set = .ok candidate.flags) ∧
        StoppedAt u evaluator e scored failing before.bench after.bench) := by
  refine ⟨fun scheduler keeps failed => unmoved_of_advance keeps failed, fun failed => ?_⟩
  cases chosen : before.tries u with
  | error halt =>
    rw [advance_of_tries_error chosen] at failed
    cases failed
    exact .inl ⟨rfl, drawn_bench before⟩
  | ok sets =>
    right
    rw [advance_requestAll chosen] at failed
    cases answer : Bench.requestAll u evaluator sets before.bench with
    | mk result bench =>
      rw [answer] at failed
      cases result with
      | ok batch => cases failed
      | error halt =>
        cases failed
        obtain ⟨scored, failing, later, rfl, flags, stopped⟩ := stoppedAt_of_requestAll answer
        exact ⟨scored, failing, later, rfl, flags, stopped⟩

def flagTrio : Universe := ⟨none, none, ["-a", "-b", "-c"]⟩

/-- An evaluator that breaks down at its second call. -/
def faltering : Evaluator (List (List String)) := .ofHistory "faltering" fun calls =>
  if calls.length = 1 then .outcome .buildFailure else .error (.evaluatorUnavailable "gone")

def freshSweep : Stage (List (List String)) :=
  ⟨.sweep false, .start ⟨flagTrio.emptySet, [], .runtimeError, false⟩, .ofWorld [] ⟨4, [], 0, 0⟩⟩

theorem advance_error_atomic_faltering :
    ∃ after, freshSweep.advance flagTrio faltering (Bench.requestAll flagTrio faltering) =
        (.error (.error (.evaluatorUnavailable "gone")), after) ∧
      freshSweep.Unmoved after ∧ after.bench.world = [["-a"], ["-b"]] ∧
      ∃ scored failing later,
        freshSweep.tries flagTrio = .ok (scored.map (·.set) ++ failing :: later) ∧
        StoppedAt flagTrio faltering (.evaluatorUnavailable "gone") scored failing freshSweep.bench
          after.bench := by
  have failed : ∃ after, freshSweep.advance flagTrio faltering
      (Bench.requestAll flagTrio faltering) =
        (.error (.error (.evaluatorUnavailable "gone")), after) ∧
      after.bench.world = [["-a"], ["-b"]] := ⟨_, rfl, rfl⟩
  obtain ⟨after, failed, world⟩ := failed
  have atomic := @advance_error_atomic _ freshSweep after flagTrio faltering
    (.evaluatorUnavailable "gone")
  refine ⟨after, failed, atomic.1 _ (Bench.requestAll_keepsLog _ _) failed, world, ?_⟩
  rcases atomic.2 failed with ⟨unchosen, _⟩ | ⟨scored, failing, later, chosen, _, stopped⟩
  · have listed : ∃ sets, freshSweep.tries flagTrio = .ok sets := ⟨_, rfl⟩
    obtain ⟨sets, listed⟩ := listed
    rw [listed] at unchosen
    cases unchosen
  · exact ⟨scored, failing, later, chosen, stopped⟩

end Stage

end FlagSearch
