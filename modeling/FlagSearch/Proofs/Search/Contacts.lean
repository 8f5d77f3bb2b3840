import FlagSearch.Proofs.Search.Refusals
import FlagSearch.Proofs.Search.Course

/-!
# What an evaluator notices of a run

An evaluator may write down how the run turns to it: each request begins with a look whether the run
was cancelled, and ends with a call unless the memo answers.  The record only grows, and the run is
none the wiser.

* `Contact.calls`, `Contact.requests` — the calls in a record, and the number of its requests.
* `Evaluator.traced` — the evaluator that writes down.
* `Contact.calls_contacts` — the calls for candidates that were answered.
* `Bench.request_contacts` — what one request adds to the record.
* `Evaluator.Keeps` — what the evaluator keeps true of its world is kept by scoring, by steps and by
  walks.
* `run_traced` — a run whose evaluator writes down ends as it would end without that.
-/

namespace FlagSearch

namespace Contact

def call? : Contact → Option (List String)
  | poll => none
  | score flags => some flags

def calls (contacts : List Contact) : List (List String) := contacts.filterMap call?

def requests (contacts : List Contact) : Nat := contacts.countP (· = poll)

@[simp] theorem calls_nil : calls [] = [] := rfl

@[simp] theorem requests_nil : requests [] = 0 := rfl

@[simp] theorem calls_append (contacts later : List Contact) :
    calls (contacts ++ later) = calls contacts ++ calls later := List.filterMap_append

@[simp] theorem calls_poll_cons (later : List Contact) : calls (poll :: later) = calls later := rfl

@[simp] theorem calls_score_cons (flags : List String) (later : List Contact) :
    calls (score flags :: later) = flags :: calls later := rfl

@[simp] theorem calls_map_score (flags : List (List String)) : calls (flags.map score) = flags := by
  simp [calls, List.filterMap_map, Function.comp_def, call?]

@[simp] theorem requests_append (contacts later : List Contact) :
    requests (contacts ++ later) = requests contacts + requests later := List.countP_append

@[simp] theorem requests_poll_cons (later : List Contact) :
    requests (poll :: later) = requests later + 1 := List.countP_cons_of_pos (by simp)

@[simp] theorem requests_score_cons (flags : List String) (later : List Contact) :
    requests (score flags :: later) = requests later := List.countP_cons_of_neg (by simp)

end Contact

variable {σ : Type} {u : Universe}

namespace Evaluator

/-- The evaluator that also writes down how it is turned to. -/
def traced (evaluator : Evaluator σ) : Evaluator (σ × List Contact) where
  name := evaluator.name
  poll seen := ((evaluator.poll seen.1).1, (evaluator.poll seen.1).2, seen.2 ++ [.poll])
  score flags seen :=
    ((evaluator.score flags seen.1).1, (evaluator.score flags seen.1).2, seen.2 ++ [.score flags])
  clock seen := evaluator.clock seen.1

theorem Steady.traced {evaluator : Evaluator σ} (steady : evaluator.Steady) :
    evaluator.traced.Steady := fun seen => steady seen.1

/-- What is true of the world stays true, however the evaluator is turned to. -/
structure Keeps (evaluator : Evaluator σ) (holds : σ → Prop) : Prop where
  poll : ∀ {world}, holds world → holds (evaluator.poll world).2
  score : ∀ flags {world}, holds world → holds (evaluator.score flags world).2

theorem traced_keeps_prefix (evaluator : Evaluator σ) (contacts : List Contact) :
    evaluator.traced.Keeps fun seen => contacts <+: seen.2 where
  poll begins := begins.trans (List.prefix_append _ _)
  score _ _ begins := begins.trans (List.prefix_append _ _)

end Evaluator

theorem Evaluator.traced_hear (evaluator : Evaluator σ) (seen : σ × List Contact)
    (contacts : List Contact) :
    (evaluator.traced.hear seen contacts).2 = seen.2 ++ contacts := by
  induction contacts generalizing seen with
  | nil => exact (List.append_nil _).symm
  | cons contact contacts ih =>
    cases contact with
    | poll => exact (ih _).trans (List.append_assoc _ _ _)
    | score flags => exact (ih _).trans (List.append_assoc _ _ _)

theorem Contact.calls_contacts (batch : List Scored) :
    calls (batch.flatMap Scored.contacts) =
      (batch.filter fun candidate => !candidate.cached).map (·.flags) := by
  induction batch with
  | nil => rfl
  | cons candidate batch ih =>
    rw [List.flatMap_cons, calls_append, ih, List.filter_cons, Scored.contacts]
    cases candidate.cached <;> rfl

/-! ## Requests -/

namespace Bench

variable {evaluator : Evaluator σ} {set : FlagSet}

theorem request_world (u : Universe) (evaluator : Evaluator σ) (set : FlagSet) (bench : Bench σ) :
    (bench.request u evaluator set).2.world = (evaluator.poll bench.world).2 ∨
      ∃ flags, (bench.request u evaluator set).2.world =
        (evaluator.score flags (evaluator.poll bench.world).2).2 := by
  cases requested : bench.request u evaluator set with
  | mk result after =>
    cases requested_of_request requested with
    | cancelled stopped => exact .inl rfl
    | foreign running foreign => exact .inl rfl
    | known running resolved held => exact .inl rfl
    | computed running resolved absent came => exact .inr ⟨_, rfl⟩
    | failed running resolved absent came => exact .inr ⟨_, rfl⟩

theorem request_cancelled (u : Universe) (evaluator : Evaluator σ) (set : FlagSet)
    (bench : Bench σ) :
    (bench.request u evaluator set).2.cancelled = (bench.check evaluator).cancelled := by
  cases requested : bench.request u evaluator set with
  | mk result after => cases requested_of_request requested <;> rfl

theorem request_contacts (u : Universe) (evaluator : Evaluator σ) (set : FlagSet)
    (bench : Bench (σ × List Contact)) :
    ∃ called : List (List String), called.length ≤ 1 ∧
      (bench.request u evaluator.traced set).2.world.2 =
        bench.world.2 ++ .poll :: called.map .score := by
  rcases request_world u evaluator.traced set bench with world | ⟨flags, world⟩
  · exact ⟨[], Nat.zero_le _, congrArg Prod.snd world⟩
  · exact ⟨[flags], Nat.le_refl _, (congrArg Prod.snd world).trans (List.append_assoc _ _ _)⟩

theorem request_keeps {holds : σ → Prop} (keeps : evaluator.Keeps holds) {bench : Bench σ}
    (before : holds bench.world) (set : FlagSet) :
    holds (bench.request u evaluator set).2.world := by
  rcases request_world u evaluator set bench with world | ⟨flags, world⟩
  · exact world ▸ keeps.poll before
  · exact world ▸ keeps.score flags (keeps.poll before)

theorem requestAll_keeps {holds : σ → Prop} (keeps : evaluator.Keeps holds) {bench : Bench σ}
    (before : holds bench.world) (batch : List FlagSet) :
    holds (requestAll u evaluator batch bench).2.world := by
  induction batch generalizing bench with
  | nil => exact before
  | cons set rest ih =>
    have after := request_keeps (u := u) keeps before set
    cases first : bench.request u evaluator set with
    | mk result between =>
      rw [first] at after
      cases result with
      | error halt =>
        rw [requestAll_cons_of_error first]
        exact after
      | ok candidate =>
        rw [requestAll_cons_of_ok first]
        exact ih after

end Bench

/-! ## Steps -/

section Steps

variable {evaluator : Evaluator σ}

@[simp] theorem Stage.concluded_world (stage : Stage σ)
    (answer : Except Halt (List Scored) × Bench σ) :
    (stage.concluded answer).2.bench.world = answer.2.world := by
  obtain ⟨halt | batch, bench⟩ := answer
  · rfl
  · exact Bench.recordAll_world bench batch

@[simp] theorem Stage.concluded_cancelled (stage : Stage σ)
    (answer : Except Halt (List Scored) × Bench σ) :
    (stage.concluded answer).2.bench.cancelled = answer.2.cancelled := by
  obtain ⟨halt | batch, bench⟩ := answer
  · rfl
  · exact Bench.recordAll_cancelled bench batch

theorem Stage.advance_keeps {holds : σ → Prop} (keeps : evaluator.Keeps holds) {stage : Stage σ}
    (before : holds stage.bench.world) :
    holds (stage.advance u evaluator (Bench.requestAll u evaluator)).2.bench.world := by
  cases chosen : stage.tries u with
  | error halt =>
    rw [advance_of_tries_error chosen, drawn_bench]
    exact before
  | ok sets =>
    rw [advance_requestAll chosen, concluded_world]
    exact Bench.requestAll_keeps keeps before sets

theorem Walk.step_keeps {holds : σ → Prop} (keeps : evaluator.Keeps holds) {walk : Walk σ}
    (before : holds walk.stage.bench.world) (number : Nat) :
    holds (walk.step u evaluator (Bench.requestAll u evaluator) number).2.stage.bench.world := by
  have entered : holds (walk.entering number).bench.world := before
  have after := Stage.advance_keeps (u := u) keeps entered
  rw [step_eq]
  split
  next halt stage advanced =>
    rw [advanced] at after
    exact after
  next stage advanced =>
    rw [advanced] at after
    exact after

theorem Walk.steps_keeps {holds : σ → Prop} (keeps : evaluator.Keeps holds) {walk : Walk σ}
    (before : holds walk.stage.bench.world) (count number : Nat) :
    holds
      (walk.steps u evaluator (Bench.requestAll u evaluator) count number).2.stage.bench.world := by
  induction count generalizing walk number with
  | zero => exact before
  | succ count ih =>
    have after := step_keeps (u := u) keeps before number
    rw [steps]
    split
    next halt last failed =>
      rw [failed] at after
      exact after
    next next done =>
      rw [done] at after
      exact ih after (number + 1)

theorem runFrom_keeps {holds : σ → Prop} (keeps : evaluator.Keeps holds) {bench : Bench σ}
    (before : holds bench.world) (settings : Settings) (strategy : Strategy) (baseline : Scored) :
    holds (runFrom settings u evaluator (Bench.requestAll u evaluator) strategy baseline
      bench).2 := by
  cases room : reserve settings.iterations trajectorySlot with
  | error fault =>
    rw [runFrom_of_full room]
    exact before
  | ok _ =>
    let start : Walk σ := .ofStage ⟨strategy.begin (.start baseline), .start baseline, bench⟩
    have begins : holds start.stage.bench.world := before
    rw [runFrom_of_room room rfl]
    exact Walk.steps_keeps keeps begins settings.iterations 1

end Steps

/-! ## The run is none the wiser -/

def Bench.untraced (bench : Bench (σ × List Contact)) : Bench σ :=
  ⟨bench.world.1, bench.cancelled, bench.memo, bench.log, bench.step⟩

def Stage.untraced (stage : Stage (σ × List Contact)) : Stage σ :=
  ⟨stage.strategy, stage.position, stage.bench.untraced⟩

def Walk.untraced (walk : Walk (σ × List Contact)) : Walk σ :=
  ⟨walk.stage.untraced, walk.trajectory⟩

section Untraced

variable (u : Universe) (evaluator : Evaluator σ)

theorem Bench.request_untraced (set : FlagSet) (bench : Bench (σ × List Contact)) :
    bench.untraced.request u evaluator set =
      (bench.request u evaluator.traced set).map id untraced := by
  have checked : bench.untraced.check evaluator = (bench.check evaluator.traced).untraced := rfl
  rcases request_cases u evaluator.traced set bench with stopped | ⟨running, _, foreign⟩ |
    ⟨running, flags, resolved⟩
  · rw [request_of_cancelled stopped, request_of_cancelled (checked ▸ stopped)]
    rfl
  · rw [request_of_foreign running foreign, request_of_foreign (checked ▸ running) foreign]
    rfl
  · have running' : (bench.untraced.check evaluator).cancelled = false := checked ▸ running
    cases held : bench.memo.peek? set with
    | some outcome =>
      rw [request_of_resolved running resolved (Memo.getOrCompute_of_peek_some held _ _),
        request_of_resolved running' resolved (Memo.getOrCompute_of_peek_some held _ _)]
      rfl
    | none =>
      rw [request_of_resolved running resolved (Memo.getOrCompute_of_peek_none held _ _),
        request_of_resolved running' resolved (Memo.getOrCompute_of_peek_none held _ _)]
      rfl

theorem Bench.requestAll_untraced (batch : List FlagSet) (bench : Bench (σ × List Contact)) :
    requestAll u evaluator batch bench.untraced =
      (requestAll u evaluator.traced batch bench).map id untraced := by
  induction batch generalizing bench with
  | nil => rfl
  | cons set rest ih =>
    have one := request_untraced u evaluator set bench
    cases first : bench.request u evaluator.traced set with
    | mk result between =>
      rw [first] at one
      cases result with
      | error halt =>
        rw [requestAll_cons_of_error first, requestAll_cons_of_error one]
        rfl
      | ok candidate =>
        rw [requestAll_cons_of_ok first, requestAll_cons_of_ok one, ih]
        rfl

theorem Bench.recordAll_untraced (bench : Bench (σ × List Contact)) (batch : List Scored) :
    bench.untraced.recordAll batch = (bench.recordAll batch).untraced := by
  induction batch generalizing bench with
  | nil => rfl
  | cons scored batch ih => exact ih (bench.record scored)

theorem Stage.drawn_untraced (stage : Stage (σ × List Contact)) :
    stage.untraced.drawn u = (stage.drawn u).untraced := by
  obtain ⟨strategy, position, bench⟩ := stage
  cases strategy with
  | hillClimb flips draws =>
    simp only [drawn, untraced]
    split <;> rfl
  | tabu visited => rfl
  | sweep done => rfl

theorem Stage.concluded_untraced (stage : Stage (σ × List Contact))
    (answer : Except Halt (List Scored) × Bench (σ × List Contact)) :
    stage.untraced.concluded (answer.map id Bench.untraced) =
      (stage.concluded answer).map id untraced := by
  obtain ⟨halt | batch, bench⟩ := answer
  · rfl
  · simp only [concluded, moved, Prod.map, id, untraced, ← Bench.recordAll_untraced]
    rfl

theorem Stage.advance_untraced (stage : Stage (σ × List Contact)) :
    stage.untraced.advance u evaluator (Bench.requestAll u evaluator) =
      (stage.advance u evaluator.traced (Bench.requestAll u evaluator.traced)).map id
        untraced := by
  have tries : stage.untraced.tries u = stage.tries u := rfl
  cases chosen : stage.tries u with
  | error halt =>
    rw [advance_of_tries_error chosen, advance_of_tries_error (tries.trans chosen), drawn_untraced]
    rfl
  | ok sets =>
    rw [advance_requestAll chosen, advance_requestAll (tries.trans chosen), drawn_untraced,
      ← concluded_untraced, ← Bench.requestAll_untraced]
    rfl

theorem Walk.steps_untraced (walk : Walk (σ × List Contact)) (count number : Nat) :
    walk.untraced.steps u evaluator (Bench.requestAll u evaluator) count number =
      (walk.steps u evaluator.traced (Bench.requestAll u evaluator.traced) count number).map id
        untraced := by
  induction count generalizing walk number with
  | zero => rfl
  | succ count ih =>
    have one := Stage.advance_untraced u evaluator (walk.entering number)
    change (walk.untraced.entering number).advance u evaluator _ = _ at one
    simp only [steps, step_eq, one]
    cases advanced : (walk.entering number).advance u evaluator.traced
        (Bench.requestAll u evaluator.traced) with
    | mk result stage =>
      cases result with
      | error halt => rfl
      | ok _ => exact ih ⟨stage, walk.trajectory.push (finite? stage.position.best.cost)⟩ (number + 1)

theorem runFrom_untraced (settings : Settings) (strategy : Strategy) (baseline : Scored)
    (bench : Bench (σ × List Contact)) :
    runFrom settings u evaluator (Bench.requestAll u evaluator) strategy baseline bench.untraced =
      (runFrom settings u evaluator.traced (Bench.requestAll u evaluator.traced) strategy baseline
        bench).map id Prod.fst := by
  cases room : reserve settings.iterations trajectorySlot with
  | error fault =>
    rw [runFrom_of_full room, runFrom_of_full room]
    rfl
  | ok _ =>
    cases walked : (Walk.ofStage ⟨strategy.begin (.start baseline), .start baseline, bench⟩).steps u
        evaluator.traced (Bench.requestAll u evaluator.traced) settings.iterations 1 with
    | mk halt walk =>
      have bare := Walk.steps_untraced u evaluator
        (.ofStage ⟨strategy.begin (.start baseline), .start baseline, bench⟩) settings.iterations 1
      rw [walked] at bare
      rw [runFrom_of_room room walked]
      refine (runFrom_of_room room bare).trans ?_
      rcases halt with _ | _ | _ <;> rfl

theorem run_traced (settings : Settings) (entropy : UInt64) (world : σ) :
    run settings u evaluator entropy world =
      (run settings u evaluator.traced entropy (world, [])).map id Prod.fst := by
  rcases settings.prepare_cases u.size entropy with ⟨what, refused⟩ |
    ⟨strategy, memo, valid, chosen, sized⟩
  · rw [run, run, runWith_of_rejected refused, runWith_of_rejected refused]
    rfl
  · have one : (Bench.ofWorld world memo).request u evaluator _ = _ :=
      Bench.request_untraced u evaluator (settings.initial.getD u.emptySet)
        (.ofWorld (world, []) memo)
    rw [run, run, runWith_of_prepared valid chosen sized, runWith_of_prepared valid chosen sized,
      one]
    cases (Bench.ofWorld (world, []) memo).request u evaluator.traced
        (settings.initial.getD u.emptySet) with
    | mk result bench =>
      cases result with
      | error halt => rfl
      | ok baseline => exact runFrom_untraced u evaluator settings strategy baseline bench

end Untraced

end FlagSearch
