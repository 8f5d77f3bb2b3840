import FlagSearch.Proofs.Memo.Recency
import FlagSearch.Proofs.Search.Accounts

/-!
# Replaying the memo of a run

A run that scores one candidate after the other touches a set each time it gets an answer, whether
the memo or the evaluator gives it.  So the keys of its memo are the sets that were asked for last,
and the marks of its entries can be replayed from the order of recording alone, with no look at the
outcomes and whatever is evicted on the way.

* `replayed` — entries, marked if a memo of some capacity still knows their sets.
* `Bench.request_replays`, `Bench.requestAll_replays` — requests and batches.
* `Bench.Replays` — a memo and a log that can be replayed.
* `Course.settles` — the end of a course without errors is where its completed steps have led.
* `Course.replays` — so its memo and its log can be replayed.
-/

namespace FlagSearch

/-! ## Marks -/

/-- The entries, marked if their sets are among the `capacity` sets that were asked for last. -/
def replayed (capacity : Nat) : (asked : List FlagSet) → List Entry → List Entry
  | _, [] => []
  | asked, entry :: rest =>
      { entry with cached := decide (entry.set ∈ (recent asked).take capacity) } ::
        replayed capacity (asked ++ [entry.set]) rest

theorem replayed_append (capacity : Nat) (asked : List FlagSet) (entries others : List Entry) :
    replayed capacity asked (entries ++ others) =
      replayed capacity asked entries ++
        replayed capacity (asked ++ entries.map (·.set)) others := by
  induction entries generalizing asked with
  | nil => simp [replayed]
  | cons entry rest ih => simp [replayed, ih]

theorem replayed_unmarked (capacity : Nat) (asked : List FlagSet) (entries : List Entry) :
    replayed capacity asked (entries.map Entry.unmarked) = replayed capacity asked entries := by
  induction entries generalizing asked with
  | nil => rfl
  | cons entry rest ih =>
    rw [List.map_cons, replayed, replayed, ← ih]
    rfl

/-! ## Requests and batches -/

namespace Bench

variable {σ : Type} {u : Universe} {evaluator : Evaluator σ} {capacity : Nat}
  {touched : List FlagSet} {bench after : Bench σ}

theorem request_cached {set : FlagSet} {scored : Scored}
    (answer : bench.request u evaluator set = (.ok scored, after)) :
    scored.cached = decide (set ∈ bench.memo.keys) := by
  cases requested_of_request answer with
  | known running resolved held =>
    exact (decide_eq_true (Memo.mem_keys_of_peek?_eq_some held)).symm
  | computed running resolved absent came =>
    exact (decide_eq_false (Memo.peek?_eq_none_iff.1 absent)).symm

theorem request_replays {set : FlagSet} {scored : Scored}
    (answer : bench.request u evaluator set = (.ok scored, after))
    (room : bench.memo.capacity = capacity)
    (keys : bench.memo.keys = (recent touched).take capacity) :
    after.memo.capacity = capacity ∧
      after.memo.keys = (recent (touched ++ [set])).take capacity ∧
      scored.cached = decide (set ∈ (recent touched).take capacity) := by
  have memo := (request_traced answer).1
  have set_eq := (request_ok answer).1
  rw [memo, Memo.served]
  refine ⟨room, ?_, keys ▸ request_cached answer⟩
  rw [← room] at keys ⊢
  exact set_eq ▸ Memo.keys_publish_of_recent keys scored.set scored.outcome

theorem requestAll_replays {batch : List FlagSet} {scored : List Scored}
    (answer : requestAll u evaluator batch bench = (.ok scored, after))
    (room : bench.memo.capacity = capacity)
    (keys : bench.memo.keys = (recent touched).take capacity) (step : Nat) :
    after.memo.capacity = capacity ∧
      after.memo.keys = (recent (touched ++ batch)).take capacity ∧
      scored.map (·.entry step) = replayed capacity touched (scored.map (·.entry step)) := by
  induction batch generalizing bench scored touched with
  | nil =>
    cases answer
    exact ⟨room, by rw [List.append_nil]; exact keys, rfl⟩
  | cons set rest ih =>
    obtain ⟨candidate, others, between, first, later, rfl⟩ := requestAll_cons_ok answer
    obtain rfl := (request_ok first).1
    obtain ⟨room, keys, mark⟩ := request_replays first room keys
    obtain ⟨room, keys, marks⟩ := ih later room keys
    refine ⟨room, by rwa [List.append_assoc, List.singleton_append] at keys, ?_⟩
    have own : candidate.entry step = { candidate.entry step with
        cached := decide (candidate.set ∈ (recent touched).take capacity) } := by
      rw [← mark]
      rfl
    exact congrArg₂ List.cons own marks

end Bench

/-! ## Benches -/

section Benches

variable {σ : Type} {start : FlagSet} {capacity : Nat} {bench : Bench σ}

/-- The memo holds the sets that were asked for last, and the marks of the log are those of a memo
that always did. -/
structure Bench.Replays (start : FlagSet) (capacity : Nat) (bench : Bench σ) : Prop where
  capacity_eq : bench.memo.capacity = capacity
  keys_eq : bench.memo.keys = (recent (bench.asked start)).take capacity
  log_eq : bench.log.toList = replayed capacity [start] bench.log.toList

theorem Bench.Replays.entering (replays : bench.Replays start capacity) (number : Nat) :
    Replays start capacity { bench with step := number } :=
  ⟨replays.capacity_eq, replays.keys_eq, replays.log_eq⟩

end Benches

/-! ## Steps -/

section Steps

variable {σ : Type} {u : Universe} {evaluator : Evaluator σ} {start : FlagSet} {capacity : Nat}

theorem Stage.advance_replays {before after : Stage σ}
    (replays : before.bench.Replays start capacity)
    (done : before.advance u evaluator (Bench.requestAll u evaluator) = (.ok (), after)) :
    after.bench.Replays start capacity := by
  have lawful := Bench.requestAll_lawful u evaluator
  obtain ⟨sets, batch, bench, _, scored, rfl⟩ := advance_ok lawful done
  rw [scorer_requestAll] at scored
  have sets_eq := lawful.sets_eq scored
  have log := lawful.log_eq sets before.bench
  rw [scored] at log
  have asked : bench.asked start = before.bench.asked start := by
    rw [Bench.asked, Bench.asked, log]
  obtain ⟨room, keys, marks⟩ :=
    Bench.requestAll_replays scored replays.capacity_eq replays.keys_eq bench.step
  refine ⟨?_, ?_, ?_⟩
  · rw [moved, Bench.recordAll_memo]
    exact room
  · rw [moved, Bench.recordAll_memo, Bench.asked_recordAll, asked, sets_eq]
    exact keys
  · rw [moved, Bench.recordAll_log, log, replayed_append, ← replays.log_eq]
    exact congrArg _ marks

theorem Walk.Reached.replays {first walk : Walk σ} {n : Nat}
    (reached : Reached u evaluator (Bench.requestAll u evaluator) first n walk)
    (replays : first.stage.bench.Replays start capacity) :
    walk.stage.bench.Replays start capacity := by
  induction reached with
  | start => exact replays
  | @step n walk next before done ih =>
    exact Stage.advance_replays (ih.entering (n + 1)) (advance_of_step done).1

end Steps

/-! ## Courses -/

namespace Course

variable {σ : Type} {settings : Settings} {u : Universe} {evaluator : Evaluator σ}
  {outcomes : List String → Outcome} {entropy : UInt64} {world : σ}

theorem replays_start
    (course : Course settings u evaluator (Bench.requestAll u evaluator) entropy world) :
    course.start.stage.bench.Replays course.baseline.set settings.cacheCapacity := by
  have log : course.start.stage.bench.log = #[] := Bench.log_of_request course.scored
  have memo := (Memo.eq_of_ofCapacity course.sized).2
  have room : (Bench.ofWorld world course.memo).memo.capacity = settings.cacheCapacity := by
    rw [memo]
    rfl
  have keys : (Bench.ofWorld world course.memo).memo.keys =
      (recent []).take settings.cacheCapacity := by
    rw [memo]
    simp [Bench.ofWorld, Memo.keys]
  obtain ⟨room, keys, _⟩ := Bench.request_replays course.scored room keys
  rw [List.nil_append, ← (Bench.request_ok course.scored).1] at keys
  refine ⟨room, ?_, ?_⟩
  · rw [Bench.asked, log]
    exact keys
  · rw [log]
    rfl

/-- A course without errors ends with the bench that its completed steps have left: the step that
found no move asked for nothing. -/
theorem settles (publishes : evaluator.Publishes fun flags => .ok (outcomes flags))
    (course : Course settings u evaluator (Bench.requestAll u evaluator) entropy world) :
    ∃ (before : Walk σ) (number : Nat),
      Walk.Reached u evaluator (Bench.requestAll u evaluator) course.start course.completed before ∧
      course.walk.stage.bench = (before.entering number).bench := by
  have accepted := Settings.accepted_of_validate course.valid
  have answers := Bench.requestAll_answers (u := u) publishes
  rcases course.cases with ⟨_, _, reached⟩ | ⟨before, stop, _, reached, failed, _⟩
  · exact ⟨course.walk, course.walk.stage.bench.step, reached, rfl⟩
  · have settled := (reached.settled publishes answers accepted.flags_pos
      (course.plain publishes answers).2.2).entering (course.completed + 1)
    exact ⟨before, course.completed + 1, reached,
      settled.bench_of_failed publishes answers accepted.flags_pos (Walk.step_error failed).1⟩

theorem replays (publishes : evaluator.Publishes fun flags => .ok (outcomes flags))
    (course : Course settings u evaluator (Bench.requestAll u evaluator) entropy world) :
    course.walk.stage.bench.Replays course.baseline.set settings.cacheCapacity := by
  obtain ⟨before, number, reached, bench⟩ := course.settles publishes
  rw [bench]
  exact (reached.replays course.replays_start).entering number

end Course

end FlagSearch
