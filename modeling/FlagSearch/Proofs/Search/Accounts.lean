import FlagSearch.Proofs.Pool.Marks
import FlagSearch.Proofs.Pool.Serial
import FlagSearch.Proofs.Search.Transparency

/-!
# Reading the memo off the log

If the memo has room for all the sets that a run asks for, it never evicts one.  Then the log says
what the memo holds and what it has counted, and which entries are marked: those whose sets were
asked for before.  How the batches are scheduled has no say in it.

* `remarked` — entries, marked if their sets were seen before.
* `Bench.Accounts` — a memo that can be read off the log.
* `Bench.Accounts.recordAll`, `Stage.accounts_of_advance`, `Walk.Reached.accounts` — it can be after
  each batch, each step, and any number of steps.
* `Course.accounts` — so it can at the end of a run.
-/

namespace FlagSearch

/-! ## Marks -/

/-- The entries, marked if their sets were seen before. -/
def remarked : (seen : List FlagSet) → List Entry → List Entry
  | _, [] => []
  | seen, entry :: rest =>
      { entry with cached := decide (entry.set ∈ seen) } :: remarked (seen ++ [entry.set]) rest

theorem remarked_append (seen : List FlagSet) (entries others : List Entry) :
    remarked seen (entries ++ others) =
      remarked seen entries ++ remarked (seen ++ entries.map (·.set)) others := by
  induction entries generalizing seen with
  | nil => simp [remarked]
  | cons entry rest ih => simp [remarked, ih]

theorem remarked_unmarked (seen : List FlagSet) (entries : List Entry) :
    remarked seen (entries.map Entry.unmarked) = remarked seen entries := by
  induction entries generalizing seen with
  | nil => rfl
  | cons entry rest ih =>
    rw [List.map_cons, remarked, remarked, ← ih]
    rfl

theorem remarked_of_nodup {seen : List FlagSet} {entries : List Entry}
    (nodup : (entries.map (·.set)).Nodup) :
    remarked seen entries =
      entries.map fun entry => { entry with cached := decide (entry.set ∈ seen) } := by
  induction entries generalizing seen with
  | nil => rfl
  | cons entry rest ih =>
    obtain ⟨own, nodup⟩ := List.nodup_cons.1 nodup
    rw [remarked, ih nodup, List.map_cons]
    refine congrArg _ (List.map_congr_left fun other member => ?_)
    have apart : other.set ≠ entry.set := fun same =>
      own (List.mem_map.2 ⟨other, member, same⟩)
    simp [apart]

/-! ## Benches -/

section Benches

variable {σ : Type} {start : FlagSet} {capacity : Nat} {bench : Bench σ}

/-- The sets that were asked for since the start, and the start. -/
def Bench.asked (start : FlagSet) (bench : Bench σ) : List FlagSet :=
  start :: bench.log.toList.map (·.set)

theorem Bench.asked_recordAll (start : FlagSet) (bench : Bench σ) (batch : List Scored) :
    (bench.recordAll batch).asked start = bench.asked start ++ batch.map (·.set) := by
  simp [asked, recordAll_log, Scored.entry, Function.comp_def]

/-- The memo holds what was asked for, the entries are marked whose sets were asked for before, and
the memo counts a hit for each of them and a miss for every other request, that of the start
included. -/
structure Bench.Accounts (start : FlagSet) (capacity : Nat) (bench : Bench σ) : Prop where
  capacity_eq : bench.memo.capacity = capacity
  keys : ∀ set, set ∈ bench.memo.keys ↔ set ∈ bench.asked start
  log_eq : bench.log.toList = remarked [start] bench.log.toList
  hits_eq : bench.memo.hits = bench.log.toList.countP (·.cached)
  misses_eq : bench.memo.misses = 1 + bench.log.toList.countP (!·.cached)

namespace Bench.Accounts

theorem entering (accounts : bench.Accounts start capacity) (number : Nat) :
    Accounts start capacity { bench with step := number } :=
  ⟨accounts.capacity_eq, accounts.keys, accounts.log_eq, accounts.hits_eq, accounts.misses_eq⟩

theorem size_eq (accounts : bench.Accounts start capacity) (within : bench.memo.Within capacity) :
    bench.memo.size = (bench.asked start).toFinset.card := by
  have same : bench.memo.keys.toFinset = (bench.asked start).toFinset := by
    ext set
    simp only [List.mem_toFinset, accounts.keys]
  rw [← same, List.toFinset_card_of_nodup within.nodup, Memo.keys, List.length_map]
  rfl

theorem fits (accounts : bench.Accounts start capacity) {sets : List FlagSet}
    (room : (bench.asked start ++ sets).toFinset.card ≤ capacity) :
    (bench.memo.keys ++ sets).toFinset.card ≤ bench.memo.capacity := by
  have same : (bench.memo.keys ++ sets).toFinset = (bench.asked start ++ sets).toFinset := by
    ext set
    simp only [List.mem_toFinset, List.mem_append, accounts.keys]
  rwa [same, accounts.capacity_eq]

theorem recordAll {u : Universe} {outcomes : List String → Outcome}
    (accounts : bench.Accounts start capacity) {sets : List FlagSet} {batch : List Scored}
    {after : Bench σ} (marks : bench.Marks u outcomes sets (.ok batch) after)
    (log : after.log = bench.log) (nodup : sets.Nodup) :
    (after.recordAll batch).Accounts start capacity := by
  obtain rfl := Except.ok.inj marks.result_eq
  have asked : after.asked start = bench.asked start := by rw [asked, asked, log]
  have sets_eq : (sets.map fun set => u.marked outcomes (decide (set ∈ bench.memo.keys)) set).map
      (·.set) = sets := by
    simp [Function.comp_def, Universe.marked]
  refine ⟨?_, fun set => ?_, ?_, ?_, ?_⟩
  · rw [recordAll_memo]
    exact marks.capacity_eq.trans accounts.capacity_eq
  · rw [recordAll_memo, marks.keys, accounts.keys, asked_recordAll, asked, sets_eq,
      List.mem_append]
  · rw [recordAll_log, log, remarked_append, ← accounts.log_eq, remarked_of_nodup]
    · refine congrArg _ ?_
      simp [Function.comp_def, Universe.marked, Scored.entry, accounts.keys, Bench.asked]
    · simpa [Function.comp_def, Universe.marked, Scored.entry] using nodup
  · rw [recordAll_memo, marks.hits_eq, accounts.hits_eq, recordAll_log, log, List.countP_append]
    simp [Function.comp_def, Universe.marked, Scored.entry, List.countP_map]
  · rw [recordAll_memo, marks.misses_eq, accounts.misses_eq, recordAll_log, log,
      List.countP_append]
    simp [Function.comp_def, Universe.marked, Scored.entry, List.countP_map, Nat.add_assoc]

end Bench.Accounts

end Benches

/-! ## Steps -/

section Steps

variable {σ : Type} {width : Nat} {u : Universe} {evaluator : Evaluator σ}
  {scheduler : Scheduler σ} {outcomes : List String → Outcome} {start : FlagSet} {capacity : Nat}

theorem Stage.scorer_pooled (wide : 0 < width) (pooled : scheduler.Pooled width u evaluator)
    (stage : Stage σ) : Scheduler.Pooled width u evaluator (stage.scorer u evaluator scheduler) := by
  unfold scorer
  split
  · exact Bench.requestAll_pooled wide u evaluator
  · exact pooled
  · exact pooled

theorem Stage.Settled.scored (publishes : evaluator.Publishes fun flags => .ok (outcomes flags))
    (answers : scheduler.Answers u fun flags => .ok (outcomes flags)) (some : 0 < u.size)
    {stage : Stage σ} (settled : stage.Settled u fun flags => .ok (outcomes flags))
    {sets : List FlagSet} (chosen : stage.tries u = .ok sets) :
    ∃ batch bench, stage.scorer u evaluator scheduler sets stage.bench = (.ok batch, bench) ∧
      batch.map (·.set) = sets := by
  have lengths := length_of_tries some settled.length_eq chosen
  have scores := (stage.scorer_answers publishes answers).answers lengths settled.bench
  rw [Universe.scoreAll_eq] at scores
  cases scored : stage.scorer u evaluator scheduler sets stage.bench with
  | mk found bench =>
    rw [scored] at scores
    cases found with
    | error halt => cases scores
    | ok batch =>
      have unmarked := congrArg (List.map (·.set)) (Except.ok.inj scores)
      exact ⟨batch, bench, rfl, by simpa [Function.comp_def, Universe.marked] using unmarked⟩

theorem Stage.Settled.bench_of_failed
    (publishes : evaluator.Publishes fun flags => .ok (outcomes flags))
    (answers : scheduler.Answers u fun flags => .ok (outcomes flags)) (some : 0 < u.size)
    {before after : Stage σ} (settled : before.Settled u fun flags => .ok (outcomes flags))
    {halt : Halt} (failed : before.advance u evaluator scheduler = (.error halt, after)) :
    after.bench = before.bench := by
  cases chosen : before.tries u with
  | error stop =>
    rw [advance_of_tries_error chosen] at failed
    cases failed
    exact before.drawn_bench
  | ok sets =>
    obtain ⟨batch, bench, scored, whole⟩ := settled.scored publishes answers some chosen
    rw [advance_of_scored chosen scored whole] at failed
    cases failed

/-- A completed step leaves a memo that can be read off the log, if there is room for all the sets
that were asked for by then. -/
theorem Stage.accounts_of_advance (wide : 0 < width)
    (publishes : evaluator.Publishes fun flags => .ok (outcomes flags))
    (pooled : scheduler.Pooled width u evaluator) (some : 0 < u.size) {before after : Stage σ}
    (settled : before.Settled u fun flags => .ok (outcomes flags))
    (accounts : before.bench.Accounts start capacity)
    (advanced : before.advance u evaluator scheduler = (.ok (), after))
    (room : (after.bench.asked start).toFinset.card ≤ capacity) :
    after.bench.Accounts start capacity := by
  obtain ⟨sets, batch, between, chosen, scored, rfl⟩ := advance_ok pooled.lawful advanced
  have whole := (before.scorer_lawful (u := u) pooled.lawful).sets_eq scored
  have lengths := length_of_tries some settled.length_eq chosen
  -- The candidates of a step are different sets, so whoever scores them comes to the same marks.
  have nodup := nodup_of_tries (settled.length_eq ▸ some) chosen
  have scorer := before.scorer_pooled wide pooled
  have log := scorer.keepsLog.log_eq sets before.bench
  have marks := scorer.marks publishes lengths settled.bench nodup
  rw [scored] at log marks
  refine accounts.recordAll (marks (accounts.fits ?_)) log nodup
  have asked : between.asked start = before.bench.asked start := by
    rw [Bench.asked, Bench.asked, log]
  rwa [← asked, ← whole, ← Bench.asked_recordAll]

theorem Walk.Reached.accounts (wide : 0 < width)
    (publishes : evaluator.Publishes fun flags => .ok (outcomes flags))
    (pooled : scheduler.Pooled width u evaluator) (some : 0 < u.size) {first walk : Walk σ} {n : Nat}
    (settled : first.Settled u fun flags => .ok (outcomes flags))
    (accounts : first.stage.bench.Accounts start capacity)
    (reached : Reached u evaluator scheduler first n walk)
    (room : (walk.stage.bench.asked start).toFinset.card ≤ capacity) :
    walk.stage.bench.Accounts start capacity := by
  induction reached with
  | start => exact accounts
  | @step n walk next before done ih =>
    obtain ⟨batch, completes, _⟩ := step_ok done
    have grown := completes.log_eq pooled.keepsLog
    have less : (walk.stage.bench.asked start).toFinset ⊆
        (next.stage.bench.asked start).toFinset := by
      intro set
      rw [List.mem_toFinset, List.mem_toFinset, Bench.asked, Bench.asked, grown, List.map_append]
      exact fun member => List.cons_subset_cons start (List.subset_append_left _ _) member
    have earlier := ih ((Finset.card_le_card less).trans room)
    have entering := (before.settled publishes (pooled.answers publishes) some settled).entering
      (n + 1)
    exact Stage.accounts_of_advance wide publishes pooled some entering (earlier.entering (n + 1))
      (advance_of_step done).1 room

end Steps

/-! ## Whole runs -/

section Runs

variable {σ : Type} {width : Nat} {settings : Settings} {u : Universe} {evaluator : Evaluator σ}
  {scheduler : Scheduler σ} {outcomes : List String → Outcome} {entropy : UInt64} {world : σ}

theorem accounts_start (publishes : evaluator.Publishes fun flags => .ok (outcomes flags))
    (accepted : settings.Accepted u.size) {memo : Memo FlagSet}
    (sized : Memo.ofCapacity settings.cacheCapacity = .ok memo) {baseline : Scored}
    {bench : Bench σ}
    (scored : (Bench.ofWorld world memo).request u evaluator (settings.initial.getD u.emptySet) =
      (.ok baseline, bench)) :
    baseline.cached = false ∧ bench.Accounts baseline.set settings.cacheCapacity := by
  have within := Memo.within_of_ofCapacity sized
  have begins : (Bench.ofWorld world memo).Ready u fun flags => .ok (outcomes flags) :=
    ⟨⟨rfl, Memo.agrees_of_ofCapacity sized⟩, within.capacity_eq.symm ▸ within⟩
  obtain ⟨_, rfl⟩ := Memo.eq_of_ofCapacity sized
  have pooled := Bench.requestAll_pooled Nat.one_pos u evaluator
  have lengths : ∀ set ∈ [settings.initial.getD u.emptySet], set.length = u.size := by
    simpa using accepted.length_start
  have marks := pooled.marks publishes lengths begins (List.nodup_singleton _)
    (Nat.le_trans (by simp [Memo.keys, Bench.ofWorld]) within.room)
  have empty := Bench.log_of_request scored
  rw [Stage.requestAll_singleton, scored] at marks
  obtain rfl := List.head_eq_of_cons_eq (Except.ok.inj marks.result_eq)
  have asked : bench.asked (settings.initial.getD u.emptySet) =
      [settings.initial.getD u.emptySet] := by
    simp [Bench.asked, empty]
  refine ⟨rfl, marks.capacity_eq, fun set => ?_, ?_, ?_, ?_⟩
  · rw [marks.keys]
    simp [Universe.marked, asked, Memo.keys, Bench.ofWorld]
  · simp [empty, remarked]
  · rw [marks.hits_eq, empty]
    simp [Memo.keys, Bench.ofWorld]
  · rw [marks.misses_eq, empty]
    simp [Memo.keys, Bench.ofWorld]

theorem Course.accounts (wide : 0 < width)
    (publishes : evaluator.Publishes fun flags => .ok (outcomes flags))
    (pooled : scheduler.Pooled width u evaluator)
    (course : Course settings u evaluator scheduler entropy world)
    (room : (course.walk.stage.bench.asked course.baseline.set).toFinset.card ≤
      settings.cacheCapacity) :
    course.baseline.cached = false ∧
      course.walk.stage.bench.Accounts course.baseline.set settings.cacheCapacity := by
  have accepted := Settings.accepted_of_validate course.valid
  have answers := pooled.answers publishes
  have settled := (course.plain publishes answers).2.2
  obtain ⟨computed, first⟩ := accounts_start publishes accepted course.sized course.scored
  refine ⟨computed, ?_⟩
  rcases course.cases with ⟨_, _, reached⟩ | ⟨before, stop, _, reached, failed, _⟩
  · exact reached.accounts wide publishes pooled accepted.flags_pos settled first room
  · have last := (reached.settled publishes answers accepted.flags_pos settled).entering
      (course.completed + 1)
    have same := last.bench_of_failed publishes answers accepted.flags_pos
      (Walk.step_error failed).1
    rw [same] at room ⊢
    exact (reached.accounts wide publishes pooled accepted.flags_pos settled first room).entering _

end Runs

end FlagSearch
