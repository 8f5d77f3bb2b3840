import FlagSearch.Proofs.Pool.Runs
import FlagSearch.Proofs.Search.Association
import FlagSearch.Proofs.Search.Balance
import FlagSearch.Proofs.Search.Replay

/-!
# More room in the memo

A run whose evaluator is a function of the flags asks for the same sets in the same order whatever
room its memo has.  A memo with more room holds the sets that one with less holds, and more; so it
finds what the other one finds, and the evaluator is called less often.  With room for all the sets
of the run it is called once for each.

* `Entry.StaysKnown`, `replayed_staysKnown` — the marks of two memos on the same entries.
* `Course.hits_eq`, `Course.calls_eq` — the books at the end of a course without errors.
* `Course.requested`, `Course.calls_perm` — the sets of a run, and the calls if all of them fit.
* `Course.log_staysKnown` — courses that differ in the room of the memo.
* `run_more_room` — runs.
-/

namespace FlagSearch

/-! ## Marks -/

/-- The other entry shows the same, and it is known if this one is. -/
def Entry.StaysKnown (entry other : Entry) : Prop :=
  other.unmarked = entry.unmarked ∧ (entry.cached = true → other.cached = true)

theorem replayed_staysKnown {capacity larger : Nat} (more : capacity ≤ larger)
    (asked : List FlagSet) (entries : List Entry) :
    List.Forall₂ Entry.StaysKnown (replayed capacity asked entries)
      (replayed larger asked entries) := by
  induction entries generalizing asked with
  | nil => exact .nil
  | cons entry rest ih =>
    refine .cons ⟨rfl, fun known => ?_⟩ (ih _)
    have held := of_decide_eq_true known
    exact decide_eq_true ((List.take_sublist_take_left more).subset held)

theorem countP_known_le {log other : List Entry} (logs : List.Forall₂ Entry.StaysKnown log other) :
    log.countP (·.cached) ≤ other.countP (·.cached) := by
  induction logs with
  | nil => exact Nat.le_refl _
  | @cons entry entry' _ _ marks _ ih =>
    have kept := marks.2
    rw [List.countP_cons, List.countP_cons]
    cases known : entry.cached with
    | false => exact Nat.le_trans ih (Nat.le_add_right _ _)
    | true =>
      rw [kept known]
      exact Nat.add_le_add_right ih 1

theorem length_filter_new (log : List Entry) :
    (log.filter fun entry => !entry.cached).length + log.countP (·.cached) = log.length := by
  have all := List.length_eq_countP_add_countP (·.cached) (l := log)
  simp only [Bool.not_eq_true, Bool.decide_eq_false] at all
  rw [← List.countP_eq_length_filter]
  omega

theorem new_remarked (seen : List FlagSet) (entries : List Entry) :
    let new := ((remarked seen entries).filter fun entry => !entry.cached).map (·.set)
    new.Nodup ∧ ∀ set, set ∈ new ↔ set ∈ entries.map (·.set) ∧ set ∉ seen := by
  induction entries generalizing seen with
  | nil => simp [remarked]
  | cons entry rest ih =>
    obtain ⟨nodup, members⟩ := ih (seen ++ [entry.set])
    have later : ∀ set, set ∉ seen ++ [entry.set] ↔ set ∉ seen ∧ set ≠ entry.set := by simp
    by_cases known : entry.set ∈ seen
    · rw [remarked, List.filter_cons_of_neg (by simp [known])]
      refine ⟨nodup, fun set => ?_⟩
      rw [members, later, List.map_cons, List.mem_cons]
      by_cases same : set = entry.set
      · simp [same, known]
      · simp [same]
    · rw [remarked, List.filter_cons_of_pos (by simp [known]), List.map_cons]
      refine ⟨List.nodup_cons.2 ⟨fun again => ?_, nodup⟩, fun set => ?_⟩
      · exact ((members _).1 again).2 (by simp)
      · rw [List.mem_cons, members, later, List.map_cons, List.mem_cons]
        by_cases same : set = entry.set
        · simp [same, known]
        · simp [same]

/-! ## Courses -/

theorem Settings.Accepted.roomier {settings : Settings} {flags larger : Nat}
    (accepted : settings.Accepted flags) (more : settings.cacheCapacity ≤ larger) :
    Settings.Accepted { settings with cacheCapacity := larger } flags :=
  { accepted with cacheCapacity_pos := Nat.lt_of_lt_of_le accepted.cacheCapacity_pos more }

theorem Evaluator.Publishes.traced {σ : Type} {evaluator : Evaluator σ}
    {answer : List String → Except SearchError Outcome} (publishes : evaluator.Publishes answer) :
    evaluator.traced.Publishes answer :=
  ⟨fun seen => publishes.steady seen.1, fun flags seen => publishes.published_eq flags seen.1⟩

namespace Course

variable {σ : Type} {settings : Settings} {u : Universe} {evaluator : Evaluator σ}
  {outcomes : List String → Outcome} {entropy entropy' : UInt64} {world world' : σ}

def requested {scheduler : Scheduler σ}
    (course : Course settings u evaluator scheduler entropy world) : List FlagSet :=
  course.baseline.set :: course.log.map (·.set)

section Books

variable (publishes : evaluator.Publishes fun flags => .ok (outcomes flags))
  (course : Course settings u evaluator.traced (Bench.requestAll u evaluator.traced) entropy
    (world, []))

include publishes

theorem hits_eq : course.walk.stage.bench.memo.hits = course.log.countP (·.cached) := by
  have pooled := Bench.requestAll_pooled Nat.one_pos u evaluator.traced
  obtain ⟨before, number, reached, bench⟩ := course.settles publishes.traced
  rw [log, bench]
  exact (course.balanced pooled publishes.steady reached).hits_eq

theorem calls_eq : Contact.calls course.walk.stage.bench.world.2 =
    course.baseline.flags :: (course.log.filter fun entry => !entry.cached).map (·.flags) := by
  obtain ⟨before, number, reached, bench⟩ := course.settles publishes.traced
  rw [log, bench]
  exact reached.ordered course.ordered_start

theorem calls_perm (fits : course.requested.dedup.length ≤ settings.cacheCapacity) :
    (Contact.calls course.walk.stage.bench.world.2).Perm (course.requested.dedup.map u.select) := by
  have pooled := Bench.requestAll_pooled Nat.one_pos u evaluator.traced
  have fits : course.requested.toFinset.card ≤ settings.cacheCapacity := by
    rwa [List.card_toFinset]
  have marks : course.log = remarked [course.baseline.set] course.log :=
    (course.accounts Nat.one_pos publishes.traced pooled fits).2.log_eq
  obtain ⟨nodup, members⟩ := new_remarked [course.baseline.set] course.log
  rw [← marks] at nodup members
  have first := Universe.flags_eq_select (Bench.request_ok course.scored).2
  rw [← (Bench.request_ok course.scored).1] at first
  have flags : (course.log.filter fun entry => !entry.cached).map (·.flags) =
      ((course.log.filter fun entry => !entry.cached).map (·.set)).map u.select := by
    rw [List.map_map]
    have sequential := Bench.requestAll_pooled course.accepted.poolWidth_pos u evaluator.traced
    refine List.map_congr_left fun entry member => Universe.flags_eq_select ?_
    exact course.log_resolved sequential entry (List.mem_of_mem_filter member)
  rw [course.calls_eq publishes, first, flags, ← List.map_cons]
  refine List.Perm.map u.select ((List.perm_ext_iff_of_nodup ?_ (List.nodup_dedup _)).2 ?_)
  · refine List.nodup_cons.2 ⟨fun again => ?_, nodup⟩
    exact ((members _).1 again).2 (List.mem_singleton_self _)
  · intro set
    rw [List.mem_dedup, List.mem_cons, members, requested, List.mem_cons]
    by_cases same : set = course.baseline.set
    · simp [same]
    · simp [same]

end Books

/-- Courses of settings that differ only in the room of the memo record the same entries, and the
one with more room marks those that the other one marks. -/
theorem log_staysKnown (publishes : evaluator.Publishes fun flags => .ok (outcomes flags))
    (seeded : ∀ flips, settings.strategy = .hillClimb flips → settings.seed.isSome) {larger : Nat}
    (more : settings.cacheCapacity ≤ larger)
    (course : Course settings u evaluator (Bench.requestAll u evaluator) entropy world)
    (course' : Course { settings with cacheCapacity := larger } u evaluator
      (Bench.requestAll u evaluator) entropy' world') :
    List.Forall₂ Entry.StaysKnown course.log course'.log := by
  have answers := Bench.requestAll_answers (u := u) publishes
  -- But for the marks both courses are the course of one walk without a memo.
  obtain ⟨scored, walked, _⟩ := course.plain publishes answers
  obtain ⟨scored', walked', _⟩ := course'.plain publishes answers
  have baseline := Except.ok.inj (scored'.symm.trans scored)
  have strategy : course.strategy = course'.strategy := by
    have chosen := course.chosen
    rw [Strategy.ofKind_entropy seeded entropy entropy'] at chosen
    exact Except.ok.inj (chosen.symm.trans course'.chosen)
  rw [← baseline, strategy] at walked
  have bare := congrArg Prod.snd (walked'.symm.trans walked)
  have unmarked : course'.log.map Entry.unmarked = course.log.map Entry.unmarked := by
    have logs := congrArg (fun walk : Walk Unit => walk.stage.bench.log.toList) bare
    simp only [Walk.bare, Stage.bare, Bench.bare, Array.toList_map] at logs
    exact logs
  have start : course'.baseline.set = course.baseline.set := by
    simpa using congrArg Scored.set baseline
  have replays := (course.replays publishes).log_eq
  have replays' := (course'.replays publishes).log_eq
  change course.log = replayed _ _ course.log at replays
  change course'.log = replayed larger _ course'.log at replays'
  rw [replays, replays', start, ← replayed_unmarked, ← replayed_unmarked larger, unmarked]
  exact replayed_staysKnown more _ _

theorem counts_of_more_room (publishes : evaluator.Publishes fun flags => .ok (outcomes flags))
    (seeded : ∀ flips, settings.strategy = .hillClimb flips → settings.seed.isSome) {larger : Nat}
    (more : settings.cacheCapacity ≤ larger)
    (course : Course settings u evaluator.traced (Bench.requestAll u evaluator.traced) entropy
      (world, []))
    (course' : Course { settings with cacheCapacity := larger } u evaluator.traced
      (Bench.requestAll u evaluator.traced) entropy' (world', [])) :
    course.walk.stage.bench.memo.hits ≤ course'.walk.stage.bench.memo.hits ∧
      (Contact.calls course'.walk.stage.bench.world.2).length ≤
        (Contact.calls course.walk.stage.bench.world.2).length := by
  have logs := log_staysKnown publishes.traced seeded more course course'
  have known := countP_known_le logs
  have new := length_filter_new course.log
  have new' := length_filter_new course'.log
  rw [course.hits_eq publishes, course'.hits_eq publishes, course.calls_eq publishes,
    course'.calls_eq publishes]
  refine ⟨known, ?_⟩
  have same := logs.length_eq
  simp only [List.length_cons, List.length_map]
  omega

theorem exists_larger (publishes : evaluator.Publishes fun flags => .ok (outcomes flags))
    {larger : Nat} (more : settings.cacheCapacity ≤ larger)
    (course : Course settings u evaluator (Bench.requestAll u evaluator) entropy world)
    (entropy' : UInt64) (world' : σ) :
    Nonempty (Course { settings with cacheCapacity := larger } u evaluator
      (Bench.requestAll u evaluator) entropy' world') := by
  have changed := (Settings.accepted_of_validate course.valid).roomier more
  obtain ⟨strategy, memo, chosen, sized⟩ := changed.exists_prepared (settings.seed.getD entropy')
  obtain ⟨baseline, bench, scored⟩ :=
    scored_of_publishes publishes changed.validate world' memo sized
  exact ⟨strategy, memo, baseline, bench, _, _, changed.validate, chosen, sized, scored,
    course.room, rfl⟩

end Course

/-! ## Runs -/

section Runs

variable {σ : Type} {settings : Settings} {u : Universe} {evaluator : Evaluator σ}
  {outcomes : List String → Outcome}

theorem calls_of_no_room (publishes : evaluator.Publishes fun flags => .ok (outcomes flags))
    (valid : settings.validate u.size = .ok ())
    (full : maxBlock < settings.iterations * trajectorySlot) (entropy : UInt64) (world : σ) :
    Contact.calls (run settings u evaluator.traced entropy (world, [])).2.2 =
      [u.select (settings.initial.getD u.emptySet)] := by
  have accepted := Settings.accepted_of_validate valid
  obtain ⟨strategy, memo, chosen, sized⟩ :=
    accepted.exists_prepared (settings.seed.getD entropy)
  have refused : reserve settings.iterations trajectorySlot = .error .capacityOverflow :=
    if_neg (Nat.not_le.2 full)
  obtain ⟨baseline, bench, scored⟩ :=
    scored_of_publishes publishes.traced valid (world, []) memo sized
  have computed : baseline.cached = false := by
    rw [Bench.request_cached scored, (Memo.eq_of_ofCapacity sized).2]
    rfl
  have world_eq := (Bench.request_traced scored).2.1
  obtain ⟨set, resolved⟩ := Bench.request_ok scored
  rw [run, runWith_of_prepared valid chosen sized, scored]
  simp only
  rw [runFrom_of_full refused, world_eq, Evaluator.traced_hear, Scored.contacts, computed,
    ← Universe.flags_eq_select resolved]
  rfl

/-- For an evaluator that is a function of the flags and has no errors, more room in the memo means
fewer calls and more hits: whatever is recorded as known with less room is recorded as known with
more, at each place of the order of recording.  With room for all the sets that a run asks for, the
evaluator is called exactly once for each of them. -/
theorem run_more_room (publishes : evaluator.Publishes fun flags => .ok (outcomes flags))
    (valid : settings.validate u.size = .ok ())
    (seeded : ∀ flips, settings.strategy = .hillClimb flips → settings.seed.isSome) {larger : Nat}
    (more : settings.cacheCapacity ≤ larger) (entropy entropy' : UInt64) (world world' : σ) :
    let little := run settings u evaluator.traced entropy (world, [])
    let much := run { settings with cacheCapacity := larger } u evaluator.traced entropy' (world', [])
    (Contact.calls much.2.2).length ≤ (Contact.calls little.2.2).length ∧
    (∀ report, little.1.report? = some report → ∃ report', much.1.report? = some report' ∧
      report.cache.hits ≤ report'.cache.hits) ∧
    (∀ course : Course settings u evaluator.traced (Bench.requestAll u evaluator.traced) entropy
        (world, []),
      (∃ course' : Course { settings with cacheCapacity := larger } u evaluator.traced
          (Bench.requestAll u evaluator.traced) entropy' (world', []),
        List.Forall₂ Entry.StaysKnown course.log course'.log) ∧
      (course.requested.dedup.length ≤ settings.cacheCapacity →
        (Contact.calls little.2.2).Perm (course.requested.dedup.map u.select))) ∧
    (maxBlock < settings.iterations * trajectorySlot →
      Contact.calls little.2.2 = [u.select (settings.initial.getD u.emptySet)]) := by
  have accepted := Settings.accepted_of_validate valid
  have changed := accepted.roomier more
  refine ⟨?_, ?_, ?_, ?_⟩
  · rcases Nat.lt_or_ge maxBlock (settings.iterations * trajectorySlot) with full | room
    · have calls := calls_of_no_room publishes valid full entropy world
      have calls' := calls_of_no_room publishes changed.validate full entropy' world'
      rw [calls, calls']
    · have nonempty : Nonempty (Course settings u evaluator.traced
          (Bench.requestAll u evaluator.traced) entropy (world, [])) :=
        exists_course_of_scored valid (scored_of_publishes publishes.traced valid _) room
      obtain ⟨course⟩ := nonempty
      obtain ⟨course'⟩ := course.exists_larger publishes.traced more entropy' (world', [])
      rw [run, run, course.runWith_eq, course'.runWith_eq]
      exact (course.counts_of_more_room publishes seeded more course').2
  · intro report left
    have alike := congrArg Ended.report? (run_unmarked_cacheCapacity publishes.traced valid
      changed.cacheCapacity_pos seeded entropy entropy' (world, []) (world', [])).1
    rw [Ended.report?_unmarked, Ended.report?_unmarked, left] at alike
    obtain ⟨report', left', _⟩ := Option.map_eq_some_iff.1 alike
    obtain ⟨course, _, _, rfl⟩ := exists_course_of_report left
    obtain ⟨course', _, _, rfl⟩ := exists_course_of_report left'
    exact ⟨_, left', (course.counts_of_more_room publishes seeded more course').1⟩
  · intro course
    obtain ⟨course'⟩ := course.exists_larger publishes.traced more entropy' (world', [])
    refine ⟨⟨course', course.log_staysKnown publishes.traced seeded more course'⟩, ?_⟩
    rw [run, course.runWith_eq]
    exact course.calls_perm publishes
  · exact fun full => calls_of_no_room publishes valid full entropy world

end Runs

/-- A climb over three flags that remembers one outcome scores some sets again; with room for four it
scores each of its four sets once. -/
theorem run_more_room_moody :
    let little := run crampedClimb Stage.flagTrio moody.traced 0 ([], [])
    let much := run { crampedClimb with cacheCapacity := 4 } Stage.flagTrio moody.traced 0 ([], [])
    (Contact.calls little.2.2).length = 9 ∧
      (Contact.calls much.2.2).length ≤ (Contact.calls little.2.2).length ∧
      (∀ report, little.1.report? = some report → ∃ report', much.1.report? = some report' ∧
        report.cache.hits ≤ report'.cache.hits) ∧
      ∃ sets : List FlagSet, sets.Nodup ∧ sets.length = 4 ∧
        (Contact.calls much.2.2).Perm (sets.map Stage.flagTrio.select) := by
  have valid : crampedClimb.validate Stage.flagTrio.size = .ok () := by decide
  have roomy : Settings.validate { crampedClimb with cacheCapacity := 4 } Stage.flagTrio.size =
      .ok () := by decide
  have seeded : ∀ flips, crampedClimb.strategy = .hillClimb flips → crampedClimb.seed.isSome :=
    fun _ _ => rfl
  have more : crampedClimb.cacheCapacity ≤ 4 := by decide
  obtain ⟨calls, hits, _⟩ := run_more_room moody_publishes valid seeded more 0 0 [] []
  let course : Course { crampedClimb with cacheCapacity := 4 } Stage.flagTrio moody.traced
      (Bench.requestAll Stage.flagTrio moody.traced) 0 ([], []) :=
    ⟨_, _, _, _, _, _, roomy, rfl, rfl, rfl, rfl, rfl⟩
  have four : course.requested.dedup.length = 4 := rfl
  obtain ⟨_, _, courses, _⟩ :=
    run_more_room moody_publishes roomy seeded (Nat.le_refl 4) 0 0 [] []
  exact ⟨by decide, calls, hits, course.requested.dedup, List.nodup_dedup _, four,
    (courses course).2 (Nat.le_of_eq four)⟩

end FlagSearch
