import FlagSearch.Proofs.FlagSet.Bools
import FlagSearch.Proofs.Pool.Consultations
import FlagSearch.Proofs.Search.Accounts
import FlagSearch.Proofs.Search.Budget

/-!
# Sets, flags and outcomes stay together

An outcome reaches a report by way of the evaluator, the memo, the log and the position of the
strategy; on its way it may be evicted, computed anew or looked up again.  Two sets may select the
same flags, so an outcome cannot be told to belong to a set by its flags.  What can be told is which
calls of the evaluator were made for which set, and every entry goes back to one that was made for
its own.

* `Universe.select_eq` — the flags of a set are those at its positions.
* `Scored.Associated` — a candidate whose set, flags and outcome belong together.
* `Bench.Associates`, `Bench.Worked.associates` — a bench on which all of them do, and one batch.
* `Walk.Consulted`, `Course.Consults` — the calls that a run makes.
* `Walk.Consulted.associates`, `Course.Consults.associated` — steps, and the whole run.
* `Course.Consults.record` — the evaluator notices the same calls.
* `report_associated` — so they do in every report.
-/

namespace FlagSearch

/-! ## Selected flags -/

theorem truePositions_cons (bit : Bool) (bits : List Bool) :
    truePositions (bit :: bits) =
      if bit then 0 :: (truePositions bits).map (· + 1) else (truePositions bits).map (· + 1) := by
  simp only [truePositions, List.length_cons, List.range_succ_eq_map, List.filter_cons,
    List.filter_map]
  cases bit <;> simp [Function.comp_def]

theorem filterMap_truePositions (flags : List String) (bits : List Bool) :
    (truePositions bits).filterMap (fun i => flags[i]?) =
      ((flags.zip bits).filter (·.2)).map (·.1) := by
  induction bits generalizing flags with
  | nil => simp [truePositions]
  | cons bit bits ih =>
    cases flags with
    | nil => simp
    | cons flag flags =>
      have rest := ih flags
      rw [truePositions_cons]
      cases bit <;> simpa [List.filterMap_map, Function.comp_def] using rest

theorem Universe.select_eq (u : Universe) (set : FlagSet) :
    u.select set = ((u.flags.zip set.toBools).filter (·.2)).map (·.1) := by
  rw [select, FlagSet.ones_eq, filterMap_truePositions]

variable {σ : Type} {width : Nat} {u : Universe} {evaluator : Evaluator σ}
  {scheduler : Scheduler σ}

/-! ## Candidates -/

def Outcome.Carries (flags : List String) : Outcome → Prop
  | success _ _ own => own = flags
  | buildFailure | runtimeError => True

/-- What stands together in a candidate belongs together. -/
structure Scored.Associated (u : Universe) (evaluator : Evaluator σ)
    (calls : List (Consultation σ)) (candidate : Scored) : Prop where
  length_eq : candidate.set.length = u.size
  resolved : u.resolve candidate.set = .ok candidate.flags
  flags_eq : candidate.flags = ((u.flags.zip candidate.set.toBools).filter (·.2)).map (·.1)
  called : ∃ call ∈ calls, call.set = candidate.set ∧ call.flags = candidate.flags ∧
    call.result evaluator = .ok candidate.outcome

namespace Scored.Associated

variable {calls more : List (Consultation σ)} {candidate : Scored}

theorem of_backed (resolved : u.resolve candidate.set = .ok candidate.flags)
    (backed : Backed u evaluator calls candidate.set candidate.outcome) :
    candidate.Associated u evaluator calls := by
  have selected := Universe.flags_eq_select resolved
  obtain ⟨call, member, same, resolved', came⟩ := backed
  have flags : call.flags = candidate.flags := Except.ok.inj (resolved'.symm.trans resolved)
  exact ⟨Universe.length_of_resolve resolved, resolved, selected.trans (u.select_eq _), call, member,
    same, flags, came⟩

theorem mono (subset : calls ⊆ more) (associated : candidate.Associated u evaluator calls) :
    candidate.Associated u evaluator more := by
  obtain ⟨call, member, rest⟩ := associated.called
  exact { associated with called := ⟨call, subset member, rest⟩ }

/-- If whatever a call comes to carries the flags of the call, the outcome carries those of the
candidate. -/
theorem carries (associated : candidate.Associated u evaluator calls)
    (labels : ∀ call ∈ calls, ∀ outcome, call.result evaluator = .ok outcome →
      outcome.Carries call.flags) : candidate.outcome.Carries candidate.flags := by
  obtain ⟨call, member, _, same, came⟩ := associated.called
  exact same ▸ labels call member _ came

end Scored.Associated

/-! ## Benches -/

namespace Bench

variable {bench after : Bench σ} {past calls : List (Consultation σ)} {capacity : Nat}

/-- The memo goes back to the calls, and the entries of the log are associated by them. -/
structure Associates (capacity : Nat) (u : Universe) (evaluator : Evaluator σ)
    (calls : List (Consultation σ)) (bench : Bench σ) : Prop where
  sourced : bench.Sourced capacity u evaluator calls
  entries : ∀ entry ∈ bench.log.toList, entry.toScored.Associated u evaluator calls

theorem Associates.entering (associates : bench.Associates capacity u evaluator calls)
    (number : Nat) : Associates capacity u evaluator calls { bench with step := number } :=
  ⟨⟨associates.sourced.within, associates.sourced.knows⟩, associates.entries⟩

theorem associates_ofWorld {memo : Memo FlagSet} (sized : Memo.ofCapacity capacity = .ok memo)
    (world : σ) : (ofWorld world memo).Associates capacity u evaluator [] := by
  refine ⟨⟨Memo.within_of_ofCapacity sized, Memo.knows_of_ofCapacity sized⟩, ?_⟩
  simp [ofWorld]

variable {sets : List FlagSet} {batch : List Scored}

theorem Worked.associated (worked : Worked width u evaluator sets bench calls (.ok batch) after)
    (associates : bench.Associates capacity u evaluator past) :
    ∀ candidate ∈ batch, candidate.Associated u evaluator (past ++ calls) := by
  intro candidate member
  obtain ⟨resolved, backed⟩ := worked.backed associates.sourced candidate member
  exact .of_backed resolved backed

theorem Worked.associates {result : Except Halt (List Scored)}
    (worked : Worked width u evaluator sets bench calls result after)
    (associates : bench.Associates capacity u evaluator past) :
    after.Associates capacity u evaluator (past ++ calls) := by
  refine ⟨worked.sourced associates.sourced, fun entry member => ?_⟩
  obtain ⟨pool, _, _, _, rfl⟩ := worked
  exact (associates.entries entry member).mono (List.subset_append_left _ _)

theorem Associates.recordAll (associates : bench.Associates capacity u evaluator calls)
    (associated : ∀ candidate ∈ batch, candidate.Associated u evaluator calls) :
    (bench.recordAll batch).Associates capacity u evaluator calls := by
  obtain ⟨⟨within, knows⟩, entries⟩ := associates
  refine ⟨⟨?_, ?_⟩, ?_⟩
  · rwa [recordAll_memo]
  · rwa [recordAll_memo]
  · rw [recordAll_log]
    refine List.forall_mem_append.2 ⟨entries, ?_⟩
    exact List.forall_mem_map.2 associated

theorem Worked.record {bench after : Bench (σ × List Contact)}
    {calls : List (Consultation (σ × List Contact))} {result : Except Halt (List Scored)}
    (worked : Worked width u evaluator.traced sets bench calls result after) :
    Contact.calls after.world.2 = Contact.calls bench.world.2 ++ calls.map (·.flags) := by
  obtain ⟨pool, consulted, _, _, rfl⟩ := worked
  exact consulted.record

end Bench

/-! ## Walks -/

namespace Walk

variable {start walk : Walk σ} {n : Nat} {calls : List (Consultation σ)}

/-- `Consulted start n calls walk`: the first `n` steps from `start` were completed and led to
`walk`, and the evaluator was called in them as in `calls`. -/
inductive Consulted (width : Nat) (u : Universe) (evaluator : Evaluator σ)
    (scheduler : Scheduler σ) (start : Walk σ) : Nat → List (Consultation σ) → Walk σ → Prop where
  | start : Consulted width u evaluator scheduler start 0 [] start
  | step {n : Nat} {calls more : List (Consultation σ)} {walk next : Walk σ}
      {sets : List FlagSet} {batch : List Scored} {bench : Bench σ}
      (before : Consulted width u evaluator scheduler start n calls walk)
      (done : walk.step u evaluator scheduler (n + 1) = (.ok (), next))
      (worked : Bench.Worked width u evaluator sets (walk.entering (n + 1)).bench more (.ok batch)
        bench)
      (recorded : next.stage.bench = bench.recordAll batch) :
      Consulted width u evaluator scheduler start (n + 1) (calls ++ more) next

theorem Consulted.reached
    (consulted : Consulted width u evaluator scheduler start n calls walk) :
    Reached u evaluator scheduler start n walk := by
  induction consulted with
  | start => exact .start
  | step before done worked recorded ih => exact ih.step done

theorem Reached.exists_consulted (wide : 0 < width) (pooled : scheduler.Pooled width u evaluator)
    (reached : Reached u evaluator scheduler start n walk) :
    ∃ calls, Consulted width u evaluator scheduler start n calls walk := by
  induction reached with
  | start => exact ⟨[], .start⟩
  | @step n walk next before done ih =>
    obtain ⟨calls, consulted⟩ := ih
    obtain ⟨sets, batch, bench, _, scored, moved⟩ :=
      Stage.advance_ok pooled.lawful (advance_of_step done).1
    have scorer := (walk.entering (n + 1)).scorer_pooled wide pooled
    obtain ⟨more, worked⟩ := scorer.exists_worked sets (walk.entering (n + 1)).bench
    rw [scored] at worked
    exact ⟨calls ++ more, consulted.step done worked (congrArg Stage.bench moved)⟩

theorem Consulted.associates {capacity : Nat} {past : List (Consultation σ)}
    (associates : start.stage.bench.Associates capacity u evaluator past)
    (consulted : Consulted width u evaluator scheduler start n calls walk) :
    walk.stage.bench.Associates capacity u evaluator (past ++ calls) := by
  induction consulted with
  | start => rwa [List.append_nil]
  | @step n calls more walk next sets batch bench before done worked recorded ih =>
    have entering := ih.entering (n + 1)
    rw [recorded, ← List.append_assoc]
    exact (worked.associates entering).recordAll (worked.associated entering)

theorem Consulted.record {start walk : Walk (σ × List Contact)}
    {scheduler : Scheduler (σ × List Contact)} {calls : List (Consultation (σ × List Contact))}
    (consulted : Consulted width u evaluator.traced scheduler start n calls walk) :
    Contact.calls walk.stage.bench.world.2 =
      Contact.calls start.stage.bench.world.2 ++ calls.map (·.flags) := by
  induction consulted with
  | start => exact (List.append_nil _).symm
  | step before done worked recorded ih =>
    rw [recorded, Bench.recordAll_world, worked.record, entering, ih, List.map_append,
      List.append_assoc]

end Walk

/-! ## Courses -/

namespace Course

variable {settings : Settings} {entropy : UInt64} {world : σ}
  {course : Course settings u evaluator scheduler entropy world} {calls : List (Consultation σ)}

/-- The evaluator was called as in `calls` for the starting set and in the completed steps. -/
def Consults (course : Course settings u evaluator scheduler entropy world)
    (calls : List (Consultation σ)) : Prop :=
  ∃ first later last, calls = first ++ later ∧
    Bench.Worked settings.poolWidth u evaluator [settings.initial.getD u.emptySet]
      (.ofWorld world course.memo) first (.ok [course.baseline]) course.bench ∧
    Walk.Consulted settings.poolWidth u evaluator scheduler course.start course.completed later last

theorem exists_consults (pooled : scheduler.Pooled settings.poolWidth u evaluator)
    (course : Course settings u evaluator scheduler entropy world) :
    ∃ calls, course.Consults calls := by
  have wide := course.accepted.poolWidth_pos
  obtain ⟨first, worked⟩ := (Bench.requestAll_pooled wide u evaluator).exists_worked
    [settings.initial.getD u.emptySet] (.ofWorld world course.memo)
  rw [course.requestAll_start] at worked
  obtain ⟨last, reached, _⟩ := course.exists_last pooled.lawful.toKeepsLog
  obtain ⟨later, consulted⟩ := reached.exists_consulted wide pooled
  exact ⟨first ++ later, first, later, last, rfl, worked, consulted⟩

theorem Consults.associated (keeps : scheduler.KeepsLog) (consults : course.Consults calls) :
    ∀ entry ∈ course.baseline.entry 0 :: course.log,
      entry.toScored.Associated u evaluator calls := by
  obtain ⟨first, later, last, rfl, worked, consulted⟩ := consults
  have begins : (Bench.ofWorld world course.memo).Associates settings.cacheCapacity u evaluator
    [] := Bench.associates_ofWorld course.sized world
  have start := worked.associated begins course.baseline (List.mem_singleton_self _)
  refine List.forall_mem_cons.2 ⟨start.mono (List.subset_append_left _ _), ?_⟩
  obtain ⟨last', reached, log, _⟩ := course.exists_last keeps
  obtain ⟨_, rfl⟩ := Prod.mk.inj (reached.steps_eq.symm.trans consulted.reached.steps_eq)
  rw [← log]
  exact (consulted.associates (worked.associates begins)).entries

theorem log_resolved (pooled : scheduler.Pooled settings.poolWidth u evaluator)
    (course : Course settings u evaluator scheduler entropy world) :
    ∀ entry ∈ course.log, u.resolve entry.set = .ok entry.flags := by
  obtain ⟨calls, consults⟩ := course.exists_consults pooled
  intro entry member
  have shown := List.mem_cons_of_mem (course.baseline.entry 0) member
  exact (consults.associated pooled.lawful.toKeepsLog entry shown).resolved

theorem Consults.record {scheduler : Scheduler (σ × List Contact)}
    {course : Course settings u evaluator.traced scheduler entropy (world, [])}
    {calls : List (Consultation (σ × List Contact))} (consults : course.Consults calls)
    (whole : course.halt = none) :
    Contact.calls course.walk.stage.bench.world.2 = calls.map (·.flags) := by
  obtain ⟨first, later, last, rfl, worked, consulted⟩ := consults
  rcases course.cases with ⟨_, _, reached⟩ | ⟨_, _, _, _, _, halted⟩
  · obtain ⟨_, rfl⟩ := Prod.mk.inj (reached.steps_eq.symm.trans consulted.reached.steps_eq)
    have start : Contact.calls course.start.stage.bench.world.2 = first.map (·.flags) :=
      worked.record
    rw [consulted.record, start, List.map_append]
  · rw [whole] at halted
    cases halted

end Course

/-! ## Reports -/

/-- Whatever calls a run makes for its starting set and in its completed steps: by these calls each
entry of the report, complete or cut short, is associated.  It shows a set over the universe, the
flags at the positions of that set, and an outcome that a call with just these flags for just this
set came to, even if the entry is marked.  If the outcomes of the calls carry the flags of the
calls, those of the entries carry the flags of the entries. -/
theorem report_associated (settings : Settings) (u : Universe) (evaluator : Evaluator σ)
    (scheduler : Scheduler σ) (pooled : scheduler.Pooled settings.poolWidth u evaluator)
    (entropy : UInt64) (world : σ) {report : Report}
    (left : (runWith settings u evaluator scheduler entropy world).1.report? = some report) :
    ∃ course : Course settings u evaluator scheduler entropy world,
      (∃ calls, course.Consults calls) ∧
      ∀ calls, course.Consults calls →
        ∀ entry ∈ report.baseline :: report.best :: report.results,
          entry.toScored.Associated u evaluator calls ∧
          ((∀ call ∈ calls, ∀ outcome, call.result evaluator = .ok outcome →
              outcome.Carries call.flags) →
            entry.outcome.Carries entry.flags) := by
  obtain ⟨course, failure, _, rfl⟩ := exists_course_of_report left
  refine ⟨course, course.exists_consults pooled, fun calls consults => ?_⟩
  have keeps := pooled.lawful.toKeepsLog
  have associated := consults.associated keeps
  have shown : ∀ entry ∈ course.baseline.entry 0 ::
      course.walk.stage.position.best.entry course.walk.stage.position.bestStep ::
        ranked course.log, entry ∈ course.baseline.entry 0 :: course.log := by
    refine List.forall_mem_cons.2 ⟨List.mem_cons_self, List.forall_mem_cons.2 ⟨?_, ?_⟩⟩
    · exact (course.tracks keeps).best.mem
    · exact fun entry member => List.mem_cons_of_mem _ ((ranked_perm _).mem_iff.1 member)
  intro entry member
  have own := associated entry (shown entry member)
  exact ⟨own, own.carries⟩

def flagTwins : Universe := ⟨none, none, ["-a", "-a"]⟩

/-- An evaluator that names the flags it was called with, and gets faster with every call. -/
def labelling : Evaluator (List (List String)) := .ofHistory "labelling" fun calls =>
  .outcome (.success (.ofPattern (9 - calls.length)) none (calls.getLastD []))

def twinClimb : Settings :=
  { Settings.hillClimb 1 with iterations := 6, cacheCapacity := 3, seed := some 7 }

/-- The climb comes back to its start after that was evicted, and asks twice for a set that selects
the same flags as another one. -/
theorem report_associated_twins :
    ∃ report calls,
      (runWith twinClimb flagTwins labelling (Bench.requestAll flagTwins labelling) 0
        []).1.report? = some report ∧ report.cache.hits = 2 ∧
      ∀ entry ∈ report.baseline :: report.best :: report.results,
        entry.toScored.Associated flagTwins labelling calls ∧
          entry.outcome.Carries entry.flags := by
  have shown : (runWith twinClimb flagTwins labelling (Bench.requestAll flagTwins labelling) 0
      []).1.report?.map (·.cache.hits) = some 2 := by decide
  obtain ⟨report, left, hits⟩ := Option.map_eq_some_iff.1 shown
  obtain ⟨course, ⟨calls, consults⟩, associated⟩ := report_associated twinClimb flagTwins labelling
    (Bench.requestAll flagTwins labelling) (Bench.requestAll_pooled Nat.one_pos flagTwins labelling)
    0 [] left
  have labels : ∀ call ∈ calls, ∀ outcome, call.result labelling = .ok outcome →
      outcome.Carries call.flags := by
    rintro call - outcome ⟨⟩
    simp [Outcome.Carries]
  refine ⟨report, calls, left, hits, fun entry member => ?_⟩
  obtain ⟨own, carries⟩ := associated calls consults entry member
  exact ⟨own, carries labels⟩

end FlagSearch
