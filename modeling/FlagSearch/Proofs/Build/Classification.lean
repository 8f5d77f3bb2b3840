import FlagSearch.Build.Compiler

/-!
# What becomes of a candidate

Once a compiler has ended there is only its artifact to be run, again and again.  The first run that
does not succeed decides, and if there is none the timed runs do; the runs to warm up count for
nothing.

* `Compiler.Compiled` — the way to the end of the compiler.
* `Compiler.Ran`, `Compiler.execute_of_ran` — one run of the artifact.
* `Compiler.exists_course` — every machine goes on in some way.
* `Compiler.repeated_finished`, `Compiler.repeated_short` — runs that all succeed, and runs up to the
  first that does not.
* `Compiler.evaluate_classified` — candidates.
* `Compiler.endless_timing_panics` — a plan that is accepted and cannot be carried out.
-/

namespace FlagSearch

def Execution.ofEnd : ChildEnd → Execution
  | .exited true nanos => .finished nanos
  | .exited false _ | .notStarted _ | .timedOut => .failed
  | .interrupted => .stopped .interrupted
  | .lost e => .stopped (Compiler.lostError e)

namespace Compiler

variable {σ : Type}

/-- Nobody asks to stop, there is a scratch directory with copies of the sources, and the compiler is
run there and ends by itself. -/
inductive Compiled (machine : Machine σ) (compiler : Compiler) (flags : List String) (world : σ)
    (directory : String) (succeeded : Bool) (built : σ) : Prop
  | intro {asked opened staged : σ} {names : List String} {nanos : Nat}
      (calm : machine.stopRequested world = (false, asked))
      (opens : machine.openScratch compiler.plan.workRoot asked = (.ok directory, opened))
      (stages : stage machine directory compiler.plan.sources opened = (.ok names, staged))
      (exits : machine.runChild
        { program := compiler.program
          arguments := compiler.plan.baseArguments ++ flags ++ names
          directory
          limit := none } staged = (.exited succeeded nanos, built))

/-- The child process that one run of the artifact is. -/
def trial (compiler : Compiler) (directory : String) : Child where
  program := Path.join directory compiler.plan.artifact
  arguments := compiler.plan.runArguments
  directory := directory
  limit := compiler.plan.limit

/-- One run of a child process to be timed: it is not started if somebody asks to stop. -/
inductive Ran (machine : Machine σ) (child : Child) (world : σ) : Execution → σ → Prop
  | stopped {after : σ} (asked : machine.stopRequested world = (true, after)) :
      Ran machine child world (.stopped .interrupted) after
  | ended {between after : σ} {ending : ChildEnd}
      (calm : machine.stopRequested world = (false, between))
      (ends : machine.runChild child between = (ending, after)) :
      Ran machine child world (.ofEnd ending) after

section Runs

variable {machine : Machine σ} {compiler : Compiler} {directory : String}

theorem execute_of_ran {world after : σ} {result : Execution}
    (ran : Ran machine (compiler.trial directory) world result after) :
    execute machine compiler directory (Path.join directory compiler.plan.artifact) world =
      (result, after) := by
  cases ran with
  | stopped asked => rw [execute, asked]
  | @ended between _ ending calm ends =>
    rw [execute, calm]
    unfold trial at ends
    dsimp only
    rw [ends]
    rcases ending with e | ⟨succeeded, nanos⟩ | _ | _ | e
    · rfl
    · cases succeeded with
      | false => rfl
      | true => rfl
    · rfl
    · rfl
    · rfl

variable (machine compiler directory)

theorem ran_execute (world : σ) :
    Ran machine (compiler.trial directory) world
      (execute machine compiler directory (Path.join directory compiler.plan.artifact) world).1
      (execute machine compiler directory (Path.join directory compiler.plan.artifact) world).2 := by
  have ran : ∃ result after, Ran machine (compiler.trial directory) world result after := by
    cases polled : machine.stopRequested world with
    | mk asked between =>
      cases asked with
      | true => exact ⟨_, _, .stopped polled⟩
      | false => exact ⟨_, _, .ended polled rfl⟩
  obtain ⟨result, after, ran⟩ := ran
  rwa [execute_of_ran ran]

theorem exists_course (built : σ) :
    ∃ (worlds : Nat → σ) (results : Nat → Execution), worlds 0 = built ∧
      ∀ k, Ran machine (compiler.trial directory) (worlds k) (results k) (worlds (k + 1)) := by
  let after : σ → σ := fun world =>
    (execute machine compiler directory (Path.join directory compiler.plan.artifact) world).2
  exact ⟨fun k => Nat.rec built (fun _ world => after world) k, _, rfl,
    fun k => ran_execute machine compiler directory _⟩

end Runs

/-! ## Runs in a row -/

section Repeated

variable {run : σ → Execution × σ} {worlds : Nat → σ} {results : Nat → Execution}
  (course : ∀ k, run (worlds k) = (results k, worlds (k + 1)))
include course

theorem repeated_finished {nanos : Nat → Nat} {first count : Nat}
    (all : ∀ k < count, results (first + k) = .finished (nanos (first + k))) :
    repeated run count (worlds first) =
      (.finished ((List.range' first count).map nanos), worlds (first + count)) := by
  -- The induction is over the runs that are left, so the first of them moves on.
  induction count generalizing first with
  | zero => rfl
  | succ count ih =>
    have now : results first = .finished (nanos first) := all 0 (Nat.zero_lt_succ count)
    have later := @ih (first + 1) fun k within => by
      have here := all (k + 1) (by omega)
      rwa [← Nat.add_assoc, Nat.add_right_comm] at here
    rw [repeated, course, now]
    dsimp only
    rw [later, List.range'_succ, List.map_cons, Nat.add_right_comm]
    rfl

/-- What a run that does not succeed makes of the runs in a row. -/
inductive Short : Execution → Executions → Prop
  | failed : Short .failed .failed
  | stopped (e : SearchError) : Short (.stopped e) (.stopped e)

omit course in
theorem Short.after {result : Execution} {all : Executions} (short : Short result all)
    (nanos : Nat) : all.after nanos = all := by
  cases short with
  | failed => rfl
  | stopped e => rfl

theorem repeated_short {first count before : Nat} {all : Executions}
    (early : ∀ k < before, ∃ nanos, results (first + k) = .finished nanos) (within : before < count)
    (short : Short (results (first + before)) all) :
    repeated run count (worlds first) = (all, worlds (first + before + 1)) := by
  induction count generalizing first before with
  | zero => exact absurd within (Nat.not_lt_zero before)
  | succ count ih =>
    rw [repeated, course]
    cases before with
    | zero =>
      rw [Nat.add_zero] at short ⊢
      generalize results first = result at short
      cases short with
      | failed => rfl
      | stopped e => rfl
    | succ before =>
      obtain ⟨nanos, now⟩ := early 0 (Nat.zero_lt_succ before)
      have next : ∀ k, first + 1 + k = first + (k + 1) := by omega
      have later := @ih (first + 1) before
        (fun k small => by simpa only [next] using early (k + 1) (by omega)) (by omega)
        (by simpa only [next] using short)
      rw [Nat.add_zero] at now
      rw [now]
      dsimp only
      rw [later, short.after, next]

/-! ## Warming up and timing -/

variable {plan : BuildPlan} {flags : List String}

/-- What a candidate is found to be after its timed runs. -/
def verdict (flags : List String) : Executions → Reply
  | .finished nanos => .outcome (success flags nanos)
  | .failed => .outcome .runtimeError
  | .stopped e => .error e

theorem time_of_cold {j : Nat} (early : ∀ k < j, ∃ nanos, results k = .finished nanos)
    (cold : j < plan.warmupRuns) {all : Executions} (short : Short (results j) all) :
    time plan flags run (worlds 0) = (verdict flags all, worlds (j + 1)) := by
  have stuck : repeated run plan.warmupRuns (worlds 0) = (all, worlds (0 + j + 1)) :=
    repeated_short course (by simpa using early) cold (by simpa using short)
  rw [Nat.zero_add] at stuck
  generalize results j = result at short
  cases short with
  | failed => simp only [time, stuck, verdict]
  | stopped e => simp only [time, stuck, verdict]

omit course in
theorem exists_nanos {count : Nat} (all : ∀ k < count, ∃ nanos, results k = .finished nanos) :
    ∃ nanos : Nat → Nat, ∀ k < count, results k = .finished (nanos k) := by
  refine ⟨fun k => match results k with
    | .finished nanos => nanos
    | _ => 0, fun k within => ?_⟩
  obtain ⟨nanos, finished⟩ := all k within
  simp only [finished]

theorem repeated_warm (warm : ∀ k < plan.warmupRuns, ∃ nanos, results k = .finished nanos) :
    ∃ nanos, repeated run plan.warmupRuns (worlds 0) = (.finished nanos, worlds plan.warmupRuns) := by
  obtain ⟨nanos, all⟩ := exists_nanos warm
  have done : repeated run plan.warmupRuns (worlds 0) =
      (.finished ((List.range' 0 plan.warmupRuns).map nanos), worlds (0 + plan.warmupRuns)) :=
    repeated_finished course (by simpa using all)
  rw [Nat.zero_add] at done
  exact ⟨_, done⟩

theorem time_of_no_room (warm : ∀ k < plan.warmupRuns, ∃ nanos, results k = .finished nanos)
    (full : maxBlock < plan.runs * timeSlot) :
    time plan flags run (worlds 0) =
      (.panic Fault.capacityOverflow.message, worlds plan.warmupRuns) := by
  obtain ⟨nanos, done⟩ := repeated_warm course warm
  have refused : reserve plan.runs timeSlot = .error .capacityOverflow :=
    if_neg (Nat.not_le.2 full)
  simp only [time, done, refused]

theorem time_of_warm (warm : ∀ k < plan.warmupRuns, ∃ nanos, results k = .finished nanos)
    (room : plan.runs * timeSlot ≤ maxBlock) {all : Executions} {after : σ}
    (timed : repeated run plan.runs (worlds plan.warmupRuns) = (all, after)) :
    time plan flags run (worlds 0) = (verdict flags all, after) := by
  obtain ⟨nanos, done⟩ := repeated_warm course warm
  have reserved : reserve plan.runs timeSlot = .ok () := if_pos room
  cases all with
  | finished nanos => simp only [time, done, reserved, timed, verdict]
  | failed => simp only [time, done, reserved, timed, verdict]
  | stopped e => simp only [time, done, reserved, timed, verdict]

theorem time_of_short {j : Nat} (early : ∀ k < j, ∃ nanos, results k = .finished nanos)
    (within : j < plan.warmupRuns + plan.runs)
    (room : plan.warmupRuns ≤ j → plan.runs * timeSlot ≤ maxBlock) {all : Executions}
    (short : Short (results j) all) :
    time plan flags run (worlds 0) = (verdict flags all, worlds (j + 1)) := by
  by_cases cold : j < plan.warmupRuns
  · exact time_of_cold course early cold short
  · obtain ⟨timed, rfl⟩ : ∃ timed, j = plan.warmupRuns + timed := Nat.exists_eq_add_of_le (by omega)
    refine time_of_warm course (fun k small => early k (by omega)) (room (by omega)) ?_
    exact repeated_short course (fun k small => early _ (by omega)) (by omega) short

theorem time_of_finished {nanos : Nat → Nat}
    (all : ∀ k < plan.warmupRuns + plan.runs, results k = .finished (nanos k))
    (room : plan.runs * timeSlot ≤ maxBlock) :
    time plan flags run (worlds 0) =
      (verdict flags (.finished ((List.range' plan.warmupRuns plan.runs).map nanos)),
        worlds (plan.warmupRuns + plan.runs)) := by
  refine time_of_warm course (fun k small => ⟨_, all k (by omega)⟩) room ?_
  exact repeated_finished course fun k small => all _ (by omega)

end Repeated

/-! ## Candidates -/

section Candidates

variable {machine : Machine σ} {compiler : Compiler} {flags : List String} {world built : σ}
  {directory : String} {succeeded : Bool}

theorem evaluate_of_opened {asked opened : σ}
    (calm : machine.stopRequested world = (false, asked))
    (opens : machine.openScratch compiler.plan.workRoot asked = (.ok directory, opened)) :
    evaluate machine compiler flags world =
      (evaluateIn machine compiler flags directory opened).map id (machine.closeScratch directory) := by
  rw [evaluate, calm]
  dsimp only
  rw [opens]
  rfl

theorem evaluate_of_compiled
    (compiled : Compiled machine compiler flags world directory succeeded built) :
    evaluate machine compiler flags world =
      if succeeded = true ∧ machine.isFile (Path.join directory compiler.plan.artifact) built then
        let timed := time compiler.plan flags
          (execute machine compiler directory (Path.join directory compiler.plan.artifact)) built
        (timed.1, machine.closeScratch directory timed.2)
      else (.outcome .buildFailure, machine.closeScratch directory built) := by
  obtain ⟨calm, opens, stages, exits⟩ := compiled
  rw [evaluate_of_opened calm opens, evaluateIn, stages]
  dsimp only
  rw [compile, exits]
  cases succeeded with
  | false => rfl
  | true =>
    dsimp only
    split
    next left =>
      rw [if_pos ⟨rfl, left⟩]
      rfl
    next missing =>
      rw [if_neg fun both => missing both.2]
      rfl

theorem success_eq {nanos : List Nat} (timed : nanos ≠ []) :
    success flags nanos =
      .success (Timing.meanOf (nanos.map seconds))
        (if 2 ≤ nanos.length then
          some (Timing.deviation (Timing.meanOf (nanos.map seconds)) (nanos.map seconds))
        else none) flags := by
  match nanos with
  | [] => exact absurd rfl timed
  | [_] => rfl
  | first :: second :: rest =>
    have several : 2 ≤ (first :: second :: rest).length := by simp
    rw [if_pos several]
    rfl

theorem runs_ne_zero {plan : BuildPlan} (valid : plan.problem? = none) : plan.runs ≠ 0 := by
  intro untimed
  rw [BuildPlan.problem?, if_pos untimed] at valid
  split at valid
  · cases valid
  · cases valid

/-- A compiler that fails or leaves no file is all there is to a candidate.  Otherwise its artifact
is run until one run does not succeed, which then decides, or until all the runs are over: the times
behind the runs to warm up make the mean, and two of them or more make a deviation.  The timed runs
do not begin if there is no room for their times. -/
theorem evaluate_classified (valid : compiler.plan.problem? = none)
    (compiled : Compiled machine compiler flags world directory succeeded built)
    {worlds : Nat → σ} {results : Nat → Execution} (begins : worlds 0 = built)
    (course : ∀ k, Ran machine (compiler.trial directory) (worlds k) (results k) (worlds (k + 1))) :
    let warmups := compiler.plan.warmupRuns
    let runs := compiler.plan.runs
    let artifact := Path.join directory compiler.plan.artifact
    (¬ (succeeded = true ∧ machine.isFile artifact built = true) →
      evaluate machine compiler flags world =
        (.outcome .buildFailure, machine.closeScratch directory built)) ∧
    (succeeded = true → machine.isFile artifact built = true →
      (∀ j < warmups + runs, (∀ k < j, ∃ nanos, results k = .finished nanos) →
        (warmups ≤ j → runs * timeSlot ≤ maxBlock) →
        (results j = .failed → evaluate machine compiler flags world =
          (.outcome .runtimeError, machine.closeScratch directory (worlds (j + 1)))) ∧
        ∀ e, results j = .stopped e → evaluate machine compiler flags world =
          (.error e, machine.closeScratch directory (worlds (j + 1)))) ∧
      (∀ nanos : Nat → Nat, (∀ k < warmups + runs, results k = .finished (nanos k)) →
        runs * timeSlot ≤ maxBlock →
        let times := (List.range' warmups runs).map fun k => seconds (nanos k)
        let mean := Timing.meanOf times
        evaluate machine compiler flags world =
          (.outcome (.success mean (if 2 ≤ runs then some (Timing.deviation mean times) else none)
            flags), machine.closeScratch directory (worlds (warmups + runs)))) ∧
      ((∀ k < warmups, ∃ nanos, results k = .finished nanos) → maxBlock < runs * timeSlot →
        evaluate machine compiler flags world =
          (.panic Fault.capacityOverflow.message,
            machine.closeScratch directory (worlds warmups)))) := by
  intro warmups runs artifact
  have follows := fun k => execute_of_ran (course k)
  have reached := evaluate_of_compiled compiled
  rw [← begins] at reached ⊢
  refine ⟨fun unbuilt => by rw [reached, if_neg unbuilt], fun success left => ?_⟩
  rw [if_pos ⟨success, left⟩] at reached
  refine ⟨fun j within early room => ⟨fun failed => ?_, fun e stopped => ?_⟩, ?_, ?_⟩
  · have short : Short (results j) .failed := failed ▸ .failed
    rw [reached, time_of_short follows early within room short, verdict]
  · have short : Short (results j) (.stopped e) := stopped ▸ .stopped e
    rw [reached, time_of_short follows early within room short, verdict]
  · intro nanos all room times mean
    have timed : (List.range' warmups runs).map nanos ≠ [] := by simpa using runs_ne_zero valid
    rw [reached, time_of_finished follows all room, verdict, success_eq timed]
    simp only [List.map_map, List.length_map, List.length_range', Function.comp_def]
    rfl
  · intro warm full
    rw [reached, time_of_no_room follows warm full]

end Candidates

/-- The ends of the child processes of a machine, by the number of others before them. -/
def unsteadyEnd : Nat → ChildEnd
  | 4 => .exited false 0
  | 7 => .interrupted
  | ran => .exited true (ran * nanosPerSecond)

def unsteady : Machine Nat where
  readText _ _ := .error .notFound
  writeText _ _ ran := (.ok (), ran)
  copyFile _ _ ran := (.ok (), ran)
  makeDirectories _ ran := (.ok (), ran)
  realPath path _ := .ok path
  isPresent _ _ := true
  isFile _ _ := true
  listDirectory _ _ := .ok []
  openScratch _ ran := (.ok "/scratch", ran)
  closeScratch _ ran := ran
  runChild _ ran := (unsteadyEnd ran, ran + 1)
  stopRequested ran := (false, ran)
  now _ := 0

def timedFor (warmupRuns runs : Nat) : Compiler :=
  ⟨{ BuildPlan.ofSources ["main.c"] with warmupRuns, runs }, "/usr/bin/cc"⟩

section Unsteady

variable {warmupRuns runs : Nat}

theorem compiled_unsteady {ran nanos : Nat} {succeeded : Bool}
    (ends : unsteadyEnd ran = .exited succeeded nanos) :
    Compiled unsteady (timedFor warmupRuns runs) ["-O2"] ran "/scratch" succeeded (ran + 1) := by
  have stages : stage unsteady "/scratch" ["main.c"] ran = (.ok ["main.c"], ran) := rfl
  have exits (child : Child) :
      unsteady.runChild child ran = (.exited succeeded nanos, ran + 1) := by
    rw [← ends]
    rfl
  exact ⟨rfl, rfl, stages, exits _⟩

theorem course_unsteady (built k : Nat) :
    Ran unsteady ((timedFor warmupRuns runs).trial "/scratch") (built + k)
      (.ofEnd (unsteadyEnd (built + k))) (built + (k + 1)) :=
  .ended rfl rfl

end Unsteady

/-- Two timed runs come to an end, the third of five fails, and more than there is room for are not
even begun with.  A compiler fails, too, and once somebody wants it all to stop. -/
theorem evaluate_classified_unsteady :
    evaluate unsteady (timedFor 1 2) ["-O2"] 0 =
        (.outcome (.success (.ofPattern 0x4004000000000000) (some (.ofPattern 0x3FE6A09E667F3BCD))
          ["-O2"]), 4) ∧
      evaluate unsteady (timedFor 1 5) ["-O2"] 0 = (.outcome .runtimeError, 5) ∧
      evaluate unsteady (timedFor 1 (UInt64.size / 16)) ["-O2"] 0 =
        (.panic Fault.capacityOverflow.message, 2) ∧
      evaluate unsteady (timedFor 1 2) ["-O2"] 4 = (.outcome .buildFailure, 5) ∧
      evaluate unsteady (timedFor 1 5) ["-O2"] 5 = (.error .interrupted, 8) := by
  have finished : ∀ k < 3,
      Execution.ofEnd (unsteadyEnd (1 + k)) = .finished ((1 + k) * nanosPerSecond) := by decide
  refine ⟨?_, ?_, ?_, ?_, ?_⟩
  · have all := evaluate_classified (by decide) (@compiled_unsteady 1 2 0 _ _ rfl) rfl
      (course_unsteady 1)
    exact ((all.2 rfl rfl).2.1 _ finished (by decide)).trans (by decide +kernel)
  · have all := evaluate_classified (by decide) (@compiled_unsteady 1 5 0 _ _ rfl) rfl
      (course_unsteady 1)
    exact ((all.2 rfl rfl).1 3 (by decide) (fun k early => ⟨_, finished k early⟩) (by decide)).1 rfl
  · have all := evaluate_classified (by decide) (@compiled_unsteady 1 (UInt64.size / 16) 0 _ _ rfl) rfl
      (course_unsteady 1)
    exact (all.2 rfl rfl).2.2 (fun k early => ⟨_, finished k (Nat.lt_trans early (by decide))⟩)
      (by decide)
  · have all := evaluate_classified (by decide) (@compiled_unsteady 1 2 4 _ _ rfl) rfl
      (course_unsteady 5)
    exact all.1 (by decide)
  · have all := evaluate_classified (by decide) (@compiled_unsteady 1 5 5 _ _ rfl) rfl
      (course_unsteady 6)
    have started : ∀ k < 1, ∃ nanos, Execution.ofEnd (unsteadyEnd (6 + k)) = .finished nanos := by
      intro k early
      obtain rfl : k = 0 := by omega
      exact ⟨_, rfl⟩
    exact ((all.2 rfl rfl).1 1 (by decide) started (by decide)).2 .interrupted rfl

/-- This plan is accepted, and the compiler leaves an artifact that fails when it is run.  But it is
not run, so the candidate is not found to fail. -/
theorem endless_timing_panics :
    (timedFor 0 (UInt64.size / 16)).plan.problem? = none ∧
      Compiled unsteady (timedFor 0 (UInt64.size / 16)) ["-O2"] 3 "/scratch" true 4 ∧
      unsteady.isFile "/scratch/a.out" 4 = true ∧
      Ran unsteady ((timedFor 0 (UInt64.size / 16)).trial "/scratch") 4 .failed 5 ∧
      evaluate unsteady (timedFor 0 (UInt64.size / 16)) ["-O2"] 3 = (.panic "capacity overflow", 4) ∧
      evaluate unsteady (timedFor 0 (UInt64.size / 16)) ["-O2"] 3 ≠ (.outcome .runtimeError, 5) := by
  have panics : evaluate unsteady (timedFor 0 (UInt64.size / 16)) ["-O2"] 3 =
      (.panic "capacity overflow", 4) := by decide
  refine ⟨by decide, compiled_unsteady rfl, rfl, course_unsteady 4 0, panics, ?_⟩
  rw [panics]
  simp

end Compiler

end FlagSearch
