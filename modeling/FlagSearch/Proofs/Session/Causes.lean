import FlagSearch.CommandLine.Execution
import FlagSearch.Proofs.Build.Classification
import FlagSearch.Proofs.Search.Aborts

/-!
# What an aborted session tells

A session whose search is aborted keeps what there is to be kept and then tells the error of the
search, whose status is the status of the command whatever else is told around it.  An interruption
and a wrong parameter leave nothing to be kept, and then nothing is written at all.  But if there is
something and it cannot be kept, the session tells that instead, and the error of the search is
lost.

* `Machine.BuildsAs`, `Compiler.evaluator_eq` — a search uses a machine for builds alone.
* `Session.Written`, `Stop.Outside` — a report that is kept, and why one is not.
* `Session.save_eq_ok_iff`, `Session.outside_of_save` — how keeping a report ends.
* `Session.run_aborted` — how an aborted session ends.
* `Session.search_error_lost` — the search was aborted, and the session tells something else.
-/

namespace FlagSearch

open CommandLine (Finish)

variable {σ : Type} {machine : Machine σ}

/-! ## What a search uses -/

/-- Another machine builds and runs candidates in the same way.  It may differ in the files that a
session reads and writes itself. -/
structure Machine.BuildsAs (machine other : Machine σ) : Prop where
  opens : other.openScratch = machine.openScratch
  copies : other.copyFile = machine.copyFile
  finds : other.isFile = machine.isFile
  runs : other.runChild = machine.runChild
  closes : other.closeScratch = machine.closeScratch
  stops : other.stopRequested = machine.stopRequested
  clock : other.now = machine.now

namespace Compiler

variable {other : Machine σ} (same : machine.BuildsAs other)
include same

theorem stage_eq (directory : String) (sources : List String) (world : σ) :
    stage other directory sources world = stage machine directory sources world := by
  induction sources generalizing world with
  | nil => rfl
  | cons source rest ih => simp only [stage, same.copies, ih]

theorem evaluator_eq (compiler : Compiler) :
    compiler.evaluator other = compiler.evaluator machine := by
  have compiles : compile other compiler = compile machine compiler := by
    funext directory flags sources world
    simp only [compile, same.runs]
  have executes : execute other compiler = execute machine compiler := by
    funext directory artifact world
    simp only [execute, same.stops, same.runs]
  have scores : evaluate other compiler = evaluate machine compiler := by
    funext flags world
    simp only [evaluate, evaluateIn, same.stops, same.opens, stage_eq same, compiles, same.finds,
      executes, same.closes]
  rw [evaluator, evaluator, scores, same.stops, same.clock]

end Compiler

/-! ## Keeping a report -/

/-- What is told if a report cannot be kept: the machine refuses something, or the numbers for runs
are used up. -/
inductive Stop.Outside : Stop → Prop
  | refused (activity : Activity) (e : OsError) : Outside (.failure (.refused activity e))
  | fault (f : Fault) : Outside (.fault f)

theorem Stop.Outside.exitCode_mem {stop : Stop} (outside : stop.Outside) :
    (Finish.ofStop stop).exitCode ∈ [1, 101] := by
  cases outside with
  | refused activity e => exact List.mem_cons_self
  | fault f => exact List.mem_cons_of_mem _ List.mem_cons_self

theorem Results.outside_of_allocate {results : Results} {strategy flagsPath : String}
    {before after : σ} {stop : Stop}
    (stops : results.allocate machine strategy flagsPath before = (.error stop, after)) :
    stop.Outside := by
  rw [allocate] at stops
  split at stops
  next failed =>
    cases stops
    unfold nextNumber at failed
    dsimp only at failed
    split_ifs at failed
    split at failed
    · cases failed
      exact .refused _ _
    · split at failed
      · cases failed
      · cases failed
        exact .fault _
  · dsimp only at stops
    split at stops
    · cases stops
      exact .refused _ _
    · cases stops

namespace Session

variable {options : SessionOptions} {report : Report} {before after : σ} {path : String}
  {stop : Stop}

theorem outside_of_place {strategy : String}
    (stops : place machine options strategy before = (.error stop, after)) : stop.Outside := by
  rw [place] at stops
  split at stops
  next path _ =>
    cases made : prepareParent machine path before with
    | mk result between =>
      rw [made] at stops
      cases result with
      | ok _ => cases stops
      | error stop' =>
        cases stops
        unfold prepareParent at made
        split at made
        · cases made
        · cases made
        · split at made
          · cases made
            exact .refused _ _
          · cases made
  · exact Results.outside_of_allocate stops

inductive Written (machine : Machine σ) (options : SessionOptions) (report : Report) (before : σ)
    (path : String) (after : σ) : Prop
  | intro {placed : σ}
      (places : place machine options report.strategy before = (.ok path, placed))
      (writes : machine.writeText path report.text placed = (.ok (), after))

theorem save_eq_ok_iff :
    save machine options report before = (.ok path, after) ↔
      Written machine options report before path after := by
  constructor
  · intro saves
    rw [save] at saves
    split at saves
    · cases saves
    next path' placed places =>
      split at saves
      · cases saves
      next writes =>
        cases saves
        exact ⟨places, writes⟩
  · rintro ⟨places, writes⟩
    rw [save, places]
    dsimp only
    rw [writes]

theorem outside_of_save (stops : save machine options report before = (.error stop, after)) :
    stop.Outside := by
  rw [save] at stops
  split at stops
  next failed =>
    cases stops
    exact outside_of_place failed
  · split at stops
    · cases stops
      exact .refused _ _
    · cases stops

/-! ## Aborted sessions -/

variable {session : Session} {scheduler : Scheduler σ} {entropy : UInt64} {world searched : σ}
  {e : SearchError} {seen : Option Report}

theorem exitCode_around (e : SearchError) (activities : List Activity) :
    (activities.foldr Failure.during (abortFailure e)).exitCode = e.exitCode := by
  induction activities with
  | nil => rfl
  | cons activity activities ih => rw [List.foldr_cons, Failure.exitCode_during, ih]

theorem exitCode_mem (e : SearchError) : e.exitCode ∈ [2, 3, 4, 130] := by
  cases e <;> simp [SearchError.exitCode]

theorem keepsReport_of_aborted {settings : Settings} {u : Universe} {evaluator : Evaluator σ}
    {report : Report}
    (aborted : (FlagSearch.runWith settings u evaluator scheduler entropy world).1 =
      .aborted e (some report)) :
    e.keepsReport = true := by
  have left : (FlagSearch.runWith settings u evaluator scheduler entropy world).1.report? =
      some report := by
    rw [aborted]
    rfl
  obtain ⟨course, _⟩ := exists_course_of_report left
  obtain ⟨_, kept⟩ := course.halt_of_aborted aborted
  by_contra lost
  rw [if_neg lost] at kept
  cases kept

/-- A session whose search is aborted, whatever its workers do, tells the error of the search if there
is nothing to keep, or it is kept; else it tells why it is not kept, which has another status.  An
interruption or a wrong parameter leaves nothing to keep, and where there is nothing to keep the
session makes no directories and writes no files beside the builds: on a machine that differs in
those it ends in the same way. -/
theorem run_aborted
    (aborted : FlagSearch.runWith session.options.settings session.u
      (session.compiler.evaluator machine) scheduler entropy world = (.aborted e seen, searched)) :
    let told : Stop := .failure (abortFailure e)
    ((e = .interrupted ∨ ∃ what, e = .invalidParameter what) → seen = none) ∧
      (seen = none → ∀ other : Machine σ, machine.BuildsAs other →
        session.runWith other scheduler entropy world = (.error told, searched)) ∧
      (∀ report, seen = some report →
        (∀ path after, Written machine session.options report searched path after →
          session.runWith machine scheduler entropy world = (.error told, after)) ∧
        ((∀ path after, ¬Written machine session.options report searched path after) →
          ∃ stop after, session.runWith machine scheduler entropy world = (.error stop, after) ∧
            (Finish.ofStop stop).exitCode ∈ [1, 101])) ∧
      ((Finish.ofStop told).exitCode = e.exitCode ∧ e.exitCode ∈ [2, 3, 4, 130]) ∧
      ∀ activities : List Activity,
        (activities.foldr Failure.during (abortFailure e)).exitCode = e.exitCode := by
  intro told
  have ends : session.runWith machine scheduler entropy world =
      keep machine session.options (.aborted e seen) searched := by
    rw [Session.runWith, aborted]
  refine ⟨?_, ?_, ?_, ⟨rfl, exitCode_mem e⟩, exitCode_around e⟩
  · intro bare
    cases seen with
    | none => rfl
    | some report =>
      obtain ⟨running, right⟩ :=
        SearchError.keepsReport_iff.1 (keepsReport_of_aborted (congrArg Prod.fst aborted))
      rcases bare with stopped | ⟨what, wrong⟩
      · exact absurd stopped running
      · exact absurd wrong (right what)
  · rintro rfl other same
    rw [Session.runWith, Compiler.evaluator_eq same, aborted]
    rfl
  · rintro report rfl
    rw [ends, keep]
    refine ⟨fun path after written => ?_, fun unwritten => ?_⟩
    · rw [save_eq_ok_iff.2 written]
    · cases saves : save machine session.options report searched with
      | mk result after =>
        cases result with
        | ok path => exact absurd (save_eq_ok_iff.1 saves) (unwritten path after)
        | error stop => exact ⟨stop, after, rfl, (outside_of_save saves).exitCode_mem⟩

structure Desk where
  children : Nat
  written : List String

/-- A machine whose compiler fails once and is gone then.  One of its files must not be written. -/
def desk : Machine Desk where
  readText _ _ := .error .notFound
  writeText path _ state :=
    if path = "locked.json" then (.error .permissionDenied, state)
    else (.ok (), { state with written := path :: state.written })
  copyFile _ _ state := (.ok (), state)
  makeDirectories _ state := (.ok (), state)
  realPath path _ := .ok path
  isPresent _ _ := false
  isFile _ _ := false
  listDirectory _ _ := .ok []
  openScratch _ state := (.ok "/scratch", state)
  closeScratch _ state := state
  runChild _ state :=
    if state.children = 0 then (.exited false 0, { state with children := 1 })
    else (.notStarted .notFound, state)
  stopRequested state := (state.children = 2, state)
  now _ := 0

def loneFlag : Universe := ⟨none, none, ["-a"]⟩

def deskCompiler : Compiler := ⟨.ofSources ["main.c"], "cc"⟩

def deskSession (output : String) : Session where
  options :=
    { flagsPath := "flags.json"
      settings := .sweep
      plan := deskCompiler.plan
      output := some output }
  u := loneFlag
  compiler := deskCompiler

def compilerGone : SearchError :=
  .evaluatorUnavailable "cannot run compiler cc: No such file or directory (os error 2)"

theorem exists_aborted_desk :
    ∃ report, FlagSearch.run .sweep loneFlag (deskCompiler.evaluator desk) 0 ⟨0, []⟩ =
      (.aborted compilerGone (some report), ⟨1, []⟩) :=
  ⟨_, rfl⟩

theorem interrupted_desk :
    FlagSearch.run .sweep loneFlag (deskCompiler.evaluator desk) 0 ⟨2, []⟩ =
      (.aborted .interrupted none, ⟨2, []⟩) :=
  rfl

/-- A report that can be written is written before the error is told, and an interrupted search
writes nothing. -/
theorem run_aborted_desk :
    (deskSession "report.json").run desk 0 ⟨0, []⟩ =
        (.error (.failure (abortFailure compilerGone)), ⟨1, ["report.json"]⟩) ∧
      (abortFailure compilerGone).exitCode = 4 ∧
      (deskSession "report.json").run desk 0 ⟨2, []⟩ =
        (.error (.failure (abortFailure .interrupted)), ⟨2, []⟩) ∧
      (Failure.during .searching (abortFailure .interrupted)).exitCode = 130 := by
  obtain ⟨report, aborted⟩ := exists_aborted_desk
  obtain ⟨_, _, kept, _, around⟩ :=
    @run_aborted _ desk (deskSession "report.json") _ _ _ _ _ _ aborted
  obtain ⟨_, unkept, _, _, around'⟩ :=
    @run_aborted _ desk (deskSession "report.json") _ _ _ _ _ _ interrupted_desk
  have written : Written desk (deskSession "report.json").options report ⟨1, []⟩ "report.json"
      ⟨1, ["report.json"]⟩ := ⟨rfl, rfl⟩
  exact ⟨(kept report rfl).1 _ _ written, around [],
    unkept rfl desk ⟨rfl, rfl, rfl, rfl, rfl, rfl, rfl⟩, around' [.searching]⟩

/-- The search is aborted because the compiler is gone, but all that is told is that its report must
not be written. -/
theorem search_error_lost :
    let session := deskSession "locked.json"
    (∃ report, FlagSearch.run session.options.settings session.u (session.compiler.evaluator desk) 0
        ⟨0, []⟩ = (.aborted compilerGone (some report), ⟨1, []⟩)) ∧
      session.run desk 0 ⟨0, []⟩ =
        (.error (.failure (.refused (.writingReport "locked.json") .permissionDenied)), ⟨1, []⟩) ∧
      (Failure.refused (.writingReport "locked.json") .permissionDenied).exitCode = 1 ∧
      compilerGone.exitCode = 4 :=
  ⟨exists_aborted_desk, rfl, rfl, rfl⟩

end Session

end FlagSearch
