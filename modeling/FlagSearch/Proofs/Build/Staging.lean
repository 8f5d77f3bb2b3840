import FlagSearch.Proofs.Build.Classification
import FlagSearch.Proofs.Paths
import Mathlib.Data.List.Nodup
import Mathlib.Logic.Function.Basic

/-!
# Sources in a scratch directory

The sources of a candidate are copied one after the other, each under its file name.  A later copy
takes the place of an earlier one with the same name, so what the compiler finds under a name is the
last source that has it.  A plan may have several such sources, in different directories; the
compiler is then told their name several times and never sees the earlier ones.

* `Scratch` — a scratch directory as a map from names to contents.
* `lastNamed?`, `overlaid` — the source that is left under a name, and the map that copies lead to.
* `Scratch.stage_ok`, `Compiler.stage_error` — how the copying ends.
* `Compiler.sources_staged` — what the compiler is given.
* `Compiler.namesake_lost` — a plan that is accepted and loses a source.
-/

namespace FlagSearch

open Compiler (stage)

/-- A directory of a machine as a map from names to contents, beside the files that lie outside of
it. -/
structure Scratch {σ : Type} (machine : Machine σ) (directory : String) (β : Type) where
  /-- Is the directory there, with nothing in it but files of its own? -/
  Plain : σ → Prop
  /-- What the file of a name in the directory holds. -/
  held : σ → String → Option β
  /-- What the file at a path outside of the directory holds. -/
  outside : σ → String → Option β
  copied {path name : String} {content : β} {before after : σ} (plain : Plain before)
    (isName : Path.IsName name) (readable : outside before path = some content)
    (copies : machine.copyFile path (Path.join directory name) before = (.ok (), after)) :
    Plain after ∧ held after = Function.update (held before) name (some content) ∧
      outside after = outside before

/-! ## Copies on top of each other -/

/-- The last source with the given file name. -/
def lastNamed? (sources : List String) (name : String) : Option String :=
  sources.reverse.find? fun source => Path.fileName? source = some name

/-- A map from names to contents with copies of sources on top. -/
def overlaid {β : Type} (held : String → Option β) (contents : String → β) (sources : List String)
    (name : String) : Option β :=
  ((lastNamed? sources name).map contents).or (held name)

section Overlaid

variable {β : Type} {held : String → Option β} {contents : String → β}
  {source name : String} {sources : List String}

theorem lastNamed?_eq_some (found : lastNamed? sources name = some source) :
    source ∈ sources ∧ Path.fileName? source = some name :=
  ⟨List.mem_reverse.1 (List.mem_of_find?_eq_some found), by simpa using List.find?_some found⟩

theorem lastNamed?_isSome (mem : source ∈ sources) (named : Path.fileName? source = some name) :
    (lastNamed? sources name).isSome = true :=
  List.find?_isSome.2 ⟨source, List.mem_reverse.2 mem, by simpa using named⟩

theorem lastNamed?_cons (source : String) (sources : List String) (name : String) :
    lastNamed? (source :: sources) name =
      (lastNamed? sources name).or
        (if Path.fileName? source = some name then some source else none) := by
  simp [lastNamed?, List.find?_append]

theorem overlaid_cons (named : Path.fileName? source = some name) :
    overlaid held contents (source :: sources) =
      overlaid (Function.update held name (some (contents source))) contents sources := by
  funext other
  rw [overlaid, overlaid, lastNamed?_cons, named]
  cases lastNamed? sources other with
  | some last => rfl
  | none =>
    by_cases same : name = other
    · simp [same]
    · simp [same, Ne.symm same]

/-- Every source is found under its file name if and only if those with one file name have one
content. -/
theorem overlaid_eq_contents_iff {names : List String}
    (named : names.map some = sources.map Path.fileName?) :
    names.map (overlaid held contents sources) =
        sources.map (fun source => some (contents source)) ↔
      ∀ source ∈ sources, ∀ other ∈ sources,
        Path.fileName? source = Path.fileName? other → contents source = contents other := by
  have found : names.map (overlaid held contents sources) =
      sources.map fun source => (Path.fileName? source).bind (overlaid held contents sources) := by
    have looked := congrArg (List.map fun name => name.bind (overlaid held contents sources)) named
    rwa [List.map_map, List.map_map] at looked
  rw [found, List.map_inj_left]
  constructor
  · intro all source mem other mem' same
    have both := (all source mem).symm.trans (same ▸ all other mem')
    exact Option.some.inj both
  · intro agree source mem
    obtain ⟨name, _, hasName⟩ : ∃ name ∈ names, some name = Path.fileName? source := by
      rw [← List.mem_map, named]
      exact List.mem_map_of_mem mem
    obtain ⟨last, found⟩ := Option.isSome_iff_exists.1 (lastNamed?_isSome mem hasName.symm)
    obtain ⟨among, lastName⟩ := lastNamed?_eq_some found
    have same := agree last among source mem (lastName.trans hasName)
    rw [← hasName, Option.bind_some, overlaid, found]
    simp [same]

end Overlaid

/-! ## The copying -/

section Stage

variable {σ β : Type} {machine : Machine σ} {directory : String} {contents : String → β}
  {sources names : List String} {before after : σ}

theorem Scratch.stage_ok (scratch : Scratch machine directory β) (plain : scratch.Plain before)
    (readable : ∀ source ∈ sources, scratch.outside before source = some (contents source))
    (stages : stage machine directory sources before = (.ok names, after)) :
    names.map some = sources.map Path.fileName? ∧
      scratch.held after = overlaid (scratch.held before) contents sources ∧
      scratch.outside after = scratch.outside before := by
  induction sources generalizing before names with
  | nil =>
    cases stages
    exact ⟨rfl, rfl, rfl⟩
  | cons source rest ih =>
    rw [stage] at stages
    split at stages
    · cases stages
    next name named =>
      split at stages
      · cases stages
      next between copies =>
        obtain ⟨plain, held, same⟩ := scratch.copied plain (Path.isName_of_fileName? named)
          (readable source List.mem_cons_self) copies
        cases others : stage machine directory rest between with
        | mk result last =>
          rw [others] at stages
          cases result with
          | error e => cases stages
          | ok rest' =>
            cases stages
            have readable' : ∀ source ∈ rest,
                scratch.outside between source = some (contents source) := by
              intro source mem
              rw [same]
              exact readable source (List.mem_cons_of_mem _ mem)
            obtain ⟨namedRest, heldRest, sameRest⟩ := ih plain readable' others
            refine ⟨by simp [named, namedRest], ?_, sameRest.trans same⟩
            rw [heldRest, held, overlaid_cons named]

theorem Compiler.stage_error {e : SearchError}
    (named : ∀ source ∈ sources, Path.fileName? source ≠ none)
    (stages : stage machine directory sources before = (.error e, after)) :
    ∃ source ∈ sources, ∃ name refusal between, Path.fileName? source = some name ∧
      machine.copyFile source (Path.join directory name) between = (.error refusal, after) ∧
      e = .evaluatorUnavailable s!"cannot copy {source}: {refusal.message}" := by
  induction sources generalizing before with
  | nil => cases stages
  | cons source rest ih =>
    rw [stage] at stages
    split at stages
    next nameless => exact absurd nameless (named source List.mem_cons_self)
    next name hasName =>
      split at stages
      next refusal last refuses =>
        cases stages
        exact ⟨source, List.mem_cons_self, name, refusal, before, hasName, refuses, rfl⟩
      next between _ =>
        cases others : stage machine directory rest between with
        | mk result last =>
          rw [others] at stages
          cases result with
          | ok names => cases stages
          | error e =>
            cases stages
            have namedRest := fun source mem => named source (List.mem_cons_of_mem _ mem)
            obtain ⟨source, mem, refused⟩ := ih namedRest others
            exact ⟨source, List.mem_cons_of_mem _ mem, refused⟩

end Stage

namespace Compiler

section Candidates

variable {σ β : Type} {machine : Machine σ} {compiler : Compiler} {flags : List String}
  {world asked opened staged : σ} {directory : String} {contents : String → β}
  {result : Except SearchError (List String)}

theorem fileName?_ne_none {plan : BuildPlan} (valid : plan.problem? = none) :
    ∀ source ∈ plan.sources, Path.fileName? source ≠ none := by
  have named : plan.namelessSource? = none := by
    simp only [BuildPlan.problem?] at valid
    split_ifs at valid
    exact Option.map_eq_none_iff.1 valid
  intro source mem nameless
  exact List.find?_eq_none.1 named source mem (by simp [nameless])

theorem evaluate_of_stage_error (calm : machine.stopRequested world = (false, asked))
    (opens : machine.openScratch compiler.plan.workRoot asked = (.ok directory, opened))
    {e : SearchError}
    (stages : stage machine directory compiler.plan.sources opened = (.error e, staged)) :
    evaluate machine compiler flags world = (.error e, machine.closeScratch directory staged) := by
  rw [evaluate_of_opened calm opens, evaluateIn, stages]
  rfl

/-- A plan that has no problem is carried out on readable sources.  Either the machine refuses to
copy one of them, and nothing is built; or the compiler is run on their file names, in order, in a
directory that holds the last source of each name.  So every source is there with its own content if
and only if sources with the same file name have the same content, and if all file names are
different the compiler is told each of them once. -/
theorem sources_staged (valid : compiler.plan.problem? = none)
    (calm : machine.stopRequested world = (false, asked))
    (opens : machine.openScratch compiler.plan.workRoot asked = (.ok directory, opened))
    (scratch : Scratch machine directory β) (plain : scratch.Plain opened)
    (readable : ∀ source ∈ compiler.plan.sources,
      scratch.outside opened source = some (contents source))
    (stages : stage machine directory compiler.plan.sources opened = (result, staged)) :
    (∀ e, result = .error e →
      evaluate machine compiler flags world = (.error e, machine.closeScratch directory staged) ∧
        ∃ source ∈ compiler.plan.sources, ∃ name refusal between,
          Path.fileName? source = some name ∧
          machine.copyFile source (Path.join directory name) between = (.error refusal, staged) ∧
          e = .evaluatorUnavailable s!"cannot copy {source}: {refusal.message}") ∧
      ∀ names, result = .ok names →
        let sources := compiler.plan.sources
        let own := sources.map fun source => some (contents source)
        names.map some = sources.map Path.fileName? ∧
          scratch.held staged = overlaid (scratch.held opened) contents sources ∧
          (names.map (scratch.held staged) = own ↔ ∀ source ∈ sources, ∀ other ∈ sources,
            Path.fileName? source = Path.fileName? other → contents source = contents other) ∧
          ((sources.map Path.fileName?).Nodup →
            names.Nodup ∧ names.map (scratch.held staged) = own) ∧
          ∀ succeeded nanos built,
            machine.runChild
              { program := compiler.program
                arguments := compiler.plan.baseArguments ++ flags ++ names
                directory
                limit := none } staged = (.exited succeeded nanos, built) →
            Compiled machine compiler flags world directory succeeded built := by
  refine ⟨?_, ?_⟩
  · rintro e rfl
    exact ⟨evaluate_of_stage_error calm opens stages,
      stage_error (fileName?_ne_none valid) stages⟩
  · rintro names rfl sources own
    obtain ⟨named, held, _⟩ := scratch.stage_ok plain readable stages
    have kept := @overlaid_eq_contents_iff _ (scratch.held opened) contents _ _ named
    rw [← held] at kept
    refine ⟨named, held, kept, ?_, fun _ _ _ exits => ⟨calm, opens, stages, exits⟩⟩
    intro distinct
    have once : (names.map some).Nodup := by rwa [named]
    refine ⟨List.Nodup.of_map _ once, kept.2 ?_⟩
    intro source mem other mem' same
    rw [List.inj_on_of_nodup_map distinct mem mem' same]

end Candidates

def drawer : String → Option String
  | "/left/main.c" => some "first"
  | "/right/main.c" => some "second"
  | "/right/tools.c" => some "third"
  | _ => none

/-- A machine that copies from the two directories into a third one, and has a compiler that finds
fault with everything. -/
def copying : Machine (List (String × String)) where
  readText _ _ := .error .notFound
  writeText _ _ copies := (.ok (), copies)
  copyFile path target copies :=
    match drawer path with
    | some content => (.ok (), (target, content) :: copies)
    | none => (.error .notFound, copies)
  makeDirectories _ copies := (.ok (), copies)
  realPath path _ := .ok path
  isPresent _ _ := true
  isFile _ _ := false
  listDirectory _ _ := .ok []
  openScratch _ _ := (.ok "/scratch", [])
  closeScratch _ _ := []
  runChild _ copies := (.exited false 0, copies)
  stopRequested copies := (false, copies)
  now _ := 0

def copyingScratch : Scratch copying "/scratch" String where
  Plain _ := True
  held copies name := copies.lookup ("/scratch/" ++ name)
  outside _ := drawer
  copied := by
    intro path name content before after _ isName readable copies
    have target : Path.join "/scratch" name = "/scratch/" ++ name := Path.join_eq isName
    obtain rfl : ("/scratch/" ++ name, content) :: before = after := by
      simpa [copying, readable, target] using copies
    refine ⟨trivial, funext fun other => ?_, rfl⟩
    by_cases same : other = name
    · simp [same]
    · have apart : ("/scratch/" ++ other == "/scratch/" ++ name) = false := by
        simpa using same
      simp [same, List.lookup_cons, apart]

def compilerOf (sources : List String) : Compiler := ⟨BuildPlan.ofSources sources, "/usr/bin/cc"⟩

/-- Two sources with different file names are both there, and the compiler is run on them. -/
theorem sources_staged_copying :
    let staged := [("/scratch/tools.c", "third"), ("/scratch/main.c", "first")]
    stage copying "/scratch" ["/left/main.c", "/right/tools.c"] [] =
        (.ok ["main.c", "tools.c"], staged) ∧
      ["main.c", "tools.c"].map (copyingScratch.held staged) = [some "first", some "third"] ∧
      Compiled copying (compilerOf ["/left/main.c", "/right/tools.c"]) ["-O2"] [] "/scratch" false
        staged := by
  intro staged
  have stages : stage copying "/scratch" ["/left/main.c", "/right/tools.c"] [] =
      (.ok ["main.c", "tools.c"], staged) := by decide
  let contents : String → String := fun source => (drawer source).getD ""
  have readable : ∀ source ∈ ["/left/main.c", "/right/tools.c"],
      drawer source = some (contents source) := by decide
  have valid : (compilerOf ["/left/main.c", "/right/tools.c"]).plan.problem? = none := by decide
  have given := @sources_staged _ _ copying _ ["-O2"] [] _ _ _ _ _ _ valid rfl rfl copyingScratch
    trivial readable stages
  obtain ⟨_, _, _, distinct, compiles⟩ := given.2 _ rfl
  exact ⟨stages, (distinct (by decide)).2, compiles false 0 staged rfl⟩

/-- Two sources with the same file name are accepted, both can be read and both are copied, but the
compiler finds the second one twice. -/
theorem namesake_lost :
    let plan := BuildPlan.ofSources ["/left/main.c", "/right/main.c"]
    let staged := [("/scratch/main.c", "second"), ("/scratch/main.c", "first")]
    plan.problem? = none ∧ plan.sources.map drawer = [some "first", some "second"] ∧
      stage copying "/scratch" plan.sources [] = (.ok ["main.c", "main.c"], staged) ∧
      ["main.c", "main.c"].map (copyingScratch.held staged) = [some "second", some "second"] ∧
      ["main.c", "main.c"].map (copyingScratch.held staged) ≠ plan.sources.map drawer := by
  decide

end Compiler

end FlagSearch
