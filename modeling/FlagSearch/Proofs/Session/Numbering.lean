import FlagSearch.Proofs.Json.Numbers
import FlagSearch.Proofs.Paths
import FlagSearch.Session.Results
import Mathlib.Data.List.Forall2
import Mathlib.Order.Bounds.Defs

/-!
# Numbers of runs

A report gets the least number above those of all directories that are there, so it gets a directory
of its own, and as long as no directory is taken away the numbers go up.  Two things can be in the
way: a plain file with the decimal name of that number, which is passed over when the number is
looked for but not when the directory is made, and a directory with the largest number of all.

* `Shelf` — the directory for the runs of a strategy.
* `Results.successor_eq`, `Results.isLeast_above` — the number for the next run.
* `Results.isName_reportName` — a report has a name of its own.
* `Results.allocate_cases` — one report; `Shelf.History` — one after the other.
* `Results.runs_numbered` — both together.
* `Results.no_run_allocated` — the two exceptions.
-/

namespace FlagSearch

/-! ## Decimal names -/

namespace Text

theorem toList_toString (n : Nat) : (toString n).toList = Nat.toDigits 10 n :=
  String.toList_ofList

theorem withoutPlus_of_digits {digits : List Char} (all : Digits digits) :
    withoutPlus digits = digits := by
  cases digits with
  | nil => rfl
  | cons c rest =>
    have digit := all.2 c List.mem_cons_self
    rw [withoutPlus.eq_def]
    split
    next plus =>
      cases plus
      exact absurd digit (by decide)
    · rfl

theorem word?_toString {n : Nat} (fits : n < wordLimit) : word? (toString n) = some n := by
  have all := digits_toDigits n
  have isDigits : (Nat.toDigits 10 n).all Char.isDigit = true := List.all_eq_true.2 all.2
  rw [word?, toList_toString, withoutPlus_of_digits all]
  simp [all.1, isDigits, digitsValue_toDigits, fits]

theorem lt_of_word? {text : String} {n : Nat} (read : word? text = some n) : n < wordLimit := by
  simp only [word?] at read
  split_ifs at read with _ fits
  cases read
  exact fits

end Text

theorem Path.isName_toString (n : Nat) : Path.IsName (toString n) := by
  have all := digits_toDigits n
  have noDigit {c : Char} (other : c.isDigit = false) : c ∉ Nat.toDigits 10 n := by
    intro mem
    rw [all.2 c mem] at other
    cases other
  constructor <;> rw [Text.toList_toString]
  · exact all.1
  · exact noDigit rfl
  · intro same
    exact noDigit (c := '.') rfl (by simp [same, Path.here])
  · intro same
    exact noDigit (c := '.') rfl (by simp [same, Path.up])

namespace Results

/-! ## The next number -/

/-- The least number above the given ones. -/
def above (numbers : List Nat) : Nat := numbers.foldl (fun next number => max next (number + 1)) 0

variable {numbers : List Nat}

theorem foldl_max_le {start bound : Nat} :
    numbers.foldl (fun next number => max next (number + 1)) start ≤ bound ↔
      start ≤ bound ∧ ∀ number ∈ numbers, number < bound := by
  induction numbers generalizing start with
  | nil => simp
  | cons number numbers ih =>
    rw [List.foldl_cons, ih, List.forall_mem_cons, Nat.max_le, and_assoc, Nat.succ_le_iff]

theorem isLeast_above (numbers : List Nat) :
    IsLeast {next | ∀ number ∈ numbers, number < next} (above numbers) :=
  ⟨(foldl_max_le.1 (Nat.le_refl _)).2, fun _ exceeds => foldl_max_le.2 ⟨Nat.zero_le _, exceeds⟩⟩

theorem successor_eq (numbers : List Nat) :
    successor numbers =
      if ∃ number ∈ numbers, wordLimit ≤ number + 1 then .error .wordOverflow
      else .ok (above numbers) := by
  have folded (start : Nat) :
      numbers.foldlM (fun next number =>
        if number + 1 < wordLimit then Except.ok (max next (number + 1))
        else .error Fault.wordOverflow) start =
      if ∃ number ∈ numbers, wordLimit ≤ number + 1 then .error .wordOverflow
      else .ok (numbers.foldl (fun next number => max next (number + 1)) start) := by
    induction numbers generalizing start with
    | nil => simp [pure, Except.pure]
    | cons number numbers ih =>
      rw [List.foldlM_cons]
      by_cases fits : number + 1 < wordLimit
      · simp only [if_pos fits, bind, Except.bind, ih, List.exists_mem_cons_iff, Nat.not_le.2 fits,
          false_or, List.foldl_cons]
      · simp [fits, bind, Except.bind, Nat.not_lt.1 fits]
  exact folded 0

theorem above_perm {numbers' : List Nat} (perm : numbers.Perm numbers') :
    above numbers = above numbers' := by
  refine (isLeast_above numbers).unique ?_
  simpa only [perm.mem_iff] using isLeast_above numbers'

/-! ## The name of a report -/

theorem isName_reportName (flagsPath : String) : Path.IsName (reportName flagsPath) := by
  have single : '/' ∉ ((Path.fileStem? flagsPath).getD namelessStem).toList := by
    rw [Path.fileStem?]
    cases named : Path.fileName? flagsPath with
    | none => decide
    | some name =>
      have isName := Path.isName_of_fileName? named
      simpa using fun mem => isName.single ((Path.stem_prefix _).subset mem)
  have long : 2 < (reportName flagsPath).toList.length := by
    rw [reportName, String.toList_append, List.length_append]
    exact Nat.lt_of_lt_of_le (by decide) (Nat.le_add_left _ _)
  constructor
  · exact List.ne_nil_of_length_pos (Nat.zero_lt_of_lt long)
  · rw [reportName, String.toList_append, List.mem_append]
    exact not_or.2 ⟨single, by decide⟩
  · intro same
    rw [same] at long
    exact absurd long (by decide)
  · intro same
    rw [same] at long
    exact absurd long (by decide)

end Results

/-! ## The directory of a strategy -/

/-- A directory of a machine in which numbered directories are made. -/
structure Shelf {σ : Type} (machine : Machine σ) (path : String) where
  /-- May everybody read and write there? -/
  Writable : σ → Prop
  /-- What is in the directory, if it is there. -/
  items : σ → Option (List DirectoryItem)
  present {world : σ} (writable : Writable world) :
    machine.isPresent path world = (items world).isSome
  listed {world : σ} {there : List DirectoryItem} (writable : Writable world)
    (holds : items world = some there) :
    ∃ listing, machine.listDirectory path world = .ok listing ∧ listing.Perm there
  made {world : σ} {n : Nat} (writable : Writable world) (fits : n < wordLimit)
    (free : ∀ item ∈ (items world).getD [], item.name ≠ toString n) :
    ∃ after, machine.makeDirectories (Path.join path (toString n)) world = (.ok (), after) ∧
      Writable after ∧ items after = some (⟨toString n, true⟩ :: (items world).getD [])
  blocked {world : σ} {n : Nat} (writable : Writable world)
    (plain : ⟨toString n, false⟩ ∈ (items world).getD []) :
    machine.makeDirectories (Path.join path (toString n)) world = (.error .alreadyExists, world)

namespace Shelf

variable {σ : Type} {machine : Machine σ} {path : String} (shelf : Shelf machine path)

/-- What is in the directory; there is nothing in one that is missing. -/
def there (world : σ) : List DirectoryItem := (shelf.items world).getD []

def runs (world : σ) : List Nat := Results.numbers (shelf.there world)

variable {shelf}

theorem mem_runs {world : σ} {n : Nat} :
    n ∈ shelf.runs world ↔
      ∃ item ∈ shelf.there world, item.isDirectory = true ∧ Text.word? item.name = some n := by
  simp [runs, Results.numbers]

end Shelf

namespace Results

variable {σ : Type} {machine : Machine σ} {results : Results} {strategy : String}
  {shelf : Shelf machine (results.strategyPath strategy)} {world : σ}

theorem lt_of_mem_runs {n : Nat} (run : n ∈ shelf.runs world) : n < wordLimit := by
  obtain ⟨_, _, _, read⟩ := Shelf.mem_runs.1 run
  exact Text.lt_of_word? read

theorem nextNumber_eq (writable : shelf.Writable world) :
    nextNumber machine results strategy world =
      if wordLimit - 1 ∈ shelf.runs world then .error (.fault .wordOverflow)
      else .ok (above (shelf.runs world)) := by
  have present := shelf.present writable
  cases holds : shelf.items world with
  | none =>
    have none : shelf.runs world = [] := by simp [Shelf.runs, Shelf.there, holds, numbers]
    rw [holds, Option.isSome_none] at present
    rw [none]
    simp [nextNumber, present, above]
  | some there =>
    obtain ⟨listing, lists, perm⟩ := shelf.listed writable holds
    have same : (numbers listing).Perm (shelf.runs world) := by
      rw [Shelf.runs, Shelf.there, holds]
      exact perm.filterMap _
    have full : (∃ number ∈ numbers listing, wordLimit ≤ number + 1) ↔
        wordLimit - 1 ∈ shelf.runs world := by
      simp only [same.mem_iff]
      constructor
      · rintro ⟨number, run, last⟩
        have within := lt_of_mem_runs run
        rwa [show wordLimit - 1 = number by omega]
      · exact fun run => ⟨_, run, by decide⟩
    rw [holds, Option.isSome_some] at present
    simp only [nextNumber, present, if_true, lists, successor_eq, full, above_perm same]
    by_cases last : wordLimit - 1 ∈ shelf.runs world
    · simp only [if_pos last]
    · simp only [if_neg last]

theorem above_lt_wordLimit (room : wordLimit - 1 ∉ shelf.runs world) :
    above (shelf.runs world) < wordLimit := by
  have below : ∀ number ∈ shelf.runs world, number < wordLimit - 1 := by
    intro number run
    have within := lt_of_mem_runs run
    have notLast : number ≠ wordLimit - 1 := fun last => room (last ▸ run)
    omega
  exact Nat.lt_of_le_of_lt ((isLeast_above _).2 below) (by decide)

theorem free_of_above {n : Nat} (exceeds : ∀ k ∈ shelf.runs world, k < n) (fits : n < wordLimit)
    (noFile : ⟨toString n, false⟩ ∉ shelf.there world) :
    ∀ item ∈ shelf.there world, item.name ≠ toString n := by
  rintro ⟨name, isDirectory⟩ mem rfl
  cases isDirectory with
  | false => exact noFile mem
  | true =>
    have run : n ∈ shelf.runs world := Shelf.mem_runs.2 ⟨_, mem, rfl, Text.word?_toString fits⟩
    exact Nat.lt_irrefl n (exceeds n run)

/-! ## One report -/

def runPath (results : Results) (strategy : String) (n : Nat) : String :=
  Path.join (results.strategyPath strategy) (toString n)

theorem allocate_cases (writable : shelf.Writable world) (flagsPath : String) :
    let n := above (shelf.runs world)
    let allocated := allocate machine results strategy flagsPath world
    (wordLimit - 1 ∈ shelf.runs world → allocated = (.error (.fault .wordOverflow), world)) ∧
      (wordLimit - 1 ∉ shelf.runs world → ⟨toString n, false⟩ ∈ shelf.there world →
        allocated = (.error (.failure (.refused (.creating (results.runPath strategy n))
          .alreadyExists)), world)) ∧
      (wordLimit - 1 ∉ shelf.runs world → ⟨toString n, false⟩ ∉ shelf.there world →
        (∀ item ∈ shelf.there world, item.name ≠ toString n) ∧
        ∃ after, allocated =
            (.ok (Path.join (results.runPath strategy n) (reportName flagsPath)), after) ∧
          shelf.Writable after ∧
          shelf.items after = some (⟨toString n, true⟩ :: shelf.there world)) := by
  intro n allocated
  have next := nextNumber_eq writable
  refine ⟨fun full => ?_, fun room file => ?_, fun room noFile => ?_⟩
  · rw [if_pos full] at next
    simp only [allocated, allocate, next]
  · rw [if_neg room] at next
    have refused := shelf.blocked writable file
    simp only [allocated, allocate, next, n, refused, runPath]
  · rw [if_neg room] at next
    have exceeds := (isLeast_above (shelf.runs world)).1
    have free := free_of_above exceeds (above_lt_wordLimit room) noFile
    obtain ⟨after, makes, writable', items⟩ := shelf.made writable (above_lt_wordLimit room) free
    refine ⟨free, after, ?_, writable', items⟩
    simp only [allocated, allocate, next, n, makes, runPath]

end Results

/-! ## One report after the other -/

section History

variable {σ : Type} {machine : Machine σ} {results : Results} {strategy : String}
  {shelf : Shelf machine (results.strategyPath strategy)}

/-- What becomes of a directory in time: reports get the given paths, and in between anybody adds
anything, but nothing is taken away. -/
inductive Shelf.History (shelf : Shelf machine (results.strategyPath strategy)) (first : σ) :
    List String → σ → Prop
  | start : History shelf first [] first
  | allocated {paths : List String} {before after : σ} {flagsPath path : String}
      (past : History shelf first paths before)
      (allocates : results.allocate machine strategy flagsPath before = (.ok path, after)) :
      History shelf first (paths ++ [path]) after
  | grown {paths : List String} {before after : σ} (past : History shelf first paths before)
      (writable : shelf.Writable after) (kept : shelf.there before ⊆ shelf.there after) :
      History shelf first paths after

namespace Shelf

theorem runs_subset {before after : σ} (kept : shelf.there before ⊆ shelf.there after) :
    shelf.runs before ⊆ shelf.runs after := by
  intro n run
  obtain ⟨item, mem, numbered⟩ := mem_runs.1 run
  exact mem_runs.2 ⟨item, kept mem, numbered⟩

variable {before after : σ} {flagsPath path : String}

theorem next_of_allocate (writable : shelf.Writable before)
    (allocates : results.allocate machine strategy flagsPath before = (.ok path, after)) :
    let n := Results.above (shelf.runs before)
    path = Path.join (results.runPath strategy n) (Results.reportName flagsPath) ∧
      shelf.Writable after ∧ n ∈ shelf.runs after ∧ shelf.there before ⊆ shelf.there after := by
  intro n
  obtain ⟨full, blocked, free⟩ := Results.allocate_cases writable flagsPath
  by_cases last : wordLimit - 1 ∈ shelf.runs before
  · cases allocates.symm.trans (full last)
  · by_cases file : ⟨toString n, false⟩ ∈ shelf.there before
    · cases allocates.symm.trans (blocked last file)
    · obtain ⟨_, after, allocates', writable', items⟩ := free last file
      cases allocates.symm.trans allocates'
      have there : shelf.there after = ⟨toString n, true⟩ :: shelf.there before := by
        rw [Shelf.there, items, Option.getD_some]
      have read := Text.word?_toString (Results.above_lt_wordLimit last)
      refine ⟨rfl, writable', mem_runs.2 ⟨⟨toString n, true⟩, ?_, rfl, read⟩, ?_⟩
      · rw [there]
        exact List.mem_cons_self
      · rw [there]
        exact List.subset_cons_self _ _

end Shelf

theorem Results.parent?_report (results : Results) (strategy : String) (n : Nat)
    (flagsPath : String) :
    Path.parent? (Path.join (results.runPath strategy n) (reportName flagsPath)) =
      some (results.runPath strategy n) :=
  Path.parent?_join _ (Path.isName_toString n) (isName_reportName flagsPath)

/-- The reports of a history lie in directories with greater and greater numbers, all above those
that were there at first. -/
theorem Shelf.History.numbered {first last : σ} {paths : List String}
    (history : shelf.History first paths last) (writable : shelf.Writable first) :
    shelf.Writable last ∧ shelf.there first ⊆ shelf.there last ∧
      ∃ numbers : List Nat,
        paths.map Path.parent? = numbers.map (fun n => some (results.runPath strategy n)) ∧
          numbers.Pairwise (· < ·) ∧ (∀ n ∈ numbers, ∀ k ∈ shelf.runs first, k < n) ∧
          numbers ⊆ shelf.runs last := by
  induction history with
  | start => exact ⟨writable, List.Subset.refl _, [], rfl, .nil, by simp, List.nil_subset _⟩
  | @allocated paths before after flagsPath path _ allocates ih =>
    obtain ⟨writable, kept, numbers, placed, increasing, fresh, there⟩ := ih
    obtain ⟨rfl, writable', run, kept'⟩ := next_of_allocate writable allocates
    have exceeds := (Results.isLeast_above (shelf.runs before)).1
    refine ⟨writable', List.Subset.trans kept kept',
      numbers ++ [Results.above (shelf.runs before)], ?_, ?_, ?_, ?_⟩
    · rw [List.map_append, List.map_append, placed]
      simp [Results.parent?_report]
    · refine List.pairwise_append.2 ⟨increasing, List.pairwise_singleton .., ?_⟩
      intro n mem m mem'
      rw [List.mem_singleton.1 mem']
      exact exceeds n (there mem)
    · simp only [List.forall_mem_append, List.forall_mem_singleton]
      exact ⟨fresh, fun k run => exceeds k (runs_subset kept run)⟩
    · exact List.append_subset.2 ⟨List.Subset.trans there (runs_subset kept'), by simpa using run⟩
  | grown _ writable' kept' ih =>
    obtain ⟨_, kept, numbers, placed, increasing, fresh, there⟩ := ih
    exact ⟨writable', List.Subset.trans kept kept', numbers, placed, increasing, fresh,
      List.Subset.trans there (runs_subset kept')⟩

end History

namespace Results

variable {σ : Type} {machine : Machine σ} {results : Results} {strategy : String}

/-- In a directory where everybody may write, a report gets the least number above those of all runs
that are there, in a directory that was not there before, and its name is one name in it.  There are
two exceptions, and then nothing is changed: a run that is there has the largest number of all, or
the next number is the name of a plain file.  Over any history in which nothing is taken away the
numbers go up. -/
theorem runs_numbered (shelf : Shelf machine (results.strategyPath strategy)) :
    (∀ world flagsPath, shelf.Writable world →
      ∃ n, IsLeast {next | ∀ k ∈ shelf.runs world, k < next} n ∧
        let run := results.runPath strategy n
        let allocated := allocate machine results strategy flagsPath world
        (wordLimit - 1 ∈ shelf.runs world → allocated = (.error (.fault .wordOverflow), world)) ∧
          (wordLimit - 1 ∉ shelf.runs world → ⟨toString n, false⟩ ∈ shelf.there world →
            allocated = (.error (.failure (.refused (.creating run) .alreadyExists)), world)) ∧
          (wordLimit - 1 ∉ shelf.runs world → ⟨toString n, false⟩ ∉ shelf.there world →
            (∀ item ∈ shelf.there world, item.name ≠ toString n) ∧
            ∃ path after, allocated = (.ok path, after) ∧ shelf.Writable after ∧
              shelf.items after = some (⟨toString n, true⟩ :: shelf.there world) ∧
              Path.parent? path = some run ∧ Path.fileName? path = some (reportName flagsPath))) ∧
      (∀ flagsPath, Path.IsName (reportName flagsPath)) ∧
      ∀ first paths last, shelf.Writable first → shelf.History first paths last →
        ∃ numbers : List Nat,
          paths.map Path.parent? = numbers.map (fun n => some (results.runPath strategy n)) ∧
            numbers.Pairwise (· < ·) ∧ (∀ n ∈ numbers, ∀ k ∈ shelf.runs first, k < n) ∧
            numbers ⊆ shelf.runs last := by
  refine ⟨fun world flagsPath writable => ?_, isName_reportName,
    fun first paths last writable history => (history.numbered writable).2.2⟩
  obtain ⟨full, blocked, free⟩ := allocate_cases writable flagsPath
  refine ⟨_, isLeast_above _, full, blocked, fun room noFile => ?_⟩
  obtain ⟨fresh, after, allocates, writable', items⟩ := free room noFile
  exact ⟨fresh, _, after, allocates, writable', items, parent?_report .., Path.fileName?_join _
    (isName_reportName flagsPath)⟩

/-- A machine with one directory, `results/tabu`, or without it. -/
def cabinet : Machine (Option (List DirectoryItem)) where
  readText _ _ := .error .notFound
  writeText _ _ held := (.ok (), held)
  copyFile _ _ held := (.error .notFound, held)
  makeDirectories path held :=
    let name := (Path.fileName? path).getD ""
    if ⟨name, false⟩ ∈ held.getD [] then (.error .alreadyExists, held)
    else (.ok (), some (⟨name, true⟩ :: held.getD []))
  realPath path _ := .ok path
  isPresent _ held := held.isSome
  isFile _ _ := false
  listDirectory _ held :=
    match held with
    | some items => .ok items.reverse
    | none => .error .notFound
  openScratch _ held := (.error .permissionDenied, held)
  closeScratch _ held := held
  runChild _ held := (.notStarted .notFound, held)
  stopRequested held := (false, held)
  now _ := 0

def cabinetShelf : Shelf cabinet (strategyPath ⟨"results"⟩ "tabu") where
  Writable _ := True
  items held := held
  present _ := rfl
  listed {held there} _ holds := by
    subst holds
    exact ⟨there.reverse, rfl, there.reverse_perm⟩
  made {held n} _ _ free := by
    have noFile : ⟨toString n, false⟩ ∉ held.getD [] := fun file => free _ file rfl
    have name := Path.fileName?_join (strategyPath ⟨"results"⟩ "tabu") (Path.isName_toString n)
    exact ⟨_, by simp only [cabinet, name, Option.getD_some, if_neg noFile], trivial, rfl⟩
  blocked {held n} _ file := by
    have name := Path.fileName?_join (strategyPath ⟨"results"⟩ "tabu") (Path.isName_toString n)
    simp only [cabinet, name, Option.getD_some, if_pos file]

def mixedItems : List DirectoryItem := [⟨"+7", true⟩, ⟨"90", false⟩, ⟨"012", true⟩, ⟨"old", true⟩]

/-- Behind the runs 7 and 12 comes the run 13, and of two runs the later one has the larger number,
although somebody made the directory 20 in between. -/
theorem runs_numbered_cabinet :
    (∃ path after, allocate cabinet ⟨"results"⟩ "tabu" "flags/gcc.json" (some mixedItems) =
        (.ok path, after) ∧ after = some (⟨"13", true⟩ :: mixedItems) ∧
      Path.parent? path = some "results/tabu/13" ∧
      Path.fileName? path = some "gcc_results.json") ∧
      ∃ numbers : List Nat,
        ["results/tabu/0/gcc_results.json", "results/tabu/21/g++_results.json"].map Path.parent? =
          numbers.map (fun n => some (runPath ⟨"results"⟩ "tabu" n)) ∧
        numbers.Pairwise (· < ·) := by
  obtain ⟨single, _, history⟩ := runs_numbered cabinetShelf
  refine ⟨?_, ?_⟩
  · obtain ⟨n, least, _, _, free⟩ := single (some mixedItems) "flags/gcc.json" trivial
    have runs : cabinetShelf.runs (some mixedItems) = [7, 12] := by decide
    rw [runs] at least free
    obtain rfl : n = 13 := least.unique ⟨by simp, fun _ exceeds => exceeds 12 (by simp)⟩
    obtain ⟨_, path, after, allocates, _, added⟩ := free (by decide) (by decide)
    exact ⟨path, after, allocates, added⟩
  · have first : allocate cabinet ⟨"results"⟩ "tabu" "gcc.json" none =
        (.ok "results/tabu/0/gcc_results.json", some [⟨"0", true⟩]) := by decide
    have second : allocate cabinet ⟨"results"⟩ "tabu" "g++.json"
          (some [⟨"20", true⟩, ⟨"0", true⟩]) =
        (.ok "results/tabu/21/g++_results.json",
          some [⟨"21", true⟩, ⟨"20", true⟩, ⟨"0", true⟩]) := by decide
    have past : cabinetShelf.History none _ _ :=
      .allocated (.grown (.allocated .start first) trivial (by decide)) second
    obtain ⟨numbers, placed, increasing, _⟩ := history _ _ _ trivial past
    exact ⟨numbers, placed, increasing⟩

/-- A plain file with the name of the next run leaves a report without a place, and so does a run
with the largest number of all. -/
theorem no_run_allocated :
    allocate cabinet ⟨"results"⟩ "tabu" "gcc.json" (some [⟨"0", false⟩]) =
        (.error (.failure (.refused (.creating "results/tabu/0") .alreadyExists)),
          some [⟨"0", false⟩]) ∧
      allocate cabinet ⟨"results"⟩ "tabu" "gcc.json" (some [⟨"18446744073709551615", true⟩]) =
        (.error (.fault .wordOverflow), some [⟨"18446744073709551615", true⟩]) := by
  decide

end Results

end FlagSearch
