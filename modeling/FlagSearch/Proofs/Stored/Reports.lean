import FlagSearch.Proofs.Stored.FlagSets
import FlagSearch.Proofs.Stored.Outcomes
import FlagSearch.Stored.Report
import Mathlib.Data.List.ReduceOption

/-!
# Report files read back

What a report file keeps of a report differs from the report in three places.  The flags of a
success are not in the file and are put back from its entry, and deviations and costs that are not
finite are missing.  A report with a success whose time is not finite is not read back.

* `Entry.reloaded`, `Report.reloaded` — what comes back from a file.
* `Entry.ofJson?_json`, `Report.ofJson?_json` — reading what was written.
* `Report.loaded_of_saved` — loading a report that was saved.
-/

namespace FlagSearch

/-! ## Entries and counts -/

namespace Entry

/-- What a file keeps of an entry. -/
def kept (entry : Entry) : Entry := { entry with outcome := entry.outcome.kept }

def slots (entry : Entry) : List (String × Option Json) :=
  [("step", some (.ofNat entry.step)), ("set", some entry.set.json),
    ("flags", some (.ofTexts entry.flags)), ("outcome", some entry.outcome.json),
    ("cached", some (.bool entry.cached))]

theorem json_eq (entry : Entry) : entry.json = .object (Json.record entry.slots) :=
  rfl

theorem fields?_json (entry : Entry) :
    entry.json.fields? fieldNames = some (entry.slots.map Prod.snd) :=
  Json.fields?_record entry.slots (show fieldNames.Nodup by decide)

/-- An entry as it comes back from a file: a success has the flags of the entry, and only a finite
deviation. -/
def reloaded (entry : Entry) : Entry :=
  { entry with
    outcome :=
      match entry.outcome with
      | .success elapsed stdev _ =>
          .success elapsed (stdev.filter Binary64.isFinite) entry.flags
      | failure => failure }

variable {entry : Entry}

theorem restoredEntry_kept (entry : Entry) : Report.restoredEntry entry.kept = entry.reloaded := by
  obtain ⟨⟨set, flags, outcome, cached⟩, step⟩ := entry
  cases outcome with
  | buildFailure => rfl
  | runtimeError => rfl
  | success elapsed stdev carried => rfl

theorem reloaded_eq_self (finite : ∀ x ∈ entry.outcome.numbers, x.isFinite = true)
    (carried : ∀ elapsed stdev flags, entry.outcome = .success elapsed stdev flags →
      flags = entry.flags) : entry.reloaded = entry := by
  obtain ⟨⟨set, flags, outcome, cached⟩, step⟩ := entry
  cases outcome with
  | buildFailure => rfl
  | runtimeError => rfl
  | success elapsed stdev others =>
    obtain rfl : others = flags := carried elapsed stdev others rfl
    have deviation : ∀ x ∈ stdev, x.isFinite = true := fun x given =>
      finite x (List.mem_cons_of_mem _ (Option.mem_toList.2 given))
    simp only [reloaded, filter_isFinite deviation]

theorem wellFormed_json (entry : Entry) : entry.json.WellFormed := by
  rw [json_eq]
  refine Json.wellFormed_record ?_
  simp only [slots, List.forall_mem_cons, Option.some.injEq, forall_eq']
  refine ⟨.number (Numeral.wellFormed_ofNat _), .string _, .array ?_,
    Outcome.wellFormed_json _, .bool _, by simp⟩
  simp only [List.forall_mem_map]
  exact fun _ _ => .string _

theorem ofJson?_json (fits : entry.step < wordLimit)
    (faithful : ∀ x ∈ entry.outcome.numbers, Json.Faithful x) {level : Nat}
    (within : level < Json.levelLimit) :
    ofJson? level entry.json = if entry.outcome.isLost then none else some entry.kept := by
  rw [ofJson?, fields?_json, Option.bind_eq_bind, Option.bind_some]
  simp only [slots, List.map_cons, List.map_nil]
  rw [Json.required_bind (Json.nat?_ofNat fits), Json.required_bind (FlagSet.ofJson?_json _),
    Json.required_bind (Json.list?_ofTexts _),
    Json.required_bind_unless (Outcome.ofJson?_json faithful within)]
  rfl

end Entry

namespace MemoStats

def slots (stats : MemoStats) : List (String × Option Json) :=
  [("hits", some (.ofNat stats.hits)), ("misses", some (.ofNat stats.misses)),
    ("entries", some (.ofNat stats.entries)), ("capacity", some (.ofNat stats.capacity))]

theorem json_eq (stats : MemoStats) : stats.json = .object (Json.record stats.slots) :=
  rfl

theorem fields?_json (stats : MemoStats) :
    stats.json.fields? fieldNames = some (stats.slots.map Prod.snd) :=
  Json.fields?_record stats.slots (show fieldNames.Nodup by decide)

theorem wellFormed_json (stats : MemoStats) : stats.json.WellFormed := by
  rw [json_eq]
  refine Json.wellFormed_record ?_
  simp only [slots, List.forall_mem_cons, Option.some.injEq, forall_eq']
  exact ⟨.number (Numeral.wellFormed_ofNat _), .number (Numeral.wellFormed_ofNat _),
    .number (Numeral.wellFormed_ofNat _), .number (Numeral.wellFormed_ofNat _), by simp⟩

theorem ofJson?_json {stats : MemoStats} (hits : stats.hits < wordLimit)
    (misses : stats.misses < wordLimit) (entries : stats.entries < wordLimit)
    (capacity : stats.capacity < wordLimit) : ofJson? stats.json = some stats := by
  rw [ofJson?, fields?_json, Option.bind_eq_bind, Option.bind_some]
  simp only [slots, List.map_cons, List.map_nil]
  rw [Json.required_bind (Json.nat?_ofNat hits), Json.required_bind (Json.nat?_ofNat misses),
    Json.required_bind (Json.nat?_ofNat entries), Json.required_bind (Json.nat?_ofNat capacity)]
  rfl

end MemoStats

/-! ## Reports -/

namespace Report

def entries (report : Report) : List Entry := report.baseline :: report.best :: report.results

def numbers (report : Report) : List Binary64 :=
  report.entries.flatMap (fun entry => entry.outcome.numbers) ++ report.trajectory.reduceOption

def counts (report : Report) : List Nat :=
  [report.iterations, report.stepsCompleted, report.cache.hits, report.cache.misses,
    report.cache.entries, report.cache.capacity, report.generatedAt] ++
    report.entries.map Entry.step

def kept (report : Report) : Report :=
  { report with
    baseline := report.baseline.kept
    best := report.best.kept
    trajectory := report.trajectory.map (·.filter Binary64.isFinite)
    results := report.results.map Entry.kept }

/-- A report as it comes back from a file. -/
def reloaded (report : Report) : Report :=
  { report with
    baseline := report.baseline.reloaded
    best := report.best.reloaded
    trajectory := report.trajectory.map (·.filter Binary64.isFinite)
    results := report.results.map Entry.reloaded }

variable {report : Report}

theorem restored_kept (report : Report) : report.kept.restored = report.reloaded := by
  simp only [restored, kept, reloaded, Entry.restoredEntry_kept, List.map_map, Function.comp_def]

theorem mem_numbers_of_entry {entry : Entry} (among : entry ∈ report.entries) {x : Binary64}
    (number : x ∈ entry.outcome.numbers) : x ∈ report.numbers :=
  List.mem_append_left _ (List.mem_flatMap.2 ⟨entry, among, number⟩)

theorem mem_numbers_of_cost {x : Binary64} (among : some x ∈ report.trajectory) :
    x ∈ report.numbers :=
  List.mem_append_right _ (List.reduceOption_mem_iff.2 among)

/-- Nothing happens to a report whose numbers are finite if its successes carry the flags of their
entries. -/
theorem reloaded_eq_self (finite : ∀ x ∈ report.numbers, x.isFinite = true)
    (carried : ∀ entry ∈ report.entries, ∀ elapsed stdev flags,
      entry.outcome = .success elapsed stdev flags → flags = entry.flags) :
    report.reloaded = report := by
  have entry : ∀ entry ∈ report.entries, entry.reloaded = entry := fun entry among =>
    Entry.reloaded_eq_self (fun x number => finite x (mem_numbers_of_entry among number))
      (carried entry among)
  have costs : report.trajectory.map (·.filter Binary64.isFinite) = report.trajectory := by
    refine (List.map_congr_left fun cost among => ?_).trans (List.map_id _)
    exact filter_isFinite fun x given => finite x (mem_numbers_of_cost (given ▸ among))
  have results : report.results.map Entry.reloaded = report.results :=
    (List.map_congr_left fun result among => entry result (by simp [entries, among])).trans
      (List.map_id _)
  rw [reloaded, entry _ (by simp [entries]), entry _ (by simp [entries]), costs, results]

def slots (report : Report) : List (String × Option Json) :=
  [("strategy", some (.ofText report.strategy)), ("evaluator", some (.ofText report.evaluator)),
    ("iterations", some (.ofNat report.iterations)),
    ("steps_completed", some (.ofNat report.stepsCompleted)),
    ("complete", some (.bool report.complete)), ("error", report.error.map .ofText),
    ("baseline", some report.baseline.json), ("best", some report.best.json),
    ("trajectory", some (.array (report.trajectory.map costJson))),
    ("cache", some report.cache.json), ("generated_at_unix_ms", some (.ofNat report.generatedAt)),
    ("results", some (.array (report.results.map Entry.json)))]

theorem json_eq (report : Report) : report.json = .object (Json.record report.slots) :=
  rfl

theorem fields?_json (report : Report) :
    report.json.fields? fieldNames = some (report.slots.map Prod.snd) :=
  Json.fields?_record report.slots (show fieldNames.Nodup by decide)

theorem wellFormed_json (report : Report) : report.json.WellFormed := by
  have count (n : Nat) : (Json.ofNat n).WellFormed := .number (Numeral.wellFormed_ofNat n)
  rw [json_eq]
  refine Json.wellFormed_record ?_
  simp only [slots, List.forall_mem_cons, Option.some.injEq, forall_eq']
  refine ⟨.string _, .string _, count _, count _, .bool _, ?_, Entry.wellFormed_json _,
    Entry.wellFormed_json _, .array ?_, MemoStats.wellFormed_json _, count _, .array ?_, by simp⟩
  · intro value given
    obtain ⟨error, _, rfl⟩ := Option.map_eq_some_iff.1 given
    exact .string _
  · rw [List.forall_mem_map]
    rintro (_ | cost) _
    · exact .null
    · exact Json.wellFormed_ofBinary64 cost
  · rw [List.forall_mem_map]
    exact fun entry _ => Entry.wellFormed_json entry

theorem list?_costs {costs : List (Option Binary64)}
    (faithful : ∀ x ∈ costs.reduceOption, Json.Faithful x) :
    (Json.array (costs.map costJson)).list? (Json.nullable Json.binary64?) =
      some (costs.map (·.filter Binary64.isFinite)) := by
  refine (Json.list?_array (f := fun cost => some (cost.filter Binary64.isFinite))
    fun cost among => ?_).trans (List.mapM_pure (m := Option))
  cases cost with
  | none => rfl
  | some x => exact Json.nullable_ofBinary64 (faithful x (List.reduceOption_mem_iff.2 among))

theorem ofJson?_json (fits : ∀ n ∈ report.counts, n < wordLimit)
    (faithful : ∀ x ∈ report.numbers, Json.Faithful x) :
    ofJson? report.json =
      if report.entries.any (fun entry => entry.outcome.isLost) then none
      else some report.kept := by
  have entry : ∀ entry ∈ report.entries, ∀ level < Json.levelLimit, Entry.ofJson? level entry.json =
      if entry.outcome.isLost then none else some entry.kept := by
    intro entry among level within
    have step := fits _ (List.mem_append_right _ (List.mem_map_of_mem among))
    exact Entry.ofJson?_json step (fun x number => faithful x (mem_numbers_of_entry among number))
      within
  have costs := list?_costs fun x among => faithful x (List.mem_append_right _ among)
  have results : (Json.array (report.results.map Entry.json)).list? (Entry.ofJson? 3) =
      if report.results.any (fun entry => entry.outcome.isLost) then none
      else some (report.results.map Entry.kept) := by
    refine (Json.list?_array fun result among => ?_).trans (Json.mapM_unless _ Entry.kept _)
    exact entry result (by simp [entries, among]) 3 (by decide)
  have error : Json.optional Json.text? (report.error.map .ofText) = some report.error := by
    cases report.error with
    | none => rfl
    | some error => rfl
  have cache : MemoStats.ofJson? report.cache.json = some report.cache :=
    MemoStats.ofJson?_json (fits _ (by simp [counts])) (fits _ (by simp [counts]))
      (fits _ (by simp [counts])) (fits _ (by simp [counts]))
  have iterations := Json.nat?_ofNat (fits report.iterations (by simp [counts]))
  have steps := Json.nat?_ofNat (fits report.stepsCompleted (by simp [counts]))
  have generated := Json.nat?_ofNat (fits report.generatedAt (by simp [counts]))
  have baseline := entry report.baseline (by simp [entries]) 2 (by decide)
  have best := entry report.best (by simp [entries]) 2 (by decide)
  rw [ofJson?, fields?_json, Option.bind_eq_bind, Option.bind_some]
  simp only [slots, List.map_cons, List.map_nil]
  rw [Json.required_bind (Json.text?_ofText _), Json.required_bind (Json.text?_ofText _),
    Json.required_bind iterations, Json.required_bind steps, Json.required_bind (Json.bool?_bool _),
    error, Option.bind_eq_bind, Option.bind_some, Json.required_bind_unless baseline,
    Json.required_bind_unless best, Json.required_bind costs, Json.required_bind cache,
    Json.required_bind generated, Json.required_bind_unless results, entries, List.any_cons,
    List.any_cons]
  cases report.baseline.outcome.isLost with
  | true => rfl
  | false =>
    cases report.best.outcome.isLost with
    | true => rfl
    | false => rfl

/-- A report that was saved is loaded with the flags of every success put back, unless an entry of
it is lost. -/
theorem ofText?_text (fits : ∀ n ∈ report.counts, n < wordLimit)
    (faithful : ∀ x ∈ report.numbers, Json.Faithful x) :
    ofText? report.text =
      if report.entries.any (fun entry => entry.outcome.isLost) then none
      else some report.reloaded := by
  rw [ofText?, text, Json.parse?_pretty (wellFormed_json report), Option.bind_some,
    ofJson?_json fits faithful, ← restored_kept]
  split
  · rfl
  · rfl

/-- A report that was saved is not loaded if and only if the time of a success in it is NaN or
infinite.  Otherwise it is loaded as it was, except that every success carries the flags of its
entry and that deviations and costs that are not finite are missing; so it comes back unchanged if
every number in it is finite and every success carried the flags of its entry before.  This takes
for granted that finite numbers are read as they were written, and that counts fit a word. -/
theorem loaded_of_saved (fits : ∀ n ∈ report.counts, n < wordLimit)
    (faithful : ∀ x ∈ report.numbers, Json.Faithful x) :
    (ofText? report.text = none ↔ ∃ entry ∈ report.entries, ∃ elapsed stdev flags,
      entry.outcome = .success elapsed stdev flags ∧
        (elapsed.isNaN = true ∨ elapsed.isInfinite = true)) ∧
    (∀ loaded, ofText? report.text = some loaded → loaded = { report with
      baseline := report.baseline.reloaded
      best := report.best.reloaded
      trajectory := report.trajectory.map (·.filter Binary64.isFinite)
      results := report.results.map Entry.reloaded }) ∧
    ((∀ x ∈ report.numbers, x.isFinite = true) →
      (∀ entry ∈ report.entries, ∀ elapsed stdev flags,
        entry.outcome = .success elapsed stdev flags → flags = entry.flags) →
      ofText? report.text = some report) := by
  have lost : report.entries.any (fun entry => entry.outcome.isLost) = true ↔
      ∃ entry ∈ report.entries, ∃ elapsed stdev flags,
        entry.outcome = .success elapsed stdev flags ∧
          (elapsed.isNaN = true ∨ elapsed.isInfinite = true) := by
    simp only [List.any_eq_true, Outcome.isLost_iff]
  rw [ofText?_text fits faithful, ← lost]
  refine ⟨?_, fun loaded loads => ?_, fun finite carried => ?_⟩
  · split
    next gone => simp [gone]
    next whole => simp [whole]
  · split at loads
    · cases loads
    · exact (Option.some.inj loads).symm
  · have whole : ¬report.entries.any (fun entry => entry.outcome.isLost) = true := by
      rw [lost]
      rintro ⟨entry, among, elapsed, stdev, flags, success, notFinite⟩
      have time : elapsed ∈ entry.outcome.numbers := by simp [success, Outcome.numbers]
      have isFinite := finite elapsed (mem_numbers_of_entry among time)
      rw [Binary64.isFinite_eq_false_iff.2 notFinite] at isFinite
      cases isFinite
    rw [if_neg whole, reloaded_eq_self finite carried]

def half : Binary64 := .ofPattern 0x3fe0000000000000

/-- A report of a run that was cut short: its start took half a second with a deviation of infinity
and lost its flags, and a candidate in it failed to build. -/
def interrupted : Report :=
  let start : Entry :=
    { set := .ofBits [true, false], flags := ["-O\"2\""], cached := false, step := 0
      outcome := .success half (some .infinity) [] }
  let failure : Entry :=
    { set := .ofBits [true, true], flags := ["-O\"2\"", "-g"], cached := true, step := 1
      outcome := .buildFailure }
  { strategy := "tabu", evaluator := "é\n", iterations := 7, stepsCompleted := 1, complete := false
    error := some "interrupted", baseline := start, best := start
    trajectory := [some half, some .infinity, none], cache := ⟨0, 2, 2, 10⟩
    generatedAt := 1700000000000, results := [failure] }

/-- The report of the interrupted run is loaded with the flags of its start, without the deviation
and with two costs missing. -/
theorem loaded_of_saved_interrupted : ∃ loaded, ofText? interrupted.text = some loaded ∧
    loaded.baseline.outcome = .success half none ["-O\"2\""] ∧
    loaded.trajectory = [some half, none, none] ∧ loaded.evaluator = "é\n" := by
  have fits : ∀ n ∈ interrupted.counts, n < wordLimit := by decide
  have faithful : ∀ x ∈ interrupted.numbers, Json.Faithful x := by
    unfold Json.Faithful
    decide +kernel
  obtain ⟨lost, loads, _⟩ := loaded_of_saved fits faithful
  cases read : ofText? interrupted.text with
  | none =>
    have whole : ∀ entry ∈ interrupted.entries, entry.outcome.isLost = false := by decide
    obtain ⟨entry, among, success⟩ := lost.1 read
    exact absurd (Outcome.isLost_iff.2 success) (by simp [whole entry among])
  | some loaded =>
    obtain rfl := loads loaded read
    exact ⟨_, rfl, by decide, by decide, rfl⟩

end Report

end FlagSearch
