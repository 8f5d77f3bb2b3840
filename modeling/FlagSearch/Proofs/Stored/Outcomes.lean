import FlagSearch.Proofs.Stored.Records
import FlagSearch.Stored.Outcome

/-!
# Stored outcomes read back

A number that is not finite is written as `null`.  That is no deviation where a deviation may be
missing, and no time at all, so a success whose time is not finite is not read back.  Flags are not
written with an outcome.

* `Json.Faithful` — the finite numbers that are read as they were written.
* `Outcome.isLost`, `Outcome.kept` — what the file keeps of an outcome.
* `Outcome.ofJson?_json` — reading what was written.
-/

namespace FlagSearch

/-! ## Numbers -/

theorem Binary64.isFinite_eq_false_iff {x : Binary64} :
    x.isFinite = false ↔ x.isNaN = true ∨ x.isInfinite = true := by
  cases fraction : x.fraction == 0 with
  | true => simp [isFinite, isNaN, isInfinite, bne, fraction]
  | false => simp [isFinite, isNaN, isInfinite, bne, fraction]

namespace Json

/-- A finite number is read as itself. -/
def Faithful (x : Binary64) : Prop := x.isFinite = true → (numeralOf x).binary64? = some x

variable {x : Binary64}

theorem wellFormed_ofBinary64 (x : Binary64) : WellFormed (ofBinary64 x) := by
  unfold ofBinary64
  split
  · exact .number (wellFormed_numeralOf x)
  · exact .null

theorem isPlain_ofBinary64 (faithful : Faithful x) (levels : Nat) :
    (ofBinary64 x).isPlain levels = true := by
  unfold ofBinary64
  split
  next finite => simp [isPlain, faithful finite]
  · simp [isPlain]

theorem binary64?_ofBinary64 (faithful : Faithful x) :
    (ofBinary64 x).binary64? = if !x.isFinite then none else some x := by
  unfold ofBinary64
  split
  next finite => simp [binary64?, faithful finite, finite]
  next finite => simp [binary64?, finite]

theorem nullable_ofBinary64 (faithful : Faithful x) :
    nullable binary64? (ofBinary64 x) = some ((some x).filter Binary64.isFinite) := by
  unfold ofBinary64
  split
  next finite => simp [Option.filter_some, nullable, binary64?, faithful finite, finite]
  next finite => simp [Option.filter_some, nullable, finite]

end Json

theorem filter_isFinite {number : Option Binary64} (finite : ∀ x ∈ number, x.isFinite = true) :
    number.filter Binary64.isFinite = number := by
  cases number with
  | none => rfl
  | some x => rw [Option.filter_some, if_pos (finite x rfl)]

/-! ## Outcomes -/

namespace Outcome

def numbers : Outcome → List Binary64
  | success elapsed stdev _ => elapsed :: stdev.toList
  | buildFailure | runtimeError => []

/-- Is the outcome a success whose time a file cannot hold? -/
def isLost : Outcome → Bool
  | success elapsed _ _ => !elapsed.isFinite
  | buildFailure | runtimeError => false

def kept : Outcome → Outcome
  | success elapsed stdev _ => success elapsed (stdev.filter Binary64.isFinite) []
  | failure => failure

def status : Outcome → String
  | buildFailure => "BuildFailure"
  | runtimeError => "RuntimeError"
  | success .. => "Success"

def slots : Outcome → List (String × Option Json)
  | success elapsed stdev _ =>
      [("elapsed_secs", some (.ofBinary64 elapsed)), ("stdev_secs", stdev.map .ofBinary64),
        ("flags", none)]
  | buildFailure | runtimeError => []

theorem json_eq (outcome : Outcome) :
    outcome.json = .object (Json.record (("status", some (.ofText outcome.status)) ::
      outcome.slots)) := by
  cases outcome with
  | buildFailure => rfl
  | runtimeError => rfl
  | success elapsed stdev flags => simp [json, status, slots, Json.record, Json.member?]

variable {outcome : Outcome}

theorem isLost_iff : outcome.isLost = true ↔ ∃ elapsed stdev flags,
    outcome = success elapsed stdev flags ∧ (elapsed.isNaN = true ∨ elapsed.isInfinite = true) := by
  cases outcome with
  | buildFailure => simp [isLost]
  | runtimeError => simp [isLost]
  | success elapsed stdev flags =>
    simp [isLost, Binary64.isFinite_eq_false_iff]

theorem value_cases {slot : String × Option Json} (among : slot ∈ outcome.slots) {value : Json}
    (given : slot.2 = some value) : ∃ x ∈ outcome.numbers, value = .ofBinary64 x := by
  cases outcome with
  | buildFailure => cases among
  | runtimeError => cases among
  | success elapsed stdev flags =>
    simp only [slots, List.mem_cons, List.not_mem_nil, or_false] at among
    rcases among with rfl | rfl | rfl
    · cases given
      exact ⟨elapsed, List.mem_cons_self, rfl⟩
    · obtain ⟨x, deviation, rfl⟩ := Option.map_eq_some_iff.1 given
      exact ⟨x, List.mem_cons_of_mem _ (by simp [deviation]), rfl⟩
    · cases given

theorem wellFormed_json (outcome : Outcome) : outcome.json.WellFormed := by
  rw [json_eq]
  refine Json.wellFormed_record fun slot among value given => ?_
  rcases List.mem_cons.1 among with rfl | among
  · cases given
    exact .string _
  · obtain ⟨x, _, rfl⟩ := value_cases among given
    exact Json.wellFormed_ofBinary64 x

theorem isPlain_json (faithful : ∀ x ∈ outcome.numbers, Json.Faithful x) (levels : Nat) :
    outcome.json.isPlain (levels + 1) = true := by
  rw [json_eq, Json.isPlain, List.all_eq_true]
  intro m listed
  obtain ⟨slot, among, value, given, rfl⟩ := Json.mem_record.1 listed
  rcases List.mem_cons.1 among with rfl | among
  · cases given
    simp [Json.member, Json.ofText, Json.isPlain]
  · obtain ⟨x, number, rfl⟩ := value_cases among given
    exact Json.isPlain_ofBinary64 (faithful x number) levels

theorem distinct_slots (outcome : Outcome) : ("status" :: outcome.slots.map Prod.fst).Nodup := by
  cases outcome with
  | buildFailure => decide
  | runtimeError => decide
  | success elapsed stdev flags =>
    change ["status", "elapsed_secs", "stdev_secs", "flags"].Nodup
    decide

theorem successOfJson?_slots {elapsed : Binary64} {stdev : Option Binary64} {flags : List String}
    (faithful : ∀ x ∈ (success elapsed stdev flags).numbers, Json.Faithful x) :
    successOfJson? (.object (Json.record (success elapsed stdev flags).slots)) =
      if (success elapsed stdev flags).isLost then none
      else some (success elapsed stdev flags).kept := by
  have fields : (Json.object (Json.record (success elapsed stdev flags).slots)).fields? fieldNames =
      some [some (.ofBinary64 elapsed), stdev.map .ofBinary64, none] :=
    Json.fields?_record _ (List.nodup_cons.1 (distinct_slots (success elapsed stdev flags))).2
  have time := Json.binary64?_ofBinary64 (faithful elapsed List.mem_cons_self)
  have deviation : Json.optional Json.binary64? (stdev.map .ofBinary64) =
      some (stdev.filter Binary64.isFinite) := by
    cases stdev with
    | none => rfl
    | some x => exact Json.nullable_ofBinary64 (faithful x (by simp [numbers]))
  rw [successOfJson?, fields, Option.bind_eq_bind, Option.bind_some]
  dsimp only
  rw [Json.required_bind_unless time, deviation]
  rfl

theorem ofJson?_json (faithful : ∀ x ∈ outcome.numbers, Json.Faithful x) {level : Nat}
    (within : level ≤ Json.levelLimit) :
    ofJson? level outcome.json = if outcome.isLost then none else some outcome.kept := by
  have tagged : outcome.json.tagged? "status" level =
      some (outcome.status, .object (Json.record outcome.slots)) := by
    have plain := isPlain_json faithful
    rw [json_eq] at plain ⊢
    exact Json.tagged?_record (distinct_slots outcome) plain within
  rw [ofJson?, tagged]
  cases outcome with
  | buildFailure => rfl
  | runtimeError => rfl
  | success elapsed stdev flags =>
    rw [← successOfJson?_slots faithful]
    rfl

end Outcome

end FlagSearch
