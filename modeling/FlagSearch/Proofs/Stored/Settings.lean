import FlagSearch.Proofs.Binary64.Integers
import FlagSearch.Proofs.Json.OneLine
import FlagSearch.Proofs.Stored.FlagSets
import FlagSearch.Stored.Settings

/-!
# Stored settings read back

Settings are read back as they were if their numbers have 64 bits, and settings that were read have
such numbers, so nothing changes from one file to the next.  A seed or a starting set that is
missing is left out of the file, which no seed and no set is, not even the empty one.

* `Settings.Fits` — numbers of 64 bits.
* `StrategyKind.ofJson?_json`, `Settings.ofJson?_json` — reading what was written.
* `StrategyKind.fits_of_ofJson?`, `Settings.fits_of_ofJson?` — what was read.
* `Settings.kept_in_text` — the text form as a whole.
-/

namespace FlagSearch

namespace Json

theorem lt_of_nat? {json : Json} {n : Nat} (read : json.nat? = some n) : n < wordLimit := by
  cases json with
  | number numeral =>
    rw [nat?, Numeral.nat?] at read
    split at read
    · cases read
    · dsimp only at read
      split at read
      next fits =>
        cases read
        exact fits
      · cases read
  | null | bool _ | string _ | array _ | object _ => cases read

theorem exists_of_required {α : Type} {read : Json → Option α} {field : Option Json} {a : α}
    (found : required read field = some a) : ∃ value, read value = some a := by
  cases field with
  | none => cases found
  | some value => exact ⟨value, found⟩

theorem lt_of_required {field : Option Json} {n : Nat} (read : required nat? field = some n) :
    n < wordLimit := by
  obtain ⟨value, read⟩ := exists_of_required read
  exact lt_of_nat? read

end Json

/-! ## Strategies -/

namespace StrategyKind

variable {kind : StrategyKind} {level : Nat}

def Fits (kind : StrategyKind) : Prop := ∀ flips, kind = hillClimb flips → flips < wordLimit

def slots : StrategyKind → List (String × Option Json)
  | hillClimb flips => [("num_change", some (.ofNat flips))]
  | tabu | sweep => []

theorem json_eq (kind : StrategyKind) :
    kind.json = .object (Json.record (("kind", some (.ofText kind.name)) :: kind.slots)) := by
  cases kind <;> rfl

theorem wellFormed_json (kind : StrategyKind) : kind.json.WellFormed := by
  rw [json_eq]
  refine Json.wellFormed_record ?_
  have name : (Json.ofText kind.name).WellFormed := .string _
  cases kind with
  | hillClimb flips =>
    have number : (Json.ofNat flips).WellFormed := .number (Numeral.wellFormed_ofNat flips)
    simpa [slots] using ⟨name, number⟩
  | tabu | sweep => simpa [slots] using name

theorem isPlain_json (fits : kind.Fits) (levels : Nat) : kind.json.isPlain (levels + 1) = true := by
  rw [json_eq, Json.isPlain]
  cases kind with
  | hillClimb flips =>
    have number := Json.isPlain_ofNat (fits flips rfl) levels
    simp [Json.record, slots, Json.member?, Json.member, Json.ofText, Json.isPlain, number]
  | tabu | sweep =>
    simp [Json.record, slots, Json.member?, Json.member, Json.ofText, Json.isPlain]

theorem tagged?_json (fits : kind.Fits) (within : level ≤ Json.levelLimit) :
    kind.json.tagged? "kind" level = some (kind.name, .object (Json.record kind.slots)) := by
  have distinct : ("kind" :: kind.slots.map Prod.fst).Nodup := by
    cases kind <;> simp [slots]
  have plain := isPlain_json fits
  rw [json_eq] at plain ⊢
  exact Json.tagged?_record distinct plain within

theorem ofJson?_json (fits : kind.Fits) (within : level ≤ Json.levelLimit) :
    ofJson? level kind.json = some kind := by
  rw [ofJson?, tagged?_json fits within]
  cases kind with
  | hillClimb flips =>
    have fields : (Json.object (Json.record (hillClimb flips).slots)).fields? ["num_change"] =
        some [some (.ofNat flips)] := Json.fields?_record _ (by simp [slots])
    have number := Json.nat?_ofNat (fits flips rfl)
    simp [name, hillClimbOfJson?, fields, Json.required, number]
  | tabu => rfl
  | sweep => rfl

theorem fits_of_ofJson? {json : Json} (read : ofJson? level json = some kind) : kind.Fits := by
  rintro flips rfl
  simp only [ofJson?, Option.bind_eq_bind, Option.bind_eq_some_iff] at read
  obtain ⟨⟨shape, rest⟩, _, read⟩ := read
  dsimp only at read
  split at read
  · simp only [hillClimbOfJson?, Option.bind_eq_bind, Option.bind_eq_some_iff] at read
    obtain ⟨fields, _, read⟩ := read
    split at read
    next field =>
      obtain ⟨n, number, same⟩ := Option.map_eq_some_iff.1 read
      cases same
      exact Json.lt_of_required number
    · cases read
  · split at read
    · simp at read
    · split at read
      · simp at read
      · cases read

end StrategyKind

/-! ## Settings -/

namespace Settings

variable {settings : Settings}

structure Fits (settings : Settings) : Prop where
  strategy : settings.strategy.Fits
  iterations : settings.iterations < wordLimit
  poolWidth : settings.poolWidth < wordLimit
  cacheCapacity : settings.cacheCapacity < wordLimit
  tabuCapacity : settings.tabuCapacity < wordLimit

def slots (settings : Settings) : List (String × Option Json) :=
  [("strategy", some settings.strategy.json), ("iterations", some (.ofNat settings.iterations)),
    ("pool_width", some (.ofNat settings.poolWidth)),
    ("cache_capacity", some (.ofNat settings.cacheCapacity)),
    ("tabu_capacity", some (.ofNat settings.tabuCapacity)),
    ("seed", settings.seed.map fun seed => .ofNat seed.toNat),
    ("initial", settings.initial.map FlagSet.json)]

theorem json_eq (settings : Settings) : settings.json = .object (Json.record settings.slots) := by
  simp [json, slots, Json.record, Json.member?]

theorem fields?_json (settings : Settings) :
    settings.json.fields? fieldNames = some (settings.slots.map Prod.snd) := by
  rw [json_eq]
  exact Json.fields?_record settings.slots (show fieldNames.Nodup by decide)

theorem wellFormed_json (settings : Settings) : settings.json.WellFormed := by
  have number (n : Nat) : (Json.ofNat n).WellFormed := .number (Numeral.wellFormed_ofNat n)
  rw [json_eq]
  refine Json.wellFormed_record ?_
  simp only [slots, List.forall_mem_cons, Option.some.injEq, forall_eq', Option.map_eq_some_iff,
    forall_exists_index, and_imp, forall_apply_eq_imp_iff₂]
  exact ⟨settings.strategy.wellFormed_json, number _, number _, number _, number _,
    fun _ _ => number _, fun _ _ => .string _, by simp⟩

theorem optional_seed (seed : Option UInt64) :
    Json.optional Json.nat? (seed.map fun seed => .ofNat seed.toNat) =
      some (seed.map UInt64.toNat) := by
  cases seed with
  | none => rfl
  | some seed =>
    have number := Json.nat?_ofNat seed.toNat_lt
    exact congrArg (Option.map some) number

theorem optional_initial (initial : Option FlagSet) :
    Json.optional FlagSet.ofJson? (initial.map FlagSet.json) = some initial := by
  cases initial with
  | none => rfl
  | some set => exact congrArg (Option.map some) (FlagSet.ofJson?_json set)

theorem ofJson?_json (fits : settings.Fits) : ofJson? settings.json = some settings := by
  have strategy : StrategyKind.ofJson? 2 settings.strategy.json = some settings.strategy :=
    StrategyKind.ofJson?_json fits.strategy (by decide)
  rw [ofJson?, fields?_json, Option.bind_eq_bind, Option.bind_some]
  simp only [slots, List.map_cons, List.map_nil]
  rw [Json.required_bind strategy, Json.required_bind (Json.nat?_ofNat fits.iterations),
    Json.required_bind (Json.nat?_ofNat fits.poolWidth),
    Json.required_bind (Json.nat?_ofNat fits.cacheCapacity),
    Json.required_bind (Json.nat?_ofNat fits.tabuCapacity), optional_seed, optional_initial]
  obtain ⟨strategy, iterations, poolWidth, cacheCapacity, tabuCapacity, seed, initial⟩ := settings
  cases seed with
  | none => rfl
  | some seed => simp

theorem fits_of_ofJson? {json : Json} (read : ofJson? json = some settings) : settings.Fits := by
  simp only [ofJson?, Option.bind_eq_bind, Option.bind_eq_some_iff] at read
  obtain ⟨fields, _, read⟩ := read
  split at read
  · simp only [Option.bind_eq_some_iff] at read
    obtain ⟨_, named, _, steps, _, width, _, cache, _, tabu, _, _, _, _, same⟩ := read
    obtain ⟨strategy, named⟩ := Json.exists_of_required named
    cases same
    exact ⟨StrategyKind.fits_of_ofJson? named, Json.lt_of_required steps,
      Json.lt_of_required width, Json.lt_of_required cache, Json.lt_of_required tabu⟩
  · cases read

theorem ofText?_text_eq (settings : Settings) : ofText? settings.text = ofJson? settings.json := by
  rw [ofText?, text, Json.parse?_compact (wellFormed_json settings), Option.bind_some]

/-- Settings are read back from their text if and only if their numbers have 64 bits; whether the
settings are valid makes no difference.  Settings that are read from any text are among these, and
no other settings of 64-bit numbers have the same text. -/
theorem kept_in_text :
    (∀ settings, ofText? (text settings) = some settings ↔ Fits settings) ∧
      (∀ file settings, ofText? file = some settings → ofText? (text settings) = some settings) ∧
      ∀ settings other, Fits settings → Fits other → text settings = text other →
        settings = other := by
  have readBack : ∀ settings, ofText? (text settings) = some settings ↔ Fits settings := by
    intro settings
    rw [ofText?_text_eq]
    exact ⟨fits_of_ofJson?, ofJson?_json⟩
  refine ⟨readBack, ?_, ?_⟩
  · intro file settings read
    obtain ⟨document, _, read⟩ := Option.bind_eq_some_iff.1 read
    exact (readBack settings).2 (fits_of_ofJson? read)
  · intro settings other fits fits' same
    have read := (readBack settings).2 fits
    rw [same, (readBack other).2 fits'] at read
    exact (Option.some.inj read).symm

/-- A climb over `flips` positions with the largest seed and budget and with no worker, from the
empty set. -/
def extreme (flips : Nat) : Settings where
  strategy := .hillClimb flips
  iterations := wordLimit - 1
  poolWidth := 0
  cacheCapacity := wordLimit - 1
  tabuCapacity := 0
  seed := some (.ofNat (wordLimit - 1))
  initial := some (.zeros 0)

theorem fits_extreme {flips : Nat} (fits : flips < wordLimit) : (extreme flips).Fits where
  strategy := by
    rintro _ ⟨⟩
    exact fits
  iterations := show wordLimit - 1 < wordLimit by decide
  poolWidth := show 0 < wordLimit by decide
  cacheCapacity := show wordLimit - 1 < wordLimit by decide
  tabuCapacity := show 0 < wordLimit by decide

/-- The largest numbers are kept although such settings are refused, and so is the difference
between an empty starting set and none; one position more than 64 bits can tell is not kept. -/
theorem kept_in_text_extreme :
    let settings := extreme (wordLimit - 1)
    let bare := { settings with seed := none, initial := none }
    settings.problem? 3 = some .noWorkers ∧ ofText? settings.text = some settings ∧
      ofText? bare.text = some bare ∧ bare.text ≠ settings.text ∧
      ofText? (extreme wordLimit).text ≠ some (extreme wordLimit) := by
  intro settings bare
  obtain ⟨readBack, _, distinct⟩ := kept_in_text
  have fits : settings.Fits := fits_extreme (by decide)
  have fitsBare : bare.Fits := { fits with }
  refine ⟨rfl, (readBack _).2 fits, (readBack _).2 fitsBare, ?_, ?_⟩
  · intro same
    have equal := distinct bare settings fitsBare fits same
    exact absurd (congrArg Settings.seed equal) (by decide)
  · intro read
    exact Nat.lt_irrefl _ (((readBack _).1 read).strategy wordLimit rfl)

end Settings

end FlagSearch
