import FlagSearch.Memo.Calls
import FlagSearch.Proofs.Memo.Keys
import Mathlib.Data.List.Nodup

/-!
# The traffic of a shared memo

Any number of callers use a memo at once, and their steps come in any order: a caller enters and is
served, joins a flight or starts one; a leader lands with whatever its computation came to; a
follower wakes up.  Between entering and landing a computation may take as long as it likes, and
use the memo itself.

* `Traffic`, `Traffic.Step` — the callers with the memo they share, and their steps.
* `Traffic.Run` — the steps in some order, each with the keys it evicted.
* `Traffic.Sound`, `Traffic.Run.sound` — what holds whatever the order.
-/

namespace FlagSearch

variable {κ : Type}

/-! ## Entering -/

namespace Shared

def flying (shared : Shared κ) : List κ := shared.inFlight.map (·.1)

section Entering

variable [DecidableEq κ] {shared : Shared κ} {key : κ} {outcome : Outcome} {flight : Nat}

theorem enter_of_held (held : shared.memo.peek? key = some outcome) :
    shared.enter key = (.served outcome, { shared with
      memo := { shared.memo.publish key outcome with hits := shared.memo.hits + 1 } }) := by
  simp only [enter, Memo.lookup, held]

theorem enter_of_flying (absent : shared.memo.peek? key = none)
    (flying : shared.inFlight.lookup key = some flight) :
    shared.enter key = (.follow flight, shared) := by
  simp only [enter, Memo.lookup, absent, flying]

theorem enter_of_grounded (absent : shared.memo.peek? key = none)
    (grounded : key ∉ shared.flying) :
    shared.enter key = (.lead shared.published.length,
      ⟨shared.memo.started, (key, shared.published.length) :: shared.inFlight,
        shared.published ++ [none]⟩) := by
  have grounded : shared.inFlight.lookup key = none := lookup_eq_none_iff_not_mem.2 grounded
  simp only [enter, Memo.lookup, absent, grounded]

theorem enter_cases (shared : Shared κ) (key : κ) :
    (∃ outcome, key ∈ shared.memo.keys ∧ shared.enter key =
      (.served outcome, { shared with
        memo := { shared.memo.publish key outcome with hits := shared.memo.hits + 1 } })) ∨
    (∃ flight, (key, flight) ∈ shared.inFlight ∧ shared.enter key = (.follow flight, shared)) ∨
    (key ∉ shared.memo.keys ∧ key ∉ shared.flying ∧ shared.enter key =
      (.lead shared.published.length,
        ⟨shared.memo.started, (key, shared.published.length) :: shared.inFlight,
          shared.published ++ [none]⟩)) := by
  cases held : shared.memo.peek? key with
  | some outcome => exact .inl ⟨outcome, Memo.mem_keys_of_peek?_eq_some held, enter_of_held held⟩
  | none =>
    right
    cases flying : shared.inFlight.lookup key with
    | some flight =>
      obtain ⟨before, after, split, _⟩ := List.lookup_eq_some_iff.1 flying
      exact .inl ⟨flight, by simp [split], enter_of_flying held flying⟩
    | none =>
      have grounded := lookup_eq_none_iff_not_mem.1 flying
      exact .inr ⟨Memo.peek?_eq_none_iff.1 held, grounded, enter_of_grounded held grounded⟩

end Entering

theorem wake_eq_some {shared after : Shared κ} {flight : Nat}
    {result : Except SearchError Outcome} (woken : shared.wake flight = some (result, after)) :
    shared.published[flight]? = some (some result) ∧
      after = { shared with memo := { shared.memo with hits := shared.memo.hits + 1 } } := by
  unfold wake at woken
  split at woken
  next result' published =>
    cases woken
    exact ⟨published, rfl⟩
  · cases woken

theorem mem_flying_land [DecidableEq κ] {shared : Shared κ} {key other : κ} {flight : Nat}
    {reply : Reply} (flying : other ∈ (shared.land key flight reply).flying) :
    other ∈ shared.flying ∧ other ≠ key := by
  obtain ⟨entry, member, rfl⟩ := List.mem_map.1 flying
  obtain ⟨member, different⟩ := List.mem_filter.1 member
  exact ⟨List.mem_map_of_mem member, by simpa using different⟩

end Shared

/-! ## Callers -/

/-- One call of the memo: its key, the part it plays, and how it came out if it has. -/
structure Caller (κ : Type) where
  key : κ
  role : Role
  ending : Option Ending

namespace Role

/-- A caller that is served comes out at once. -/
def ending? : Role → Option Ending
  | served outcome => some (.found ⟨outcome, true⟩)
  | follow _ | lead _ => none

def leads? : Role → Option Nat
  | lead flight => some flight
  | served _ | follow _ => none

end Role

/-- A shared memo with everyone who ever called it, in the order of entering. -/
structure Traffic (κ : Type) where
  shared : Shared κ
  callers : List (Caller κ)

def Traffic.led (traffic : Traffic κ) : List Nat :=
  (traffic.callers.map (·.role)).filterMap Role.leads?

/-- What a step of the traffic is. -/
inductive Action (κ : Type) where
  /-- A caller enters for a key and finds its role. -/
  | entered (key : κ) (role : Role)
  /-- The leader of a flight lands. -/
  | landed (key : κ) (flight : Nat) (reply : Reply)
  /-- A follower of a flight wakes up. -/
  | woke (key : κ) (flight : Nat)

/-- A step with the keys that it evicted. -/
structure Event (κ : Type) where
  action : Action κ
  evicted : List κ

/-! ## Runs -/

namespace Traffic

def quiet (memo : Memo κ) : Traffic κ := ⟨.idle memo, []⟩

variable [DecidableEq κ]

inductive Step : Traffic κ → Action κ → Traffic κ → Prop where
  | enter (traffic : Traffic κ) (key : κ) :
      Step traffic (.entered key (traffic.shared.enter key).1)
        ⟨(traffic.shared.enter key).2, traffic.callers ++
          [⟨key, (traffic.shared.enter key).1, (traffic.shared.enter key).1.ending?⟩]⟩
  | land {traffic : Traffic κ} {i : Nat} {key : κ} {flight : Nat} (reply : Reply)
      (leading : traffic.callers[i]? = some ⟨key, .lead flight, none⟩) :
      Step traffic (.landed key flight reply)
        ⟨traffic.shared.land key flight reply,
          traffic.callers.set i ⟨key, .lead flight, some (.ofReply reply)⟩⟩
  | wake {traffic : Traffic κ} {i : Nat} {key : κ} {flight : Nat}
      {result : Except SearchError Outcome} {shared : Shared κ}
      (following : traffic.callers[i]? = some ⟨key, .follow flight, none⟩)
      (woken : traffic.shared.wake flight = some (result, shared)) :
      Step traffic (.woke key flight)
        ⟨shared, traffic.callers.set i ⟨key, .follow flight, some (.ofPublished result)⟩⟩

/-- The keys held before and not after. -/
def evicted (before after : Traffic κ) : List κ :=
  before.shared.memo.keys.filter (· ∉ after.shared.memo.keys)

/-- `Run start events traffic`: the events lead from `start` to `traffic`. -/
inductive Run : Traffic κ → List (Event κ) → Traffic κ → Prop where
  | stop (traffic : Traffic κ) : Run traffic [] traffic
  | step {before between after : Traffic κ} {action : Action κ} {events : List (Event κ)}
      (step : before.Step action between) (later : Run between events after) :
      Run before (⟨action, before.evicted between⟩ :: events) after

theorem Run.snoc {start before after : Traffic κ} {events : List (Event κ)} {action : Action κ}
    (run : Run start events before) (step : before.Step action after) :
    Run start (events ++ [⟨action, before.evicted after⟩]) after := by
  induction run with
  | stop => exact .step step (.stop after)
  | step first later ih => exact .step first (ih step)

theorem Run.cut {start last : Traffic κ} {before after : List (Event κ)}
    (run : Run start (before ++ after) last) :
    ∃ middle, Run start before middle ∧ Run middle after last := by
  induction before generalizing start with
  | nil => exact ⟨start, .stop start, run⟩
  | cons event before ih =>
    cases run with
    | step step later =>
      obtain ⟨middle, first, second⟩ := ih later
      exact ⟨middle, .step step first, second⟩

end Traffic

/-! ## What holds whatever the order -/

/-- The memo keeps to its capacity, no key is held and in flight at once, and each flight has one
leader. -/
structure Traffic.Sound (capacity : Nat) (traffic : Traffic κ) : Prop where
  within : traffic.shared.memo.Within capacity
  /-- A key is in flight once. -/
  nodup : traffic.shared.flying.Nodup
  /-- The memo holds no key in flight. -/
  apart : ∀ key ∈ traffic.shared.memo.keys, key ∉ traffic.shared.flying
  /-- Flights are numbered as they start, and each has one leader. -/
  led_eq : traffic.led = List.range traffic.shared.published.length
  leading : ∀ {i : Nat} {key flight}, traffic.callers[i]? = some ⟨key, .lead flight, none⟩ →
    (key, flight) ∈ traffic.shared.inFlight

namespace Traffic

variable {capacity : Nat} {traffic next : Traffic κ}

theorem sound_quiet_of_within {memo : Memo κ} (within : memo.Within capacity) :
    (quiet memo).Sound capacity where
  within := within
  nodup := List.nodup_nil
  apart := by simp [quiet, Shared.idle, Shared.flying]
  led_eq := rfl
  leading := by simp [quiet]

theorem sound_quiet {memo : Memo κ} (sized : Memo.ofCapacity capacity = .ok memo) :
    (quiet memo).Sound capacity :=
  sound_quiet_of_within (Memo.within_of_ofCapacity sized)

theorem Sound.flight_unique (sound : traffic.Sound capacity) {key : κ} {flight flight' : Nat}
    (first : (key, flight) ∈ traffic.shared.inFlight)
    (second : (key, flight') ∈ traffic.shared.inFlight) : flight = flight' :=
  congrArg Prod.snd (List.inj_on_of_nodup_map sound.nodup first second rfl)

theorem Sound.leader_unique (sound : traffic.Sound capacity) {i j : Nat} {caller caller' : Caller κ}
    {flight : Nat} (first : traffic.callers[i]? = some caller)
    (second : traffic.callers[j]? = some caller') (leads : caller.role.leads? = some flight)
    (leads' : caller'.role.leads? = some flight) : i = j := by
  -- The flights that were led are numbered from zero on, so none of them was led twice.
  have nodup : traffic.led.Nodup := sound.led_eq ▸ List.nodup_range
  have apart := List.pairwise_iff_getElem.1
    (List.pairwise_map.1 (List.pairwise_filterMap.1 nodup))
  obtain ⟨insideI, rfl⟩ := List.getElem?_eq_some_iff.1 first
  obtain ⟨insideJ, rfl⟩ := List.getElem?_eq_some_iff.1 second
  rcases Nat.lt_trichotomy i j with before | same | after
  · exact absurd rfl (apart i j insideI insideJ before flight leads flight leads')
  · exact same
  · exact absurd rfl (apart j i insideJ insideI after flight leads' flight leads)

theorem Sound.computation_unique (sound : traffic.Sound capacity) {i j : Nat} {key : κ}
    {flight flight' : Nat} (first : traffic.callers[i]? = some ⟨key, .lead flight, none⟩)
    (second : traffic.callers[j]? = some ⟨key, .lead flight', none⟩) : i = j := by
  have same := sound.flight_unique (sound.leading first) (sound.leading second)
  exact sound.leader_unique first second rfl (congrArg some same.symm)

theorem Sound.length_published (sound : traffic.Sound capacity) :
    traffic.shared.published.length =
      traffic.callers.countP fun caller => caller.role.leads?.isSome := by
  have led := congrArg List.length sound.led_eq
  rw [Traffic.led, List.length_filterMap_eq_countP, List.countP_map, List.length_range] at led
  exact led.symm

/-! ## Callers that come and go -/

theorem getElem?_append_caller {callers : List (Caller κ)} {caller found : Caller κ} {i : Nat}
    (at_ : (callers ++ [caller])[i]? = some found) : callers[i]? = some found ∨ found = caller := by
  rcases Nat.lt_or_ge i callers.length with before | after
  · rw [List.getElem?_append_left before] at at_
    exact .inl at_
  · rw [List.getElem?_append_right after] at at_
    exact .inr (List.mem_singleton.1 (List.mem_of_getElem? at_))

theorem led_append (shared : Shared κ) (callers : List (Caller κ)) (caller : Caller κ) :
    led ⟨shared, callers ++ [caller]⟩ =
      (callers.map (·.role)).filterMap Role.leads? ++ caller.role.leads?.toList := by
  rw [led, List.map_append, List.filterMap_append]
  cases leads : caller.role.leads? with
  | none => simp [leads]
  | some flight => simp [leads]

theorem map_set_caller {β : Type} {callers : List (Caller κ)} {caller found : Caller κ} {i : Nat}
    (field : Caller κ → β) (was : callers[i]? = some found) (kept : field caller = field found) :
    (callers.set i caller).map field = callers.map field := by
  obtain ⟨inside, rfl⟩ := List.getElem?_eq_some_iff.1 was
  refine List.ext_getElem? fun j => ?_
  by_cases same : i = j
  · subst same
    simp [inside, kept]
  · simp [List.getElem?_set_ne same]

theorem map_role_set {callers : List (Caller κ)} {i : Nat} {key : κ} {role : Role}
    {ending ending' : Option Ending} (was : callers[i]? = some ⟨key, role, ending⟩) :
    (callers.set i ⟨key, role, ending'⟩).map (·.role) = callers.map (·.role) :=
  map_set_caller (·.role) was rfl

theorem map_key_set {callers : List (Caller κ)} {i : Nat} {key : κ} {role : Role}
    {ending ending' : Option Ending} (was : callers[i]? = some ⟨key, role, ending⟩) :
    (callers.set i ⟨key, role, ending'⟩).map (·.key) = callers.map (·.key) :=
  map_set_caller (·.key) was rfl

theorem getElem?_set_caller {callers : List (Caller κ)} {i j : Nat} {key key' : κ}
    {role role' : Role} {ending : Ending}
    (found : (callers.set i ⟨key, role, some ending⟩)[j]? = some ⟨key', role', none⟩) :
    j ≠ i ∧ callers[j]? = some ⟨key', role', none⟩ := by
  by_cases same : i = j
  · subst same
    rw [List.getElem?_set] at found
    simp at found
  · rw [List.getElem?_set_ne same] at found
    exact ⟨Ne.symm same, found⟩

theorem Sound.wake (sound : traffic.Sound capacity) {i : Nat} {key : κ} {flight : Nat}
    {result : Except SearchError Outcome} {shared : Shared κ}
    (following : traffic.callers[i]? = some ⟨key, .follow flight, none⟩)
    (woken : traffic.shared.wake flight = some (result, shared)) :
    Sound capacity
      ⟨shared, traffic.callers.set i ⟨key, .follow flight, some (.ofPublished result)⟩⟩ := by
  obtain ⟨_, rfl⟩ := Shared.wake_eq_some woken
  refine ⟨sound.within.recount _ _, sound.nodup, sound.apart, ?_, ?_⟩
  · rw [led, map_role_set following]
    exact sound.led_eq
  · intro j other flight' found
    exact sound.leading (getElem?_set_caller found).2

section Steps

variable [DecidableEq κ]

theorem Sound.enter (sound : traffic.Sound capacity) (key : κ) :
    Sound capacity ⟨(traffic.shared.enter key).2, traffic.callers ++
      [⟨key, (traffic.shared.enter key).1, (traffic.shared.enter key).1.ending?⟩]⟩ := by
  have led := sound.led_eq
  rw [Traffic.led] at led
  rcases traffic.shared.enter_cases key with ⟨outcome, held, entered⟩ |
    ⟨flight, flying, entered⟩ | ⟨absent, grounded, entered⟩
  · rw [entered]
    refine ⟨sound.within.publish.recount _ _, sound.nodup, ?_, ?_, ?_⟩
    · intro other kept
      rcases Memo.mem_keys_publish kept with rfl | kept
      · exact sound.apart _ held
      · exact sound.apart other kept
    · rw [led_append, led]
      simp [Role.leads?]
    · intro i key flight found
      rcases getElem?_append_caller found with earlier | new
      · exact sound.leading earlier
      · cases new
  · rw [entered]
    refine ⟨sound.within, sound.nodup, sound.apart, ?_, ?_⟩
    · rw [led_append, led]
      simp [Role.leads?]
    · intro i key flight found
      rcases getElem?_append_caller found with earlier | new
      · exact sound.leading earlier
      · cases new
  · rw [entered]
    refine ⟨sound.within.recount _ _, List.nodup_cons.2 ⟨grounded, sound.nodup⟩, ?_, ?_, ?_⟩
    · intro other kept flying
      rcases List.mem_cons.1 flying with rfl | flying
      · exact absent kept
      · exact sound.apart other kept flying
    · rw [led_append, led]
      simp [Role.leads?, List.range_succ]
    · intro i key flight found
      rcases getElem?_append_caller found with earlier | new
      · exact List.mem_cons_of_mem _ (sound.leading earlier)
      · cases new
        exact List.mem_cons_self

theorem Sound.land (sound : traffic.Sound capacity) {i : Nat} {key : κ} {flight : Nat}
    (leading : traffic.callers[i]? = some ⟨key, .lead flight, none⟩) (reply : Reply) :
    Sound capacity ⟨traffic.shared.land key flight reply,
      traffic.callers.set i ⟨key, .lead flight, some (.ofReply reply)⟩⟩ where
  within := sound.within.settle _
  nodup := sound.nodup.sublist (List.filter_sublist.map _)
  apart := by
    intro other held flying
    obtain ⟨flying, different⟩ := Shared.mem_flying_land flying
    rcases Memo.mem_keys_settle held with rfl | held
    · exact different rfl
    · exact sound.apart other held flying
  led_eq := by
    rw [led, map_role_set leading]
    exact sound.led_eq.trans (congrArg List.range List.length_set.symm)
  leading := by
    intro j other flight' found
    obtain ⟨different, was⟩ := getElem?_set_caller found
    refine List.mem_filter.2 ⟨sound.leading was, decide_eq_true fun same => ?_⟩
    change other = key at same
    subst same
    exact different (sound.computation_unique was leading)

theorem Step.sound {action : Action κ} (step : traffic.Step action next)
    (sound : traffic.Sound capacity) : next.Sound capacity := by
  cases step with
  | enter key => exact sound.enter key
  | land reply leading => exact sound.land leading reply
  | wake following woken => exact sound.wake following woken

theorem Run.sound {events : List (Event κ)} (run : Run traffic events next)
    (sound : traffic.Sound capacity) : next.Sound capacity := by
  induction run with
  | stop => exact sound
  | step step later ih => exact ih (step.sound sound)

end Steps

end Traffic

end FlagSearch
