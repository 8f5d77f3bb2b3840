import FlagSearch.Proofs.Memo.Traffic

/-!
# What flights rely on

Whatever the order in which callers enter, land and wake up, a computation is never repeated
without need: while a flight is in the air its key is out of reach of evictions, and once it has
landed with an outcome the memo holds the key until it is evicted.

* `Traffic.Step.keeps_flight`, `Traffic.Step.evicts_grounded` — flights and evictions.
* `Traffic.Since` — what became of a flight.
* `Traffic.flights_exclusive` — all of it together, for every run.
-/

namespace FlagSearch.Traffic

variable {κ : Type} [DecidableEq κ] {capacity : Nat} {traffic next : Traffic κ} {action : Action κ}

/-! ## Flights and evictions -/

theorem Step.keeps_flight (sound : traffic.Sound capacity) (step : traffic.Step action next)
    {key : κ} {flight : Nat} (flying : (key, flight) ∈ traffic.shared.inFlight) :
    (key, flight) ∈ next.shared.inFlight ∨ ∃ reply, action = .landed key flight reply ∧
      next.shared = traffic.shared.land key flight reply := by
  cases step with
  | enter other =>
    left
    rcases traffic.shared.enter_cases other with ⟨_, _, entered⟩ | ⟨_, _, entered⟩ |
      ⟨_, _, entered⟩
    · rw [entered]
      exact flying
    · rw [entered]
      exact flying
    · rw [entered]
      exact List.mem_cons_of_mem _ flying
  | @land i other number reply leading =>
    by_cases same : key = other
    · subst same
      obtain rfl := sound.flight_unique flying (sound.leading leading)
      exact .inr ⟨reply, rfl, rfl⟩
    · exact .inl (List.mem_filter.2 ⟨flying, decide_eq_true same⟩)
  | @wake i other number result shared following woken =>
    obtain ⟨_, rfl⟩ := Shared.wake_eq_some woken
    exact .inl flying

theorem Step.evicts_grounded (sound : traffic.Sound capacity) (step : traffic.Step action next)
    {key : κ} (gone : key ∈ traffic.evicted next) :
    key ∉ traffic.shared.flying ∧ key ∉ next.shared.flying := by
  obtain ⟨held, absent⟩ := List.mem_filter.1 gone
  have grounded := sound.apart key held
  refine ⟨grounded, fun flying => ?_⟩
  cases step with
  | enter other =>
    rcases traffic.shared.enter_cases other with ⟨_, _, entered⟩ | ⟨_, _, entered⟩ |
      ⟨_, _, entered⟩
    · rw [entered] at flying
      exact grounded flying
    · rw [entered] at flying
      exact grounded flying
    · rw [entered] at absent
      exact of_decide_eq_true absent held
  | land reply leading => exact grounded (Shared.mem_flying_land flying).1
  | wake following woken =>
    obtain ⟨_, rfl⟩ := Shared.wake_eq_some woken
    exact grounded flying

/-! ## What becomes of a flight -/

/-- What became of a flight for `key` in the events since it started: it is in the air, or it landed
with an error, or it landed and the key is held, or it landed and the key was evicted since. -/
def Since (key : κ) (flight : Nat) (events : List (Event κ)) (traffic : Traffic κ) : Prop :=
  (key, flight) ∈ traffic.shared.inFlight ∨
  ∃ earlier reply evicted later, events = earlier ++ ⟨.landed key flight reply, evicted⟩ :: later ∧
    ((∃ e, reply = .error e) ∨ key ∈ traffic.shared.memo.keys ∨
      ∃ event ∈ later, key ∈ event.evicted)

theorem Sound.mem_keys_land (sound : traffic.Sound capacity) {key : κ} {flight : Nat}
    {reply : Reply} (fine : ∀ e, reply ≠ .error e) :
    key ∈ (traffic.shared.land key flight reply).memo.keys := by
  cases reply with
  | outcome o => exact sound.within.mem_keys_publish_self
  | error e => exact absurd rfl (fine e)
  | panic message => exact sound.within.mem_keys_publish_self

theorem Since.step {key : κ} {flight : Nat} {events : List (Event κ)}
    (since : Since key flight events traffic) (sound : traffic.Sound capacity)
    (step : traffic.Step action next) :
    Since key flight (events ++ [⟨action, traffic.evicted next⟩]) next := by
  -- While the flight is in the air only its own landing matters, and afterwards only what happens
  -- to its key.
  rcases since with flying | ⟨earlier, reply, evicted, later, rfl, fate⟩
  · rcases step.keeps_flight sound flying with still | ⟨reply, rfl, landed⟩
    · exact .inl still
    · refine .inr ⟨events, reply, _, [], rfl, ?_⟩
      by_cases failed : ∃ e, reply = .error e
      · exact .inl failed
      · rw [landed]
        exact .inr (.inl (sound.mem_keys_land fun e same => failed ⟨e, same⟩))
  · refine .inr ⟨earlier, reply, evicted, later ++ [⟨action, traffic.evicted next⟩], by simp, ?_⟩
    rcases fate with failed | held | ⟨event, member, gone⟩
    · exact .inl failed
    · by_cases still : key ∈ next.shared.memo.keys
      · exact .inr (.inl still)
      · refine .inr (.inr ⟨_, List.mem_append_right _ List.mem_cons_self, ?_⟩)
        exact List.mem_filter.2 ⟨held, decide_eq_true still⟩
    · exact .inr (.inr ⟨event, List.mem_append_left _ member, gone⟩)

theorem Since.run {key : κ} {flight : Nat} {past events : List (Event κ)}
    (since : Since key flight past traffic) (sound : traffic.Sound capacity)
    (run : Run traffic events next) : Since key flight (past ++ events) next := by
  induction run generalizing past with
  | stop => rwa [List.append_nil]
  | step step later ih =>
    rw [List.append_cons]
    exact ih (since.step sound step) (step.sound sound)

/-! ## Whole runs -/

theorem Step.start {key : κ} {flight : Nat}
    (step : traffic.Step (.entered key (.lead flight)) next) :
    key ∉ traffic.shared.memo.keys ∧ key ∉ traffic.shared.flying ∧
      (key, flight) ∈ next.shared.inFlight := by
  generalize started : Action.entered key (.lead flight) = action at step
  cases step with
  | enter other =>
    obtain ⟨rfl, role⟩ := Action.entered.inj started
    rcases traffic.shared.enter_cases key with ⟨_, _, entered⟩ | ⟨_, _, entered⟩ |
      ⟨absent, grounded, entered⟩
    · rw [entered] at role
      cases role
    · rw [entered] at role
      cases role
    · rw [entered] at role ⊢
      cases role
      exact ⟨absent, grounded, List.mem_cons_self⟩
  | land reply leading => cases started
  | wake following woken => cases started

/-- Between two starts for the same key the first flight landed, and either with an error or the key
was evicted since. -/
theorem Run.between_starts {between after : List (Event κ)} {key : κ} {flight flight' : Nat}
    {evicted evicted' : List κ} (sound : traffic.Sound capacity)
    (run : Run traffic (⟨.entered key (.lead flight), evicted⟩ ::
      (between ++ ⟨.entered key (.lead flight'), evicted'⟩ :: after)) next) :
    ∃ earlier reply evicted later,
      between = earlier ++ ⟨.landed key flight reply, evicted⟩ :: later ∧
        ((∃ e, reply = .error e) ∨ ∃ event ∈ later, key ∈ event.evicted) := by
  cases run with
  | step first rest =>
    obtain ⟨middle, during, rest⟩ := rest.cut
    cases rest with
    | step second rest =>
      obtain ⟨absent, grounded, _⟩ := second.start
      have takeoff : Since key flight [] _ := .inl first.start.2.2
      rcases takeoff.run (first.sound sound) during with flying |
        ⟨earlier, reply, evicted, later, split, fate⟩
      · exact absurd (List.mem_map_of_mem flying) grounded
      · refine ⟨earlier, reply, evicted, later, split, ?_⟩
        rcases fate with failed | held | gone
        · exact .inl failed
        · exact absurd held absent
        · exact .inr gone

/-- In every run of a memo with room for `capacity` keys, however many callers there are and in
whatever order they enter, land and wake up: each key has at most one computation in progress; no
key is both in flight and held; at most `capacity` keys are held; no eviction touches a key in
flight, which leaves only by the landing of its own flight; and a computation for a key is started
again only if the one before it ended in an error or the key was evicted after it had landed. -/
theorem flights_exclusive {memo : Memo κ} (sized : Memo.ofCapacity capacity = .ok memo)
    {events : List (Event κ)} (run : Run (quiet memo) events traffic) :
    (∀ {i j : Nat} {key flight flight'}, traffic.callers[i]? = some ⟨key, .lead flight, none⟩ →
      traffic.callers[j]? = some ⟨key, .lead flight', none⟩ → i = j) ∧
    (∀ key ∈ traffic.shared.memo.keys, key ∉ traffic.shared.flying) ∧
    traffic.shared.memo.size ≤ capacity ∧
    (∀ {action next}, traffic.Step action next →
      (∀ key ∈ traffic.evicted next, key ∉ traffic.shared.flying ∧ key ∉ next.shared.flying) ∧
      ∀ key flight, (key, flight) ∈ traffic.shared.inFlight →
        (key, flight) ∈ next.shared.inFlight ∨ ∃ reply, action = .landed key flight reply) ∧
    (∀ {before between after : List (Event κ)} {key flight flight' evicted evicted'},
      events = before ++ ⟨.entered key (.lead flight), evicted⟩ ::
        (between ++ ⟨.entered key (.lead flight'), evicted'⟩ :: after) →
      ∃ earlier reply evicted later,
        between = earlier ++ ⟨.landed key flight reply, evicted⟩ :: later ∧
          ((∃ e, reply = .error e) ∨ ∃ event ∈ later, key ∈ event.evicted)) := by
  have sound := run.sound (sound_quiet sized)
  refine ⟨sound.computation_unique, sound.apart, sound.within.size_le, ?_, ?_⟩
  · intro action next step
    refine ⟨fun key gone => step.evicts_grounded sound gone, fun key flight flying => ?_⟩
    rcases step.keeps_flight sound flying with still | ⟨reply, landed, _⟩
    · exact .inl still
    · exact .inr ⟨reply, landed⟩
  · rintro before between after key flight flight' evicted evicted' rfl
    obtain ⟨middle, first, second⟩ := run.cut
    exact second.between_starts (first.sound (sound_quiet sized))

/-- A second key lands between two computations of the first one, in a memo with room for one. -/
def crowdedOut : List (Event Nat) :=
  [⟨.landed 0 0 (.outcome .buildFailure), []⟩, ⟨.entered 1 (.lead 1), []⟩,
    ⟨.landed 1 1 (.panic "out of memory"), [0]⟩]

theorem flights_exclusive_crowdedOut :
    ∃ (memo : Memo Nat) (traffic : Traffic Nat), Memo.ofCapacity 1 = .ok memo ∧
      Run (quiet memo)
        (⟨.entered 0 (.lead 0), []⟩ :: (crowdedOut ++ [⟨.entered 0 (.lead 2), []⟩])) traffic ∧
      traffic.shared.memo.size ≤ 1 ∧
      ∃ earlier reply evicted later,
        crowdedOut = earlier ++ ⟨.landed 0 0 reply, evicted⟩ :: later ∧
          ((∃ e, reply = .error e) ∨ ∃ event ∈ later, 0 ∈ event.evicted) := by
  have sized : Memo.ofCapacity 1 = .ok (⟨1, [], 0, 0⟩ : Memo Nat) := rfl
  have run := Run.step (Step.enter (quiet (⟨1, [], 0, 0⟩ : Memo Nat)) 0)
    (.step (.land (i := 0) (.outcome .buildFailure) rfl)
      (.step (.enter _ 1)
        (.step (.land (i := 1) (.panic "out of memory") rfl)
          (.step (.enter _ 0) (.stop _)))))
  obtain ⟨_, _, size, _, starts⟩ := flights_exclusive sized run
  exact ⟨_, _, sized, run, size, @starts [] crowdedOut [] 0 0 2 [] [] rfl⟩

end FlagSearch.Traffic
