import FlagSearch.Proofs.Memo.Answers

/-!
# Where outcomes come from

A memo gets its outcomes from those who land, and hands them to whoever asks for the key until it
drops them.  So what is known of the outcomes that computations come to, each for its key, is known
of every outcome that it holds and of every outcome that a caller comes out with, whether the caller
computed it, waited for it or found it there.

* `Traffic.Lands` — the computations of a run come to outcomes that are known for their keys.
* `Traffic.Known`, `Traffic.Known.run` — what is held and what was served.
* `Traffic.Run.known_of_found` — what any caller came out with.
-/

namespace FlagSearch.Traffic

variable {κ : Type} {known : κ → Outcome → Prop} {events : List (Event κ)}

/-- Every computation of the events that came to an outcome came to one that is known for its
key. -/
def Lands (known : κ → Outcome → Prop) (events : List (Event κ)) : Prop :=
  ∀ event ∈ events, ∀ key flight reply, event.action = .landed key flight reply →
    ∀ outcome, reply.published = .ok outcome → known key outcome

theorem exists_event_of_landings {flight : Nat} {key : κ} {reply : Reply}
    (landed : landings flight events = [(key, reply)]) :
    ∃ event ∈ events, event.action = .landed key flight reply := by
  have member : (key, reply) ∈ landings flight events := landed ▸ List.mem_singleton_self _
  obtain ⟨event, inside, found⟩ := List.mem_filterMap.1 member
  refine ⟨event, inside, ?_⟩
  cases acted : event.action with
  | entered other role =>
    rw [acted] at found
    cases found
  | woke other number =>
    rw [acted] at found
    cases found
  | landed other number reply' =>
    rw [acted, Action.landing?] at found
    split at found
    next same =>
      cases found
      rw [same]
    · cases found

theorem Lands.of_landings (lands : Lands known events) {flight : Nat} {key : κ} {reply : Reply}
    (landed : landings flight events = [(key, reply)]) {outcome : Outcome}
    (published : reply.published = .ok outcome) : known key outcome := by
  obtain ⟨event, inside, acted⟩ := exists_event_of_landings landed
  exact lands event inside key flight reply acted outcome published

theorem Lands.mono {known' : κ → Outcome → Prop} (lands : Lands known events)
    (more : ∀ key outcome, known key outcome → known' key outcome) : Lands known' events :=
  fun event member key flight reply acted outcome published =>
    more key outcome (lands event member key flight reply acted outcome published)

/-- What is held, and what a caller was served, is known for its key. -/
structure Known (known : κ → Outcome → Prop) (traffic : Traffic κ) : Prop where
  held : traffic.shared.memo.Knows known
  served : ∀ {i : Nat} {key outcome ending},
    traffic.callers[i]? = some ⟨key, .served outcome, ending⟩ →
      known key outcome ∧ ending = some (.found ⟨outcome, true⟩)

theorem known_quiet {memo : Memo κ} (knows : memo.Knows known) : (quiet memo).Known known :=
  ⟨knows, by simp [quiet]⟩

variable [DecidableEq κ] {traffic next : Traffic κ} {memo : Memo κ} {capacity : Nat}

theorem Known.enter (before : traffic.Known known) (key : κ) :
    Known known ⟨(traffic.shared.enter key).2, traffic.callers ++
      [⟨key, (traffic.shared.enter key).1, (traffic.shared.enter key).1.ending?⟩]⟩ := by
  cases held : traffic.shared.memo.peek? key with
  | some outcome =>
    have right := before.held.of_peek? held
    rw [Shared.enter_of_held held]
    refine ⟨before.held.publish right, fun at_ => ?_⟩
    rcases getElem?_append_caller at_ with earlier | new
    · exact before.served earlier
    · cases new
      exact ⟨right, rfl⟩
  | none =>
    have absent := Memo.peek?_eq_none_iff.1 held
    rcases traffic.shared.enter_cases key with ⟨_, held', _⟩ | ⟨flight, _, entered⟩ |
      ⟨_, _, entered⟩
    · exact absurd held' absent
    · rw [entered]
      refine ⟨before.held, fun at_ => ?_⟩
      rcases getElem?_append_caller at_ with earlier | new
      · exact before.served earlier
      · cases new
    · rw [entered]
      refine ⟨before.held, fun at_ => ?_⟩
      rcases getElem?_append_caller at_ with earlier | new
      · exact before.served earlier
      · cases new

theorem Known.step (before : traffic.Known known) {action : Action κ}
    (step : traffic.Step action next)
    (lands : ∀ key flight reply, action = .landed key flight reply →
      ∀ outcome, reply.published = .ok outcome → known key outcome) : next.Known known := by
  cases step with
  | enter key => exact before.enter key
  | @land i key flight reply leading =>
    refine ⟨before.held.settle (lands key flight reply rfl), fun at_ => ?_⟩
    rcases getElem?_set_caller_cases leading at_ with ⟨_, same⟩ | ⟨_, earlier⟩
    · cases same
    · exact before.served earlier
  | wake following woken =>
    obtain ⟨_, rfl⟩ := Shared.wake_eq_some woken
    refine ⟨before.held, fun at_ => ?_⟩
    rcases getElem?_set_caller_cases following at_ with ⟨_, same⟩ | ⟨_, earlier⟩
    · cases same
    · exact before.served earlier

theorem Known.run (before : traffic.Known known) (run : Run traffic events next)
    (lands : Lands known events) : next.Known known := by
  induction run with
  | stop => exact before
  | step step later ih =>
    obtain ⟨first, rest⟩ := List.forall_mem_cons.1 lands
    exact ih (before.step step first) rest

theorem Run.known_of_found (run : Run (quiet memo) events traffic) (within : memo.Within capacity)
    (knows : memo.Knows known) (lands : Lands known events) {i : Nat} {key : κ} {role : Role}
    {lookup : Lookup} (out : traffic.callers[i]? = some ⟨key, role, some (.found lookup)⟩) :
    known key lookup.outcome := by
  have answered := (answered_quiet memo).run (sound_quiet_of_within within) run
  rw [List.nil_append] at answered
  cases role with
  | served outcome =>
    obtain ⟨right, came⟩ := ((known_quiet knows).run run lands).served out
    cases came
    exact right
  | lead flight =>
    rcases answered.led out with ⟨computing, _⟩ | ⟨reply, came, landed, _⟩
    · cases computing
    · cases reply with
      | outcome o =>
        cases came
        exact lands.of_landings landed rfl
      | error e => cases came
      | panic message => cases came
  | follow flight =>
    obtain ⟨reply, landed, came⟩ := answered.told out
    cases published : reply.published with
    | ok outcome =>
      rw [published] at came
      cases came
      exact lands.of_landings landed published
    | error e =>
      rw [published] at came
      cases came

end FlagSearch.Traffic
