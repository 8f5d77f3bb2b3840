import FlagSearch.Proofs.Memo.Provenance
import FlagSearch.Proofs.Search.Published

/-!
# Callers of a function

If every computation comes to what a function gives for its key, it does not matter to a caller
whether it finds the outcome in the memo, computes it, or waits for someone else to do so.

* `Traffic.Truthful` — every landing is one with the outcome that the function gives.
* `Traffic.Holds` — what is held and what was served is what the function gives.
* `Traffic.Run.told_answer` — so is what anyone who came out was told.
* `Traffic.Answered.exists_step_of_waiting` — and no one waits in vain.
-/

namespace FlagSearch.Traffic

variable {κ : Type} {answer : κ → Outcome}

/-- Every computation of the events came to what the function gives for its key. -/
def Truthful (answer : κ → Outcome) (events : List (Event κ)) : Prop :=
  ∀ event ∈ events, ∀ key flight reply, event.action = .landed key flight reply →
    reply = .outcome (answer key)

theorem Truthful.reply_eq {events : List (Event κ)} (truthful : Truthful answer events)
    {flight : Nat} {key : κ} {reply : Reply} (landed : landings flight events = [(key, reply)]) :
    reply = .outcome (answer key) := by
  obtain ⟨event, inside, acted⟩ := exists_event_of_landings landed
  exact truthful event inside key flight reply acted

/-- What is held, and what a caller was served, is what the function gives. -/
structure Holds (answer : κ → Outcome) (traffic : Traffic κ) : Prop where
  agrees : traffic.shared.memo.Agrees fun key => .ok (answer key)
  served : ∀ {i : Nat} {key outcome ending},
    traffic.callers[i]? = some ⟨key, .served outcome, ending⟩ →
      outcome = answer key ∧ ending = some (.found ⟨outcome, true⟩)

theorem holds_quiet {memo : Memo κ} (agrees : memo.Agrees fun key => .ok (answer key)) :
    (quiet memo).Holds answer :=
  ⟨agrees, by simp [quiet]⟩

variable {traffic next : Traffic κ} {memo : Memo κ} {events : List (Event κ)} {capacity : Nat}

theorem holds_iff_known : traffic.Holds answer ↔
    traffic.Known fun key outcome =>
      (.ok (answer key) : Except SearchError Outcome) = .ok outcome := by
  constructor
  · intro holds
    refine ⟨holds.agrees, fun at_ => ?_⟩
    obtain ⟨same, ending⟩ := holds.served at_
    exact ⟨congrArg Except.ok same.symm, ending⟩
  · intro before
    refine ⟨before.held, fun at_ => ?_⟩
    obtain ⟨same, ending⟩ := before.served at_
    exact ⟨(Except.ok.inj same).symm, ending⟩

variable [DecidableEq κ]

theorem Holds.run (holds : traffic.Holds answer) (run : Run traffic events next)
    (truthful : Truthful answer events) : next.Holds answer := by
  refine holds_iff_known.2 ((holds_iff_known.1 holds).run run ?_)
  intro event member key flight reply acted outcome published
  rw [truthful event member key flight reply acted] at published
  exact published

/-- Everyone who came out was told what the function gives, as known already unless it was computed
on this very call. -/
theorem Run.told_answer (run : Run (quiet memo) events traffic) (within : memo.Within capacity)
    (agrees : memo.Agrees fun key => .ok (answer key)) (truthful : Truthful answer events) {i : Nat}
    {key : κ} {role : Role} {told : Ending}
    (out : traffic.callers[i]? = some ⟨key, role, some told⟩) :
    told = .found ⟨answer key, role.leads?.isNone⟩ := by
  have answered := (answered_quiet memo).run (sound_quiet_of_within within) run
  rw [List.nil_append] at answered
  cases role with
  | served outcome =>
    obtain ⟨rfl, came⟩ := ((holds_quiet agrees).run run truthful).served out
    cases came
    rfl
  | lead flight =>
    rcases answered.led out with ⟨computing, _⟩ | ⟨reply, came, landed, _⟩
    · cases computing
    · cases came
      rw [truthful.reply_eq landed]
      rfl
  | follow flight =>
    obtain ⟨reply, landed, rfl⟩ := answered.told out
    rw [truthful.reply_eq landed]
    rfl

theorem Answered.exists_step_of_waiting {past : List (Event κ)}
    (answered : Answered memo past traffic) (holds : traffic.Holds answer) {i : Nat} {key : κ}
    {role : Role} (waiting : traffic.callers[i]? = some ⟨key, role, none⟩) :
    (∃ (j : Nat) (flight : Nat), traffic.callers[j]? = some ⟨key, .lead flight, none⟩) ∨
      ∃ flight next, traffic.Step (.woke key flight) next := by
  cases role with
  | served outcome => cases (holds.served waiting).2
  | lead flight => exact .inl ⟨i, flight, waiting⟩
  | follow flight =>
    obtain ⟨⟨j, ending, leader⟩, _⟩ := answered.followed waiting
    rcases answered.led leader with ⟨rfl, _⟩ | ⟨reply, _, landed, _⟩
    · exact .inl ⟨j, flight, leader⟩
    · obtain ⟨next, step, _⟩ := answered.exists_wake waiting landed
      exact .inr ⟨flight, next, step⟩

end FlagSearch.Traffic
