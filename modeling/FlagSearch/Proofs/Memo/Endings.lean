import FlagSearch.Proofs.Memo.Answers

/-!
# How callers come out

Computations may come to anything, errors and panics included, and their callers may come out in any
order.  Still a caller that comes out with an outcome knows whether it ran the computation itself,
and no caller comes out with an error that no computation came to.

* `Caller.Candid`, `Traffic.Candid`, `Traffic.Run.candid` — this, of every caller of every run.
* `Traffic.Run.size_le_misses` — a memo holds no more outcomes than computations were started.
-/

namespace FlagSearch

variable {κ : Type}

/-- The caller has not come out; or it did so with an outcome marked as known unless it ran the
computation, or with one of the errors that computations may come to. -/
def Caller.Candid (fails : SearchError → Prop) (caller : Caller κ) : Prop :=
  match caller.ending with
  | none | some (.unwound _) => True
  | some (.found lookup) => lookup.cached = caller.role.leads?.isNone
  | some (.failed e) => fails e

namespace Traffic

/-- Every caller came out candidly, and so will those that wait for a flight. -/
structure Candid (fails : SearchError → Prop) (traffic : Traffic κ) : Prop where
  callers : ∀ caller ∈ traffic.callers, caller.Candid fails
  published : ∀ e, some (.error e) ∈ traffic.shared.published → fails e

variable {fails : SearchError → Prop} {traffic next : Traffic κ} {memo : Memo κ} {capacity : Nat}
  {events : List (Event κ)}

theorem candid_quiet (fails : SearchError → Prop) (memo : Memo κ) : (quiet memo).Candid fails where
  callers := by simp [quiet]
  published := by simp [quiet, Shared.idle]

variable [DecidableEq κ]

theorem Candid.enter (candid : traffic.Candid fails) (key : κ) :
    Candid fails ⟨(traffic.shared.enter key).2, traffic.callers ++
      [⟨key, (traffic.shared.enter key).1, (traffic.shared.enter key).1.ending?⟩]⟩ := by
  rcases traffic.shared.enter_cases key with ⟨outcome, _, entered⟩ | ⟨flight, _, entered⟩ |
    ⟨_, _, entered⟩
  · rw [entered]
    refine ⟨List.forall_mem_append.2 ⟨candid.callers, ?_⟩, candid.published⟩
    simp [Caller.Candid, Role.ending?, Role.leads?]
  · rw [entered]
    refine ⟨List.forall_mem_append.2 ⟨candid.callers, ?_⟩, candid.published⟩
    simp [Caller.Candid, Role.ending?]
  · rw [entered]
    refine ⟨List.forall_mem_append.2 ⟨candid.callers, ?_⟩, fun e member => candid.published e ?_⟩
    · simp [Caller.Candid, Role.ending?]
    · simpa using member

theorem Candid.step (candid : traffic.Candid fails) {action : Action κ}
    (step : traffic.Step action next)
    (lands : ∀ key flight reply, action = .landed key flight reply →
      ∀ e, reply.published = .error e → fails e) : next.Candid fails := by
  cases step with
  | enter key => exact candid.enter key
  | @land i key flight reply leading =>
    have lands := lands key flight reply rfl
    refine ⟨fun caller member => ?_, fun e member => ?_⟩
    · rcases List.mem_or_eq_of_mem_set member with earlier | rfl
      · exact candid.callers caller earlier
      · cases reply with
        | outcome o => rfl
        | error e => exact lands e rfl
        | panic message => trivial
    · rcases List.mem_or_eq_of_mem_set member with earlier | new
      · exact candid.published e earlier
      · exact lands e (Option.some.inj new).symm
  | @wake i key flight result shared following woken =>
    obtain ⟨published, rfl⟩ := Shared.wake_eq_some woken
    refine ⟨fun caller member => ?_, candid.published⟩
    rcases List.mem_or_eq_of_mem_set member with earlier | rfl
    · exact candid.callers caller earlier
    · cases result with
      | ok outcome => rfl
      | error e => exact candid.published e (List.mem_of_getElem? published)

theorem Run.candid (run : Run traffic events next) (candid : traffic.Candid fails)
    (lands : ∀ event ∈ events, ∀ key flight reply, event.action = .landed key flight reply →
      ∀ e, reply.published = .error e → fails e) : next.Candid fails := by
  induction run with
  | stop => exact candid
  | step step later ih =>
    obtain ⟨first, rest⟩ := List.forall_mem_cons.1 lands
    exact ih (candid.step step first) rest

/-! ## The size of the memo -/

theorem Step.size_add_flying_le (sound : traffic.Sound capacity) {action : Action κ}
    (step : traffic.Step action next)
    (few : traffic.shared.memo.size + traffic.shared.inFlight.length ≤
      traffic.shared.memo.misses) :
    next.shared.memo.size + next.shared.inFlight.length ≤ next.shared.memo.misses := by
  cases step with
  | enter key =>
    rcases traffic.shared.enter_cases key with ⟨outcome, held, entered⟩ | ⟨flight, _, entered⟩ |
      ⟨_, _, entered⟩
    · rw [entered]
      exact Nat.le_trans (Nat.add_le_add_right (Memo.size_publish_le_of_mem held) _) few
    · rw [entered]
      exact few
    · rw [entered]
      exact Nat.succ_le_succ few
  | @land i key flight reply leading =>
    have flying := sound.leading leading
    have fewer : (traffic.shared.inFlight.filter fun entry => entry.1 ≠ key).length <
        traffic.shared.inFlight.length :=
      List.length_filter_lt_length_iff_exists.2 ⟨_, flying, by simp⟩
    change (traffic.shared.memo.settle key reply.published).size + _ ≤
      (traffic.shared.memo.settle key reply.published).misses
    rw [Memo.settle_misses]
    cases reply.published with
    | ok outcome =>
      have more := Memo.size_publish_le traffic.shared.memo key outcome
      simp only [Memo.settle, Shared.land]
      omega
    | error e =>
      simp only [Memo.settle, Shared.land]
      omega
  | wake following woken =>
    obtain ⟨_, rfl⟩ := Shared.wake_eq_some woken
    exact few

theorem Run.size_le_misses (run : Run traffic events next) (sound : traffic.Sound capacity)
    (few : traffic.shared.memo.size + traffic.shared.inFlight.length ≤
      traffic.shared.memo.misses) : next.shared.memo.size ≤ next.shared.memo.misses := by
  induction run with
  | stop => exact Nat.le_trans (Nat.le_add_right _ _) few
  | step step later ih => exact ih (step.sound sound) (step.size_add_flying_le sound few)

end Traffic

end FlagSearch
