import FlagSearch.Proofs.Memo.Traffic

/-!
# What callers are told

A follower waits for a flight and not for a key: when it wakes up the key may have been evicted, or
computed anew with another result, and the follower still comes out with what its own flight
published.  The counts of the memo balance with the callers whatever became of the flights.

* `Traffic.landings`, `Action.starts` — what a run says about its flights.
* `Traffic.Answered` — leaders, followers, flights and counts agree, after any run.
* `Traffic.flights_answered` — what every caller of every run is told.
-/

namespace FlagSearch

variable {κ : Type}

/-! ## Flights in a list of events -/

namespace Action

def starts : Action κ → Bool
  | entered _ (.lead _) => true
  | entered _ (.served _) | entered _ (.follow _) | landed .. | woke .. => false

theorem starts_entered (key : κ) (role : Role) :
    (entered key role).starts = role.leads?.isSome := by
  cases role <;> rfl

/-- The key of a landing of the flight and what its computation came to. -/
def landing? (flight : Nat) : Action κ → Option (κ × Reply)
  | landed key number reply => if number = flight then some (key, reply) else none
  | entered .. | woke .. => none

end Action

namespace Traffic

def landings (flight : Nat) (events : List (Event κ)) : List (κ × Reply) :=
  events.filterMap fun event => event.action.landing? flight

def starts (events : List (Event κ)) : Nat := events.countP fun event => event.action.starts

@[simp] theorem landings_append (flight : Nat) (past later : List (Event κ)) :
    landings flight (past ++ later) = landings flight past ++ landings flight later :=
  List.filterMap_append

@[simp] theorem landings_entered (flight : Nat) (key : κ) (role : Role) (evicted : List κ) :
    landings flight [⟨.entered key role, evicted⟩] = [] := rfl

@[simp] theorem landings_woke (flight : Nat) (key : κ) (number : Nat) (evicted : List κ) :
    landings flight [⟨.woke key number, evicted⟩] = [] := rfl

theorem landings_landed_self (flight : Nat) (key : κ) (reply : Reply) (evicted : List κ) :
    landings flight [⟨.landed key flight reply, evicted⟩] = [(key, reply)] := by
  simp [landings, Action.landing?]

theorem landings_landed_of_ne {flight number : Nat} (other : number ≠ flight) (key : κ)
    (reply : Reply) (evicted : List κ) :
    landings flight [⟨.landed key number reply, evicted⟩] = [] := by
  simp [landings, Action.landing?, other]

theorem starts_append (past later : List (Event κ)) :
    starts (past ++ later) = starts past + starts later := List.countP_append

theorem starts_snoc (past : List (Event κ)) (action : Action κ) (evicted : List κ) :
    starts (past ++ [⟨action, evicted⟩]) = starts past + if action.starts then 1 else 0 := by
  rw [starts_append]
  simp [starts, List.countP_cons]

end Traffic

/-- A caller that came out without running a computation. -/
def Caller.spared (caller : Caller κ) : Bool := caller.ending.isSome && caller.role.leads?.isNone

namespace Traffic

/-! ## The invariant -/

/-- Where a flight stands: it is in the air and its leader computes, or it landed once and
published what its leader came out with. -/
def Flown (past : List (Event κ)) (shared : Shared κ) (key : κ) (flight : Nat)
    (ending : Option Ending) : Prop :=
  (ending = none ∧ landings flight past = [] ∧ shared.published[flight]? = some none) ∨
  ∃ reply, ending = some (.ofReply reply) ∧ landings flight past = [(key, reply)] ∧
    shared.published[flight]? = some (some reply.published)

/-- One of the callers leads the flight, for the key. -/
def Leads (callers : List (Caller κ)) (key : κ) (flight : Nat) : Prop :=
  ∃ (i : Nat) (ending : Option Ending), callers[i]? = some ⟨key, .lead flight, ending⟩

/-- What the events `past` of a memo that began as `memo` have to do with its callers. -/
structure Answered (memo : Memo κ) (past : List (Event κ)) (traffic : Traffic κ) : Prop where
  /-- A leader came out with what its flight landed with. -/
  led : ∀ {i : Nat} {key flight ending}, traffic.callers[i]? = some ⟨key, .lead flight, ending⟩ →
    Flown past traffic.shared key flight ending
  /-- A follower has a leader for its key, and came out with what that leader published. -/
  followed : ∀ {i : Nat} {key flight ending},
    traffic.callers[i]? = some ⟨key, .follow flight, ending⟩ →
      Leads traffic.callers key flight ∧ ∀ told, ending = some told →
        ∃ result, traffic.shared.published[flight]? = some (some result) ∧ told = .ofPublished result
  started : ∀ {key flight}, (∃ evicted, ⟨.entered key (.lead flight), evicted⟩ ∈ past) ↔
    Leads traffic.callers key flight
  flying : ∀ {key flight}, (key, flight) ∈ traffic.shared.inFlight →
    ∃ i : Nat, traffic.callers[i]? = some ⟨key, .lead flight, none⟩
  unborn : ∀ {flight}, traffic.shared.published.length ≤ flight → landings flight past = []
  starts_eq : starts past = traffic.shared.published.length
  misses_eq : traffic.shared.memo.misses = memo.misses + starts past
  hits_eq : traffic.shared.memo.hits = memo.hits + traffic.callers.countP Caller.spared

theorem answered_quiet (memo : Memo κ) : Answered memo [] (quiet memo) where
  led at_ := by simp [quiet] at at_
  followed at_ := by simp [quiet] at at_
  started := by simp [quiet, Leads]
  flying := by simp [quiet, Shared.idle]
  unborn _ := rfl
  starts_eq := rfl
  misses_eq := rfl
  hits_eq := rfl

section Callers

variable {callers : List (Caller κ)} {caller found : Caller κ} {i j : Nat}

theorem getElem?_append_of_some (at_ : callers[i]? = some found) :
    (callers ++ [caller])[i]? = some found := by
  rw [List.getElem?_append_left (List.getElem?_eq_some_iff.1 at_).1, at_]

theorem getElem?_set_caller_cases {key : κ} {role : Role} {ending : Option Ending}
    (was : callers[i]? = some ⟨key, role, none⟩)
    (at_ : (callers.set i ⟨key, role, ending⟩)[j]? = some found) :
    (j = i ∧ found = ⟨key, role, ending⟩) ∨ (j ≠ i ∧ callers[j]? = some found) := by
  by_cases same : i = j
  · subst same
    rw [List.getElem?_set_self (List.getElem?_eq_some_iff.1 was).1] at at_
    exact .inl ⟨rfl, (Option.some.inj at_).symm⟩
  · rw [List.getElem?_set_ne same] at at_
    exact .inr ⟨Ne.symm same, at_⟩

theorem Leads.append {key : κ} {flight : Nat} (leads : Leads callers key flight) :
    Leads (callers ++ [caller]) key flight := by
  obtain ⟨i, ending, at_⟩ := leads
  exact ⟨i, ending, getElem?_append_of_some at_⟩

theorem leads_append_iff {key : κ} {flight : Nat} (idle : caller.role.leads? = none) :
    Leads (callers ++ [caller]) key flight ↔ Leads callers key flight := by
  refine ⟨fun ⟨i, ending, at_⟩ => ?_, Leads.append⟩
  rcases getElem?_append_caller at_ with earlier | new
  · exact ⟨i, ending, earlier⟩
  · subst new
    cases idle

theorem leads_set_iff {key key' : κ} {role : Role} {flight : Nat} {ending : Option Ending}
    (was : callers[i]? = some ⟨key, role, none⟩) :
    Leads (callers.set i ⟨key, role, ending⟩) key' flight ↔ Leads callers key' flight := by
  constructor
  · rintro ⟨j, ending', at_⟩
    rcases getElem?_set_caller_cases was at_ with ⟨rfl, same⟩ | ⟨_, earlier⟩
    · cases same
      exact ⟨j, none, was⟩
    · exact ⟨j, ending', earlier⟩
  · rintro ⟨j, ending', at_⟩
    by_cases same : i = j
    · subst same
      cases was.symm.trans at_
      exact ⟨i, ending, List.getElem?_set_self (List.getElem?_eq_some_iff.1 was).1⟩
    · exact ⟨j, ending', by rw [List.getElem?_set_ne same, at_]⟩

theorem countP_set_of_neg (test : Caller κ → Bool) (was : callers[i]? = some found)
    (waited : test found = false) :
    (callers.set i caller).countP test = callers.countP test + if test caller then 1 else 0 := by
  obtain ⟨inside, same⟩ := List.getElem?_eq_some_iff.1 was
  rw [List.countP_set inside, same, waited]
  rfl

theorem countP_spared_set {key : κ} {role : Role} (told : Ending)
    (was : callers[i]? = some ⟨key, role, none⟩) :
    (callers.set i ⟨key, role, some told⟩).countP Caller.spared =
      callers.countP Caller.spared + if role.leads?.isNone then 1 else 0 :=
  countP_set_of_neg Caller.spared was rfl

end Callers

theorem entered_mem_snoc {past : List (Event κ)} {action : Action κ} {evicted : List κ} {key : κ}
    {flight : Nat} (other : action.starts = false) :
    (∃ gone, ⟨.entered key (.lead flight), gone⟩ ∈ past ++ [⟨action, evicted⟩]) ↔
      ∃ gone, ⟨.entered key (.lead flight), gone⟩ ∈ past := by
  refine exists_congr fun gone => ⟨fun member => ?_, List.mem_append_left _⟩
  rcases List.mem_append.1 member with earlier | new
  · exact earlier
  · cases List.mem_singleton.1 new
    cases other

namespace Answered

variable {memo : Memo κ} {past : List (Event κ)} {traffic next : Traffic κ} {capacity : Nat}

theorem lt_of_leads (answered : Answered memo past traffic) {key : κ} {flight : Nat}
    (leads : Leads traffic.callers key flight) : flight < traffic.shared.published.length := by
  obtain ⟨i, ending, leader⟩ := leads
  rcases answered.led leader with ⟨_, _, air⟩ | ⟨_, _, _, ground⟩
  · exact (List.getElem?_eq_some_iff.1 air).1
  · exact (List.getElem?_eq_some_iff.1 ground).1

theorem enter_of_leads?_eq_none (answered : Answered memo past traffic) {key : κ} {role : Role}
    {shared : Shared κ} (evicted : List κ) (idle : role.leads? = none)
    (published : shared.published = traffic.shared.published)
    (inFlight : shared.inFlight = traffic.shared.inFlight)
    (misses : shared.memo.misses = traffic.shared.memo.misses)
    (hits : shared.memo.hits = traffic.shared.memo.hits + if role.ending?.isSome then 1 else 0)
    (joined : ∀ flight, role = .follow flight → (key, flight) ∈ traffic.shared.inFlight) :
    Answered memo (past ++ [⟨.entered key role, evicted⟩])
      ⟨shared, traffic.callers ++ [⟨key, role, role.ending?⟩]⟩ where
  led at_ := by
    rcases getElem?_append_caller at_ with earlier | new
    · have flown := answered.led earlier
      rw [Flown] at flown ⊢
      rwa [landings_append, landings_entered, List.append_nil, published]
    · cases new
      cases idle
  followed at_ := by
    rcases getElem?_append_caller at_ with earlier | new
    · obtain ⟨leads, told⟩ := answered.followed earlier
      exact ⟨leads.append, published ▸ told⟩
    · cases new
      obtain ⟨j, leader⟩ := answered.flying (joined _ rfl)
      exact ⟨Leads.append ⟨j, none, leader⟩, by simp [Role.ending?]⟩
  started := by
    intro other number
    rw [entered_mem_snoc (by rw [Action.starts_entered, idle]; rfl), answered.started]
    exact (leads_append_iff idle).symm
  flying member := by
    obtain ⟨i, at_⟩ := answered.flying (inFlight ▸ member)
    exact ⟨i, getElem?_append_of_some at_⟩
  unborn late := by
    rw [landings_append, landings_entered, List.append_nil]
    exact answered.unborn (published ▸ late)
  starts_eq := by
    rw [starts_snoc, Action.starts_entered, idle, published]
    exact answered.starts_eq
  misses_eq := by
    rw [misses, starts_snoc, Action.starts_entered, idle]
    exact answered.misses_eq
  hits_eq := by
    rw [hits, answered.hits_eq, List.countP_append, Nat.add_assoc]
    simp [Caller.spared, idle, List.countP_cons]

theorem enter_lead (answered : Answered memo past traffic) (key : κ) (evicted : List κ) :
    Answered memo
      (past ++ [⟨.entered key (.lead traffic.shared.published.length), evicted⟩])
      ⟨⟨traffic.shared.memo.started,
          (key, traffic.shared.published.length) :: traffic.shared.inFlight,
          traffic.shared.published ++ [none]⟩,
        traffic.callers ++ [⟨key, .lead traffic.shared.published.length, none⟩]⟩ where
  led at_ := by
    rw [Flown, landings_append, landings_entered, List.append_nil]
    rcases getElem?_append_caller at_ with earlier | new
    · have inside := answered.lt_of_leads ⟨_, _, earlier⟩
      rw [List.getElem?_append_left inside]
      exact answered.led earlier
    · cases new
      exact .inl ⟨rfl, answered.unborn (Nat.le_refl _), List.getElem?_concat_length⟩
  followed at_ := by
    rcases getElem?_append_caller at_ with earlier | new
    · obtain ⟨leads, told⟩ := answered.followed earlier
      rw [List.getElem?_append_left (answered.lt_of_leads leads)]
      exact ⟨leads.append, told⟩
    · cases new
  started := by
    intro other flight
    constructor
    · rintro ⟨gone, member⟩
      rcases List.mem_append.1 member with earlier | new
      · exact (answered.started.1 ⟨gone, earlier⟩).append
      · cases List.mem_singleton.1 new
        exact ⟨_, none, List.getElem?_concat_length⟩
    · rintro ⟨i, ending, at_⟩
      rcases getElem?_append_caller at_ with earlier | new
      · obtain ⟨gone, member⟩ := answered.started.2 ⟨i, ending, earlier⟩
        exact ⟨gone, List.mem_append_left _ member⟩
      · cases new
        exact ⟨evicted, List.mem_append_right _ (List.mem_singleton.2 rfl)⟩
  flying member := by
    rcases List.mem_cons.1 member with new | earlier
    · cases new
      exact ⟨_, List.getElem?_concat_length⟩
    · obtain ⟨i, at_⟩ := answered.flying earlier
      exact ⟨i, getElem?_append_of_some at_⟩
  unborn late := by
    rw [List.length_append] at late
    rw [landings_append, landings_entered, List.append_nil]
    exact answered.unborn (Nat.le_of_succ_le late)
  starts_eq := by
    rw [starts_snoc, answered.starts_eq, List.length_append]
    rfl
  misses_eq := by
    rw [starts_snoc, ← Nat.add_assoc, ← answered.misses_eq]
    rfl
  hits_eq := by
    rw [List.countP_append]
    exact answered.hits_eq

theorem wake (answered : Answered memo past traffic) {i : Nat} {key : κ} {flight : Nat}
    {result : Except SearchError Outcome} (evicted : List κ)
    (following : traffic.callers[i]? = some ⟨key, .follow flight, none⟩)
    (published : traffic.shared.published[flight]? = some (some result)) :
    Answered memo (past ++ [⟨.woke key flight, evicted⟩])
      ⟨{ traffic.shared with
          memo := { traffic.shared.memo with hits := traffic.shared.memo.hits + 1 } },
        traffic.callers.set i ⟨key, .follow flight, some (.ofPublished result)⟩⟩ where
  led at_ := by
    rw [Flown, landings_append, landings_woke, List.append_nil]
    rcases getElem?_set_caller_cases following at_ with ⟨_, same⟩ | ⟨_, earlier⟩
    · cases same
    · exact answered.led earlier
  followed at_ := by
    rcases getElem?_set_caller_cases following at_ with ⟨_, same⟩ | ⟨_, earlier⟩
    · cases same
      obtain ⟨leads, _⟩ := answered.followed following
      exact ⟨(leads_set_iff following).2 leads,
        fun told came => ⟨result, published, (Option.some.inj came).symm⟩⟩
    · obtain ⟨leads, told⟩ := answered.followed earlier
      exact ⟨(leads_set_iff following).2 leads, told⟩
  started := by
    intro other number
    rw [entered_mem_snoc rfl, answered.started]
    exact (leads_set_iff following).symm
  flying member := by
    obtain ⟨j, at_⟩ := answered.flying member
    have apart : i ≠ j := by
      rintro rfl
      cases following.symm.trans at_
    exact ⟨j, by rw [List.getElem?_set_ne apart, at_]⟩
  unborn late := by
    rw [landings_append, landings_woke, List.append_nil]
    exact answered.unborn late
  starts_eq := by
    rw [starts_snoc]
    exact answered.starts_eq
  misses_eq := by
    rw [starts_snoc]
    exact answered.misses_eq
  hits_eq := by
    rw [countP_spared_set _ following]
    exact congrArg (· + 1) answered.hits_eq

theorem told (answered : Answered memo past traffic) {i : Nat} {key : κ} {flight : Nat}
    {told : Ending} (follower : traffic.callers[i]? = some ⟨key, .follow flight, some told⟩) :
    ∃ reply, landings flight past = [(key, reply)] ∧ told = .ofPublished reply.published := by
  obtain ⟨⟨j, ending, leader⟩, came⟩ := answered.followed follower
  obtain ⟨result, published, rfl⟩ := came told rfl
  rcases answered.led leader with ⟨_, _, air⟩ | ⟨reply, _, landed, published'⟩
  · cases air.symm.trans published
  · cases published'.symm.trans published
    exact ⟨reply, landed, rfl⟩

variable [DecidableEq κ]

theorem land (answered : Answered memo past traffic)
    (sound : traffic.Sound capacity) {i : Nat} {key : κ} {flight : Nat} (reply : Reply)
    (evicted : List κ) (leading : traffic.callers[i]? = some ⟨key, .lead flight, none⟩) :
    Answered memo (past ++ [⟨.landed key flight reply, evicted⟩])
      ⟨traffic.shared.land key flight reply,
        traffic.callers.set i ⟨key, .lead flight, some (.ofReply reply)⟩⟩ where
  led {j other number ending} at_ := by
    -- The flight has a place among the published results, and its leader still computes, so it has
    -- not landed before.
    have inside := answered.lt_of_leads ⟨_, _, leading⟩
    rcases getElem?_set_caller_cases leading at_ with ⟨_, same⟩ | ⟨different, earlier⟩
    · cases same
      rcases answered.led leading with ⟨_, grounded, _⟩ | ⟨_, landed, _⟩
      · refine .inr ⟨reply, rfl, ?_, List.getElem?_set_self inside⟩
        rw [landings_append, landings_landed_self, grounded, List.nil_append]
      · cases landed
    · have apart : flight ≠ number := fun same =>
        different (sound.leader_unique earlier leading rfl (congrArg some same))
      rw [Flown, landings_append, landings_landed_of_ne apart, List.append_nil]
      change _ ∨ ∃ reply', _ ∧ _ ∧ (traffic.shared.published.set flight _)[number]? = _
      have flown := answered.led earlier
      rw [Flown] at flown
      simpa [Shared.land, List.getElem?_set_ne apart] using flown
  followed {j other number ending} at_ := by
    rcases getElem?_set_caller_cases leading at_ with ⟨_, same⟩ | ⟨_, earlier⟩
    · cases same
    · obtain ⟨leads, told⟩ := answered.followed earlier
      refine ⟨(leads_set_iff leading).2 leads, fun ending' came => ?_⟩
      obtain ⟨result, published, right⟩ := told ending' came
      refine ⟨result, ?_, right⟩
      have apart : flight ≠ number := by
        rintro rfl
        rcases answered.led leading with ⟨_, _, air⟩ | ⟨_, landed, _⟩
        · cases air.symm.trans published
        · cases landed
      rwa [Shared.land, List.getElem?_set_ne apart]
  started := by
    intro other number
    rw [entered_mem_snoc rfl, answered.started]
    exact (leads_set_iff leading).symm
  flying {other number} member := by
    obtain ⟨member, different⟩ := List.mem_filter.1 member
    obtain ⟨j, at_⟩ := answered.flying member
    have apart : i ≠ j := by
      rintro rfl
      cases leading.symm.trans at_
      simp at different
    exact ⟨j, by rw [List.getElem?_set_ne apart, at_]⟩
  unborn {number} late := by
    have late : traffic.shared.published.length ≤ number := by simpa [Shared.land] using late
    have apart : flight ≠ number := by
      rintro rfl
      exact absurd (answered.lt_of_leads ⟨_, _, leading⟩) (Nat.not_lt.2 late)
    rw [landings_append, landings_landed_of_ne apart, answered.unborn late, List.nil_append]
  starts_eq := by
    rw [starts_snoc, answered.starts_eq]
    simp [Shared.land, Action.starts]
  misses_eq := by
    rw [starts_snoc]
    change (traffic.shared.memo.settle key reply.published).misses = _
    rw [Memo.settle_misses, answered.misses_eq]
    rfl
  hits_eq := by
    rw [countP_spared_set _ leading]
    change (traffic.shared.memo.settle key reply.published).hits = _
    rw [Memo.settle_hits, answered.hits_eq]
    rfl

theorem step (answered : Answered memo past traffic) (sound : traffic.Sound capacity)
    {action : Action κ} (step : traffic.Step action next) (evicted : List κ) :
    Answered memo (past ++ [⟨action, evicted⟩]) next := by
  cases step with
  | enter key =>
    rcases traffic.shared.enter_cases key with ⟨outcome, _, entered⟩ | ⟨flight, flying, entered⟩ |
      ⟨_, _, entered⟩
    · rw [entered]
      exact answered.enter_of_leads?_eq_none evicted rfl rfl rfl rfl rfl (by simp)
    · rw [entered]
      refine answered.enter_of_leads?_eq_none evicted rfl rfl rfl rfl rfl ?_
      rintro _ ⟨⟩
      exact flying
    · rw [entered]
      exact answered.enter_lead key evicted
  | land reply leading => exact answered.land sound reply evicted leading
  | wake following woken =>
    obtain ⟨published, rfl⟩ := Shared.wake_eq_some woken
    exact answered.wake evicted following published

theorem run (answered : Answered memo past traffic) (sound : traffic.Sound capacity)
    {events : List (Event κ)} (run : Run traffic events next) :
    Answered memo (past ++ events) next := by
  induction run generalizing past with
  | stop => rwa [List.append_nil]
  | step step later ih =>
    rw [List.append_cons]
    exact ih (answered.step sound step _) (step.sound sound)

end Answered

/-! ## Whole runs -/

section Runs

variable [DecidableEq κ] {capacity : Nat} {memo : Memo κ} {traffic next : Traffic κ}
  {past : List (Event κ)}

/-- Landing with an outcome or in a panic leaves the key in the memo, landing with an error does
not. -/
theorem Sound.peek?_of_landed (sound : traffic.Sound capacity) {key : κ} {flight : Nat}
    {reply : Reply} (step : traffic.Step (.landed key flight reply) next) :
    next.shared.memo.peek? key = reply.published.toOption := by
  cases step with
  | land reply leading =>
    have flying := List.mem_map_of_mem (f := Prod.fst) (sound.leading leading)
    change (traffic.shared.memo.settle key reply.published).peek? key = _
    cases reply.published with
    | ok outcome => exact sound.within.peek?_publish_self
    | error e => exact Memo.peek?_eq_none_iff.2 fun held => sound.apart key held flying

/-- A follower whose flight has landed can wake up at once, and is told what the flight landed
with. -/
theorem Answered.exists_wake (answered : Answered memo past traffic) {i : Nat} {key : κ}
    {flight : Nat} {reply : Reply}
    (waiting : traffic.callers[i]? = some ⟨key, .follow flight, none⟩)
    (landed : landings flight past = [(key, reply)]) :
    ∃ next, traffic.Step (.woke key flight) next ∧ next.callers[i]? =
      some ⟨key, .follow flight, some (.ofPublished reply.published)⟩ := by
  obtain ⟨⟨j, ending, leader⟩, _⟩ := answered.followed waiting
  rcases answered.led leader with ⟨_, air, _⟩ | ⟨reply', _, landed', published⟩
  · rw [air] at landed
    cases landed
  · rw [landed'] at landed
    cases landed
    have woken : ∃ shared, traffic.shared.wake flight = some (reply.published, shared) :=
      ⟨_, by simp only [Shared.wake, published]; rfl⟩
    obtain ⟨shared, woken⟩ := woken
    exact ⟨_, .wake waiting woken,
      List.getElem?_set_self (List.getElem?_eq_some_iff.1 waiting).1⟩

/-- In every run of a memo, however many callers there are and in whatever order they enter, land
and wake up: a computation that was started is run by exactly one caller, lands at most once, and
its leader comes out with the very reply it landed with.  A caller that followed a flight followed
one for its own key; if it came out, it was told what that flight published when it landed, the
result of the computation or a runtime error if it was torn down, and if it waits for a flight that
has landed it can wake up to be told so, whatever has become of the key since.  Landing with an
error leaves the key out of the memo and any other landing leaves it in.  The memo counts a miss for
each computation that was started, and a hit for each caller that came out without running one. -/
theorem flights_answered (sized : Memo.ofCapacity capacity = .ok memo) {events : List (Event κ)}
    (run : Run (quiet memo) events traffic) :
    (∀ {key flight evicted}, ⟨.entered key (.lead flight), evicted⟩ ∈ events →
      ∃ (i : Nat) (ending : Option Ending),
        traffic.callers[i]? = some ⟨key, .lead flight, ending⟩ ∧
        (∀ {j : Nat} {caller}, traffic.callers[j]? = some caller → caller.role = .lead flight →
          j = i) ∧
        ((ending = none ∧ landings flight events = []) ∨
          ∃ reply, ending = some (.ofReply reply) ∧ landings flight events = [(key, reply)])) ∧
    (∀ {i : Nat} {key flight ending},
      traffic.callers[i]? = some ⟨key, .follow flight, ending⟩ →
        (∃ evicted, ⟨.entered key (.lead flight), evicted⟩ ∈ events) ∧
        (∀ told, ending = some told → ∃ reply, landings flight events = [(key, reply)] ∧
          told = .ofPublished reply.published) ∧
        ∀ reply, ending = none → landings flight events = [(key, reply)] →
          ∃ next, traffic.Step (.woke key flight) next ∧ next.callers[i]? =
            some ⟨key, .follow flight, some (.ofPublished reply.published)⟩) ∧
    (∀ {key flight reply next}, traffic.Step (.landed key flight reply) next →
      next.shared.memo.peek? key = reply.published.toOption) ∧
    traffic.shared.memo.misses = starts events ∧
    traffic.shared.memo.hits = traffic.callers.countP Caller.spared := by
  have quietSound := sound_quiet sized
  have sound := run.sound quietSound
  have answered := (answered_quiet memo).run quietSound run
  rw [List.nil_append] at answered
  have unused : memo.hits = 0 ∧ memo.misses = 0 := by
    obtain ⟨_, rfl⟩ := Memo.eq_of_ofCapacity sized
    exact ⟨rfl, rfl⟩
  refine ⟨?_, ?_, sound.peek?_of_landed, ?_, ?_⟩
  · intro key flight evicted member
    obtain ⟨i, ending, leader⟩ := answered.started.1 ⟨evicted, member⟩
    refine ⟨i, ending, leader, ?_, ?_⟩
    · intro j caller at_ leads
      exact sound.leader_unique at_ leader (by rw [leads]; rfl) rfl
    · rcases answered.led leader with ⟨computing, air, _⟩ | ⟨reply, came, landed, _⟩
      · exact .inl ⟨computing, air⟩
      · exact .inr ⟨reply, came, landed⟩
  · intro i key flight ending follower
    refine ⟨answered.started.2 (answered.followed follower).1, ?_, ?_⟩
    · rintro told rfl
      exact answered.told follower
    · rintro reply rfl landed
      exact answered.exists_wake follower landed
  · rw [answered.misses_eq, unused.2, Nat.zero_add]
  · rw [answered.hits_eq, unused.1, Nat.zero_add]

/-- A follower that sleeps while its key is evicted and computed anew, in a memo with room for
one. -/
def overslept : List (Event Nat) :=
  [⟨.entered 0 (.lead 0), []⟩, ⟨.entered 0 (.follow 0), []⟩,
    ⟨.landed 0 0 (.panic "out of memory"), []⟩, ⟨.entered 1 (.lead 1), []⟩,
    ⟨.landed 1 1 (.outcome .buildFailure), [0]⟩, ⟨.entered 0 (.lead 2), []⟩,
    ⟨.landed 0 2 (.outcome .buildFailure), [1]⟩, ⟨.woke 0 0, []⟩]

theorem flights_answered_overslept :
    ∃ (memo : Memo Nat) (traffic : Traffic Nat), Memo.ofCapacity 1 = .ok memo ∧
      Run (quiet memo) overslept traffic ∧
      (∃ told reply, traffic.callers[1]? = some ⟨0, .follow 0, some told⟩ ∧
        landings 0 overslept = [(0, reply)] ∧ told = .ofPublished reply.published ∧
        told = .found ⟨.runtimeError, true⟩) ∧
      traffic.shared.memo.peek? 0 = some .buildFailure ∧
      traffic.shared.memo.misses = 3 ∧ traffic.shared.memo.hits = 1 := by
  have sized : Memo.ofCapacity 1 = .ok (⟨1, [], 0, 0⟩ : Memo Nat) := rfl
  have run := Run.step (Step.enter (quiet (⟨1, [], 0, 0⟩ : Memo Nat)) 0)
    (.step (.enter _ 0)
      (.step (.land (i := 0) (.panic "out of memory") rfl)
        (.step (.enter _ 1)
          (.step (.land (i := 2) (.outcome .buildFailure) rfl)
            (.step (.enter _ 0)
              (.step (.land (i := 3) (.outcome .buildFailure) rfl)
                (.step (.wake (i := 1) rfl rfl) (.stop _))))))))
  obtain ⟨_, followers, _, misses, hits⟩ := flights_answered sized run
  obtain ⟨reply, landed, told⟩ := (@followers 1 0 0 _ rfl).2.1 _ rfl
  exact ⟨_, _, sized, run, ⟨_, reply, rfl, landed, told, rfl⟩, rfl, misses, hits⟩

end Runs

end Traffic

end FlagSearch
