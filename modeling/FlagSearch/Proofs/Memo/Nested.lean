import FlagSearch.Proofs.Memo.Recency
import FlagSearch.Proofs.Memo.Traffic

/-!
# A memo used by its own computations

On a single thread the uses of a memo are a list of calls, and a computation may make such a list of
calls itself before it ends.  Its outcome is then published after theirs, although it was asked for
before them.

What a memo knows at any moment is a function of the *touches* so far: the hits and the publications,
in their order.  The touches are read off the answers that the callers were given.

* `Touch`, `Call.touches` — hits and publications, and those of a call by its answer.
* `recalled` — what a memo of some capacity knows after a list of touches.
* `Moment`, `Makes` — the moments at which a list of calls, or a computation of one of them, makes a
  call.
* `Moment.Faithful` — what is held at a moment is what is to be recalled; `Faithful.after` keeps it.
* `Answered` — the answer that a call has to be given.
* `every_call_recalls` — every call, however deeply nested, is answered so and leaves a faithful memo.
-/

namespace FlagSearch

variable {κ : Type}

/-! ## Touches -/

/-- What makes a key the one touched last. -/
inductive Touch (κ : Type) where
  /-- The key was asked for and found. -/
  | hit (key : κ)
  /-- An outcome was published for the key. -/
  | publication (key : κ) (outcome : Outcome)

namespace Touch

def key : Touch κ → κ
  | hit key => key
  | publication key _ => key

def published? [DecidableEq κ] (key : κ) : Touch κ → Option Outcome
  | hit _ => none
  | publication other outcome => if other = key then some outcome else none

end Touch

/-- The end of a computation touches its key unless it is an error. -/
def Reply.touches (key : κ) (reply : Reply) : List (Touch κ) :=
  match reply.published with
  | .ok scored => [.publication key scored]
  | .error _ => []

mutual

def Call.touches : Call κ → Answer → List (Touch κ)
  | .get key _ _, .served _ => [.hit key]
  | .get key inner _, .computed answers reply => touchesAll inner answers ++ reply.touches key
  | .burst key _ followers, .burst _ _ 0 => List.replicate (followers + 1) (.hit key)
  | .burst key reply _, .burst _ _ (_ + 1) => reply.touches key
  | _, _ => []

def Call.touchesAll : List (Call κ) → List (Answer × MemoStats) → List (Touch κ)
  | call :: calls, (answer, _) :: answers => call.touches answer ++ touchesAll calls answers
  | _, _ => []

end

section Recall

variable [DecidableEq κ] {history : List (Touch κ)} {key other : κ} {outcome : Outcome}

/-- The outcome that was published for a key last. -/
def lastPublished (history : List (Touch κ)) (key : κ) : Option Outcome :=
  history.reverse.findSome? (Touch.published? key)

/-- The keys that are remembered: of all that were touched, those touched last. -/
def remembered (capacity : Nat) (history : List (Touch κ)) : List κ :=
  (recent (history.map Touch.key)).take capacity

def recalled (capacity : Nat) (history : List (Touch κ)) (key : κ) : Option Outcome :=
  if key ∈ remembered capacity history then lastPublished history key else none

@[simp] theorem lastPublished_hit :
    lastPublished (history ++ [.hit key]) other = lastPublished history other := by
  simp only [lastPublished, List.reverse_append, List.reverse_singleton, List.singleton_append,
    List.findSome?_cons]
  rfl

theorem lastPublished_publication_self :
    lastPublished (history ++ [.publication key outcome]) key = some outcome := by
  simp [lastPublished, Touch.published?]

theorem lastPublished_publication_ne (different : other ≠ key) :
    lastPublished (history ++ [.publication key outcome]) other = lastPublished history other := by
  simp only [lastPublished, List.reverse_append, List.reverse_singleton, List.singleton_append,
    List.findSome?_cons, Touch.published?, if_neg different.symm]

end Recall

/-! ## What a memo recalls -/

section Memos

variable [DecidableEq κ] {capacity : Nat} {history : List (Touch κ)} {memo : Memo κ} {key : κ}
  {outcome : Outcome}

/-- A memo that holds what is remembered of a history, with the outcomes published last. -/
structure Memo.Recalls (capacity : Nat) (history : List (Touch κ)) (memo : Memo κ) : Prop where
  within : memo.Within capacity
  keys_eq : memo.keys = remembered capacity history
  last : ∀ entry ∈ memo.entries, lastPublished history entry.1 = some entry.2

namespace Memo.Recalls

theorem ofCapacity (sized : Memo.ofCapacity capacity = .ok memo) : memo.Recalls capacity [] := by
  have within := within_of_ofCapacity sized
  obtain ⟨_, rfl⟩ := eq_of_ofCapacity sized
  exact ⟨within, by simp [keys, remembered], by simp⟩

theorem peek?_eq (recalls : memo.Recalls capacity history) (key : κ) :
    memo.peek? key = recalled capacity history key := by
  rw [recalled, ← recalls.keys_eq]
  cases held : memo.peek? key with
  | none => rw [if_neg (peek?_eq_none_iff.1 held)]
  | some outcome =>
    obtain ⟨before, after, split, _⟩ := List.lookup_eq_some_iff.1 held
    rw [if_pos (mem_keys_of_peek?_eq_some held)]
    exact (recalls.last (key, outcome) (by simp [split])).symm

theorem recount (recalls : memo.Recalls capacity history) (hits misses : Nat) :
    Recalls capacity history { memo with hits, misses } :=
  ⟨recalls.within.recount hits misses, recalls.keys_eq, recalls.last⟩

theorem keys_publish (recalls : memo.Recalls capacity history) (touch : Touch κ) :
    (memo.publish touch.key outcome).keys = remembered capacity (history ++ [touch]) := by
  have held := recalls.keys_eq
  rw [← recalls.within.capacity_eq] at held ⊢
  rw [remembered, List.map_append]
  exact keys_publish_of_recent held touch.key outcome

theorem publish (recalls : memo.Recalls capacity history) (key : κ) (outcome : Outcome) :
    (memo.publish key outcome).Recalls capacity (history ++ [.publication key outcome]) where
  within := recalls.within.publish
  keys_eq := recalls.keys_publish (.publication key outcome)
  last entry member := by
    rcases List.mem_cons.1 (List.mem_of_mem_take member) with rfl | kept
    · exact lastPublished_publication_self
    · obtain ⟨earlier, different⟩ := List.mem_filter.1 kept
      rw [lastPublished_publication_ne (by simpa using different)]
      exact recalls.last entry earlier

theorem hit (recalls : memo.Recalls capacity history) (held : memo.peek? key = some outcome) :
    (memo.publish key outcome).Recalls capacity (history ++ [.hit key]) where
  within := recalls.within.publish
  keys_eq := recalls.keys_publish (.hit key)
  last entry member := by
    rw [lastPublished_hit]
    rcases List.mem_cons.1 (List.mem_of_mem_take member) with rfl | kept
    · obtain ⟨before, after, split, _⟩ := List.lookup_eq_some_iff.1 held
      exact recalls.last (key, outcome) (by simp [split])
    · exact recalls.last entry (List.mem_filter.1 kept).1

theorem settle (recalls : memo.Recalls capacity history) (key : κ) (reply : Reply) :
    (memo.settle key reply.published).Recalls capacity (history ++ reply.touches key) := by
  unfold Reply.touches
  cases reply.published with
  | ok scored => exact recalls.publish key scored
  | error e =>
    rw [List.append_nil]
    exact recalls

end Memo.Recalls

end Memos

/-! ## Several callers at once -/

namespace Shared

variable {shared : Shared κ} {key : κ} {outcome : Outcome} {flight : Nat}

theorem foldl_leaveOne_served (endings : List Ending) (shared : Shared κ) (count : Nat) :
    (List.replicate count (Role.served outcome)).foldl leaveOne (endings, shared) =
      (endings ++ List.replicate count (.found ⟨outcome, true⟩), shared) := by
  induction count generalizing endings with
  | zero => simp
  | succ count ih =>
    rw [List.replicate_succ, List.foldl_cons, leaveOne, ih, List.replicate_succ,
      List.append_assoc, List.singleton_append]

theorem foldl_leaveOne_follow (shared : Shared κ) {result : Except SearchError Outcome}
    (landed : shared.published[flight]? = some (some result)) (endings : List Ending)
    (count : Nat) :
    (List.replicate count (Role.follow flight)).foldl leaveOne (endings, shared) =
      (endings ++ List.replicate count (.ofPublished result),
        { shared with memo := { shared.memo with hits := shared.memo.hits + count } }) := by
  induction count generalizing endings shared with
  | zero => simp
  | succ count ih =>
    have woken : shared.wake flight = some (result,
        { shared with memo := { shared.memo with hits := shared.memo.hits + 1 } }) := by
      simp only [wake, landed]
    rw [List.replicate_succ, List.foldl_cons, leaveOne, woken]
    refine (ih { shared with memo := { shared.memo with hits := shared.memo.hits + 1 } } landed
      _).trans ?_
    rw [List.replicate_succ, List.append_assoc, List.singleton_append]
    simp only [Nat.add_assoc, Nat.add_comm 1 count]

variable [DecidableEq κ]

theorem perform_peek (shared : Shared κ) (key : κ) :
    shared.perform (.peek key) = (.peeked (shared.memo.peek? key), shared) := by
  rw [perform]

theorem perform_size (shared : Shared κ) :
    shared.perform .size = (.sized shared.memo.size shared.memo.capacity, shared) := by
  rw [perform]

theorem repeat_enterOne_of_held (shared : Shared κ) {capacity : Nat} {history : List (Touch κ)}
    (recalls : shared.memo.Recalls capacity history) (held : shared.memo.peek? key = some outcome)
    (count : Nat) :
    ∃ memo : Memo κ,
      Nat.repeat (enterOne key) count ([], shared) =
        (List.replicate count (.served outcome), { shared with memo }) ∧
      memo.Recalls capacity (history ++ List.replicate count (.hit key)) ∧
      memo.peek? key = some outcome := by
  induction count with
  | zero =>
    refine ⟨shared.memo, rfl, ?_, held⟩
    rw [List.replicate_zero, List.append_nil]
    exact recalls
  | succ count ih =>
    obtain ⟨memo, entered, recalls, held⟩ := ih
    have next : Shared.enter { shared with memo } key = _ := enter_of_held held
    refine ⟨{ memo.publish key outcome with hits := memo.hits + 1 }, ?_, ?_, ?_⟩
    · rw [Nat.repeat, entered, enterOne, next, List.replicate_succ']
    · rw [List.replicate_succ', ← List.append_assoc]
      exact (recalls.hit held).recount _ _
    · exact recalls.within.peek?_publish_self

theorem repeat_enterOne_of_flying (shared : Shared κ) (absent : shared.memo.peek? key = none)
    (flying : shared.inFlight.lookup key = some flight) (count : Nat) :
    Nat.repeat (enterOne key) count ([], shared) =
      (List.replicate count (.follow flight), shared) := by
  induction count with
  | zero => rfl
  | succ count ih =>
    rw [Nat.repeat, ih, enterOne, enter_of_flying absent flying, List.replicate_succ']

theorem crowd_of_held {capacity : Nat} {history : List (Touch κ)}
    (recalls : shared.memo.Recalls capacity history) (held : shared.memo.peek? key = some outcome)
    (reply : Reply) (followers : Nat) :
    ∃ memo : Memo κ,
      shared.crowd key reply followers =
        (.burst (.found ⟨outcome, true⟩) (List.replicate followers (.found ⟨outcome, true⟩)) 0,
          { shared with memo }) ∧
      memo.Recalls capacity (history ++ List.replicate (followers + 1) (.hit key)) := by
  have first : Memo.Recalls capacity (history ++ [.hit key])
      { shared.memo.publish key outcome with hits := shared.memo.hits + 1 } :=
    (recalls.hit held).recount _ _
  obtain ⟨memo, entered, recalls, _⟩ := repeat_enterOne_of_held { shared with
      memo := { shared.memo.publish key outcome with hits := shared.memo.hits + 1 } }
    first recalls.within.peek?_publish_self followers
  refine ⟨memo, ?_, ?_⟩
  · rw [crowd, enter_of_held held]
    simp only [entered, foldl_leaveOne_served, List.nil_append]
  · rwa [List.replicate_succ, ← List.singleton_append, ← List.append_assoc]

theorem published_land (inside : flight < shared.published.length) (reply : Reply) :
    (shared.land key flight reply).published[flight]? = some (some reply.published) := by
  simp [land, inside]

theorem crowd_of_grounded (absent : shared.memo.peek? key = none) (grounded : key ∉ shared.flying)
    (reply : Reply) (followers : Nat) :
    let landed := (shared.enter key).2.land key shared.published.length reply
    shared.crowd key reply followers =
      (.burst (.ofReply reply) (List.replicate followers (.ofPublished reply.published)) 1,
        { landed with memo := { landed.memo with hits := landed.memo.hits + followers } }) := by
  have entered := enter_of_grounded absent grounded
  have waiting := repeat_enterOne_of_flying
    ⟨shared.memo.started, (key, shared.published.length) :: shared.inFlight,
      shared.published ++ [none]⟩ absent List.lookup_cons_self followers
  rw [crowd, entered]
  simp only [waiting]
  rw [foldl_leaveOne_follow _ (published_land (by simp) reply), List.nil_append]

end Shared

/-! ## Moments -/

/-- A moment in the use of a memo. -/
structure Moment (κ : Type) where
  shared : Shared κ
  history : List (Touch κ)
  /-- The keys whose computations are under way, the innermost first. -/
  computing : List κ

namespace Moment

variable [DecidableEq κ] {capacity : Nat} {moment made : Moment κ} {key : κ} {outcome : Outcome}
  {inner calls : List (Call κ)} {call other : Call κ} {reply : Reply}

def after (moment : Moment κ) (call : Call κ) : Moment κ :=
  ⟨(moment.shared.perform call).2,
    moment.history ++ call.touches (moment.shared.perform call).1, moment.computing⟩

def afterAll (moment : Moment κ) (calls : List (Call κ)) : Moment κ :=
  ⟨(moment.shared.performAll calls).2,
    moment.history ++ Call.touchesAll calls (moment.shared.performAll calls).1, moment.computing⟩

def entering (moment : Moment κ) (key : κ) : Moment κ :=
  ⟨(moment.shared.enter key).2, moment.history, key :: moment.computing⟩

def landing (moment : Moment κ) (key : κ) (flight : Nat) (reply : Reply) : Moment κ :=
  ⟨moment.shared.land key flight reply, moment.history ++ reply.touches key,
    moment.computing.tail⟩

/-- At a moment, calls are carried out one after the other; some call is made by one of them. -/
inductive Makes : Moment κ → List (Call κ) → Moment κ → Call κ → Prop where
  | first {moment : Moment κ} {call : Call κ} {calls : List (Call κ)} :
      Makes moment (call :: calls) moment call
  | later {moment made : Moment κ} {call other : Call κ} {calls : List (Call κ)}
      (makes : Makes (moment.after call) calls made other) :
      Makes moment (call :: calls) made other
  | inside {moment made : Moment κ} {key : κ} {inner calls : List (Call κ)} {reply : Reply}
      {flight : Nat} {other : Call κ} (leads : (moment.shared.enter key).1 = .lead flight)
      (makes : Makes (moment.entering key) inner made other) :
      Makes moment (.get key inner reply :: calls) made other

/-- The memo holds what is remembered, each key with its last outcome, in the order of the last
touches. -/
def Remembers (capacity : Nat) (moment : Moment κ) : Prop :=
  moment.shared.memo.keys = remembered capacity moment.history ∧
    ∀ key, moment.shared.memo.peek? key = recalled capacity moment.history key

/-- A moment whose memo recalls the history and whose flights are the computations under way. -/
structure Faithful (capacity : Nat) (moment : Moment κ) : Prop where
  recalls : moment.shared.memo.Recalls capacity moment.history
  flying_eq : moment.shared.flying = moment.computing

theorem Faithful.remembers (faithful : moment.Faithful capacity) : moment.Remembers capacity :=
  ⟨faithful.recalls.keys_eq, faithful.recalls.peek?_eq⟩

theorem faithful_idle {memo : Memo κ} (sized : Memo.ofCapacity capacity = .ok memo) :
    Faithful capacity ⟨.idle memo, [], []⟩ :=
  ⟨.ofCapacity sized, rfl⟩

/-! ### One call -/

theorem afterAll_nil (moment : Moment κ) : moment.afterAll [] = moment := by
  simp only [afterAll, Shared.performAll, Call.touchesAll, List.append_nil]

theorem afterAll_cons (moment : Moment κ) (call : Call κ) (calls : List (Call κ)) :
    moment.afterAll (call :: calls) = (moment.after call).afterAll calls := by
  simp only [afterAll, after, Shared.performAll, Call.touchesAll, List.append_assoc]

theorem after_get_of_lead {flight : Nat} (leads : (moment.shared.enter key).1 = .lead flight) :
    moment.after (.get key inner reply) =
      ((moment.entering key).afterAll inner).landing key flight reply := by
  -- The computation runs between entering and landing, so the touches of its calls come before its
  -- own.
  cases entered : moment.shared.enter key with
  | mk role shared =>
    rw [entered] at leads
    cases leads
    have performed : moment.shared.perform (.get key inner reply) =
        (.computed (shared.performAll inner).1 reply,
          (shared.performAll inner).2.land key flight reply) := by
      rw [Shared.perform, entered]
    rw [after, performed, Call.touches, ← List.append_assoc]
    simp only [entering, afterAll, landing, entered, List.tail_cons]

theorem Faithful.entering (faithful : moment.Faithful capacity)
    (absent : moment.shared.memo.peek? key = none) (new : key ∉ moment.computing) :
    (moment.entering key).Faithful capacity := by
  have entered := Shared.enter_of_grounded absent (faithful.flying_eq ▸ new)
  constructor
  · rw [Moment.entering, entered]
    exact faithful.recalls.recount _ _
  · rw [Moment.entering, entered]
    exact congrArg (key :: ·) faithful.flying_eq

theorem Faithful.landing (faithful : moment.Faithful capacity) {computing : List κ}
    (innermost : moment.computing = key :: computing) (new : key ∉ computing) (flight : Nat)
    (reply : Reply) : (moment.landing key flight reply).Faithful capacity where
  recalls := faithful.recalls.settle key reply
  flying_eq := by
    have flying := faithful.flying_eq
    rw [innermost] at flying
    have kept : (moment.shared.land key flight reply).flying =
        moment.shared.flying.filter (· ≠ key) := by
      simp only [Shared.flying, Shared.land, List.filter_map]
      rfl
    rw [Moment.landing, kept, flying, innermost, List.filter_cons_of_neg (by simp),
      filter_ne_eq_self new, List.tail_cons]

theorem Faithful.exists_flight (faithful : moment.Faithful capacity)
    (busy : key ∈ moment.computing) : ∃ flight, moment.shared.inFlight.lookup key = some flight := by
  rw [← faithful.flying_eq] at busy
  exact Option.ne_none_iff_exists'.1 fun grounded => lookup_eq_none_iff_not_mem.1 grounded busy

theorem after_eq_self {answer : Answer}
    (performed : moment.shared.perform call = (answer, moment.shared))
    (quiet : call.touches answer = []) : moment.after call = moment := by
  rw [after, performed, quiet, List.append_nil]

theorem Faithful.get_cases (faithful : moment.Faithful capacity) (key : κ)
    (inner : List (Call κ)) (reply : Reply) :
    (∃ outcome, moment.shared.memo.peek? key = some outcome ∧
      moment.shared.perform (.get key inner reply) = (.served outcome, { moment.shared with
        memo := { moment.shared.memo.publish key outcome with
          hits := moment.shared.memo.hits + 1 } })) ∨
    (moment.shared.memo.peek? key = none ∧ key ∈ moment.computing ∧
      moment.shared.perform (.get key inner reply) = (.blocked, moment.shared)) ∨
    (moment.shared.memo.peek? key = none ∧ key ∉ moment.computing ∧
      (moment.shared.enter key).1 = .lead moment.shared.published.length ∧
      (moment.shared.perform (.get key inner reply)).1 =
        .computed ((moment.entering key).shared.performAll inner).1 reply) := by
  cases held : moment.shared.memo.peek? key with
  | some outcome =>
    refine .inl ⟨outcome, rfl, ?_⟩
    rw [Shared.perform, Shared.enter_of_held held]
  | none =>
    right
    by_cases busy : key ∈ moment.computing
    · obtain ⟨flight, flying⟩ := faithful.exists_flight busy
      refine .inl ⟨rfl, busy, ?_⟩
      rw [Shared.perform, Shared.enter_of_flying held flying]
    · have entered := Shared.enter_of_grounded held (faithful.flying_eq ▸ busy)
      refine .inr ⟨rfl, busy, congrArg Prod.fst entered, ?_⟩
      rw [Shared.perform, Moment.entering, entered]

theorem Faithful.burst_cases (faithful : moment.Faithful capacity) (key : κ) (reply : Reply)
    (followers : Nat) :
    (∃ outcome memo, moment.shared.memo.peek? key = some outcome ∧
      moment.shared.perform (.burst key reply followers) =
        (.burst (.found ⟨outcome, true⟩) (List.replicate followers (.found ⟨outcome, true⟩)) 0,
          { moment.shared with memo }) ∧
      memo.Recalls capacity (moment.history ++ List.replicate (followers + 1) (.hit key))) ∨
    (moment.shared.memo.peek? key = none ∧ key ∈ moment.computing ∧
      moment.shared.perform (.burst key reply followers) = (.blocked, moment.shared)) ∨
    (moment.shared.memo.peek? key = none ∧ key ∉ moment.computing ∧
      let landed := (moment.shared.enter key).2.land key moment.shared.published.length reply
      moment.shared.perform (.burst key reply followers) =
        (.burst (.ofReply reply) (List.replicate followers (.ofPublished reply.published)) 1,
          { landed with memo := { landed.memo with hits := landed.memo.hits + followers } })) := by
  cases held : moment.shared.memo.peek? key with
  | some outcome =>
    obtain ⟨memo, ended, recalls⟩ := Shared.crowd_of_held faithful.recalls held reply followers
    exact .inl ⟨outcome, memo, rfl, ended, recalls⟩
  | none =>
    right
    by_cases busy : key ∈ moment.computing
    · obtain ⟨flight, flying⟩ := faithful.exists_flight busy
      refine .inl ⟨rfl, busy, ?_⟩
      rw [Shared.perform, Shared.crowd, Shared.enter_of_flying held flying]
    · exact .inr ⟨rfl, busy,
        Shared.crowd_of_grounded held (faithful.flying_eq ▸ busy) reply followers⟩

mutual

theorem Faithful.after {moment : Moment κ} (faithful : moment.Faithful capacity) :
    (call : Call κ) → (moment.after call).Faithful capacity
  | .get key inner reply => by
    rcases faithful.get_cases key inner reply with ⟨outcome, held, served⟩ | ⟨_, _, blocked⟩ |
      ⟨absent, new, leads, _⟩
    · rw [Moment.after, served]
      exact ⟨(faithful.recalls.hit held).recount _ _, faithful.flying_eq⟩
    · rw [after_eq_self blocked rfl]
      exact faithful
    · rw [after_get_of_lead leads]
      exact ((faithful.entering absent new).afterAll inner).landing rfl new _ reply
  | .peek key => by
    rw [after_eq_self (Shared.perform_peek moment.shared key) rfl]
    exact faithful
  | .size => by
    rw [after_eq_self (Shared.perform_size moment.shared) rfl]
    exact faithful
  | .burst key reply followers => by
    rcases faithful.burst_cases key reply followers with ⟨outcome, memo, _, served, recalls⟩ |
      ⟨_, _, blocked⟩ | ⟨absent, new, computed⟩
    · rw [Moment.after, served]
      exact ⟨recalls, faithful.flying_eq⟩
    · rw [after_eq_self blocked rfl]
      exact faithful
    · have landed := (faithful.entering absent new).landing rfl new
        moment.shared.published.length reply
      rw [Moment.after, computed]
      exact ⟨landed.recalls.recount _ _, landed.flying_eq⟩

theorem Faithful.afterAll {moment : Moment κ} (faithful : moment.Faithful capacity) :
    (calls : List (Call κ)) → (moment.afterAll calls).Faithful capacity
  | [] => by
    rw [afterAll_nil]
    exact faithful
  | call :: calls => by
    rw [afterAll_cons]
    exact (faithful.after call).afterAll calls

end

theorem Makes.faithful (makes : Makes moment calls made call)
    (faithful : moment.Faithful capacity) : made.Faithful capacity := by
  induction makes with
  | first => exact faithful
  | @later moment made call other calls makes ih => exact ih (faithful.after call)
  | @inside moment made key inner calls reply flight other leads makes ih =>
    rcases faithful.get_cases key [] reply with ⟨outcome, held, _⟩ | ⟨absent, busy, _⟩ |
      ⟨absent, new, _⟩
    · rw [Shared.enter_of_held held] at leads
      cases leads
    · obtain ⟨flight, flying⟩ := faithful.exists_flight busy
      rw [Shared.enter_of_flying absent flying] at leads
      cases leads
    · exact ih (faithful.entering absent new)

/-! ### Answers -/

/-- The answer that a call has to be given. -/
inductive Answered (capacity : Nat) (moment : Moment κ) : Call κ → Answer → Prop where
  /-- An outcome that is remembered is served, and the computation does not run. -/
  | served {key : κ} {inner : List (Call κ)} {reply : Reply} {outcome : Outcome}
      (known : recalled capacity moment.history key = some outcome) :
      Answered capacity moment (.get key inner reply) (.served outcome)
  /-- Otherwise the computation runs once, and what it begins with is as it was. -/
  | computed {key : κ} {inner : List (Call κ)} {reply : Reply}
      (unknown : recalled capacity moment.history key = none) (new : key ∉ moment.computing)
      (begins : (moment.entering key).Remembers capacity) :
      Answered capacity moment (.get key inner reply)
        (.computed ((moment.entering key).shared.performAll inner).1 reply)
  /-- A computation that waits for itself is not answered. -/
  | blocked {key : κ} {inner : List (Call κ)} {reply : Reply}
      (unknown : recalled capacity moment.history key = none) (busy : key ∈ moment.computing) :
      Answered capacity moment (.get key inner reply) .blocked
  | peeked (key : κ) :
      Answered capacity moment (.peek key) (.peeked (recalled capacity moment.history key))
  | sized : Answered capacity moment .size
      (.sized (remembered capacity moment.history).length capacity)
  /-- Callers that come at once all find what is remembered. -/
  | found {key : κ} {reply : Reply} {followers : Nat} {outcome : Outcome}
      (known : recalled capacity moment.history key = some outcome) :
      Answered capacity moment (.burst key reply followers)
        (.burst (.found ⟨outcome, true⟩) (List.replicate followers (.found ⟨outcome, true⟩)) 0)
  /-- Otherwise they share one computation. -/
  | shared {key : κ} {reply : Reply} {followers : Nat}
      (unknown : recalled capacity moment.history key = none) (new : key ∉ moment.computing) :
      Answered capacity moment (.burst key reply followers)
        (.burst (.ofReply reply) (List.replicate followers (.ofPublished reply.published)) 1)
  | stuck {key : κ} {reply : Reply} {followers : Nat}
      (unknown : recalled capacity moment.history key = none) (busy : key ∈ moment.computing) :
      Answered capacity moment (.burst key reply followers) .blocked

theorem Faithful.answered (faithful : moment.Faithful capacity) (call : Call κ) :
    Answered capacity moment call (moment.shared.perform call).1 := by
  have recalls := faithful.recalls
  cases call with
  | get key inner reply =>
    rcases faithful.get_cases key inner reply with ⟨outcome, held, served⟩ |
      ⟨absent, busy, blocked⟩ | ⟨absent, new, _, computed⟩
    · rw [served]
      exact .served (recalls.peek?_eq key ▸ held)
    · rw [blocked]
      exact .blocked (recalls.peek?_eq key ▸ absent) busy
    · rw [computed]
      exact .computed (recalls.peek?_eq key ▸ absent) new (faithful.entering absent new).remembers
  | peek key =>
    rw [Shared.perform_peek, recalls.peek?_eq]
    exact .peeked key
  | size =>
    have size : moment.shared.memo.size = (remembered capacity moment.history).length := by
      rw [← recalls.keys_eq, Memo.keys, List.length_map]
      rfl
    rw [Shared.perform_size, recalls.within.capacity_eq, size]
    exact .sized
  | burst key reply followers =>
    rcases faithful.burst_cases key reply followers with ⟨outcome, memo, held, found, _⟩ |
      ⟨absent, busy, blocked⟩ | ⟨absent, new, computed⟩
    · rw [found]
      exact .found (recalls.peek?_eq key ▸ held)
    · rw [blocked]
      exact .stuck (recalls.peek?_eq key ▸ absent) busy
    · rw [computed]
      exact .shared (recalls.peek?_eq key ▸ absent) new

end Moment

open Moment in
/-- Whatever calls are made on a single thread, each of them, however deeply it is nested, finds in
the memo the keys touched last and as many of them as there is room for, with the outcomes published
last; it is answered by that, and it leaves the memo so with its own touches added. -/
theorem every_call_recalls [DecidableEq κ] {capacity : Nat} {memo : Memo κ}
    (sized : Memo.ofCapacity capacity = .ok memo) {calls : List (Call κ)} {made : Moment κ}
    {call : Call κ} (makes : Makes ⟨.idle memo, [], []⟩ calls made call) :
    made.Remembers capacity ∧ Answered capacity made call (made.shared.perform call).1 ∧
      (made.after call).Remembers capacity := by
  have faithful := makes.faithful (faithful_idle sized)
  exact ⟨faithful.remembers, faithful.answered call, (faithful.after call).remembers⟩

/-- The computation of key 0 has keys 1 and 2 computed first; afterwards key 2 is wanted again. -/
def interleaved : List (Call Nat) :=
  [.get 0 [.get 1 [] (.outcome .buildFailure), .get 2 [] (.panic "out of memory")]
      (.outcome .buildFailure),
    .peek 1, .get 2 [] (.outcome .buildFailure)]

theorem every_call_recalls_interleaved :
    ∃ (memo : Memo Nat) (made : Moment Nat),
      Memo.ofCapacity 2 = .ok memo ∧
      Moment.Makes ⟨.idle memo, [], []⟩ interleaved made (.get 2 [] (.outcome .buildFailure)) ∧
      remembered 2 made.history = [0, 2] ∧ recalled 2 made.history 2 = some .runtimeError ∧
      made.Remembers 2 ∧
      Moment.Answered 2 made (.get 2 [] (.outcome .buildFailure))
        (made.shared.perform (.get 2 [] (.outcome .buildFailure))).1 ∧
      (made.after (.get 2 [] (.outcome .buildFailure))).Remembers 2 := by
  have sized : Memo.ofCapacity (κ := Nat) 2 = .ok ⟨2, [], 0, 0⟩ := rfl
  have makes : Moment.Makes ⟨.idle ⟨2, [], 0, 0⟩, [], []⟩ interleaved _
      (.get 2 [] (.outcome .buildFailure)) := .later (.later .first)
  exact ⟨_, _, sized, makes, by decide, by decide, every_call_recalls sized makes⟩

end FlagSearch
