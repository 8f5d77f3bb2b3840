import FlagSearch.Proofs.Search.Accepted
import FlagSearch.Proofs.Search.Contacts

/-!
# Cancelled runs

Someone outside may stop a run at any time, while the evaluator is at work or before the run begins.
A run looks whether it was stopped before each of its requests, the memo's answers included, and
nowhere else.  So it goes on exactly up to its next request; if there is none, it ends as if no one
had stopped it.

* `Evaluator.cancelledAfter` — the evaluator during one of whose calls the run is stopped.
* `Overruns` — requests that come too late for that.
* `SameOrStopped` — how a run and the one that is stopped compare, at any point of the two.
* `Bench.request_cancelledAfter`, `Bench.requestAll_cancelledAfter`, `Stage.advance_cancelledAfter`,
  `Walk.steps_cancelledAfter` — it holds of requests, batches, steps and walks.
* `run_cancelledAfter` — it holds of runs.
-/

namespace FlagSearch

variable {σ : Type} {u : Universe} {evaluator : Evaluator σ} {count : Nat}

/-- The evaluator that writes down how it is turned to, while someone stops the run during the last
of its first `count` calls, or before the run if `count` is zero. -/
def Evaluator.cancelledAfter (evaluator : Evaluator σ) (count : Nat) :
    Evaluator (σ × List Contact) :=
  { evaluator.traced with
    poll := fun seen =>
      ((evaluator.poll seen.1).1 || decide (count ≤ (Contact.calls seen.2).length),
        (evaluator.poll seen.1).2, seen.2 ++ [.poll]) }

/-! ## Requests that come too late -/

/-- The contacts have a request after the first `count` calls. -/
def Overruns (count : Nat) (contacts : List Contact) : Prop :=
  ∃ before after, contacts = before ++ .poll :: after ∧ count ≤ (Contact.calls before).length

theorem Overruns.append {contacts : List Contact} (late : Overruns count contacts)
    (later : List Contact) : Overruns count (contacts ++ later) := by
  obtain ⟨before, after, rfl, many⟩ := late
  exact ⟨before, after ++ later, by simp, many⟩

theorem Overruns.length_le {contacts : List Contact} (late : Overruns count contacts) :
    count ≤ (Contact.calls contacts).length := by
  obtain ⟨before, after, rfl, many⟩ := late
  rw [Contact.calls_append, List.length_append]
  omega

/-- There were at most `count` calls, and no request after them. -/
structure InTime (count : Nat) (contacts : List Contact) : Prop where
  length_le : (Contact.calls contacts).length ≤ count
  not_overruns : ¬Overruns count contacts

theorem inTime_nil (count : Nat) : InTime count [] where
  length_le := Nat.zero_le _
  not_overruns := by
    rintro ⟨before, after, split, _⟩
    exact List.append_ne_nil_of_right_ne_nil _ (List.cons_ne_nil _ _) split.symm

theorem InTime.request {contacts : List Contact} (inTime : InTime count contacts)
    (few : (Contact.calls contacts).length < count) {called : List (List String)}
    (one : called.length ≤ 1) : InTime count (contacts ++ .poll :: called.map .score) where
  length_le := by
    rw [Contact.calls_append, Contact.calls_poll_cons, Contact.calls_map_score, List.length_append]
    omega
  not_overruns := by
    rintro ⟨before, after, split, many⟩
    rcases List.append_eq_append_iff.1 split with ⟨between, rfl, tail⟩ | ⟨between, rfl, tail⟩
    · cases between with
      | nil =>
        rw [List.append_nil] at many
        omega
      | cons head between =>
        obtain ⟨_, rest⟩ := List.cons.inj tail
        have asked : Contact.poll ∈ called.map Contact.score := by simp [rest]
        simp at asked
    · cases between with
      | nil =>
        rw [List.append_nil] at few
        omega
      | cons head between =>
        obtain ⟨rfl, rfl⟩ := List.cons.inj tail
        exact inTime.not_overruns ⟨before, between, rfl, many⟩

/-- The run that was stopped made the first `count` calls of the other, which went on. -/
structure Parted (count : Nat) (whole cut : List Contact) : Prop where
  overruns : Overruns count whole
  calls_eq : Contact.calls cut = (Contact.calls whole).take count

theorem Parted.extend {whole longer cut : List Contact} (parted : Parted count whole cut)
    (begins : whole <+: longer) : Parted count longer cut := by
  obtain ⟨later, rfl⟩ := begins
  refine ⟨parted.overruns.append later, ?_⟩
  rw [parted.calls_eq, Contact.calls_append,
    List.take_append_of_le_length parted.overruns.length_le]

/-- How what a run has come to compares with what it has come to if someone stops it: there is no
difference and nothing was too late, or it has been stopped. -/
def SameOrStopped {α τ : Type} (bench : τ → Bench (σ × List Contact)) (stopped : α) (count : Nat)
    (whole cut : α × τ) : Prop :=
  (cut = whole ∧ (bench whole.2).cancelled = false ∧ InTime count (bench whole.2).world.2) ∨
  (cut.1 = stopped ∧ Parted count (bench whole.2).world.2 (bench cut.2).world.2)

/-! ## Requests -/

namespace Bench

variable {bench : Bench (σ × List Contact)}

theorem request_cancelledAfter (steady : evaluator.Steady) (running : bench.cancelled = false)
    (inTime : InTime count bench.world.2) (set : FlagSet) :
    SameOrStopped id (.error (.error .interrupted)) count
      (bench.request u evaluator.traced set)
      (bench.request u (evaluator.cancelledAfter count) set) := by
  obtain ⟨called, one, contacts⟩ := request_contacts u evaluator set bench
  by_cases few : (Contact.calls bench.world.2).length < count
  · left
    have checked : bench.check (evaluator.cancelledAfter count) = bench.check evaluator.traced := by
      simp [check, Evaluator.cancelledAfter, Evaluator.traced, Nat.not_le.2 few]
    refine ⟨?_, ?_, ?_⟩
    · simp only [request, checked]
      rfl
    · exact (request_cancelled u _ set bench).trans (by simp [check, running, steady.traced _])
    · exact contacts ▸ inTime.request few one
  · right
    have last : (Contact.calls bench.world.2).length = count := by
      have most := inTime.length_le
      omega
    have stopped : (bench.check (evaluator.cancelledAfter count)).cancelled = true := by
      simp [check, Evaluator.cancelledAfter, Nat.not_lt.1 few]
    rw [request_of_cancelled stopped]
    refine ⟨rfl, ⟨_, _, contacts, Nat.le_of_eq last.symm⟩, ?_⟩
    change Contact.calls (bench.world.2 ++ [.poll]) = _
    rw [id, contacts, Contact.calls_append, Contact.calls_append, ← last, List.take_left]
    exact List.append_nil _

theorem requestAll_cancelledAfter (steady : evaluator.Steady) (running : bench.cancelled = false)
    (inTime : InTime count bench.world.2) (batch : List FlagSet) :
    SameOrStopped id (.error (.error .interrupted)) count
      (requestAll u evaluator.traced batch bench)
      (requestAll u (evaluator.cancelledAfter count) batch bench) := by
  induction batch generalizing bench with
  | nil => exact .inl ⟨rfl, running, inTime⟩
  | cons set rest ih =>
    rcases request_cancelledAfter steady running inTime set with ⟨same, running, inTime⟩ |
      ⟨stopped, parted⟩
    · cases first : bench.request u evaluator.traced set with
      | mk result between =>
        rw [first] at same running inTime
        cases result with
        | error halt =>
          rw [requestAll_cons_of_error first, requestAll_cons_of_error same]
          exact .inl ⟨rfl, running, inTime⟩
        | ok candidate =>
          rw [requestAll_cons_of_ok first, requestAll_cons_of_ok same]
          have running : between.cancelled = false := running
          rcases ih running inTime with ⟨same, later⟩ | ⟨stopped, parted⟩
          · exact .inl ⟨by rw [same], later⟩
          · exact .inr ⟨by rw [stopped]; rfl, parted⟩
    · right
      cases cut : bench.request u (evaluator.cancelledAfter count) set with
      | mk result last =>
        rw [cut] at stopped parted
        cases stopped
        rw [requestAll_cons_of_error cut]
        refine ⟨rfl, parted.extend ?_⟩
        cases first : bench.request u evaluator.traced set with
        | mk result between =>
          cases result with
          | error halt => exact ⟨[], by rw [requestAll_cons_of_error first, List.append_nil]⟩
          | ok candidate =>
            rw [requestAll_cons_of_ok first]
            exact requestAll_keeps (evaluator.traced_keeps_prefix _) (List.prefix_refl _) rest

end Bench

/-! ## Steps -/

theorem Stage.advance_cancelledAfter {stage : Stage (σ × List Contact)} (steady : evaluator.Steady)
    (running : stage.bench.cancelled = false) (inTime : InTime count stage.bench.world.2) :
    SameOrStopped Stage.bench (.error (.error .interrupted)) count
      (stage.advance u evaluator.traced (Bench.requestAll u evaluator.traced))
      (stage.advance u (evaluator.cancelledAfter count)
        (Bench.requestAll u (evaluator.cancelledAfter count))) := by
  cases chosen : stage.tries u with
  | error halt =>
    rw [advance_of_tries_error chosen, advance_of_tries_error chosen]
    exact .inl ⟨rfl, by rwa [drawn_bench], by rwa [drawn_bench]⟩
  | ok sets =>
    rw [advance_requestAll chosen, advance_requestAll chosen]
    rcases Bench.requestAll_cancelledAfter steady running inTime sets with ⟨same, running, inTime⟩ |
      ⟨stopped, parted⟩
    · exact .inl ⟨by rw [same], by rwa [concluded_cancelled], by rwa [concluded_world]⟩
    · right
      rw [concluded_world, concluded_world]
      refine ⟨?_, parted⟩
      cases cut : Bench.requestAll u (evaluator.cancelledAfter count) sets stage.bench with
      | mk result last =>
        rw [cut] at stopped
        cases stopped
        rfl

theorem Walk.steps_cancelledAfter {walk : Walk (σ × List Contact)} (steady : evaluator.Steady)
    (running : walk.stage.bench.cancelled = false) (inTime : InTime count walk.stage.bench.world.2)
    (budget number : Nat) :
    SameOrStopped (fun walk => walk.stage.bench) (some (.error .interrupted)) count
      (walk.steps u evaluator.traced (Bench.requestAll u evaluator.traced) budget number)
      (walk.steps u (evaluator.cancelledAfter count)
        (Bench.requestAll u (evaluator.cancelledAfter count)) budget number) := by
  induction budget generalizing walk number with
  | zero => exact .inl ⟨rfl, running, inTime⟩
  | succ budget ih =>
    have entered : (walk.entering number).bench.cancelled = false := running
    rw [steps, steps, step_eq, step_eq]
    rcases Stage.advance_cancelledAfter (u := u) steady entered inTime with
      ⟨same, running, inTime⟩ | ⟨stopped, parted⟩
    · rw [same]
      cases advanced : (walk.entering number).advance u evaluator.traced
          (Bench.requestAll u evaluator.traced) with
      | mk result stage =>
        rw [advanced] at running inTime
        cases result with
        | error halt => exact .inl ⟨rfl, running, inTime⟩
        | ok _ => exact ih running inTime (number + 1)
    · right
      cases cut : (walk.entering number).advance u (evaluator.cancelledAfter count)
          (Bench.requestAll u (evaluator.cancelledAfter count)) with
      | mk result last =>
        rw [cut] at stopped parted
        cases stopped
        refine ⟨rfl, parted.extend ?_⟩
        cases advanced : (walk.entering number).advance u evaluator.traced
            (Bench.requestAll u evaluator.traced) with
        | mk result stage =>
          cases result with
          | error halt => exact List.prefix_refl _
          | ok _ =>
            let next : Walk (σ × List Contact) :=
              ⟨stage, walk.trajectory.push (finite? stage.position.best.cost)⟩
            have begins : stage.bench.world.2 <+: next.stage.bench.world.2 := List.prefix_refl _
            exact steps_keeps (evaluator.traced_keeps_prefix _) begins budget (number + 1)

/-! ## Runs -/

section Runs

variable {settings : Settings} {entropy entropy' : UInt64}

theorem runWith_entropy {scheduler : Scheduler σ}
    (seeded : ∀ flips, settings.strategy = .hillClimb flips → settings.seed.isSome) (world : σ) :
    runWith settings u evaluator scheduler entropy world =
      runWith settings u evaluator scheduler entropy' world := by
  rw [runWith, runWith, Settings.prepare_entropy seeded u.size entropy entropy']

theorem runFrom_cancelledAfter {bench : Bench (σ × List Contact)} (steady : evaluator.Steady)
    (running : bench.cancelled = false) (inTime : InTime count bench.world.2) (settings : Settings)
    (strategy : Strategy) (baseline : Scored) :
    let whole := runFrom settings u evaluator.traced (Bench.requestAll u evaluator.traced) strategy
      baseline bench
    let cut := runFrom settings u (evaluator.cancelledAfter count)
      (Bench.requestAll u (evaluator.cancelledAfter count)) strategy baseline bench
    (cut = whole ∧ InTime count whole.2.2) ∨
      (cut.1 = .aborted .interrupted none ∧ Parted count whole.2.2 cut.2.2) := by
  cases room : reserve settings.iterations trajectorySlot with
  | error fault =>
    rw [runFrom_of_full room, runFrom_of_full room]
    exact .inl ⟨rfl, inTime⟩
  | ok _ =>
    let start : Walk (σ × List Contact) :=
      .ofStage ⟨strategy.begin (.start baseline), .start baseline, bench⟩
    have begins : start.stage.bench.cancelled = false := running
    rw [runFrom_of_room room rfl, runFrom_of_room room rfl]
    rcases Walk.steps_cancelledAfter (u := u) steady begins inTime settings.iterations 1 with
      ⟨same, _, inTime⟩ | ⟨stopped, parted⟩
    · refine .inl ⟨?_, inTime⟩
      change (Ended.ofWalk _ _ _ (start.steps ..).1 (start.steps ..).2,
        (start.steps ..).2.stage.bench.world) = _
      rw [same]
      rfl
    · refine .inr ⟨?_, parted⟩
      change Ended.ofWalk _ _ _ (start.steps ..).1 _ = _
      rw [stopped]
      rfl

theorem run_sameOrStopped (settings : Settings) (u : Universe) (steady : evaluator.Steady)
    (entropy : UInt64) (world : σ) (count : Nat) :
    let whole := run settings u evaluator.traced entropy (world, [])
    let cut := run settings u (evaluator.cancelledAfter count) entropy (world, [])
    (cut = whole ∧ InTime count whole.2.2) ∨
      (cut.1 = .aborted .interrupted none ∧ Parted count whole.2.2 cut.2.2) := by
  rcases settings.prepare_cases u.size entropy with ⟨what, refused⟩ |
    ⟨strategy, memo, valid, chosen, sized⟩
  · rw [run, run, runWith_of_rejected refused, runWith_of_rejected refused]
    exact .inl ⟨rfl, inTime_nil count⟩
  · rw [run, run, runWith_of_prepared valid chosen sized, runWith_of_prepared valid chosen sized]
    have running : (Bench.ofWorld (world, ([] : List Contact)) memo).cancelled = false := rfl
    have compared := Bench.request_cancelledAfter (u := u) steady running (inTime_nil count)
      (settings.initial.getD u.emptySet)
    cases first : (Bench.ofWorld (world, []) memo).request u evaluator.traced
        (settings.initial.getD u.emptySet) with
    | mk result bench =>
      rw [first] at compared
      rcases compared with ⟨same, running, inTime⟩ | ⟨stopped, parted⟩
      · rw [same]
        cases result with
        | error halt => exact .inl ⟨rfl, inTime⟩
        | ok baseline => exact runFrom_cancelledAfter steady running inTime settings strategy baseline
      · right
        cases cut : (Bench.ofWorld (world, []) memo).request u (evaluator.cancelledAfter count)
            (settings.initial.getD u.emptySet) with
        | mk result' last =>
          rw [cut] at stopped parted
          cases stopped
          refine ⟨rfl, parted.extend ?_⟩
          cases result with
          | error halt => exact List.prefix_refl _
          | ok baseline =>
            exact runFrom_keeps (evaluator.traced_keeps_prefix _) (List.prefix_refl _) settings
              strategy baseline

/-- What becomes of a run that no one would have interrupted, if someone stops it during the last of
its first `count` calls of the evaluator, or before it began if `count` is zero.  It makes these
calls and no other.  If it would have made a request after them, be it one that the memo answers, it
ends as interrupted and leaves no report; otherwise it ends in every way as it would have. -/
theorem run_cancelledAfter (settings : Settings) (u : Universe) (steady : evaluator.Steady)
    (seeded : ∀ flips, settings.strategy = .hillClimb flips → settings.seed.isSome)
    (entropy entropy' : UInt64) (world : σ) (count : Nat) :
    let whole := run settings u evaluator.traced entropy (world, [])
    let cut := run settings u (evaluator.cancelledAfter count) entropy' (world, [])
    whole.map id Prod.fst = run settings u evaluator entropy world ∧
      Contact.calls cut.2.2 = (Contact.calls whole.2.2).take count ∧
      (Overruns count whole.2.2 → cut.1 = .aborted .interrupted none) ∧
      (¬Overruns count whole.2.2 → cut = whole) := by
  intro whole cut
  have cut_eq : cut = run settings u (evaluator.cancelledAfter count) entropy (world, []) :=
    runWith_entropy seeded _
  refine ⟨(run_traced u evaluator settings entropy world).symm, ?_⟩
  rcases run_sameOrStopped settings u steady entropy world count with ⟨same, inTime⟩ |
    ⟨stopped, parted⟩
  · have same : cut = whole := cut_eq.trans same
    refine ⟨?_, fun late => absurd late inTime.not_overruns, fun _ => same⟩
    rw [same, List.take_of_length_le inTime.length_le]
  · rw [← cut_eq] at stopped parted
    exact ⟨parted.calls_eq, fun _ => stopped, fun inTime => absurd parted.overruns inTime⟩

/-- Five steps of hill climbing over one flag: the first one scores the flag, and the memo knows it
from then on. -/
def lonelyClimb : Settings := { Settings.hillClimb 1 with iterations := 5, seed := some 7 }

def fading : Evaluator (List (List String)) := .ofHistory "fading" fun calls =>
  if calls.length = 1 then .outcome (.success (.ofPattern 3) none []) else .panic "out of memory"

/-- Stopped during its second call, the run does not get to ask the memo. -/
theorem run_cancelledAfter_fading :
    Contact.calls (run lonelyClimb ⟨none, none, ["-a"]⟩ (fading.cancelledAfter 2) 1 ([], [])).2.2 =
        [[], ["-a"]] ∧
      (run lonelyClimb ⟨none, none, ["-a"]⟩ (fading.cancelledAfter 2) 1 ([], [])).1 =
        .aborted .interrupted none := by
  have steady : fading.Steady := fun _ => rfl
  have seeded : ∀ flips, lonelyClimb.strategy = .hillClimb flips → lonelyClimb.seed.isSome :=
    fun _ _ => rfl
  obtain ⟨_, calls, interrupted, _⟩ :=
    run_cancelledAfter lonelyClimb ⟨none, none, ["-a"]⟩ steady seeded 0 1 [] 2
  have contacts : (run lonelyClimb ⟨none, none, ["-a"]⟩ fading.traced 0 ([], [])).2.2 =
      [.poll, .score [], .poll, .score ["-a"], .poll, .poll, .poll, .poll] := by decide
  refine ⟨?_, interrupted ?_⟩
  · rw [calls, contacts]
    rfl
  · rw [contacts]
    exact ⟨[.poll, .score [], .poll, .score ["-a"]], [.poll, .poll, .poll], rfl, by decide⟩

end Runs

end FlagSearch
