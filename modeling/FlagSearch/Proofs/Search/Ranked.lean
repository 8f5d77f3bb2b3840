import FlagSearch.Proofs.Binary64.Value
import FlagSearch.Proofs.Search.Best

/-!
# Costs in order

Outcomes are compared by cost, and whatever the pattern of a cost is, that is a total preorder.  So
a log has a ranking, entries of equal cost keep the order in which they were recorded, and to check
a ranking it is enough to look at neighbouring entries.

* `Outcome.compare_eq_swap`, `Outcome.compare_trans` — the order of outcomes.
* `Outcome.Boundless`, `Outcome.compare_boundless` — the outcomes that cost infinity.
* `ranked_pairwise`, `ranked_filter_equal` — the ranking is in order, and stable.
* `isRanked_iff` — neighbouring entries and all pairs.
* `outcomes_ranked` — all of this, and the reports of runs.
-/

namespace FlagSearch

/-! ## Outcomes -/

namespace Outcome

variable {a b c : Outcome}

theorem compare_ne_gt : a.compare b ≠ .gt ↔ a.cost.rank ≤ b.cost.rank := Binary64.order_ne_gt

theorem compare_eq_eq : a.compare b = .eq ↔ a.cost = b.cost := Binary64.order_eq_eq

theorem compare_eq_swap (a b : Outcome) : b.compare a = (a.compare b).swap := by
  rw [compare, compare, Binary64.order, Binary64.order, Int.compare_swap]

theorem compare_trans (first : a.compare b ≠ .gt) (second : b.compare c ≠ .gt) :
    a.compare c ≠ .gt := by
  rw [compare_ne_gt] at *
  omega

theorem compare_total (a b : Outcome) : a.compare b ≠ .gt ∨ b.compare a ≠ .gt := by
  rw [compare_ne_gt, compare_ne_gt]
  omega

/-- A failure, or a success after an infinite time. -/
inductive Boundless : Outcome → Prop where
  | buildFailure : Boundless .buildFailure
  | runtimeError : Boundless .runtimeError
  | success (stdev : Option Binary64) (flags : List String) :
      Boundless (.success .infinity stdev flags)

theorem Boundless.cost_eq (boundless : a.Boundless) : a.cost = .infinity := by
  cases boundless <;> rfl

theorem compare_boundless (boundless : b.Boundless) (finite : a.cost.isFinite = true) :
    a.compare b = .lt := by
  rw [compare, boundless.cost_eq]
  exact Binary64.order_infinity finite

end Outcome

/-! ## Rankings -/

theorem Entry.precedes_iff_compare {left right : Entry} :
    left.precedes right = true ↔ left.outcome.compare right.outcome ≠ .gt := by
  rw [Entry.precedes, bne_iff_ne]

theorem ranked_pairwise (log : List Entry) :
    (ranked log).Pairwise fun left right => left.outcome.compare right.outcome ≠ .gt := by
  have sorted := List.pairwise_mergeSort precedes_trans precedes_total log
  exact sorted.imp Entry.precedes_iff_compare.1

theorem ranked_filter_equal (log : List Entry) (o : Outcome) :
    (ranked log).filter (fun entry => entry.outcome.compare o == .eq) =
      log.filter fun entry => entry.outcome.compare o == .eq := by
  rw [← ranked_filter]
  apply List.mergeSort_of_pairwise
  refine List.pairwise_of_forall_mem_list fun left before right behind => ?_
  have equal : ∀ {entry : Entry}, entry ∈ log.filter (fun entry => entry.outcome.compare o == .eq) →
      entry.outcome.cost = o.cost := by
    intro entry member
    exact Outcome.compare_eq_eq.1 (eq_of_beq (List.mem_filter.1 member).2)
  rw [Entry.precedes_iff_compare, Outcome.compare_ne_gt, equal before, equal behind]

theorem isRanked_iff (entries : List Entry) : isRanked entries = true ↔
    entries.Pairwise fun left right => left.outcome.compare right.outcome ≠ .gt := by
  induction entries with
  | nil => simp [isRanked]
  | cons left entries ih =>
    cases entries with
    | nil => simp [isRanked]
    | cons right rest =>
      rw [isRanked, Bool.and_eq_true, ih, Entry.precedes_iff_compare,
        List.pairwise_cons (a := left)]
      constructor
      · rintro ⟨here, later⟩
        refine ⟨fun entry member => ?_, later⟩
        rcases List.mem_cons.1 member with rfl | behind
        · exact here
        · exact Outcome.compare_trans here (List.rel_of_pairwise_cons later behind)
      · rintro ⟨here, later⟩
        exact ⟨here right List.mem_cons_self, later⟩

/-- Outcomes are compared by their costs as signed words, which makes a total preorder of them.
Failures and successes after an infinite time are equivalent, and strictly dearer than any success
after a finite time; among the latter the order is that of the times, two patterns are equivalent
only if they are the same, and negative zero comes before positive zero.  The ranking of a log has
the same entries in order of cost, and those of equal cost as they were recorded.  Results pass as
sorted if and only if no entry costs more than any later one, and those of every run do. -/
theorem outcomes_ranked :
    (∀ a b : Outcome, a.compare b = compare a.cost.signedWord b.cost.signedWord) ∧
    (∀ a : Outcome, a.compare a = .eq) ∧
    (∀ a b : Outcome, b.compare a = (a.compare b).swap) ∧
    (∀ a b c : Outcome, a.compare b ≠ .gt → b.compare c ≠ .gt → a.compare c ≠ .gt) ∧
    (∀ a b : Outcome, a.compare b ≠ .gt ∨ b.compare a ≠ .gt) ∧
    (∀ a b : Outcome, a.Boundless → b.Boundless → a.compare b = .eq) ∧
    (∀ a b : Outcome, a.isSuccess = true → a.cost.isFinite = true → b.Boundless →
      a.compare b = .lt) ∧
    (∀ a b : Outcome, a.cost.isFinite = true → b.cost.isFinite = true →
      (a.compare b = .lt ↔ a.cost.value < b.cost.value ∨ (a.cost = .negZero ∧ b.cost = .zero)) ∧
      (a.compare b = .eq ↔ a.cost = b.cost)) ∧
    (∀ log : List Entry, (ranked log).Perm log ∧
      (ranked log).Pairwise (fun left right => left.outcome.compare right.outcome ≠ .gt) ∧
      ∀ o, (ranked log).filter (fun entry => entry.outcome.compare o == .eq) =
        log.filter fun entry => entry.outcome.compare o == .eq) ∧
    (∀ report : Report, report.isSorted = true ↔
      report.results.Pairwise fun left right => left.outcome.compare right.outcome ≠ .gt) ∧
    ∀ {σ : Type} (settings : Settings) (u : Universe) (evaluator : Evaluator σ)
      (scheduler : Scheduler σ) (entropy : UInt64) (world : σ) (report : Report),
      (runWith settings u evaluator scheduler entropy world).1.report? = some report →
        report.isSorted = true := by
  refine ⟨fun a b => ?_, fun a => Outcome.compare_eq_eq.2 rfl, Outcome.compare_eq_swap,
    fun a b c => Outcome.compare_trans, Outcome.compare_total, fun a b left right => ?_,
    fun a b _ finite boundless => Outcome.compare_boundless boundless finite,
    fun a b _ _ => ⟨Binary64.order_eq_lt_iff_value _ _, Outcome.compare_eq_eq⟩,
    fun log => ⟨ranked_perm log, ranked_pairwise log, ranked_filter_equal log⟩,
    fun report => isRanked_iff report.results, ?_⟩
  · rw [← Binary64.rank_eq_signedWord, ← Binary64.rank_eq_signedWord]
    rfl
  · exact Outcome.compare_eq_eq.2 (left.cost_eq.trans right.cost_eq.symm)
  · intro σ settings u evaluator scheduler entropy world report left
    obtain ⟨course, failure, _, rfl⟩ := exists_course_of_report left
    exact (isRanked_iff _).2 (ranked_pairwise _)

/-- Negative zero is strictly cheaper than a failure, which costs as much as an infinite time and no
more than a NaN; and a run with a panic, a failed build and an early end has left a sorted report. -/
theorem outcomes_ranked_fickle :
    (Outcome.success .negZero none []).compare .buildFailure = .lt ∧
    (Outcome.success .negZero none []).compare (.success .zero none []) = .lt ∧
    Outcome.runtimeError.compare (.success .infinity none ["-a"]) = .eq ∧
    Outcome.buildFailure.compare (.success (.ofPattern 0x7ff8000000000000) none []) ≠ .gt ∧
    ∃ report, (runWith crampedClimb flagPair fickle (Bench.requestAll flagPair fickle) 0
      []).1.report? = some report ∧ report.isSorted = true := by
  obtain ⟨_, _, _, trans, _, equal, finite, numeric, _, _, runs⟩ := outcomes_ranked
  have cut : ((runWith crampedClimb flagPair fickle (Bench.requestAll flagPair fickle) 0
      []).1.report?).isSome = true := by decide
  obtain ⟨report, left⟩ := Option.isSome_iff_exists.1 cut
  refine ⟨finite _ _ rfl (by decide) .buildFailure, ?_, equal _ _ .runtimeError (.success _ _), ?_,
    report, left, runs _ _ _ _ _ _ report left⟩
  · exact (numeric _ _ (by decide) (by decide)).1.2 (.inr ⟨rfl, rfl⟩)
  · exact trans _ (.success .infinity none []) _ (by decide) (by decide)

end FlagSearch
