import FlagSearch.Entry

/-!
# The first cheapest of a list

Costs are ranked by the total order of binary64, so failures, NaN and infinities need no cases of
their own: everything below is about the integer `Binary64.rank`.

* `FirstCheapest` — the first of the cheapest elements of a list; it is unique.
* `cheapest_firstCheapest` — the left fold of the search finds it.
* `ranked_firstCheapest` — so does the head of the stable ranking.
* `FirstCheapest.cons_ranked` — so it makes no difference whether a log is ranked before it is searched.
* `ranked_cons`, `ranked_filter` — an entry finds its place among the others, whatever they are, so
  leaving entries out before the ranking or after it is the same.
-/

namespace FlagSearch

/-! ## The order of costs -/

theorem Binary64.order_eq_lt {x y : Binary64} : x.order y = .lt ↔ x.rank < y.rank := by
  simp [Binary64.order, Int.compare_eq_lt]

theorem Binary64.order_ne_gt {x y : Binary64} : x.order y ≠ .gt ↔ x.rank ≤ y.rank := by
  simp [Binary64.order, Int.compare_eq_gt]

theorem Binary64.pattern_eq (x : Binary64) :
    x.pattern = if x.sign then signWeight + x.magnitude else x.magnitude := by
  have below : x.pattern < 2 * signWeight := x.bits.toNat_lt
  simp only [sign, magnitude, decide_eq_true_eq]
  split
  next large =>
    rw [Nat.mod_eq_sub_mod large, Nat.mod_eq_of_lt (by omega)]
    omega
  next less => rw [Nat.mod_eq_of_lt (by omega)]

theorem Binary64.eq_of_rank_eq {x y : Binary64} (same : x.rank = y.rank) : x = y := by
  have patterns : x.pattern = y.pattern := by
    rw [x.pattern_eq, y.pattern_eq]
    unfold rank at same
    generalize x.sign = negative, y.sign = negative' at same ⊢
    cases negative <;> cases negative' <;> simp only [reduceIte, Bool.false_eq_true] at same ⊢ <;>
      omega
  obtain ⟨bits⟩ := x
  obtain ⟨bits'⟩ := y
  exact congrArg Binary64.mk (UInt64.toNat_inj.1 patterns)

theorem Scored.improvesOn_iff {left right : Scored} :
    left.improvesOn right = true ↔ left.cost.rank < right.cost.rank := by
  simp [Scored.improvesOn, Outcome.improvesOn, Outcome.compare, Binary64.order_eq_lt, Scored.cost]

def Entry.cost (entry : Entry) : Binary64 := entry.outcome.cost

@[simp] theorem Scored.cost_entry (scored : Scored) (step : Nat) :
    (scored.entry step).cost = scored.cost := rfl

theorem Entry.precedes_iff {left right : Entry} :
    left.precedes right = true ↔ left.cost.rank ≤ right.cost.rank := by
  simp [Entry.precedes, Outcome.compare, Binary64.order_ne_gt, Entry.cost]

/-! ## The first cheapest element -/

/-- `chosen` is the first of the cheapest elements: what stands before it costs more, and nothing
after it costs less. -/
def FirstCheapest {α : Type} (cost : α → Binary64) (items : List α) (chosen : α) : Prop :=
  ∃ before after, items = before ++ chosen :: after ∧
    (∀ item ∈ before, (cost chosen).order (cost item) = .lt) ∧
    ∀ item ∈ after, (cost chosen).order (cost item) ≠ .gt

namespace FirstCheapest

variable {α β : Type} {cost : α → Binary64} {items others : List α} {chosen other : α}

theorem singleton (cost : α → Binary64) (item : α) : FirstCheapest cost [item] item :=
  ⟨[], [], rfl, by simp, by simp⟩

theorem mem (first : FirstCheapest cost items chosen) : chosen ∈ items := by
  obtain ⟨before, after, rfl, _, _⟩ := first
  simp

theorem rank_le (first : FirstCheapest cost items chosen) {item : α} (member : item ∈ items) :
    (cost chosen).rank ≤ (cost item).rank := by
  obtain ⟨before, after, rfl, dearer, least⟩ := first
  rcases List.mem_append.1 member with inBefore | inRest
  · exact Int.le_of_lt (Binary64.order_eq_lt.1 (dearer item inBefore))
  · rcases List.mem_cons.1 inRest with rfl | inAfter
    · exact Int.le_refl _
    · exact Binary64.order_ne_gt.1 (least item inAfter)

/-- Two splits of one list around its first cheapest element meet: if one of the elements stood
strictly before the other, it would both cost more and cost no more. -/
theorem unique (first : FirstCheapest cost items chosen) (second : FirstCheapest cost items other) :
    chosen = other := by
  have least := first.rank_le second.mem
  have least' := second.rank_le first.mem
  obtain ⟨before, after, rfl, dearer, _⟩ := first
  obtain ⟨before', after', split, dearer', _⟩ := second
  rcases List.append_eq_append_iff.1 split with ⟨between, rfl, tail⟩ | ⟨between, rfl, tail⟩
  · cases between with
    | nil => exact (List.cons.inj tail).1
    | cons head between =>
      obtain ⟨rfl, _⟩ := List.cons.inj tail
      have strict := Binary64.order_eq_lt.1 (dearer' chosen (by simp))
      omega
  · cases between with
    | nil => exact (List.cons.inj tail).1.symm
    | cons head between =>
      obtain ⟨rfl, _⟩ := List.cons.inj tail
      have strict := Binary64.order_eq_lt.1 (dearer other (by simp))
      omega

theorem append (first : FirstCheapest cost items chosen)
    (second : FirstCheapest cost others other) :
    FirstCheapest cost (items ++ others)
      (if (cost other).order (cost chosen) = .lt then other else chosen) := by
  split
  next cheaper =>
    have strict := Binary64.order_eq_lt.1 cheaper
    have least : ∀ item ∈ items, (cost chosen).rank ≤ (cost item).rank := fun _ => first.rank_le
    obtain ⟨before, after, rfl, dearer, later⟩ := second
    refine ⟨items ++ before, after, by simp, ?_, later⟩
    intro item member
    rcases List.mem_append.1 member with inItems | inBefore
    · exact Binary64.order_eq_lt.2 (Int.lt_of_lt_of_le strict (least item inItems))
    · exact dearer item inBefore
  next dear =>
    have weak : (cost chosen).rank ≤ (cost other).rank := by
      rw [Binary64.order_eq_lt] at dear
      omega
    have least : ∀ item ∈ others, (cost other).rank ≤ (cost item).rank := fun _ => second.rank_le
    obtain ⟨before, after, rfl, dearer, later⟩ := first
    refine ⟨before, after ++ others, by simp, dearer, ?_⟩
    intro item member
    rcases List.mem_append.1 member with inAfter | inOthers
    · exact later item inAfter
    · exact Binary64.order_ne_gt.2 (Int.le_trans weak (least item inOthers))

theorem map {cost' : β → Binary64} (rename : α → β)
    (costs : ∀ item ∈ items, cost' (rename item) = cost item)
    (first : FirstCheapest cost items chosen) :
    FirstCheapest cost' (items.map rename) (rename chosen) := by
  have same := costs chosen first.mem
  obtain ⟨before, after, rfl, dearer, later⟩ := first
  refine ⟨before.map rename, after.map rename, by simp, ?_, ?_⟩
  · intro item member
    obtain ⟨source, inBefore, rfl⟩ := List.mem_map.1 member
    rw [same, costs source (by simp [inBefore])]
    exact dearer source inBefore
  · intro item member
    obtain ⟨source, inAfter, rfl⟩ := List.mem_map.1 member
    rw [same, costs source (by simp [inAfter])]
    exact later source inAfter

end FirstCheapest

/-! ## The fold and the ranking -/

theorem better_eq (chosen next : Scored) :
    better chosen next = if next.cost.order chosen.cost = .lt then next else chosen := by
  simp [better, Scored.improvesOn_iff, Binary64.order_eq_lt]

theorem cheapest_firstCheapest (first : Scored) (rest : List Scored) :
    FirstCheapest Scored.cost (first :: rest) (cheapest first rest) := by
  -- The fold forgets which candidates it has seen; the statement that carries it names them.
  suffices folds : ∀ seen chosen, FirstCheapest Scored.cost seen chosen →
      FirstCheapest Scored.cost (seen ++ rest) (rest.foldl better chosen) from
    folds [first] first (.singleton _ _)
  induction rest with
  | nil =>
    intro seen chosen found
    simpa using found
  | cons next rest ih =>
    intro seen chosen found
    have step := found.append (.singleton Scored.cost next)
    rw [← better_eq] at step
    simpa using ih _ _ step

theorem ranked_perm (entries : List Entry) : (ranked entries).Perm entries :=
  List.mergeSort_perm entries Entry.precedes

theorem precedes_trans (a b c : Entry) :
    a.precedes b = true → b.precedes c = true → a.precedes c = true := by
  simp only [Entry.precedes_iff]
  omega

theorem precedes_total (a b : Entry) : (a.precedes b || b.precedes a) = true := by
  simp only [Bool.or_eq_true, Entry.precedes_iff]
  omega

/-- An entry is ranked behind the cheaper ones of the entries that come after it, and before all
others. -/
theorem ranked_cons (entry : Entry) (entries : List Entry) :
    ∃ front back, ranked entries = front ++ back ∧
      ranked (entry :: entries) = front ++ entry :: back ∧
      (∀ other ∈ front, entry.precedes other = false) ∧
      ∀ other ∈ back, entry.precedes other = true := by
  obtain ⟨front, back, whole, tail, dearer⟩ :=
    List.mergeSort_cons precedes_trans precedes_total entry entries
  refine ⟨front, back, tail, whole, fun other member => by simpa using dearer other member, ?_⟩
  intro other member
  have sorted := List.pairwise_mergeSort precedes_trans precedes_total (entry :: entries)
  rw [whole] at sorted
  exact List.rel_of_pairwise_cons (List.pairwise_append.1 sorted).2.1 member

theorem ranked_firstCheapest (entries : List Entry) {first : Entry} {rest : List Entry}
    (head : ranked entries = first :: rest) : FirstCheapest Entry.cost entries first := by
  induction entries generalizing first rest with
  | nil => simp [ranked] at head
  | cons entry entries ih =>
    obtain ⟨front, back, tail, whole, dearer, behind⟩ := ranked_cons entry entries
    rw [whole] at head
    cases front with
    | nil =>
      obtain ⟨rfl, _⟩ := List.cons.inj head
      refine ⟨[], entries, rfl, by simp, ?_⟩
      intro item member
      have later : item ∈ back := by
        rw [List.nil_append] at tail
        exact tail ▸ (ranked_perm entries).mem_iff.2 member
      exact Binary64.order_ne_gt.2 (Entry.precedes_iff.1 (behind item later))
    | cons cheaper front =>
      obtain ⟨rfl, _⟩ := List.cons.inj head
      obtain ⟨before, after, rfl, strict, weak⟩ := ih tail
      refine ⟨entry :: before, after, rfl, ?_, weak⟩
      have smaller : cheaper.cost.rank < entry.cost.rank := by
        have below := dearer cheaper (by simp)
        simp only [← Bool.not_eq_true, Entry.precedes_iff] at below
        omega
      intro item member
      rcases List.mem_cons.1 member with rfl | inBefore
      · exact Binary64.order_eq_lt.2 smaller
      · exact strict item inBefore

theorem ranked_ranked (entries : List Entry) : ranked (ranked entries) = ranked entries :=
  List.mergeSort_of_pairwise (List.pairwise_mergeSort precedes_trans precedes_total entries)

theorem FirstCheapest.cons_ranked {first best : Entry} {log : List Entry}
    (found : FirstCheapest Entry.cost (first :: log) best) :
    FirstCheapest Entry.cost (first :: ranked log) best := by
  cases results : ranked log with
  | nil =>
    have empty : log = [] := (results ▸ (ranked_perm log).symm).eq_nil
    exact empty ▸ found
  | cons head rest =>
    have again : ranked (head :: rest) = head :: rest := results ▸ ranked_ranked log
    have alone := FirstCheapest.singleton Entry.cost first
    rw [found.unique (alone.append (ranked_firstCheapest log results))]
    exact alone.append (ranked_firstCheapest (head :: rest) again)

theorem append_inj_of_split {α : Type} {test : α → Bool} {front back front' back' : List α}
    (before : ∀ item ∈ front, test item = false) (behind : ∀ item ∈ back, test item = true)
    (before' : ∀ item ∈ front', test item = false) (behind' : ∀ item ∈ back', test item = true)
    (same : front ++ back = front' ++ back') : front = front' ∧ back = back' := by
  have rest : ∀ {front back : List α}, (∀ item ∈ front, test item = false) →
      (∀ item ∈ back, test item = true) → (front ++ back).filter test = back := by
    intro front back before behind
    have none : front.filter test = [] := List.filter_eq_nil_iff.2 (by simpa using before)
    rw [List.filter_append, none, List.filter_eq_self.2 behind, List.nil_append]
  obtain rfl : back = back' := by rw [← rest before behind, same, rest before' behind']
  exact ⟨List.append_cancel_right same, rfl⟩

theorem ranked_filter (keep : Entry → Bool) (entries : List Entry) :
    ranked (entries.filter keep) = (ranked entries).filter keep := by
  induction entries with
  | nil => simp [ranked]
  | cons entry entries ih =>
    obtain ⟨front, back, tail, whole, before, behind⟩ := ranked_cons entry entries
    rw [tail, List.filter_append] at ih
    by_cases kept : keep entry = true
    · obtain ⟨front', back', tail', whole', before', behind'⟩ :=
        ranked_cons entry (entries.filter keep)
      have same : front' ++ back' = front.filter keep ++ back.filter keep := tail'.symm.trans ih
      obtain ⟨fronts, backs⟩ := append_inj_of_split before' behind'
        (fun other member => before other (List.mem_filter.1 member).1)
        (fun other member => behind other (List.mem_filter.1 member).1) same
      rw [List.filter_cons_of_pos kept, whole', whole, List.filter_append,
        List.filter_cons_of_pos kept, fronts, backs]
    · rw [List.filter_cons_of_neg kept, whole, List.filter_append, List.filter_cons_of_neg kept, ih]

end FlagSearch
