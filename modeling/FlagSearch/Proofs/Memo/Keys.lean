import FlagSearch.Memo.Basic

/-!
# The keys of a memo

However a memo is used, it holds each key once and no more keys than it has room for.

* `Memo.Within` — the keys of a memo fit into its capacity.
* `Memo.Within.publish`, `Memo.Within.settle`, `Memo.Within.recount` — and still do after each use.
* `Memo.size_publish_le`, `Memo.size_publish_le_of_mem` — publishing adds one key at most.
* `Memo.mem_keys_publish`, `Memo.Within.mem_keys_publish_self`, `Memo.Within.peek?_publish_self` —
  what publishing does to the keys.
* `Memo.Knows`, `Memo.Knows.publish`, `Memo.Knows.settle` — everything held satisfies a predicate,
  and still does after each use.
-/

namespace FlagSearch

theorem lookup_eq_none_iff_not_mem {κ β : Type} [DecidableEq κ] {pairs : List (κ × β)} {key : κ} :
    pairs.lookup key = none ↔ key ∉ pairs.map (·.1) := by
  simp only [List.lookup_eq_none_iff, List.mem_map, bne_iff_ne, not_exists, not_and]
  exact ⟨fun absent pair member same => absent pair member same.symm,
    fun absent pair member same => absent pair member same.symm⟩

namespace Memo

variable {κ : Type}

/-- A memo with room for `capacity` keys that holds each of its keys once. -/
structure Within (capacity : Nat) (memo : Memo κ) : Prop where
  room : 0 < capacity
  capacity_eq : memo.capacity = capacity
  size_le : memo.size ≤ capacity
  nodup : memo.keys.Nodup

theorem Within.recount {capacity : Nat} {memo : Memo κ} (within : memo.Within capacity)
    (hits misses : Nat) : Within capacity { memo with hits, misses } :=
  ⟨within.room, within.capacity_eq, within.size_le, within.nodup⟩

theorem eq_of_ofCapacity {capacity : Nat} {memo : Memo κ}
    (sized : ofCapacity capacity = .ok memo) : 0 < capacity ∧ memo = ⟨capacity, [], 0, 0⟩ := by
  unfold ofCapacity at sized
  split at sized
  · cases sized
  next positive =>
    cases sized
    exact ⟨by omega, rfl⟩

theorem within_of_ofCapacity {capacity : Nat} {memo : Memo κ}
    (sized : ofCapacity capacity = .ok memo) : memo.Within capacity := by
  obtain ⟨positive, rfl⟩ := eq_of_ofCapacity sized
  exact ⟨positive, rfl, by simp [size], List.nodup_nil⟩

section Keys

variable [DecidableEq κ] {capacity : Nat} {memo : Memo κ} {key other : κ} {outcome : Outcome}

theorem peek?_eq_none_iff : memo.peek? key = none ↔ key ∉ memo.keys :=
  lookup_eq_none_iff_not_mem

theorem mem_keys_of_peek?_eq_some (held : memo.peek? key = some outcome) : key ∈ memo.keys :=
  Decidable.byContradiction fun absent => by
    rw [peek?_eq_none_iff.2 absent] at held
    cases held

theorem keys_publish : (memo.publish key outcome).keys =
    (key :: memo.keys.filter (· ≠ key)).take memo.capacity := by
  simp only [keys, publish, List.map_take, List.map_cons, List.filter_map]
  rfl

theorem mem_keys_publish (held : other ∈ (memo.publish key outcome).keys) :
    other = key ∨ other ∈ memo.keys := by
  rw [keys_publish] at held
  rcases List.mem_cons.1 (List.mem_of_mem_take held) with rfl | kept
  · exact .inl rfl
  · exact .inr (List.mem_filter.1 kept).1

theorem size_publish_le (memo : Memo κ) (key : κ) (outcome : Outcome) :
    (memo.publish key outcome).size ≤ memo.size + 1 := by
  refine Nat.le_trans (List.length_take_le' _ _) ?_
  exact Nat.succ_le_succ (List.length_filter_le _ _)

theorem size_publish_le_of_mem (held : key ∈ memo.keys) :
    (memo.publish key outcome).size ≤ memo.size := by
  obtain ⟨entry, member, rfl⟩ := List.mem_map.1 held
  refine Nat.le_trans (List.length_take_le' _ _) ?_
  exact List.length_filter_lt_length_iff_exists.2 ⟨entry, member, by simp⟩

theorem mem_keys_settle {result : Except SearchError Outcome}
    (held : other ∈ (memo.settle key result).keys) : other = key ∨ other ∈ memo.keys := by
  cases result with
  | error e => exact .inr held
  | ok outcome => exact mem_keys_publish held

@[simp] theorem settle_hits (result : Except SearchError Outcome) :
    (memo.settle key result).hits = memo.hits := by
  cases result <;> rfl

@[simp] theorem settle_misses (result : Except SearchError Outcome) :
    (memo.settle key result).misses = memo.misses := by
  cases result <;> rfl

namespace Within

theorem mem_keys_publish_self (within : memo.Within capacity) :
    key ∈ (memo.publish key outcome).keys := by
  obtain ⟨less, more⟩ := Nat.exists_eq_add_of_lt within.room
  rw [keys_publish, within.capacity_eq, show capacity = less + 1 by omega, List.take_succ_cons]
  exact List.mem_cons_self

theorem peek?_publish_self (within : memo.Within capacity) :
    (memo.publish key outcome).peek? key = some outcome := by
  obtain ⟨less, more⟩ := Nat.exists_eq_add_of_lt within.room
  rw [peek?, Memo.publish, within.capacity_eq, show capacity = less + 1 by omega,
    List.take_succ_cons]
  exact List.lookup_cons_self

theorem publish (within : memo.Within capacity) : (memo.publish key outcome).Within capacity where
  room := within.room
  capacity_eq := within.capacity_eq
  size_le := by
    rw [← within.capacity_eq]
    exact List.length_take_le _ _
  nodup := by
    rw [keys_publish]
    refine List.Nodup.sublist (List.take_sublist _ _) (List.nodup_cons.2 ⟨?_, ?_⟩)
    · simp
    · exact within.nodup.filter _

theorem settle (within : memo.Within capacity) (result : Except SearchError Outcome) :
    (memo.settle key result).Within capacity := by
  cases result with
  | error e => exact within
  | ok outcome => exact within.publish

end Within

end Keys

/-! ## Outcomes held -/

section Outcomes

variable {known known' : κ → Outcome → Prop} {memo : Memo κ} {key : κ} {outcome : Outcome}

/-- Every outcome held is known for its key. -/
def Knows (known : κ → Outcome → Prop) (memo : Memo κ) : Prop :=
  ∀ entry ∈ memo.entries, known entry.1 entry.2

theorem Knows.mono (knows : memo.Knows known)
    (more : ∀ key outcome, known key outcome → known' key outcome) : memo.Knows known' :=
  fun entry member => more entry.1 entry.2 (knows entry member)

theorem knows_of_ofCapacity {capacity : Nat} (sized : ofCapacity capacity = .ok memo) :
    memo.Knows known := by
  obtain ⟨_, rfl⟩ := eq_of_ofCapacity sized
  exact List.forall_mem_nil _

variable [DecidableEq κ]

theorem Knows.of_peek? (knows : memo.Knows known) (held : memo.peek? key = some outcome) :
    known key outcome := by
  obtain ⟨before, after, split, _⟩ := List.lookup_eq_some_iff.1 held
  exact knows (key, outcome) (by simp [split])

theorem Knows.publish (knows : memo.Knows known) (right : known key outcome) :
    (memo.publish key outcome).Knows known := by
  intro entry member
  rcases List.mem_cons.1 (List.mem_of_mem_take member) with rfl | kept
  · exact right
  · exact knows entry (List.mem_filter.1 kept).1

theorem Knows.settle (knows : memo.Knows known) {result : Except SearchError Outcome}
    (right : ∀ outcome, result = .ok outcome → known key outcome) :
    (memo.settle key result).Knows known := by
  cases result with
  | error e => exact knows
  | ok outcome => exact knows.publish (right outcome rfl)

end Outcomes

end Memo

end FlagSearch
