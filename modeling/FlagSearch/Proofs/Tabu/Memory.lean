import FlagSearch.TabuList
import Mathlib.Data.List.Nodup

/-!
# What the tabu list remembers

The list keeps its sets twice: in a queue, for the order of insertion, and in a hash set, for
membership.  `TabuList.Coherent` says that the two agree; then an insertion is one equation about
the queue (`insert_queue`), whether the set is new or known and whether or not the list is full.

A walk that never inserts a set it still remembers makes the queue hold the sets inserted last:
that is `TabuList.Remembers`.
-/

namespace FlagSearch.TabuList

variable {tabu : TabuList} {set : FlagSet}

/-- The queue and the hash set hold the same sets, each once, and not too many of them. -/
structure Coherent (tabu : TabuList) : Prop where
  nodup : tabu.queue.Nodup
  contains_iff : ∀ set, tabu.contains set = true ↔ set ∈ tabu.queue
  size_le : tabu.size ≤ tabu.capacity

theorem coherent_ofCapacity (capacity : Nat) : (ofCapacity capacity).Coherent where
  nodup := List.nodup_nil
  contains_iff set := by simp [ofCapacity, contains]
  size_le := Nat.zero_le _

/-! ## Insertion -/

@[simp] theorem insert_capacity (tabu : TabuList) (set : FlagSet) :
    (tabu.insert set).2.capacity = tabu.capacity := by
  unfold insert
  split
  · rfl
  · split
    · rfl
    · split
      · split <;> rfl
      · rfl

/-- An insertion moves the set to the end of the queue, or puts it there, and then drops what
exceeds the capacity from the front. -/
theorem Coherent.insert_queue (coherent : tabu.Coherent) (set : FlagSet) :
    (tabu.insert set).2.queue =
      (tabu.queue.erase set ++ [set]).drop
        ((tabu.queue.erase set ++ [set]).length - tabu.capacity) := by
  have bound : tabu.queue.length ≤ tabu.capacity := coherent.size_le
  unfold insert
  split
  next none =>
    have empty : tabu.queue = [] := List.length_eq_zero_iff.1 (by omega)
    simp [none, empty]
  next some =>
    split
    next known =>
      have member := (coherent.contains_iff set).1 known
      have length := List.length_erase_of_mem member
      have positive := List.length_pos_of_mem member
      have fits : (tabu.queue.erase set ++ [set]).length - tabu.capacity = 0 := by
        rw [List.length_append, List.length_singleton, length]
        omega
      rw [fits, List.drop_zero]
    next new =>
      have absent : set ∉ tabu.queue := fun member => new ((coherent.contains_iff set).2 member)
      rw [List.erase_of_not_mem absent]
      split
      next oldest rest queue =>
        rw [queue] at bound ⊢
        split
        next full =>
          have full : tabu.capacity = rest.length + 1 := by
            simp only [size, queue, List.length_cons] at full bound
            omega
          simp [full]
        next room =>
          have room : rest.length + 1 < tabu.capacity := by
            simpa only [size, queue, List.length_cons, Nat.not_le] using room
          have fits : (oldest :: rest ++ [set]).length - tabu.capacity = 0 := by
            simp only [List.length_append, List.length_cons, List.length_nil]
            omega
          rw [fits, List.drop_zero]
      next queue =>
        have fits : ([] ++ [set] : List FlagSet).length - tabu.capacity = 0 := by
          simp only [List.nil_append, List.length_singleton]
          omega
        rw [queue, fits]
        rfl

theorem Coherent.nodup_moved (coherent : tabu.Coherent) (set : FlagSet) :
    (tabu.queue.erase set ++ [set]).Nodup := by
  refine List.nodup_append.2 ⟨coherent.nodup.erase set, List.nodup_singleton set, ?_⟩
  intro other member last isSet same
  rw [same, List.mem_singleton.1 isSet] at member
  exact coherent.nodup.not_mem_erase member

theorem contains_insert_erase {members : Std.HashSet FlagSet} {oldest other : FlagSet} :
    ((members.erase oldest).insert set).contains other = true ↔
      other = set ∨ other ≠ oldest ∧ members.contains other = true := by
  simp [Std.HashSet.contains_insert, Std.HashSet.contains_erase, @eq_comm _ other]

theorem contains_insert {members : Std.HashSet FlagSet} {other : FlagSet} :
    (members.insert set).contains other = true ↔
      other = set ∨ members.contains other = true := by
  simp [Std.HashSet.contains_insert, @eq_comm _ other]

theorem Coherent.insert_contains (coherent : tabu.Coherent) (set other : FlagSet) :
    (tabu.insert set).2.contains other = true ↔ other ∈ (tabu.insert set).2.queue := by
  have before : tabu.members.contains other = true ↔ other ∈ tabu.queue :=
    coherent.contains_iff other
  unfold insert
  split
  · exact before
  · split
    next known =>
      have member := (coherent.contains_iff set).1 known
      rw [contains, before, List.mem_append, List.mem_singleton]
      by_cases same : other = set
      · simp [same, member]
      · simp [same, List.mem_erase_of_ne same]
    next new =>
      split
      next oldest rest queue =>
        have nodup := coherent.nodup
        rw [queue] at nodup before
        split
        · have gone : oldest ∉ rest := (List.nodup_cons.1 nodup).1
          rw [contains, contains_insert_erase, before, List.mem_cons, List.mem_append,
            List.mem_singleton]
          by_cases dropped : other = oldest
          · simp [dropped, gone]
          · simp [dropped, or_comm]
        · rw [contains, contains_insert, before, queue, List.mem_append, List.mem_singleton,
            or_comm]
      next queue =>
        rw [queue] at before
        rw [contains, contains_insert, before]
        simp

theorem Coherent.insert (coherent : tabu.Coherent) (set : FlagSet) :
    (tabu.insert set).2.Coherent where
  nodup := by
    rw [coherent.insert_queue set]
    exact (coherent.nodup_moved set).sublist (List.drop_sublist _ _)
  contains_iff := coherent.insert_contains set
  size_le := by
    rw [size, coherent.insert_queue set, insert_capacity, List.length_drop]
    omega

/-! ## The memory of a walk -/

/-- The list holds the `capacity` sets that the walk `visited`, latest first, inserted last. -/
structure Remembers (tabu : TabuList) (capacity : Nat) (visited : List FlagSet) : Prop where
  coherent : tabu.Coherent
  capacity_eq : tabu.capacity = capacity
  queue_eq : tabu.queue = (visited.take capacity).reverse

theorem remembers_ofCapacity (capacity : Nat) : (ofCapacity capacity).Remembers capacity [] where
  coherent := coherent_ofCapacity capacity
  capacity_eq := rfl
  queue_eq := by simp [ofCapacity]

variable {capacity : Nat} {visited : List FlagSet}

theorem Remembers.contains_iff (remembers : tabu.Remembers capacity visited) (set : FlagSet) :
    tabu.contains set = true ↔ set ∈ visited.take capacity := by
  rw [remembers.coherent.contains_iff, remembers.queue_eq, List.mem_reverse]

/-- What is past the capacity is dropped from the front of a queue, which is the end of what was
inserted last. -/
theorem drop_reverse_eq_take (sets : List FlagSet) (capacity : Nat) :
    sets.reverse.drop (sets.reverse.length - capacity) = (sets.take capacity).reverse := by
  rw [List.drop_reverse]
  congr 1
  rw [List.take_eq_take_iff, List.length_reverse]
  omega

theorem Remembers.insert (remembers : tabu.Remembers capacity visited)
    (new : set ∉ visited.take capacity) :
    (tabu.insert set).2.Remembers capacity (set :: visited) where
  coherent := remembers.coherent.insert set
  capacity_eq := (insert_capacity tabu set).trans remembers.capacity_eq
  queue_eq := by
    have absent : set ∉ tabu.queue := by
      rwa [remembers.queue_eq, List.mem_reverse]
    have latest :
        (set :: visited.take capacity).take capacity = (set :: visited).take capacity := by
      cases capacity with
      | zero => rfl
      | succ less => simp [List.take_take]
    rw [remembers.coherent.insert_queue, List.erase_of_not_mem absent, remembers.queue_eq,
      remembers.capacity_eq, ← List.reverse_cons, drop_reverse_eq_take, latest]

end FlagSearch.TabuList
