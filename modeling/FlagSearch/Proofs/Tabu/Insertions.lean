import FlagSearch.Proofs.Memo.Recency
import FlagSearch.Proofs.Tabu.Memory
import Mathlib.Data.List.Induction

/-!
# The tabu list as a history of insertions

A search inserts only sets that it does not remember, but the list keeps to its rule for any
insertions whatever: it holds the sets whose last insertion is the latest, in that order.  When it
was that a set was inserted last is a matter of the history; the queue and the hash set, the
refreshing in the middle and the dropping at the front only keep track of it.

* `lastTouch` — when a key was touched last.
* `pairwise_recent` — the keys touched last, in that order.
* `TabuList.Coherent.insert_drops`, `TabuList.Coherent.insert_drops_iff` — when a set is dropped,
  and which one.
* `TabuList.Replays`, `TabuList.Replays.insert` — what one insertion keeps true.
* `TabuList.insertions_hold_latest` — any history.
-/

namespace FlagSearch

/-! ## When a key was touched last -/

section LastTouch

variable {κ : Type} [DecidableEq κ] {touched : List κ} {key other : κ}

/-- The number of the last touch of a key, counted from one; zero if it was never touched. -/
def lastTouch (touched : List κ) (key : κ) : Nat := touched.length - touched.reverse.idxOf key

theorem lastTouch_le (touched : List κ) (key : κ) : lastTouch touched key ≤ touched.length :=
  Nat.sub_le ..

theorem lastTouch_append_self (touched : List κ) (key : κ) :
    lastTouch (touched ++ [key]) key = touched.length + 1 := by
  simp [lastTouch]

theorem lastTouch_append_of_ne (apart : other ≠ key) :
    lastTouch (touched ++ [key]) other = lastTouch touched other := by
  rw [lastTouch, List.reverse_append, List.reverse_singleton, List.singleton_append,
    List.idxOf_cons_ne _ apart.symm, List.length_append, List.length_singleton,
    Nat.add_sub_add_right, lastTouch]

theorem mem_recent : key ∈ recent touched ↔ key ∈ touched := by
  rw [recent, List.mem_reverse, List.mem_dedup]

theorem pairwise_recent (touched : List κ) :
    (recent touched).Pairwise fun later earlier =>
      lastTouch touched earlier < lastTouch touched later := by
  induction touched using List.reverseRecOn with
  | nil => exact .nil
  | append_singleton touched key ih =>
    rw [recent_append_singleton]
    have kept : ∀ other ∈ (recent touched).filter (· ≠ key), other ≠ key :=
      fun other member => of_decide_eq_true (List.mem_filter.1 member).2
    refine List.pairwise_cons.2 ⟨fun other member => ?_, ?_⟩
    · rw [lastTouch_append_self, lastTouch_append_of_ne (kept other member)]
      exact Nat.lt_succ_of_le (lastTouch_le touched other)
    · refine (ih.filter _).imp_of_mem fun {later earlier} isLater isEarlier less => ?_
      rwa [lastTouch_append_of_ne (kept later isLater),
        lastTouch_append_of_ne (kept earlier isEarlier)]

end LastTouch

namespace TabuList

variable {tabu : TabuList} {set dropped : FlagSet} {capacity : Nat} {history : List FlagSet}

/-! ## One insertion -/

theorem Coherent.size_members (coherent : tabu.Coherent) : tabu.members.size = tabu.size := by
  have nodup : tabu.members.toList.Nodup :=
    Std.HashSet.distinct_toList.imp fun apart same => by simp [same] at apart
  have same : tabu.members.toList.Perm tabu.queue :=
    (List.perm_ext_iff_of_nodup nodup coherent.nodup).2 fun set => by
      rw [Std.HashSet.mem_toList, Std.HashSet.mem_iff_contains]
      exact coherent.contains_iff set
  rw [← Std.HashSet.length_toList, same.length_eq, size]

/-- A set is dropped if a new one is inserted into a list that is full, and then it is the first of
the queue. -/
theorem Coherent.insert_drops_iff (coherent : tabu.Coherent) (set dropped : FlagSet) :
    (tabu.insert set).1 = some dropped ↔
      0 < tabu.capacity ∧ set ∉ tabu.queue ∧ tabu.size = tabu.capacity ∧
        tabu.queue.head? = some dropped := by
  have bound := coherent.size_le
  unfold TabuList.insert
  split
  next none => simp [none]
  next some =>
    have positive : 0 < tabu.capacity := Nat.pos_of_ne_zero some
    split
    next known => simp [(coherent.contains_iff set).1 known]
    next new =>
      have absent : set ∉ tabu.queue := fun member => new ((coherent.contains_iff set).2 member)
      split
      next oldest rest queue =>
        split
        next full =>
          have full : tabu.size = tabu.capacity := Nat.le_antisymm bound full
          rw [and_iff_right positive, and_iff_right absent, and_iff_right full, queue]
          rfl
        next room => simp [Nat.ne_of_lt (Nat.not_le.1 room)]
      next queue => simp [queue]

theorem Coherent.insert_drops (coherent : tabu.Coherent) (set : FlagSet) :
    (tabu.insert set).1.isSome = true ↔
      0 < tabu.capacity ∧ set ∉ tabu.queue ∧ tabu.size = tabu.capacity := by
  rw [Option.isSome_iff_exists]
  constructor
  · rintro ⟨dropped, drops⟩
    obtain ⟨some, new, full, _⟩ := (coherent.insert_drops_iff set dropped).1 drops
    exact ⟨some, new, full⟩
  · rintro ⟨some, new, full⟩
    have nonempty : tabu.queue ≠ [] := List.ne_nil_of_length_pos (show 0 < tabu.size by omega)
    obtain ⟨oldest, rest, queue⟩ := List.exists_cons_of_ne_nil nonempty
    exact ⟨oldest, (coherent.insert_drops_iff set oldest).2 ⟨some, new, full, by simp [queue]⟩⟩

/-! ## Any insertions -/

def ofHistory (capacity : Nat) (history : List FlagSet) : TabuList :=
  history.foldl (fun tabu set => (tabu.insert set).2) (ofCapacity capacity)

/-- The list holds as many of the sets inserted last as it has room for, the latest last. -/
structure Replays (tabu : TabuList) (capacity : Nat) (history : List FlagSet) : Prop where
  coherent : tabu.Coherent
  capacity_eq : tabu.capacity = capacity
  queue_eq : tabu.queue = ((recent history).take capacity).reverse

theorem replays_ofCapacity (capacity : Nat) : (ofCapacity capacity).Replays capacity [] where
  coherent := coherent_ofCapacity capacity
  capacity_eq := rfl
  queue_eq := by simp [ofCapacity]

theorem Replays.insert (replays : tabu.Replays capacity history) (set : FlagSet) :
    (tabu.insert set).2.Replays capacity (history ++ [set]) where
  coherent := replays.coherent.insert set
  capacity_eq := (insert_capacity tabu set).trans replays.capacity_eq
  queue_eq := by
    have moved : tabu.queue.erase set ++ [set] =
        (set :: ((recent history).take capacity).filter (· ≠ set)).reverse := by
      rw [replays.coherent.nodup.erase_eq_filter, replays.queue_eq, List.reverse_cons,
        List.filter_reverse]
      simp only [decide_not, ne_eq, bne, beq_eq_decide]
    rw [replays.coherent.insert_queue, moved, replays.capacity_eq, drop_reverse_eq_take,
      take_cons_filter_take (nodup_recent history), recent_append_singleton]

theorem replays_ofHistory (capacity : Nat) (history : List FlagSet) :
    (ofHistory capacity history).Replays capacity history := by
  induction history using List.reverseRecOn with
  | nil => exact replays_ofCapacity capacity
  | append_singleton history set ih =>
    rw [ofHistory, List.foldl_append]
    exact ih.insert set

namespace Replays

theorem size_eq (replays : tabu.Replays capacity history) :
    tabu.size = min capacity history.dedup.length := by
  rw [size, replays.queue_eq, List.length_reverse, List.length_take, recent, List.length_reverse]

theorem pairwise_queue (replays : tabu.Replays capacity history) :
    tabu.queue.Pairwise fun earlier later =>
      lastTouch history earlier < lastTouch history later := by
  rw [replays.queue_eq, List.pairwise_reverse]
  exact (pairwise_recent history).sublist (List.take_sublist _ _)

theorem mem_history (replays : tabu.Replays capacity history) (held : set ∈ tabu.queue) :
    set ∈ history := by
  rw [replays.queue_eq, List.mem_reverse] at held
  exact mem_recent.1 (List.mem_of_mem_take held)

theorem lastTouch_lt (replays : tabu.Replays capacity history) (inserted : set ∈ history)
    (lost : set ∉ tabu.queue) {other : FlagSet} (held : other ∈ tabu.queue) :
    lastTouch history set < lastTouch history other := by
  rw [replays.queue_eq, List.mem_reverse] at lost held
  have all := mem_recent.2 inserted
  have ordered := pairwise_recent history
  rw [← List.take_append_drop capacity (recent history)] at all ordered
  rcases List.mem_append.1 all with kept | past
  · exact absurd kept lost
  · exact (List.pairwise_append.1 ordered).2.2 other held set past

theorem head_queue_iff (replays : tabu.Replays capacity history) :
    tabu.queue.head? = some dropped ↔ dropped ∈ tabu.queue ∧
      ∀ other ∈ tabu.queue, lastTouch history dropped ≤ lastTouch history other := by
  have ordered := replays.pairwise_queue
  cases queue : tabu.queue with
  | nil => simp
  | cons oldest rest =>
    rw [queue] at ordered
    have later := (List.pairwise_cons.1 ordered).1
    rw [List.head?_cons, Option.some.injEq]
    constructor
    · rintro rfl
      refine ⟨List.mem_cons_self, List.forall_mem_cons.2 ⟨Nat.le_refl _, fun other member => ?_⟩⟩
      exact Nat.le_of_lt (later other member)
    · rintro ⟨member, least⟩
      rcases List.mem_cons.1 member with rfl | member
      · rfl
      · exact absurd (least oldest List.mem_cons_self) (Nat.not_le.2 (later dropped member))

end Replays

/-- After any insertions into an empty list, its queue holds no set twice and the hash set beside it
holds the same sets.  They are those whose last insertion is the latest, in the order of that
insertion, the oldest first: all sets that were inserted if there is room for them, and as many as
there is room for otherwise.  These are the sets that the list contains.  One more insertion drops
a set if and only if it is that of a set not on the list, which is full and has room for something;
and then the set dropped is the one whose last insertion is the oldest. -/
theorem insertions_hold_latest (capacity : Nat) (history : List FlagSet) :
    ((ofHistory capacity history).queue.Nodup ∧
      (∀ set, set ∈ (ofHistory capacity history).members ↔
        set ∈ (ofHistory capacity history).queue) ∧
      (ofHistory capacity history).members.size = (ofHistory capacity history).size ∧
      (ofHistory capacity history).size = min capacity history.dedup.length) ∧
    ((∀ set ∈ (ofHistory capacity history).queue, set ∈ history) ∧
      (ofHistory capacity history).queue.Pairwise (fun earlier later =>
        lastTouch history earlier < lastTouch history later) ∧
      ∀ set ∈ history, set ∉ (ofHistory capacity history).queue →
        ∀ other ∈ (ofHistory capacity history).queue,
          lastTouch history set < lastTouch history other) ∧
    (∀ set, (ofHistory capacity history).contains set = true ↔
      set ∈ (ofHistory capacity history).queue) ∧
    ∀ set, (((ofHistory capacity history).insert set).1.isSome = true ↔
        0 < capacity ∧ (ofHistory capacity history).contains set = false ∧
          (ofHistory capacity history).size = capacity) ∧
      ∀ dropped, ((ofHistory capacity history).insert set).1 = some dropped →
        dropped ∈ (ofHistory capacity history).queue ∧
          ∀ other ∈ (ofHistory capacity history).queue,
            lastTouch history dropped ≤ lastTouch history other := by
  have replays := replays_ofHistory capacity history
  have coherent := replays.coherent
  refine ⟨⟨coherent.nodup, fun set => ?_, coherent.size_members, replays.size_eq⟩,
    ⟨fun set => replays.mem_history, replays.pairwise_queue,
      fun set inserted lost other => replays.lastTouch_lt inserted lost⟩,
    coherent.contains_iff, fun set => ⟨?_, fun dropped drops => ?_⟩⟩
  · exact Std.HashSet.mem_iff_contains.trans (coherent.contains_iff set)
  · rw [coherent.insert_drops, replays.capacity_eq, ← coherent.contains_iff, Bool.not_eq_true]
  · obtain ⟨_, _, _, first⟩ := (coherent.insert_drops_iff set dropped).1 drops
    exact replays.head_queue_iff.1 first

end TabuList

end FlagSearch
