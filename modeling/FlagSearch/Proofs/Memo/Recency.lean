import FlagSearch.Proofs.Memo.Keys
import Mathlib.Data.List.Dedup

/-!
# The keys touched last

The keys that were ever touched, in the order of their last touch, are a list that does not know of
any capacity.  A memo holds the beginning of it, as much as it has room for; so a larger memo holds
what a smaller one does.

* `recent` — the different keys among those touched, the one touched last first.
* `recent_append_singleton` — a touch moves its key to the front.
* `take_cons_filter_take` — which keys are dropped makes no difference to what is held later.
* `Memo.keys_publish_of_recent` — publishing is a touch.
-/

namespace FlagSearch

variable {κ : Type} [DecidableEq κ] {touched : List κ} {key : κ}

/-- The different keys among those touched, the one touched last first. -/
def recent (touched : List κ) : List κ := touched.dedup.reverse

@[simp] theorem recent_nil : recent ([] : List κ) = [] := rfl

theorem nodup_recent (touched : List κ) : (recent touched).Nodup :=
  List.nodup_reverse.2 touched.nodup_dedup

theorem dedup_append_singleton (touched : List κ) (key : κ) :
    (touched ++ [key]).dedup = touched.dedup.filter (· ≠ key) ++ [key] := by
  induction touched with
  | nil => rfl
  | cons first touched ih =>
    rw [List.cons_append]
    by_cases later : first ∈ touched
    · rw [List.dedup_cons_of_mem (List.mem_append_left _ later), List.dedup_cons_of_mem later, ih]
    · rw [List.dedup_cons_of_notMem later]
      by_cases same : first = key
      · rw [List.dedup_cons_of_mem (by simp [same]), ih,
          List.filter_cons_of_neg (by simp [same])]
      · rw [List.dedup_cons_of_notMem (by simp [same, later]), ih,
          List.filter_cons_of_pos (by simp [same]), List.cons_append]

theorem recent_append_singleton (touched : List κ) (key : κ) :
    recent (touched ++ [key]) = key :: (recent touched).filter (· ≠ key) := by
  rw [recent, dedup_append_singleton, List.reverse_append, ← List.filter_reverse]
  rfl

theorem filter_ne_eq_self {keys : List κ} (absent : key ∉ keys) :
    keys.filter (· ≠ key) = keys :=
  List.filter_eq_self.2 fun other member => by
    simpa using fun same : other = key => absent (same ▸ member)

theorem take_cons_filter_take {keys : List κ} (nodup : keys.Nodup) (key : κ) (capacity : Nat) :
    (key :: (keys.take capacity).filter (· ≠ key)).take capacity =
      (key :: keys.filter (· ≠ key)).take capacity := by
  cases capacity with
  | zero => rfl
  | succ capacity =>
    rw [List.take_succ_cons, List.take_succ_cons]
    congr 1
    induction keys generalizing capacity with
    | nil => simp
    | cons first keys ih =>
      obtain ⟨new, nodup⟩ := List.nodup_cons.1 nodup
      rw [List.take_succ_cons]
      by_cases same : first = key
      · subst same
        have new' : first ∉ keys.take capacity := fun member => new (List.mem_of_mem_take member)
        rw [List.filter_cons_of_neg (by simp), List.filter_cons_of_neg (by simp),
          filter_ne_eq_self new, filter_ne_eq_self new', List.take_take, Nat.min_self]
      · rw [List.filter_cons_of_pos (by simp [same]), List.filter_cons_of_pos (by simp [same])]
        cases capacity with
        | zero => rfl
        | succ capacity => rw [List.take_succ_cons, List.take_succ_cons, ih nodup capacity]

theorem Memo.keys_publish_of_recent {memo : Memo κ}
    (held : memo.keys = (recent touched).take memo.capacity) (key : κ) (outcome : Outcome) :
    (memo.publish key outcome).keys = (recent (touched ++ [key])).take memo.capacity := by
  rw [keys_publish, held, take_cons_filter_take (nodup_recent touched), recent_append_singleton]

end FlagSearch
