import FlagSearch.Neighbours
import Mathlib.Data.Nat.Choose.Basic

/-!
# Ascending tuples of positions

A listing of neighbours goes from one tuple of positions to the next one: the last position that has
room moves up, and the ones behind it follow directly.  That this reaches every tuple, and each of
them once, is seen from the plain recursion over the positions there are: the tuples that begin with
the lowest position come first, then the ones that leave it out.  The one place where the two meet
is the last tuple of the first kind, which has the first tuple of the second kind for its successor.

* `tuplesFrom` — the ascending tuples in lexicographic order, by recursion.
* `Lexicographic`, `lexicographic_tuplesFrom` — what is meant by that, said of any rows.
* `length_tuplesFrom` — there are as many as the binomial coefficient says.
* `Neighbours.Succeeds`, `Neighbours.succeeds_tuplesFrom` — the successors of the first tuple.
-/

namespace FlagSearch

/-- The ascending tuples of `size` positions, out of the `room` positions from `low` on. -/
def tuplesFrom : (low room size : Nat) → List (List Nat)
  | _, _, 0 => [[]]
  | _, 0, _ + 1 => []
  | low, room + 1, size + 1 =>
      (tuplesFrom (low + 1) room size).map (low :: ·) ++ tuplesFrom (low + 1) room (size + 1)

/-- The rows are the ascending tuples of `size` positions below `bound`, in lexicographic order. -/
structure Lexicographic (bound size : Nat) (rows : List (List Nat)) : Prop where
  mem_iff : ∀ positions, positions ∈ rows ↔
    positions.length = size ∧ positions.Pairwise (· < ·) ∧ ∀ i ∈ positions, i < bound
  sorted : rows.Pairwise (List.Lex (· < ·))

variable {low room size bound : Nat} {positions : List Nat}

/-! ## The tuples in order -/

theorem mem_tuplesFrom : positions ∈ tuplesFrom low room size ↔
    positions.length = size ∧ positions.Pairwise (· < ·) ∧
      ∀ i ∈ positions, low ≤ i ∧ i < low + room := by
  induction room generalizing low size positions with
  | zero =>
    cases size with
    | zero => cases positions <;> simp [tuplesFrom]
    | succ size =>
      cases positions with
      | nil => simp [tuplesFrom]
      | cons first rest =>
        simp only [tuplesFrom, List.not_mem_nil, List.mem_cons, forall_eq_or_imp, false_iff]
        omega
  | succ room ih =>
    cases size with
    | zero => cases positions <;> simp [tuplesFrom]
    | succ size =>
      cases positions with
      | nil => simp [tuplesFrom, ih]
      | cons first rest =>
        have splits : first :: rest ∈ tuplesFrom low (room + 1) (size + 1) ↔
            (low = first ∧ rest ∈ tuplesFrom (low + 1) room size) ∨
              first :: rest ∈ tuplesFrom (low + 1) room (size + 1) := by
          simp [tuplesFrom, and_comm]
        rw [splits, ih, ih]
        simp only [List.length_cons, List.pairwise_cons, List.forall_mem_cons,
          Nat.add_right_cancel_iff]
        constructor
        · rintro (⟨rfl, length, ascending, range⟩ | ⟨length, ascending, here, range⟩)
          · refine ⟨length, ⟨fun i member => ?_, ascending⟩, by omega, fun i member => ?_⟩
            · have := range i member
              omega
            · have := range i member
              omega
          · refine ⟨length, ascending, by omega, fun i member => ?_⟩
            have := range i member
            omega
        · rintro ⟨length, ⟨above, ascending⟩, here, range⟩
          by_cases lowest : low = first
          · refine .inl ⟨lowest, length, ascending, fun i member => ?_⟩
            have := above i member
            have := range i member
            omega
          · refine .inr ⟨length, ⟨above, ascending⟩, by omega, fun i member => ?_⟩
            have := above i member
            have := range i member
            omega

theorem sorted_tuplesFrom (low room size : Nat) :
    (tuplesFrom low room size).Pairwise (List.Lex (· < ·)) := by
  induction room generalizing low size with
  | zero => cases size <;> simp [tuplesFrom]
  | succ room ih =>
    cases size with
    | zero => simp [tuplesFrom]
    | succ size =>
      rw [tuplesFrom, List.pairwise_append]
      refine ⟨?_, ih _ _, ?_⟩
      · exact List.pairwise_map.2 ((ih _ _).imp fun earlier => .cons earlier)
      · intro earlier begins later leaves
        obtain ⟨rest, _, rfl⟩ := List.mem_map.1 begins
        obtain ⟨length, _, range⟩ := mem_tuplesFrom.1 leaves
        cases later with
        | nil => cases length
        | cons first later =>
          have := range first List.mem_cons_self
          exact .rel (by omega)

theorem lexicographic_tuplesFrom (bound size : Nat) :
    Lexicographic bound size (tuplesFrom 0 bound size) where
  mem_iff positions := by simp [mem_tuplesFrom]
  sorted := sorted_tuplesFrom 0 bound size

theorem Lexicographic.nodup {rows : List (List Nat)} (ordered : Lexicographic bound size rows) :
    rows.Nodup := by
  refine ordered.sorted.imp fun {earlier later} before => ?_
  rintro rfl
  exact List.lex_irrefl Nat.lt_irrefl _ before

theorem length_tuplesFrom (low room size : Nat) :
    (tuplesFrom low room size).length = room.choose size := by
  induction room generalizing low size with
  | zero => cases size <;> simp [tuplesFrom]
  | succ room ih =>
    cases size with
    | zero => simp [tuplesFrom]
    | succ size => simp [tuplesFrom, ih, Nat.choose_succ_succ]

theorem tuplesFrom_eq_nil (few : room < size) : tuplesFrom low room size = [] := by
  apply List.eq_nil_of_length_eq_zero
  rw [length_tuplesFrom, Nat.choose_eq_zero_of_lt few]

/-! ## Successors -/

namespace Neighbours

/-- The rows are a tuple and its successors, to the last one, which has none. -/
inductive Succeeds (bound : Nat) : List (List Nat) → Prop where
  | last {positions : List Nat} (stuck : successor bound positions = none) :
      Succeeds bound [positions]
  | next {positions later : List Nat} {rows : List (List Nat)}
      (moves : successor bound positions = some later) (rest : Succeeds bound (later :: rows)) :
      Succeeds bound (positions :: later :: rows)

/-- A position in front of the tuples lets them move as long as they have room.  Behind the last of
them stand the tuples that the position is part of when it moves itself. -/
theorem Succeeds.map_cons {rows others : List (List Nat)} (run : Succeeds bound rows)
    (lengths : ∀ positions ∈ rows, positions.length = size)
    (moves : low + size + 1 < bound →
      ∃ rest, others = List.range' (low + 1) (size + 1) :: rest ∧ Succeeds bound others)
    (stops : bound ≤ low + size + 1 → others = []) :
    Succeeds bound (rows.map (low :: ·) ++ others) := by
  -- The position in front moves only when none behind it can, so only the last row needs others.
  induction run with
  | @last positions stuck =>
    have length := lengths positions List.mem_cons_self
    by_cases more : low + size + 1 < bound
    · obtain ⟨rest, rfl, run⟩ := moves more
      refine .next ?_ run
      simp [successor, stuck, length, more]
    · rw [stops (by omega)]
      refine .last ?_
      simp [successor, stuck, length, more]
  | @next positions later rows step rest ih =>
    refine .next ?_ (ih fun other member => lengths other (List.mem_cons_of_mem _ member))
    simp [successor, step]

theorem succeeds_tuplesFrom (fits : size ≤ room) :
    ∃ rows, tuplesFrom low room size = List.range' low size :: rows ∧
      Succeeds (low + room) (tuplesFrom low room size) := by
  induction room generalizing low size with
  | zero =>
    obtain rfl : size = 0 := by omega
    exact ⟨[], rfl, .last rfl⟩
  | succ room ih =>
    cases size with
    | zero => exact ⟨[], rfl, .last rfl⟩
    | succ size =>
      obtain ⟨rows, begins, run⟩ := @ih (low + 1) size (by omega)
      have bounds : low + (room + 1) = low + 1 + room := by omega
      have first : tuplesFrom low (room + 1) (size + 1) = List.range' low (size + 1) ::
          (rows.map (low :: ·) ++ tuplesFrom (low + 1) room (size + 1)) := by
        rw [tuplesFrom, begins, List.map_cons, List.cons_append, List.range'_succ]
      -- Tuples with the lowest position in front come first, and behind the last of them the
      -- position itself moves on.
      refine ⟨_, first, ?_⟩
      rw [tuplesFrom, bounds]
      refine run.map_cons (fun positions member => (mem_tuplesFrom.1 member).1) ?_ ?_
      · intro more
        exact @ih (low + 1) (size + 1) (by omega)
      · intro full
        exact tuplesFrom_eq_nil (by omega)

end Neighbours

end FlagSearch
