import FlagSearch.Proofs.FlagSet.Flips
import Mathlib.Data.List.Induction

/-!
# Advancing in range

A listing is advanced in place: its tuple is searched from behind for a position that has room, that
position moves up by one, and each one behind it follows the one before.  Places are read and
written by number, and the bound of a place comes from a subtraction of the size of the tuple.
Here these steps are taken with every read, write and subtraction checked.  As long as the tuple is
no larger than the set, none of the checks fails, and the outcome is the advance of the listing.

* `Neighbours.InRange` — tuples of positions that the set has, and no more of them than it has.
* `Neighbours.advance?` — the advance in place, which fails at the first check that does.
* `Neighbours.advance?_eq` — it does not fail in range, and is the advance of the listing.
-/

namespace FlagSearch.Neighbours

variable {base : FlagSet} {listing : Neighbours} {bound maxFlip : Nat}

/-! ## Listings in range -/

/-- The positions of a listing are some of its base, and no more than that has. -/
structure InRange (listing : Neighbours) : Prop where
  size_le : listing.positions.length ≤ listing.maxFlip
  maxFlip_le : listing.maxFlip ≤ listing.base.length
  inside : ∀ i ∈ listing.positions, i < listing.base.length

theorem inRange_of_neighbours (opened : neighbours base maxFlip = .ok listing) :
    listing.InRange := by
  unfold neighbours at opened
  split at opened
  · cases opened
  next fits =>
    cases opened
    rw [not_or, Nat.not_lt] at fits
    refine ⟨Nat.pos_of_ne_zero fits.1, fits.2, fun i member => ?_⟩
    rw [List.mem_singleton.1 member]
    exact Nat.lt_of_lt_of_le (Nat.pos_of_ne_zero fits.1) fits.2

theorem exists_neighbours_single (some : 0 < base.length) :
    ∃ listing, neighbours base 1 = .ok listing := by
  have fits : ¬(1 = 0 ∨ base.length < 1) := by omega
  exact ⟨_, if_neg fits⟩

theorem successor_inside {positions next : List Nat} (inside : ∀ i ∈ positions, i < bound)
    (moved : successor bound positions = some next) :
    next.length = positions.length ∧ ∀ i ∈ next, i < bound := by
  induction positions generalizing next with
  | nil => cases moved
  | cons position rest ih =>
    obtain ⟨here, others⟩ := List.forall_mem_cons.1 inside
    rw [successor] at moved
    split at moved
    next rest' later =>
      cases moved
      obtain ⟨length, below⟩ := ih others later
      exact ⟨congrArg (· + 1) length, List.forall_mem_cons.2 ⟨here, below⟩⟩
    next stuck =>
      split at moved
      next room =>
        cases moved
        refine ⟨List.length_range' .., fun i member => ?_⟩
        obtain ⟨_, below⟩ := List.mem_range'_1.1 member
        omega
      · cases moved

theorem InRange.advance (inRange : listing.InRange) : listing.advance.InRange := by
  obtain ⟨base, maxFlip, positions, exhausted⟩ := listing
  obtain ⟨size_le, maxFlip_le, inside⟩ := inRange
  unfold Neighbours.advance
  split
  next positions' moved =>
    obtain ⟨length, below⟩ := successor_inside inside moved
    exact ⟨length ▸ size_le, maxFlip_le, below⟩
  next stuck =>
    split
    next more =>
      refine ⟨?_, maxFlip_le, fun i member => ?_⟩
      · rw [List.length_range]
        exact more
      · have below := List.mem_range.1 member
        exact Nat.lt_of_lt_of_le below (Nat.le_trans more maxFlip_le)
    · exact ⟨size_le, maxFlip_le, inside⟩

theorem advance_base (listing : Neighbours) : listing.advance.base = listing.base := by
  unfold advance
  split
  · rfl
  · split <;> rfl

theorem InRange.exists_take (inRange : listing.InRange) (fuel : Nat) :
    ∃ sets, listing.take fuel = .ok sets ∧ ∀ set ∈ sets, set.length = listing.base.length := by
  induction fuel generalizing listing with
  | zero => exact ⟨[], rfl, by simp⟩
  | succ fuel ih =>
    rw [take, next]
    split
    · exact ⟨[], rfl, by simp⟩
    · obtain ⟨set, flipped⟩ := FlagSet.exists_flipAll inRange.inside
      obtain ⟨sets, later, lengths⟩ := ih inRange.advance
      rw [advance_base] at lengths
      refine ⟨set :: sets, ?_, List.forall_mem_cons.2 ⟨FlagSet.length_of_flipAll flipped, lengths⟩⟩
      simp only [flipped, later, bind, Except.bind, pure, Except.pure]

/-! ## In place -/

def minus? (larger smaller : Nat) : Option Nat :=
  if smaller ≤ larger then some (larger - smaller) else none

def store? (positions : List Nat) (place position : Nat) : Option (List Nat) :=
  if place < positions.length then some (positions.set place position) else none

/-- The last of the first `count` places whose position has room to move, if there is one. -/
def lastRoom? (bound : Nat) (positions : List Nat) : (count : Nat) → Option (Option Nat)
  | 0 => some none
  | place + 1 => do
      let position ← positions[place]?
      let room ← minus? bound positions.length
      if position < room + place then some (some place) else lastRoom? bound positions place

/-- Each of `count` places from `place` on gets the position after the one at the place before. -/
def follow? : (count place : Nat) → List Nat → Option (List Nat)
  | 0, _, positions => some positions
  | count + 1, place, positions => do
      let before ← minus? place 1
      let position ← positions[before]?
      let positions ← store? positions place (position + 1)
      follow? count (place + 1) positions

/-- The listing one neighbour further on, advanced in place. -/
def advance? (listing : Neighbours) : Option Neighbours := do
  let size := listing.positions.length
  match ← lastRoom? listing.base.length listing.positions size with
  | some place =>
      let position ← listing.positions[place]?
      let positions ← store? listing.positions place (position + 1)
      let positions ← follow? (size - (place + 1)) (place + 1) positions
      some { listing with positions }
  | none =>
      if size < listing.maxFlip then some { listing with positions := List.range (size + 1) }
      else some { listing with exhausted := true }

theorem getElem?_middle (front back : List Nat) (position : Nat) :
    (front ++ position :: back)[front.length]? = some position := by
  simp

theorem store?_middle (front back : List Nat) (old position : Nat) :
    store? (front ++ old :: back) front.length position = some (front ++ position :: back) := by
  simp [store?]

theorem follow?_eq (front back : List Nat) (position : Nat) :
    follow? back.length (front.length + 1) (front ++ position :: back) =
      some (front ++ List.range' position (back.length + 1)) := by
  induction back generalizing front position with
  | nil => rfl
  | cons old back ih =>
    have one : minus? (front.length + 1) 1 = some front.length := by simp [minus?]
    have stored : store? (front ++ position :: old :: back) (front.length + 1) (position + 1) =
        some (front ++ position :: (position + 1) :: back) := by
      simpa using store?_middle (front ++ [position]) back old (position + 1)
    have rest : follow? back.length (front.length + 1 + 1)
        (front ++ position :: (position + 1) :: back) =
          some (front ++ position :: List.range' (position + 1) (back.length + 1)) := by
      simpa using ih (front ++ [position]) (position + 1)
    simp only [List.length_cons, follow?, one, getElem?_middle, stored, rest, Option.bind_eq_bind,
      Option.bind_some, List.range'_succ (s := position)]

theorem successor_append {positions next : List Nat} (front : List Nat)
    (moved : successor bound positions = some next) :
    successor bound (front ++ positions) = some (front ++ next) := by
  induction front with
  | nil => exact moved
  | cons position front ih => simp [successor, ih]

/-- The search from behind finds the place that the successor moves, unless there is none.  It has
got as far as `front`, and what it has left behind it is stuck. -/
theorem lastRoom?_cases (front back : List Nat) (stuck : successor bound back = none)
    (fits : (front ++ back).length ≤ bound) :
    (lastRoom? bound (front ++ back) front.length = some none ∧
      successor bound (front ++ back) = none) ∨
    ∃ before position behind, front ++ back = before ++ position :: behind ∧
      lastRoom? bound (front ++ back) front.length = some (some before.length) ∧
      successor bound (front ++ back) =
        some (before ++ List.range' (position + 1) (behind.length + 1)) := by
  induction front using List.reverseRecOn generalizing back with
  | nil => exact .inl ⟨rfl, stuck⟩
  | append_singleton front position ih =>
    rw [List.append_assoc, List.singleton_append] at fits ⊢
    have size : (front ++ position :: back).length = front.length + back.length + 1 := by
      simp [Nat.add_assoc]
    have room : minus? bound (front ++ position :: back).length =
        some (bound - (front.length + back.length + 1)) := by
      rw [minus?, if_pos fits, size]
    have looked : lastRoom? bound (front ++ position :: back) (front ++ [position]).length =
        if position < bound - (front.length + back.length + 1) + front.length then
          some (some front.length)
        else lastRoom? bound (front ++ position :: back) front.length := by
      rw [List.length_append, List.length_singleton, lastRoom?, getElem?_middle, room]
      rfl
    rw [looked]
    by_cases moves : position + back.length + 1 < bound
    · refine .inr ⟨front, position, back, rfl, ?_, successor_append front ?_⟩
      · rw [if_pos (by omega)]
      · simp [successor, stuck, moves]
    · rw [if_neg (by omega)]
      refine ih (position :: back) ?_ fits
      simp [successor, stuck, moves]

theorem advance?_eq (listing : Neighbours)
    (fits : listing.positions.length ≤ listing.base.length) :
    listing.advance? = some listing.advance := by
  have cases := lastRoom?_cases listing.positions [] rfl (by simpa using fits)
  rw [List.append_nil] at cases
  rcases cases with ⟨looked, stuck⟩ | ⟨before, position, behind, split, looked, moved⟩
  · simp only [advance?, advance, looked, stuck, Option.bind_eq_bind, Option.bind_some]
    split <;> rfl
  · rw [split] at looked moved
    have count : (before ++ position :: behind).length - (before.length + 1) = behind.length := by
      rw [List.length_append, List.length_cons]
      omega
    simp only [advance?, advance, split, looked, moved, getElem?_middle, store?_middle, count,
      follow?_eq, Option.bind_eq_bind, Option.bind_some]

end FlagSearch.Neighbours
