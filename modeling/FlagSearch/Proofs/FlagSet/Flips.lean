import FlagSearch.Neighbours
import Mathlib.Data.List.Nodup

/-!
# Single flips

The sets one flip away from a set, as the search lists them and as the cube of all sets has them:
there are as many as flags, no two are equal, and each differs from the set in parity.

* `FlagSet.flips` — the single flips, by ascending position.
* `FlagSet.parity_toggle` — a flip changes the parity of a set.
* `Neighbours.toList_single` — the listing of the neighbours at distance one is `flips`.
-/

namespace FlagSearch

namespace FlagSet

def flips (set : FlagSet) : List FlagSet := (List.range set.length).map set.toggle

@[simp] theorem length_flips (set : FlagSet) : set.flips.length = set.length := by
  simp [flips]

theorem mem_flips {set other : FlagSet} :
    other ∈ set.flips ↔ ∃ i, i < set.length ∧ other = set.toggle i := by
  simp [flips, eq_comm]

theorem length_of_mem_flips {set other : FlagSet} (flip : other ∈ set.flips) :
    other.length = set.length := by
  obtain ⟨i, _, rfl⟩ := mem_flips.1 flip
  exact length_toggle set i

theorem length_of_flipAll {set flipped : FlagSet} {positions : List Nat}
    (turned : set.flipAll positions = .ok flipped) : flipped.length = set.length := by
  induction positions generalizing set with
  | nil =>
    cases turned
    rfl
  | cons position positions ih =>
    rw [flipAll, List.foldlM_cons] at turned
    by_cases inside : position < set.length
    · rw [flip, if_pos inside] at turned
      exact (ih turned).trans (length_toggle set position)
    · rw [flip, if_neg inside] at turned
      cases turned

theorem exists_flipAll {set : FlagSet} {positions : List Nat}
    (inside : ∀ i ∈ positions, i < set.length) :
    ∃ flipped, set.flipAll positions = .ok flipped := by
  induction positions generalizing set with
  | nil => exact ⟨set, rfl⟩
  | cons position positions ih =>
    rw [flipAll, List.foldlM_cons, flip, if_pos (inside position List.mem_cons_self)]
    refine ih fun i member => ?_
    rw [length_toggle]
    exact inside i (List.mem_cons_of_mem _ member)

theorem toggle_injective {set : FlagSet} {i j : Nat} (inside : i < set.length)
    (inside' : j < set.length) (same : set.toggle i = set.toggle j) : i = j := by
  have bits := congrArg (fun flipped => flipped.bit i) same
  simp only [bit_toggle set inside, bit_toggle set inside', decide_true] at bits
  by_cases equal : j = i
  · exact equal.symm
  · simp [equal] at bits

theorem nodup_flips (set : FlagSet) : set.flips.Nodup := by
  refine List.Nodup.map_on ?_ List.nodup_range
  intro i inside j inside' same
  exact toggle_injective (List.mem_range.1 inside) (List.mem_range.1 inside') same

/-! ## Parity -/

def parity (set : FlagSet) : Bool :=
  (List.range set.length).foldr (fun i odd => set.bit i ^^ odd) false

theorem foldr_xor_flip (bits : Nat → Bool) (i : Nat) (places : List Nat) :
    places.foldr (fun j odd => (bits j ^^ decide (i = j)) ^^ odd) false =
      (places.foldr (fun j odd => bits j ^^ odd) false ^^ places.count i % 2 == 1) := by
  induction places with
  | nil => simp
  | cons place places ih =>
    rw [List.foldr_cons, List.foldr_cons, ih, List.count_cons]
    by_cases here : i = place
    · subst here
      have turned : ((places.count i + 1) % 2 == 1) = !(places.count i % 2 == 1) := by
        rcases Nat.mod_two_eq_zero_or_one (places.count i) with even | odd
        · have next : (places.count i + 1) % 2 = 1 := by omega
          rw [even, next]
          rfl
        · have next : (places.count i + 1) % 2 = 0 := by omega
          rw [odd, next]
          rfl
      simp [turned]
    · have apart : ¬place = i := fun same => here same.symm
      simp [here, apart]

theorem parity_toggle {set : FlagSet} {i : Nat} (inside : i < set.length) :
    (set.toggle i).parity = !set.parity := by
  have once : (List.range set.length).count i = 1 :=
    List.count_eq_one_of_mem List.nodup_range (List.mem_range.2 inside)
  have sum := foldr_xor_flip set.bit i (List.range set.length)
  rw [once] at sum
  unfold parity
  simp only [length_toggle, bit_toggle set inside]
  rw [sum]
  simp

theorem parity_of_mem_flips {set other : FlagSet} (flip : other ∈ set.flips) :
    other.parity = !set.parity := by
  obtain ⟨i, inside, rfl⟩ := mem_flips.1 flip
  exact parity_toggle inside

end FlagSet

/-! ## The listing of the search -/

namespace Neighbours

variable {base : FlagSet}

theorem next_single {i : Nat} (inside : i < base.length) :
    next ⟨base, 1, [i], false⟩ =
      .ok (some (base.toggle i, if i + 1 < base.length then ⟨base, 1, [i + 1], false⟩
        else ⟨base, 1, [i], true⟩)) := by
  have flipped : base.flipAll [i] = .ok (base.toggle i) := by
    simp [FlagSet.flipAll, FlagSet.flip, inside]
  have advanced : advance ⟨base, 1, [i], false⟩ = if i + 1 < base.length then
      ⟨base, 1, [i + 1], false⟩ else ⟨base, 1, [i], true⟩ := by
    by_cases more : i + 1 < base.length
    · simp [advance, successor, more]
    · simp [advance, successor, more]
  simp only [next, flipped, advanced]
  rfl

theorem take_exhausted (fuel : Nat) : take fuel ⟨base, 1, [i], true⟩ = .ok [] := by
  cases fuel <;> rfl

theorem take_single {fuel rest i : Nat} (enough : rest < fuel) (left : i + rest + 1 = base.length) :
    take fuel ⟨base, 1, [i], false⟩ = .ok ((List.range' i (rest + 1)).map base.toggle) := by
  induction rest generalizing fuel i with
  | zero =>
    obtain ⟨fuel, rfl⟩ : ∃ less, fuel = less + 1 := ⟨fuel - 1, by omega⟩
    have last : ¬i + 1 < base.length := by omega
    rw [take, next_single (by omega), if_neg last]
    simp [bind, Except.bind, pure, Except.pure, take_exhausted]
  | succ rest ih =>
    obtain ⟨fuel, rfl⟩ : ∃ less, fuel = less + 1 := ⟨fuel - 1, by omega⟩
    have more : i + 1 < base.length := by omega
    rw [take, next_single (by omega), if_pos more]
    simp only [bind, Except.bind, pure, Except.pure]
    rw [ih (by omega) (by omega), List.range'_succ (s := i), List.map_cons]

theorem toList_single (some : 0 < base.length) :
    toList ⟨base, 1, [0], false⟩ = .ok base.flips := by
  -- There are fewer positions than sets, and a listing has fuel for every set.
  have fuel : base.length < Nat.pow 2 base.length := Nat.lt_two_pow_self
  have listed : take (Nat.pow 2 base.length) ⟨base, 1, [0], false⟩ =
      .ok ((List.range' 0 (base.length - 1 + 1)).map base.toggle) :=
    take_single (by omega) (by omega)
  rw [toList, listed, FlagSet.flips, List.range_eq_range',
    show base.length - 1 + 1 = base.length by omega]

end Neighbours

end FlagSearch
