import FlagSearch.Proofs.FlagSet.Bools
import FlagSearch.Proofs.Neighbours.Advance
import FlagSearch.Proofs.Neighbours.Tuples
import Mathlib.Data.List.Sort
import Mathlib.Data.Nat.Choose.Sum

/-!
# The neighbours of a set, each of them once

A listing is followed from request to request, and what it yields on the way is compared with the
ascending tuples of positions.  Tuples of one size are the successors of the first one; behind the
last of them the listing goes on with the next size, or is exhausted.  A set is turned over at the
positions of a tuple, and two sets differ at one tuple of positions only, so the listing comes to
every set at the distances it was asked for and to none of them twice.

* `Neighbours.Yields` — what a listing yields until it is exhausted.
* `Neighbours.yields_sizes` — the sizes of tuples one after the other.
* `FlagSet.nearby`, `FlagSet.mem_nearby` — the sets at a distance.
* `neighbours_enumeration` — a listing from its opening to its end, with everything it does on the
  way.
-/

namespace FlagSearch

/-! ## Positions at which sets differ -/

namespace FlagSet

variable {set other : FlagSet} {positions : List Nat} {size maxFlip : Nat}

def toggleAll (set : FlagSet) (positions : List Nat) : FlagSet := positions.foldl toggle set

theorem flipAll_eq (inside : ∀ i ∈ positions, i < set.length) :
    set.flipAll positions = .ok (set.toggleAll positions) := by
  induction positions generalizing set with
  | nil => rfl
  | cons position positions ih =>
    obtain ⟨here, others⟩ := List.forall_mem_cons.1 inside
    rw [flipAll, List.foldlM_cons, flip, if_pos here]
    refine ih fun i member => ?_
    rw [length_toggle]
    exact others i member

def apart (set other : FlagSet) : List Nat :=
  (List.range set.length).filter fun i => set.bit i ^^ other.bit i

theorem hamming_eq_ok {distance : Nat} : set.hamming other = .ok distance ↔
    set.length = other.length ∧ (set.apart other).length = distance := by
  by_cases same : set.length = other.length
  · rw [hamming_of_length_eq same, List.countP_eq_length_filter]
    show Except.ok (set.apart other).length = .ok distance ↔ _
    simp [same]
  · simp [hamming, same]

theorem mem_apart {i : Nat} : i ∈ set.apart other ↔
    i < set.length ∧ (set.bit i ^^ other.bit i) = true := by
  simp [apart]

theorem toggleAll_apart (same : set.length = other.length) :
    set.toggleAll (set.apart other) = other := by
  have turned : set.flipAll (set.apart other) = .ok (set.toggleAll (set.apart other)) :=
    flipAll_eq fun i member => (mem_apart.1 member).1
  have nodup : (set.apart other).Nodup := List.nodup_range.filter _
  apply ext_bit
  · rw [length_of_flipAll turned, same]
  · intro i
    rw [bit_flipAll turned nodup]
    by_cases inside : i < set.length
    · cases here : set.bit i <;> cases there : other.bit i <;>
        simp [mem_apart, inside, here, there]
    · have past := Nat.not_lt.1 inside
      rw [set.bit_eq_false_of_length_le past, other.bit_eq_false_of_length_le (same ▸ past)]
      simp [mem_apart, inside]

/-- The ascending tuples of at most `maxFlip` positions, the smaller ones first. -/
def flipTuples (set : FlagSet) (maxFlip : Nat) : List (List Nat) :=
  (List.range' 1 maxFlip).flatMap (tuplesFrom 0 set.length)

theorem mem_flipTuples : positions ∈ set.flipTuples maxFlip ↔
    (1 ≤ positions.length ∧ positions.length ≤ maxFlip) ∧ positions.Pairwise (· < ·) ∧
      ∀ i ∈ positions, i < set.length := by
  simp only [flipTuples, List.mem_flatMap, List.mem_range'_1, mem_tuplesFrom]
  constructor
  · rintro ⟨size, bounds, rfl, ascending, range⟩
    refine ⟨by omega, ascending, fun i member => ?_⟩
    have := range i member
    omega
  · rintro ⟨bounds, ascending, inside⟩
    refine ⟨positions.length, by omega, rfl, ascending, fun i member => ?_⟩
    have := inside i member
    omega

theorem turnedOver_toggleAll (among : positions ∈ set.flipTuples maxFlip) :
    TurnedOver positions set (set.toggleAll positions) := by
  obtain ⟨_, ascending, inside⟩ := mem_flipTuples.1 among
  exact turnedOver_of_flipAll (ascending.imp Nat.ne_of_lt) inside (flipAll_eq inside)

theorem length_flipTuples (set : FlagSet) (maxFlip : Nat) :
    (set.flipTuples maxFlip).length = ∑ size ∈ Finset.Icc 1 maxFlip, set.length.choose size := by
  induction maxFlip with
  | zero => simp [flipTuples]
  | succ maxFlip ih =>
    rw [Finset.sum_Icc_succ_top (by omega), ← ih, flipTuples, List.range'_concat,
      List.flatMap_append, List.length_append, ← flipTuples]
    simp [length_tuplesFrom, Nat.add_comm]

theorem nodup_flipTuples (set : FlagSet) (maxFlip : Nat) : (set.flipTuples maxFlip).Nodup := by
  refine List.nodup_flatMap.2 ⟨fun size _ => (lexicographic_tuplesFrom _ size).nodup, ?_⟩
  refine (List.nodup_range' ..).imp fun {size other} different => ?_
  intro positions here there
  exact different ((mem_tuplesFrom.1 here).1.symm.trans (mem_tuplesFrom.1 there).1)

theorem length_flipTuples_le (most : maxFlip ≤ set.length) :
    (set.flipTuples maxFlip).length ≤ 2 ^ set.length := by
  rw [length_flipTuples, ← Nat.sum_range_choose]
  apply Finset.sum_le_sum_of_subset
  intro size member
  simp only [Finset.mem_Icc, Finset.mem_range] at member ⊢
  omega

/-- What the set becomes when it is turned over at these tuples, one after the other. -/
def nearby (set : FlagSet) (maxFlip : Nat) : List FlagSet :=
  (set.flipTuples maxFlip).map set.toggleAll

theorem length_nearby (set : FlagSet) (maxFlip : Nat) :
    (set.nearby maxFlip).length = (set.flipTuples maxFlip).length := List.length_map ..

theorem mem_nearby : other ∈ set.nearby maxFlip ↔
    ∃ size, 1 ≤ size ∧ size ≤ maxFlip ∧ set.hamming other = .ok size := by
  rw [nearby, List.mem_map]
  constructor
  · rintro ⟨positions, among, rfl⟩
    obtain ⟨⟨some, most⟩, _⟩ := mem_flipTuples.1 among
    exact ⟨positions.length, some, most, (turnedOver_toggleAll among).1⟩
  · rintro ⟨size, some, most, distance⟩
    obtain ⟨same, rfl⟩ := hamming_eq_ok.1 distance
    refine ⟨set.apart other, mem_flipTuples.2 ⟨⟨some, most⟩, ?_, ?_⟩, toggleAll_apart same⟩
    · exact List.pairwise_lt_range.filter _
    · exact fun i member => (mem_apart.1 member).1

theorem nodup_nearby (set : FlagSet) (maxFlip : Nat) : (set.nearby maxFlip).Nodup := by
  refine List.Nodup.map_on ?_ (nodup_flipTuples set maxFlip)
  intro positions among others among' same
  obtain ⟨_, ascending, _⟩ := mem_flipTuples.1 among
  obtain ⟨_, ascending', _⟩ := mem_flipTuples.1 among'
  refine ascending.eq_of_mem_iff ascending' fun i => ?_
  have bit := (turnedOver_toggleAll among).2 i
  have bit' := (turnedOver_toggleAll among').2 i
  rw [same, bit', decide_eq_decide] at bit
  exact bit.symm

theorem not_mem_nearby (set : FlagSet) (maxFlip : Nat) : set ∉ set.nearby maxFlip := by
  intro member
  obtain ⟨size, some, _, distance⟩ := mem_nearby.1 member
  obtain ⟨_, rfl⟩ := hamming_eq_ok.1 distance
  simp [apart] at some

end FlagSet

/-! ## Following a listing -/

namespace Neighbours

variable {listing later : Neighbours} {base set : FlagSet} {sets more : List FlagSet}
  {maxFlip : Nat}

/-- Ask a listing for its next neighbour.  One that is exhausted stays as it is. -/
def request (listing : Neighbours) : Except Fault (Option FlagSet × Neighbours) := do
  match ← listing.next with
  | none => pure (none, listing)
  | some (neighbour, later) => pure (some neighbour, later)

def after : Nat → Neighbours → Except Fault Neighbours
  | 0, listing => .ok listing
  | count + 1, listing => do
      let (_, later) ← listing.request
      after count later

inductive Yields : Neighbours → List FlagSet → Prop where
  | done {listing : Neighbours} (exhausted : listing.next = .ok none) : Yields listing []
  | next {listing later : Neighbours} {set : FlagSet} {sets : List FlagSet}
      (shown : listing.next = .ok (some (set, later))) (rest : Yields later sets) :
      Yields listing (set :: sets)

theorem Yields.take (yields : Yields listing sets) (fuel : Nat) :
    listing.take fuel = .ok (sets.take fuel) := by
  induction yields generalizing fuel with
  | done exhausted =>
    cases fuel with
    | zero => rfl
    | succ fuel => simp only [Neighbours.take, exhausted]; rfl
  | next shown rest ih =>
    cases fuel with
    | zero => rfl
    | succ fuel =>
      simp only [Neighbours.take, shown, bind, Except.bind, ih, pure, Except.pure,
        List.take_succ_cons]

theorem Yields.tally (yields : Yields listing sets) {fuel : Nat} (enough : sets.length ≤ fuel)
    (seen : Nat) : listing.tally fuel seen = .ok (seen + sets.length) := by
  induction yields generalizing fuel seen with
  | done exhausted =>
    cases fuel with
    | zero => rfl
    | succ fuel => simp [Neighbours.tally, exhausted]
  | next shown rest ih =>
    cases fuel with
    | zero => simp at enough
    | succ fuel =>
      rw [List.length_cons] at enough ⊢
      simp only [Neighbours.tally, shown]
      rw [ih (by omega), Nat.add_assoc, Nat.add_comm 1]

theorem Yields.toList (yields : Yields listing sets)
    (room : sets.length ≤ 2 ^ listing.base.length) : listing.toList = .ok sets := by
  have enough : sets.length ≤ Nat.pow 2 listing.base.length := room
  rw [Neighbours.toList, yields.take, List.take_of_length_le enough]

theorem Yields.count (yields : Yields listing sets)
    (room : sets.length ≤ 2 ^ listing.base.length) : listing.count = .ok sets.length := by
  have enough : sets.length ≤ Nat.pow 2 listing.base.length := room
  rw [Neighbours.count, yields.tally enough, Nat.zero_add]

theorem Yields.exists_after (yields : Yields listing sets) (count : Nat) :
    ∃ later, listing.after count = .ok later ∧ Yields later (sets.drop count) := by
  induction count generalizing listing sets with
  | zero => exact ⟨listing, rfl, yields⟩
  | succ count ih =>
    cases yields with
    | done exhausted =>
      obtain ⟨later, reached, rest⟩ := ih (.done exhausted)
      refine ⟨later, ?_, by simpa using rest⟩
      rw [after, request, exhausted]
      exact reached
    | next shown rest =>
      obtain ⟨later, reached, rest⟩ := ih rest
      refine ⟨later, ?_, by simpa using rest⟩
      rw [after, request, shown]
      exact reached

theorem Yields.request (yields : Yields listing []) : listing.request = .ok (none, listing) := by
  cases yields with
  | done exhausted =>
    rw [Neighbours.request, exhausted]
    rfl

theorem later_of_next (shown : listing.next = .ok (some (set, later))) :
    later = listing.advance := by
  unfold next at shown
  split at shown
  · cases shown
  · cases flipped : listing.base.flipAll listing.positions with
    | error fault =>
      rw [flipped] at shown
      cases shown
    | ok neighbour =>
      rw [flipped] at shown
      cases shown
      rfl

theorem InRange.of_after (inRange : listing.InRange) {count : Nat}
    (reached : listing.after count = .ok later) :
    later.InRange ∧ later.base = listing.base := by
  induction count generalizing listing with
  | zero =>
    cases reached
    exact ⟨inRange, rfl⟩
  | succ count ih =>
    rw [after, Neighbours.request] at reached
    cases shown : listing.next with
    | error fault =>
      rw [shown] at reached
      cases reached
    | ok answer =>
      rw [shown] at reached
      cases answer with
      | none => exact ih inRange reached
      | some answer =>
        obtain ⟨neighbour, next⟩ := answer
        obtain rfl := later_of_next shown
        obtain ⟨range, same⟩ := ih inRange.advance reached
        exact ⟨range, same.trans (advance_base listing)⟩

/-! ## From tuples to sets -/

theorem next_eq {positions : List Nat} (inside : ∀ i ∈ positions, i < base.length) :
    next ⟨base, maxFlip, positions, false⟩ =
      .ok (some (base.toggleAll positions, advance ⟨base, maxFlip, positions, false⟩)) := by
  simp only [next, FlagSet.flipAll_eq inside]
  rfl

/-- A listing yields the sets of a tuple and of its successors, and then whatever it goes on with
behind the last of them. -/
theorem Yields.of_succeeds {rows : List (List Nat)} (run : Succeeds base.length rows)
    (inside : ∀ positions ∈ rows, ∀ i ∈ positions, i < base.length)
    (behind : ∀ last ∈ rows, successor base.length last = none →
      Yields (advance ⟨base, maxFlip, last, false⟩) more) :
    ∀ first rest, rows = first :: rest →
      Yields ⟨base, maxFlip, first, false⟩ (rows.map base.toggleAll ++ more) := by
  -- Inside the rows one advance goes from a tuple to its successor; behind the last of them it is
  -- up to the caller.
  induction run with
  | @last positions stuck =>
    rintro first rest ⟨⟩
    have here := inside positions List.mem_cons_self
    exact .next (next_eq here) (behind positions List.mem_cons_self stuck)
  | @next positions later rows moves run ih =>
    rintro first rest ⟨⟩
    have here := inside positions List.mem_cons_self
    have moved : advance ⟨base, maxFlip, positions, false⟩ = ⟨base, maxFlip, later, false⟩ := by
      simp [advance, moves]
    refine .next (next_eq here) ?_
    rw [moved]
    exact ih (fun other member => inside other (List.mem_cons_of_mem _ member))
      (fun last member => behind last (List.mem_cons_of_mem _ member)) later rows rfl

theorem yields_sizes {size count : Nat} (sizes : size + count = maxFlip)
    (fits : maxFlip ≤ base.length) :
    Yields ⟨base, maxFlip, List.range size, false⟩
      (((List.range' size (count + 1)).flatMap (tuplesFrom 0 base.length)).map base.toggleAll) := by
  have inside : ∀ size, ∀ positions ∈ tuplesFrom 0 base.length size, ∀ i ∈ positions,
      i < base.length := by
    intro size positions member i among
    have := (mem_tuplesFrom.1 member).2.2 i among
    omega
  -- The induction is on how many sizes are still to come after this one.
  induction count generalizing size with
  | zero =>
    obtain rfl : size = maxFlip := sizes
    obtain ⟨rows, begins, run⟩ := @succeeds_tuplesFrom 0 base.length size fits
    rw [Nat.zero_add] at run
    have all : Yields ⟨base, size, List.range size, false⟩
        ((tuplesFrom 0 base.length size).map base.toggleAll ++ []) := by
      rw [List.range_eq_range']
      refine Yields.of_succeeds run (inside size) ?_ _ _ begins
      intro last member stuck
      have length := (mem_tuplesFrom.1 member).1
      exact .done (by simp [advance, stuck, length, next])
    simpa using all
  | succ count ih =>
    obtain ⟨rows, begins, run⟩ := @succeeds_tuplesFrom 0 base.length size (by omega)
    rw [Nat.zero_add] at run
    rw [List.range'_succ, List.flatMap_cons, List.map_append, List.range_eq_range']
    refine Yields.of_succeeds run (inside size) ?_ _ _ begins
    intro last member stuck
    have length := (mem_tuplesFrom.1 member).1
    have larger : advance ⟨base, maxFlip, last, false⟩ =
        ⟨base, maxFlip, List.range (size + 1), false⟩ := by
      have more : size < maxFlip := by omega
      simp [advance, stuck, length, more]
    rw [larger]
    exact ih (by omega)

theorem yields_nearby (some : maxFlip ≠ 0) (fits : maxFlip ≤ base.length) :
    Yields ⟨base, maxFlip, [0], false⟩ (base.nearby maxFlip) := by
  obtain ⟨count, rfl⟩ : ∃ count, maxFlip = 1 + count := ⟨maxFlip - 1, by omega⟩
  have all := @yields_sizes base _ 1 count rfl fits
  rwa [Nat.add_comm count 1] at all

end Neighbours

/-- A listing is refused if it is to turn over no position, or more than there are.  Any other comes
to an end.  It yields what the set becomes when it is turned over at the ascending tuples of
positions, the smaller tuples first and those of one size in lexicographic order: different sets,
never the set itself, as many as the binomial coefficients add up to, and just those at the
distances asked for.  A listing is a value, so a copy of it goes the same way; after `j` requests it
has the sets behind the first `j` still to come, and once these are over it answers every request
with nothing and stays as it is.  On all of this way, to the end and past it, no check of the
advance in place fails. -/
theorem neighbours_enumeration (set : FlagSet) (maxFlip : Nat) :
    ((∃ what, neighbours set maxFlip = .error (.invalidParameter what)) ↔
      maxFlip = 0 ∨ set.length < maxFlip) ∧
    (maxFlip ≠ 0 → maxFlip ≤ set.length → ∃ listing, neighbours set maxFlip = .ok listing ∧
      ∃ (rows : Nat → List (List Nat)) (sets : List FlagSet),
        (∀ size, Lexicographic set.length size (rows size)) ∧
        List.Forall₂ (fun positions other => FlagSet.TurnedOver positions set other)
          ((List.range' 1 maxFlip).flatMap rows) sets ∧
        (sets.Nodup ∧ set ∉ sets ∧
          sets.length = ∑ size ∈ Finset.Icc 1 maxFlip, set.length.choose size) ∧
        (∀ other, other ∈ sets ↔
          ∃ size, 1 ≤ size ∧ size ≤ maxFlip ∧ set.hamming other = .ok size) ∧
        listing.toList = .ok sets ∧
        ∀ j, ∃ later, listing.after j = .ok later ∧ listing.take j = .ok (sets.take j) ∧
          later.toList = .ok (sets.drop j) ∧ later.count = .ok (sets.length - j) ∧
          (sets.length ≤ j → later.request = .ok (none, later)) ∧
          later.InRange ∧ later.advance? = some later.advance) := by
  constructor
  · unfold neighbours
    split
    next refused => simp [refused]
    next fits => simp [fits]
  · intro some most
    have opened : neighbours set maxFlip = .ok ⟨set, maxFlip, [0], false⟩ := if_neg (by omega)
    have inRange := Neighbours.inRange_of_neighbours opened
    have yields := Neighbours.yields_nearby some most
    have total := (set.length_nearby maxFlip).trans (set.length_flipTuples maxFlip)
    have room : (set.nearby maxFlip).length ≤ 2 ^ set.length := by
      rw [FlagSet.length_nearby]
      exact FlagSet.length_flipTuples_le most
    refine ⟨_, opened, tuplesFrom 0 set.length, set.nearby maxFlip,
      lexicographic_tuplesFrom set.length, ?_,
      ⟨set.nodup_nearby maxFlip, set.not_mem_nearby maxFlip, total⟩,
      fun other => FlagSet.mem_nearby, yields.toList room, fun j => ?_⟩
    · rw [FlagSet.nearby, List.forall₂_map_right_iff]
      exact List.forall₂_same.2 fun positions among => FlagSet.turnedOver_toggleAll among
    · obtain ⟨later, reached, rest⟩ := yields.exists_after j
      obtain ⟨inRange, same⟩ := inRange.of_after reached
      have room : ((set.nearby maxFlip).drop j).length ≤ 2 ^ later.base.length := by
        rw [same, List.length_drop]
        exact Nat.le_trans (Nat.sub_le _ _) room
      refine ⟨later, reached, yields.take j, rest.toList room, ?_, fun past => ?_, inRange, ?_⟩
      · rw [rest.count room, List.length_drop]
      · rw [List.drop_eq_nil_of_le past] at rest
        exact rest.request
      · exact Neighbours.advance?_eq later (Nat.le_trans inRange.size_le inRange.maxFlip_le)

/-- Of five flags the sets at the distances one and two are fifteen.  After six of them nine are still
to come, and a listing at no distance, or at a larger one than there is, is refused. -/
theorem neighbours_enumeration_pairs :
    (∃ what, neighbours (FlagSet.zeros 5) 0 = .error (.invalidParameter what)) ∧
    (∃ what, neighbours (FlagSet.zeros 5) 6 = .error (.invalidParameter what)) ∧
    2 ≠ 0 ∧ 2 ≤ (FlagSet.zeros 5).length ∧
    ∃ listing later sets, neighbours (FlagSet.zeros 5) 2 = .ok listing ∧
      listing.toList = .ok sets ∧ sets.length = 15 ∧
      listing.after 6 = .ok later ∧ later.count = .ok 9 ∧
      ∃ last, listing.after 15 = .ok last ∧ last.request = .ok (none, last) := by
  obtain ⟨_, opens⟩ := neighbours_enumeration (FlagSet.zeros 5) 2
  obtain ⟨listing, opened, _, sets, _, _, ⟨_, _, total⟩, _, listed, follow⟩ :=
    opens (by decide) (by decide)
  have fifteen : sets.length = 15 := total.trans (by decide)
  obtain ⟨later, reached, _, _, left, _⟩ := follow 6
  obtain ⟨last, ended, _, _, _, past, _⟩ := follow 15
  rw [fifteen] at left
  refine ⟨(neighbours_enumeration _ 0).1.2 (.inl rfl), (neighbours_enumeration _ 6).1.2 (.inr ?_),
    by decide, by decide, listing, later, sets, opened, listed, fifteen, reached, left, last, ended,
    past ?_⟩
  · decide
  · rw [fifteen]

end FlagSearch
