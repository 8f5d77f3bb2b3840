import FlagSearch.Proofs.FlagSet.Flips

/-!
# The distance of flag sets

Sets are compared word by word, and the bits of each word are counted.  What comes of it is the
number of positions at which the sets differ.

* `Words.population_eq`, `Words.distance_eq` — what counting the words comes to.
* `FlagSet.bit_flipAll_count`, `FlagSet.bit_flipAll` — what turning several positions over does to
  each position.
* `FlagSet.hamming_of_length_eq` — the distance of sets of one length counts the positions at which
  they differ.
* `FlagSet.hamming_flipAll` — a set is as far away as different positions were turned over.
* `FlagSet.TurnedOver`, `FlagSet.turnedOver_of_flipAll` — both at once.
-/

namespace FlagSearch

theorem count_members {bound : Nat} {numbers : List Nat} (nodup : numbers.Nodup)
    (inside : ∀ i ∈ numbers, i < bound) :
    (List.range bound).countP (fun i => decide (i ∈ numbers)) = numbers.length := by
  rw [List.countP_eq_length_filter]
  refine List.Perm.length_eq
    ((List.perm_ext_iff_of_nodup (List.nodup_range.filter _) nodup).2 fun i => ?_)
  rw [List.mem_filter, List.mem_range, decide_eq_true_eq]
  exact ⟨And.right, fun member => ⟨inside i member, member⟩⟩

/-! ## Rows of words -/

namespace Words

theorem population_eq (row : List (BitVec 64)) :
    population row = (List.range (64 * row.length)).countP (bit row) := by
  induction row with
  | nil => rfl
  | cons word row ih =>
    have first : (List.range 64).countP (bit (word :: row)) = weight word := by
      refine List.countP_congr fun i inside => ?_
      have below := List.mem_range.1 inside
      simp [bit, Nat.div_eq_of_lt below, Nat.mod_eq_of_lt below]
    have later : ((List.range (64 * row.length)).map (64 + ·)).countP (bit (word :: row)) =
        population row := by
      rw [ih, List.countP_map]
      refine List.countP_congr fun i _ => ?_
      have whole : (64 + i) / 64 = i / 64 + 1 := by omega
      have part : (64 + i) % 64 = i % 64 := by omega
      simp [bit, whole, part]
    have lanes : 64 * (word :: row).length = 64 + 64 * row.length := by
      rw [List.length_cons]
      omega
    rw [lanes, List.range_add, List.countP_append, first, later]
    rfl

theorem bit_zipWith_xor {left right : List (BitVec 64)} (size : left.length = right.length)
    (i : Nat) : bit (List.zipWith (fun l r => l ^^^ r) left right) i =
      (bit left i ^^ bit right i) := by
  unfold bit
  rw [List.getElem?_zipWith]
  cases found : left[i / 64]? with
  | none =>
    have beyond : right[i / 64]? = none := by
      rw [List.getElem?_eq_none_iff] at found ⊢
      omega
    simp [beyond]
  | some word =>
    obtain ⟨inside, _⟩ := List.getElem?_eq_some_iff.1 found
    obtain ⟨other, found'⟩ : ∃ other, right[i / 64]? = some other :=
      ⟨_, List.getElem?_eq_getElem (size ▸ inside)⟩
    simp [found']

theorem distance_eq {left right : List (BitVec 64)} (size : left.length = right.length) :
    distance left right =
      (List.range (64 * left.length)).countP fun i => bit left i ^^ bit right i := by
  rw [distance, population_eq, List.length_zipWith, size, Nat.min_self]
  exact List.countP_congr fun i _ => by rw [bit_zipWith_xor size]

end Words

/-! ## Sets -/

namespace FlagSet

variable {set flipped : FlagSet} {positions : List Nat}

theorem bit_flipAll_count (turned : set.flipAll positions = .ok flipped) (i : Nat) :
    flipped.bit i = (set.bit i ^^ decide (positions.count i % 2 = 1)) := by
  induction positions generalizing set with
  | nil =>
    cases turned
    simp
  | cons position positions ih =>
    rw [flipAll, List.foldlM_cons] at turned
    by_cases inside : position < set.length
    · rw [flip, if_pos inside] at turned
      rw [ih turned, bit_toggle set inside, List.count_cons]
      by_cases here : position = i
      · have more : decide ((positions.count i + 1) % 2 = 1) =
            !decide (positions.count i % 2 = 1) := by
          rw [← decide_not, decide_eq_decide]
          omega
        rw [here, beq_self_eq_true, if_pos rfl, more, decide_eq_true rfl, Bool.xor_assoc,
          Bool.true_xor]
      · simp [here]
    · rw [flip, if_neg inside] at turned
      cases turned

theorem bit_flipAll (turned : set.flipAll positions = .ok flipped) (nodup : positions.Nodup)
    (i : Nat) : flipped.bit i = (set.bit i ^^ decide (i ∈ positions)) := by
  rw [bit_flipAll_count turned, nodup.count]
  by_cases listed : i ∈ positions <;> simp [listed]

theorem bit_xor_flipAll (turned : set.flipAll positions = .ok flipped) (nodup : positions.Nodup)
    (i : Nat) : (set.bit i ^^ flipped.bit i) = decide (i ∈ positions) := by
  rw [bit_flipAll turned nodup]
  simp

theorem countP_lanes {bit : Nat → Bool} {length : Nat}
    (clear : ∀ i, length ≤ i → bit i = false) :
    (List.range (64 * Words.needed length)).countP bit = (List.range length).countP bit := by
  obtain ⟨rest, lanes⟩ : ∃ rest, 64 * Words.needed length = length + rest :=
    ⟨64 * Words.needed length - length, by rw [Words.needed]; omega⟩
  have none : ((List.range rest).map (length + ·)).countP bit = 0 := by
    rw [List.countP_map]
    exact List.countP_eq_zero.2 fun i _ => by simp [clear (length + i) (Nat.le_add_right _ _)]
  rw [lanes, List.range_add, List.countP_append, none, Nat.add_zero]

theorem hamming_of_length_eq {other : FlagSet} (same : set.length = other.length) :
    set.hamming other =
      .ok ((List.range set.length).countP fun i => set.bit i ^^ other.bit i) := by
  have size : set.words.length = other.words.length := by
    rw [set.size_words, other.size_words, same]
  have clear : ∀ i, set.length ≤ i →
      (Words.bit set.words i ^^ Words.bit other.words i) = false := by
    intro i above
    rw [set.clear_above i above, other.clear_above i (same ▸ above)]
    rfl
  rw [hamming, if_pos same, Words.distance_eq size, set.size_words, countP_lanes clear]
  rfl

theorem hamming_flipAll (turned : set.flipAll positions = .ok flipped) (nodup : positions.Nodup)
    (inside : ∀ i ∈ positions, i < set.length) : set.hamming flipped = .ok positions.length := by
  rw [hamming_of_length_eq (length_of_flipAll turned).symm]
  simp only [bit_xor_flipAll turned nodup]
  rw [count_members nodup inside]

/-- The other set is what the set is with the given positions turned over. -/
def TurnedOver (positions : List Nat) (set other : FlagSet) : Prop :=
  set.hamming other = .ok positions.length ∧
    ∀ i, (set.bit i ^^ other.bit i) = decide (i ∈ positions)

theorem turnedOver_of_flipAll (nodup : positions.Nodup)
    (inside : ∀ i ∈ positions, i < set.length) (turned : set.flipAll positions = .ok flipped) :
    TurnedOver positions set flipped :=
  ⟨hamming_flipAll turned nodup inside, bit_xor_flipAll turned nodup⟩

end FlagSet

end FlagSearch
