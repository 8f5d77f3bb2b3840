import FlagSearch.Proofs.FlagSet.Text

/-!
# Sets and the rows they were built as

A set is built from a row of bits, from positions or from a text, and then positions of it are
turned over, one or several at a time and as often as one likes.  The same can be done to rows of
booleans, without any words, and nothing that is asked of the set tells the two apart.

* `FlagSet.Built` — the sets that can be built, each with its row.
* `FlagSet.Built.toBools_eq` — the row is the one that the set shows.
* `FlagSet.built_represents` — the packing of such a set, and the answers it gives.
-/

namespace FlagSearch.FlagSet

/-- `Built set bits`: the set was built by the constructors and by turning positions over, and the
row in the same way without words. -/
inductive Built : FlagSet → List Bool → Prop where
  | zeros (length : Nat) : Built (zeros length) (List.replicate length false)
  | ofBits (bits : List Bool) : Built (ofBits bits) bits
  | ofIndices {length : Nat} {positions : List Nat} {set : FlagSet}
      (built : ofIndices length positions = .ok set) :
      Built set ((List.range length).map fun i => decide (i ∈ positions))
  | ofText {text : String} {set : FlagSet} (read : ofText text = .ok set) :
      Built set (text.toList.map (· == '1'))
  | flip {set other : FlagSet} {bits : List Bool} {i : Nat} (before : Built set bits)
      (turned : set.flip i = .ok other) : Built other (bits.modify i not)
  | flipAll {set other : FlagSet} {bits : List Bool} {positions : List Nat}
      (before : Built set bits) (turned : set.flipAll positions = .ok other) :
      Built other (turnedOver bits positions)

variable {set : FlagSet} {bits : List Bool}

theorem Built.toBools_eq (built : Built set bits) : set.toBools = bits := by
  induction built with
  | zeros length => exact toBools_zeros length
  | ofBits bits => exact toBools_ofBits bits
  | ofIndices built => exact toBools_ofIndices built
  | ofText read => exact toBools_ofText read
  | @flip set other bits i before turned ih =>
    unfold FlagSet.flip at turned
    split at turned
    next inside =>
      cases turned
      rw [toBools_toggle set inside, ih]
    · cases turned
  | flipAll before turned ih => rw [toBools_flipAll turned, ih]

theorem Built.exists_flip (built : Built set bits) {i : Nat} (inside : i < bits.length) :
    ∃ other, set.flip i = .ok other ∧ Built other (bits.modify i not) := by
  have turned : set.flip i = .ok (set.toggle i) := by
    rw [FlagSet.flip, if_pos]
    rwa [← length_toBools, built.toBools_eq]
  exact ⟨_, turned, built.flip turned⟩

theorem Built.exists_flipAll (built : Built set bits) {positions : List Nat}
    (inside : ∀ i ∈ positions, i < bits.length) :
    ∃ other, set.flipAll positions = .ok other ∧ Built other (turnedOver bits positions) := by
  rw [← built.toBools_eq, length_toBools] at inside
  obtain ⟨other, turned⟩ := FlagSet.exists_flipAll inside
  exact ⟨other, turned, built.flipAll turned⟩

/-- A set that was built along with a row of booleans has as many words as the row needs, with the
bits past its end clear, and answers as the row does.  Two such sets have the same length and words
if and only if their rows are equal.  Positions past the end are refused, the first one first; any
other may be read, and turned over: listed positions as often as they are listed.  The selected
positions are those that are true in the row, ascending, and counted so; and sets of equal length
are as far apart as their rows have differences, while sets of different lengths are refused. -/
theorem built_represents (built : Built set bits) :
    (set.length = bits.length ∧ set.words.length = (bits.length + 63) / 64 ∧
      ∀ i, bits.length ≤ i → Words.bit set.words i = false) ∧
    (∀ other row, Built other row →
      (set.length = other.length ∧ set.words = other.words ↔ bits = row)) ∧
    (∀ i, (∀ inside : i < bits.length, set.get i = .ok bits[i]) ∧
      (bits.length ≤ i → set.get i = .error (.flagIndex i bits.length))) ∧
    (∀ i, (i < bits.length → ∃ other, set.flip i = .ok other ∧ Built other (bits.modify i not)) ∧
      (bits.length ≤ i → set.flip i = .error (.flagIndex i bits.length))) ∧
    (∀ positions, (∀ i ∈ positions, i < bits.length) →
      ∃ other, set.flipAll positions = .ok other ∧ Built other (turnedOver bits positions)) ∧
    (∀ earlier i later, (∀ j ∈ earlier, j < bits.length) → bits.length ≤ i →
      set.flipAll (earlier ++ i :: later) = .error (.flagIndex i bits.length) ∧
      ofIndices bits.length (earlier ++ i :: later) = .error (.flagIndex i bits.length)) ∧
    (∀ positions, (∀ i ∈ positions, i < bits.length) → ∃ other,
      ofIndices bits.length positions = .ok other ∧
        Built other ((List.range bits.length).map fun i => decide (i ∈ positions))) ∧
    (set.ones = truePositions bits ∧ set.count = (truePositions bits).length) ∧
    ∀ other row, Built other row → set.hamming other =
      if bits.length = row.length then .ok (differences bits row)
      else .error (.differentLengths bits.length row.length) := by
  have row := built.toBools_eq
  have length : set.length = bits.length := by rw [← row, length_toBools]
  refine ⟨⟨length, ?_, fun i above => set.clear_above i (length ▸ above)⟩,
    fun other row' built' => ?_, fun i => ⟨fun inside => ?_, fun outside => ?_⟩,
    fun i => ⟨built.exists_flip, fun outside => ?_⟩, fun positions => built.exists_flipAll,
    fun earlier i later inside outside => ⟨?_, ofIndices_of_outside inside outside⟩,
    fun positions inside => ?_, ⟨?_, ?_⟩, fun other row' built' => ?_⟩
  · rw [set.size_words, length, Words.needed]
  · rw [← row, ← built'.toBools_eq, toBools_inj]
    refine ⟨fun ⟨size, words⟩ => ext_bit size fun i => ?_, fun same => same ▸ ⟨rfl, rfl⟩⟩
    rw [bit, words, bit]
  · rw [get_eq, row, List.getElem?_eq_getElem inside]
  · rw [get_eq, row, List.getElem?_eq_none outside]
  · rw [FlagSet.flip, length, if_neg (Nat.not_lt.2 outside)]
  · rw [← length] at inside outside ⊢
    exact flipAll_of_outside inside outside
  · obtain ⟨other, made, _⟩ := exists_ofIndices inside
    exact ⟨other, made, .ofIndices made⟩
  · rw [ones_eq, row]
  · rw [count_eq, ones_eq, row]
  · rw [hamming_eq, row, built'.toBools_eq]

/-- A set of 130 flags that was built from positions, one of them listed twice, and had three turned
over, one of them twice. -/
theorem built_represents_wide :
    ∃ set other, ofIndices 130 [129, 64, 129] = .ok set ∧ set.flipAll [63, 129, 0, 63] = .ok other ∧
      other.words.length = 3 ∧ other.get 64 = .ok true ∧
      other.get 130 = .error (.flagIndex 130 130) ∧ set.hamming other = .ok 2 := by
  have inside : ∀ i ∈ [129, 64, 129], i < 130 := by decide
  obtain ⟨set, made, _⟩ := exists_ofIndices inside
  have built : Built set _ := .ofIndices made
  have again : ∀ i ∈ [63, 129, 0, 63],
      i < ((List.range 130).map fun i => decide (i ∈ [129, 64, 129])).length := by simp
  obtain ⟨other, turned, built'⟩ := built.exists_flipAll again
  obtain ⟨_, _, _, _, _, _, _, _, hamming⟩ := built_represents built
  obtain ⟨⟨_, words, _⟩, _, get, _⟩ := built_represents built'
  refine ⟨set, other, made, turned, ?_, ?_, ?_, ?_⟩
  · rw [words]
    simp [turnedOver]
  · refine ((get 64).1 (by simp [turnedOver])).trans ?_
    simp [turnedOver]
  · refine ((get 130).2 (by simp [turnedOver])).trans ?_
    simp [turnedOver]
  · rw [hamming other _ built']
    decide +kernel

end FlagSearch.FlagSet
