import FlagSearch.Proofs.FlagSet.Distance

/-!
# Flag sets as rows of booleans

A set is packed into words, but it is no more than the row of its positions: every operation is one
on rows.  Counting and comparing go through whole words, so they are right only because the bits
past the last position are clear.

* `FlagSet.toBools_inj` — a set is its row.
* `FlagSet.toBools_zeros`, `FlagSet.toBools_ofBits` — rows become sets.
* `FlagSet.toBools_toggle`, `FlagSet.toBools_flipAll` — turning positions over, as often as they are
  listed.
* `FlagSet.toBools_ofIndices` — selecting positions, however often they are listed.
* `FlagSet.ones_eq`, `FlagSet.count_eq`, `FlagSet.hamming_eq` — what counting comes to.
-/

namespace FlagSearch

/-! ## Rows -/

def turnedOver (bits : List Bool) (positions : List Nat) : List Bool :=
  bits.mapIdx fun i bit => bit ^^ decide (positions.count i % 2 = 1)

def truePositions (bits : List Bool) : List Nat :=
  (List.range bits.length).filter fun i => bits[i]? = some true

def differences (left right : List Bool) : Nat :=
  (left.zip right).countP fun pair => pair.1 != pair.2

namespace FlagSet

variable {set other flipped : FlagSet} {bits : List Bool} {positions : List Nat} {i : Nat}

/-! ## The row of a set -/

@[simp] theorem length_toBools (set : FlagSet) : set.toBools.length = set.length := by
  simp [toBools]

theorem getElem?_toBools (set : FlagSet) (i : Nat) :
    set.toBools[i]? = if i < set.length then some (set.bit i) else none := by
  rw [toBools, List.getElem?_map]
  split
  next inside => rw [List.getElem?_range inside, Option.map_some]
  next outside => rw [List.getElem?_eq_none (by simpa using outside), Option.map_none]

theorem toBools_inj : set.toBools = other.toBools ↔ set = other := by
  refine ⟨fun same => ?_, fun same => same ▸ rfl⟩
  have length : set.length = other.length := by
    rw [← length_toBools set, same, length_toBools]
  refine ext_bit length fun i => ?_
  by_cases inside : i < set.length
  · have here := congrArg (·[i]?) same
    simpa only [getElem?_toBools, if_pos inside, if_pos (length ▸ inside), Option.some.injEq]
      using here
  · rw [set.bit_eq_false_of_length_le (Nat.not_lt.1 inside),
      other.bit_eq_false_of_length_le (length ▸ Nat.not_lt.1 inside)]

theorem toBools_eq (length : set.length = bits.length)
    (positions : ∀ i, (inside : i < bits.length) → set.bit i = bits[i]) : set.toBools = bits := by
  refine List.ext_getElem? fun i => ?_
  rw [getElem?_toBools]
  split
  next inside =>
    have inside' : i < bits.length := length ▸ inside
    rw [List.getElem?_eq_getElem inside', positions i inside']
  next outside => rw [List.getElem?_eq_none (length ▸ Nat.not_lt.1 outside)]

/-! ## Construction -/

theorem toBools_zeros (n : Nat) : (zeros n).toBools = List.replicate n false :=
  toBools_eq (by simp) (by simp)

theorem length_toggle_if (set : FlagSet) (selected : Bool) (i : Nat) :
    (if selected then set.toggle i else set).length = set.length := by
  split
  · exact length_toggle set i
  · rfl

theorem bit_toggle_if (selected : Bool) (inside : i < set.length) (j : Nat) :
    (if selected then set.toggle i else set).bit j =
      (set.bit j ^^ (selected && decide (i = j))) := by
  cases selected with
  | true => simp [bit_toggle set inside]
  | false => simp

theorem bit_foldl_toggle {start : Nat} (room : start + bits.length ≤ set.length)
    (clear : ∀ j, start ≤ j → set.bit j = false) (j : Nat) :
    ((bits.zipIdx start).foldl
        (fun set (selected, i) => if selected then set.toggle i else set) set).bit j =
      if start ≤ j then bits[j - start]?.getD false else set.bit j := by
  induction bits generalizing set start with
  | nil =>
    by_cases later : start ≤ j
    · simp [later, clear j later]
    · simp [later]
  | cons selected bits ih =>
    rw [List.length_cons] at room
    have turned := bit_toggle_if selected (show start < set.length by omega)
    rw [List.zipIdx_cons, List.foldl_cons, ih (by rw [length_toggle_if]; omega)]
    · rw [turned]
      rcases Nat.lt_trichotomy start j with later | rfl | earlier
      · obtain ⟨k, rfl⟩ : ∃ k, j = start + 1 + k := ⟨j - (start + 1), by omega⟩
        rw [if_pos (by omega), if_pos (by omega), show start + 1 + k - (start + 1) = k by omega,
          show start + 1 + k - start = k + 1 by omega, List.getElem?_cons_succ]
      · rw [if_neg (by omega), if_pos (Nat.le_refl _), clear start (Nat.le_refl _)]
        simp
      · rw [if_neg (by omega), if_neg (by omega)]
        simp [Nat.ne_of_gt earlier]
    · intro j later
      rw [turned, clear j (by omega)]
      simp [Nat.ne_of_lt (Nat.lt_of_succ_le later)]

theorem length_foldl_toggle (bits : List (Bool × Nat)) (set : FlagSet) :
    (bits.foldl (fun set (selected, i) => if selected then set.toggle i else set) set).length =
      set.length := by
  induction bits generalizing set with
  | nil => rfl
  | cons bit bits ih =>
    rw [List.foldl_cons, ih, length_toggle_if]

@[simp] theorem length_ofBits (bits : List Bool) : (ofBits bits).length = bits.length :=
  length_foldl_toggle _ _

@[simp] theorem toBools_ofBits (bits : List Bool) : (ofBits bits).toBools = bits := by
  refine toBools_eq (length_ofBits bits) fun i inside => ?_
  have fits : 0 + bits.length ≤ (zeros bits.length).length := by simp
  have bit := bit_foldl_toggle fits (fun j _ => bit_zeros _ j) i
  rw [if_pos (Nat.zero_le i), Nat.sub_zero, List.getElem?_eq_getElem inside] at bit
  exact bit

@[simp] theorem ofBits_toBools (set : FlagSet) : ofBits set.toBools = set :=
  toBools_inj.1 (toBools_ofBits _)

/-! ## Turning positions over -/

theorem toBools_toggle (set : FlagSet) {i : Nat} (inside : i < set.length) :
    (set.toggle i).toBools = set.toBools.modify i not := by
  refine toBools_eq (by simp) fun j inside' => ?_
  rw [bit_toggle set inside, List.getElem_modify]
  by_cases here : i = j
  · simp [here, toBools]
  · simp [here, toBools]

theorem get_eq (set : FlagSet) (i : Nat) :
    set.get i = match set.toBools[i]? with
      | some bit => .ok bit
      | none => .error (.flagIndex i set.toBools.length) := by
  rw [get, getElem?_toBools]
  split
  · rfl
  · rw [length_toBools]

theorem toBools_flipAll (turned : set.flipAll positions = .ok flipped) :
    flipped.toBools = turnedOver set.toBools positions := by
  refine toBools_eq (by simp [turnedOver, length_of_flipAll turned]) fun i inside => ?_
  rw [bit_flipAll_count turned]
  simp [turnedOver, toBools]

theorem flipAll_of_outside {earlier later : List Nat} (inside : ∀ j ∈ earlier, j < set.length)
    (outside : set.length ≤ i) :
    set.flipAll (earlier ++ i :: later) = .error (.flagIndex i set.length) := by
  obtain ⟨flipped, turned⟩ := exists_flipAll inside
  have length := length_of_flipAll turned
  rw [flipAll] at turned
  rw [flipAll, List.foldlM_append, turned]
  change List.foldlM flip flipped (i :: later) = _
  rw [List.foldlM_cons, flip, length, if_neg (Nat.not_lt.2 outside)]
  rfl

/-! ## Selecting positions -/

theorem select_eq (inside : i < set.length) :
    set.select i = .ok (if set.bit i then set else set.toggle i) := by
  simp only [select, get, if_pos inside, flip, bind, Except.bind, pure, Except.pure]
  split <;> rfl

theorem select_of_outside (outside : set.length ≤ i) :
    set.select i = .error (.flagIndex i set.length) := by
  simp only [select, get, if_neg (Nat.not_lt.2 outside), bind, Except.bind]

theorem exists_foldlM_select (set : FlagSet) (inside : ∀ i ∈ positions, i < set.length) :
    ∃ other, positions.foldlM select set = .ok other ∧ other.length = set.length ∧
      ∀ i, other.bit i = (set.bit i || decide (i ∈ positions)) := by
  induction positions generalizing set with
  | nil => exact ⟨set, rfl, rfl, by simp⟩
  | cons position positions ih =>
    obtain ⟨here, inside⟩ := List.forall_mem_cons.1 inside
    have length : (if set.bit position then set else set.toggle position).length = set.length := by
      split
      · rfl
      · exact length_toggle ..
    obtain ⟨other, built, length', bits⟩ :=
      ih (if set.bit position then set else set.toggle position) (by rwa [length])
    refine ⟨other, ?_, length'.trans length, fun i => ?_⟩
    · rw [List.foldlM_cons, select_eq here]
      exact built
    · have selected : (if set.bit position then set else set.toggle position).bit i =
          (set.bit i || decide (i = position)) := by
        by_cases same : i = position
        · subst same
          cases known : set.bit i <;> simp [known, bit_toggle set here]
        · have apart : ¬position = i := fun equal => same equal.symm
          cases known : set.bit position <;> simp [bit_toggle set here, same, apart]
      rw [bits, selected, Bool.or_assoc, ← Bool.decide_or]
      simp only [List.mem_cons]

theorem exists_ofIndices {length : Nat} (inside : ∀ i ∈ positions, i < length) :
    ∃ set, ofIndices length positions = .ok set ∧
      set.toBools = (List.range length).map fun i => decide (i ∈ positions) := by
  obtain ⟨set, built, same, bits⟩ := exists_foldlM_select (zeros length) inside
  refine ⟨set, built, toBools_eq (by simpa using same) fun i inside => ?_⟩
  rw [bits]
  simp

theorem ofIndices_of_outside {length : Nat} {earlier later : List Nat}
    (inside : ∀ j ∈ earlier, j < length) (outside : length ≤ i) :
    ofIndices length (earlier ++ i :: later) = .error (.flagIndex i length) := by
  obtain ⟨other, built, same, _⟩ := exists_foldlM_select (zeros length) inside
  rw [length_zeros] at same
  rw [ofIndices, List.foldlM_append, built]
  change List.foldlM select other (i :: later) = _
  rw [List.foldlM_cons, select_of_outside (same ▸ outside), same]
  rfl

theorem inside_or_outside (positions : List Nat) (length : Nat) :
    (∀ i ∈ positions, i < length) ∨ ∃ earlier i later, positions = earlier ++ i :: later ∧
      (∀ j ∈ earlier, j < length) ∧ length ≤ i := by
  induction positions with
  | nil => exact .inl (by simp)
  | cons position positions ih =>
    by_cases inside : position < length
    · rcases ih with all | ⟨earlier, i, later, rfl, before, outside⟩
      · exact .inl (List.forall_mem_cons.2 ⟨inside, all⟩)
      · exact .inr ⟨position :: earlier, i, later, rfl, List.forall_mem_cons.2 ⟨inside, before⟩,
          outside⟩
    · exact .inr ⟨[], position, positions, rfl, by simp, Nat.not_lt.1 inside⟩

theorem toBools_ofIndices {length : Nat} (built : ofIndices length positions = .ok set) :
    set.toBools = (List.range length).map fun i => decide (i ∈ positions) := by
  rcases inside_or_outside positions length with inside | ⟨earlier, i, later, rfl, inside, outside⟩
  · obtain ⟨set, built', bits⟩ := exists_ofIndices inside
    cases built.symm.trans built'
    exact bits
  · rw [ofIndices_of_outside inside outside] at built
    cases built

/-! ## Counting -/

theorem ones_eq (set : FlagSet) : set.ones = truePositions set.toBools := by
  rw [ones, truePositions, length_toBools]
  refine List.filter_congr fun i inside => ?_
  rw [getElem?_toBools, if_pos (List.mem_range.1 inside)]
  simp

theorem count_eq (set : FlagSet) : set.count = set.ones.length := by
  rw [count, Words.population_eq, set.size_words, countP_lanes set.clear_above, ones,
    List.countP_eq_length_filter]
  rfl

theorem hamming_eq (left right : FlagSet) :
    left.hamming right =
      if left.toBools.length = right.toBools.length then
        .ok (differences left.toBools right.toBools)
      else .error (.differentLengths left.toBools.length right.toBools.length) := by
  rw [length_toBools, length_toBools]
  split
  next same =>
    rw [hamming_of_length_eq same, differences, toBools, toBools, ← same, List.zip_map',
      List.countP_map]
    rfl
  next apart => rw [hamming, if_neg apart]

end FlagSet

end FlagSearch
