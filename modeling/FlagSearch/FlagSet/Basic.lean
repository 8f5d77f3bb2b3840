import FlagSearch.Fault
import FlagSearch.FlagSet.Words

/-!
# Flag sets

A `FlagSet` selects a subset of an ordered list of flags: position `i` says whether flag `i` is
passed to the compiler.  The positions are packed into 64-bit words, and the two proof fields say
that the packing is canonical, so two sets are equal exactly when they have the same length and
the same positions (`FlagSet.ext_bit`).

* `FlagSet.bit`, `FlagSet.toBools` — the views of a set as a function and as a list.
* `zeros`, `ofBits`, `ofIndices` — construction.
* `get`, `flip`, `flipAll`, `hamming` — the operations that can be misused; they fail with a
  `Fault`.
* `ones`, `count` — the selected positions and their number.
-/

namespace FlagSearch

/-- A subset of `length` flags. -/
structure FlagSet where
  length : Nat
  words : List (BitVec 64)
  /-- There are as many words as the positions need. -/
  size_words : words.length = Words.needed length
  /-- Bits past the last position are clear. -/
  clear_above : ∀ i, length ≤ i → Words.bit words i = false
  deriving DecidableEq

namespace FlagSet

def bit (set : FlagSet) (i : Nat) : Bool := Words.bit set.words i

def toBools (set : FlagSet) : List Bool := (List.range set.length).map set.bit

theorem ext_bit {left right : FlagSet} (size : left.length = right.length)
    (bits : ∀ i, left.bit i = right.bit i) : left = right := by
  obtain ⟨n, leftWords, leftSize, leftClear⟩ := left
  obtain ⟨m, rightWords, rightSize, rightClear⟩ := right
  obtain rfl : n = m := size
  obtain rfl : leftWords = rightWords := Words.ext_bit (leftSize.trans rightSize.symm) bits
  rfl

/-! ## Construction -/

def zeros (length : Nat) : FlagSet where
  length := length
  words := List.replicate (Words.needed length) 0#64
  size_words := List.length_replicate ..
  clear_above _ _ := Words.bit_replicate_zero ..

instance : Inhabited FlagSet := ⟨zeros 0⟩

/-- Position `i` turned over; a position past the end changes nothing. -/
def toggle (set : FlagSet) (i : Nat) : FlagSet :=
  if inside : i < set.length then
    { length := set.length
      words := Words.toggle set.words i
      size_words := (Words.length_toggle ..).trans set.size_words
      clear_above := fun j above => by
        have stored : i / 64 < set.words.length := by
          rw [set.size_words, Words.needed]; omega
        rw [Words.bit_toggle _ stored, set.clear_above j above]
        simp; omega }
  else set

def ofBits (bits : List Bool) : FlagSet :=
  bits.zipIdx.foldl (fun set (selected, i) => if selected then set.toggle i else set)
    (zeros bits.length)

/-! ## Operations that can be misused -/

def get (set : FlagSet) (i : Nat) : Except Fault Bool :=
  if i < set.length then .ok (set.bit i) else .error (.flagIndex i set.length)

def flip (set : FlagSet) (i : Nat) : Except Fault FlagSet :=
  if i < set.length then .ok (set.toggle i) else .error (.flagIndex i set.length)

/-- Turn the listed positions over, one after the other; a position listed twice is turned back. -/
def flipAll (set : FlagSet) (indices : List Nat) : Except Fault FlagSet :=
  indices.foldlM flip set

def select (set : FlagSet) (i : Nat) : Except Fault FlagSet := do
  if ← set.get i then pure set else set.flip i

/-- The set of `length` flags with exactly the listed positions selected, however often each is
listed. -/
def ofIndices (length : Nat) (indices : List Nat) : Except Fault FlagSet :=
  indices.foldlM select (zeros length)

/-- The number of positions at which two sets of equal length differ. -/
def hamming (left right : FlagSet) : Except Fault Nat :=
  if left.length = right.length then .ok (Words.distance left.words right.words)
  else .error (.differentLengths left.length right.length)

/-! ## Selected positions -/

/-- The selected positions, ascending. -/
def ones (set : FlagSet) : List Nat := (List.range set.length).filter set.bit

def count (set : FlagSet) : Nat := Words.population set.words

instance : Hashable FlagSet where
  hash set := set.words.foldl (fun sum word => mixHash sum (hash word.toNat)) (hash set.length)

/-! ## Views of the operations -/

@[simp] theorem length_zeros (n : Nat) : (zeros n).length = n := rfl

@[simp] theorem bit_zeros (n i : Nat) : (zeros n).bit i = false := Words.bit_replicate_zero ..

theorem bit_eq_false_of_length_le (set : FlagSet) {i : Nat} (above : set.length ≤ i) :
    set.bit i = false :=
  set.clear_above i above

@[simp] theorem length_toggle (set : FlagSet) (i : Nat) : (set.toggle i).length = set.length := by
  unfold toggle; split <;> rfl

theorem bit_toggle (set : FlagSet) {i : Nat} (inside : i < set.length) (j : Nat) :
    (set.toggle i).bit j = (set.bit j ^^ decide (i = j)) := by
  have stored : i / 64 < set.words.length := by
    rw [set.size_words, Words.needed]; omega
  simp only [toggle, inside, ↓reduceDIte, bit]
  exact Words.bit_toggle _ stored j

end FlagSet

end FlagSearch
