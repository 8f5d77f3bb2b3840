/-!
# Packed bits

A row of bits stored in 64-bit words, lowest bit of the first word first.  The row does not know
how many of its bits are in use; `FlagSet` adds that.

* `needed` — the number of words for a number of bits.
* `bit`, `toggle`, `population`, `distance` — reading, flipping and counting.
* `bit_toggle`, `ext_bit` — a toggle changes exactly its own bit, and a row is determined by its
  bits.
-/

namespace FlagSearch.Words

def needed (length : Nat) : Nat := (length + 63) / 64

/-- Bit `i` of the row; a position past the last word reads as clear. -/
def bit (row : List (BitVec 64)) (i : Nat) : Bool :=
  match row[i / 64]? with
  | some word => word.getLsbD (i % 64)
  | none => false

/-- Flip bit `i`; a position past the last word changes nothing. -/
def toggle (row : List (BitVec 64)) (i : Nat) : List (BitVec 64) :=
  row.modify (i / 64) (· ^^^ BitVec.twoPow 64 (i % 64))

def weight (word : BitVec 64) : Nat := (List.range 64).countP fun i => word.getLsbD i

def population (row : List (BitVec 64)) : Nat :=
  row.foldr (fun word sum => weight word + sum) 0

def distance (left right : List (BitVec 64)) : Nat :=
  population (List.zipWith (fun l r => l ^^^ r) left right)

/-! ## Reading after writing -/

@[simp] theorem length_toggle (row : List (BitVec 64)) (i : Nat) :
    (toggle row i).length = row.length := by
  simp [toggle]

@[simp] theorem bit_replicate_zero (n i : Nat) : bit (List.replicate n 0#64) i = false := by
  unfold bit
  cases found : (List.replicate n 0#64)[i / 64]? with
  | none => rfl
  | some word =>
    obtain ⟨_, rfl⟩ := List.getElem?_eq_some_iff.1 found
    simp

theorem bit_toggle (row : List (BitVec 64)) {i : Nat} (inside : i / 64 < row.length) (j : Nat) :
    bit (toggle row i) j = (bit row j ^^ decide (i = j)) := by
  unfold bit toggle
  rw [List.getElem?_modify]
  cases found : row[j / 64]? with
  | none =>
    have apart : i ≠ j := by
      rintro rfl
      rw [List.getElem?_eq_none_iff] at found
      omega
    simp [apart]
  | some word =>
    by_cases same : i / 64 = j / 64
    · have bound : i % 64 < 64 := Nat.mod_lt _ (by decide)
      have lane : (i % 64 = j % 64) ↔ i = j := by omega
      simp [same, BitVec.getLsbD_twoPow, bound, lane]
    · have apart : i ≠ j := fun equal => same (by rw [equal])
      simp [same, apart]

theorem ext_bit {left right : List (BitVec 64)} (size : left.length = right.length)
    (bits : ∀ i, bit left i = bit right i) : left = right := by
  apply List.ext_getElem size
  intro k inLeft inRight
  apply BitVec.eq_of_getLsbD_eq
  intro lane below
  have whole : (64 * k + lane) / 64 = k := by omega
  have part : (64 * k + lane) % 64 = lane := by omega
  have agree := bits (64 * k + lane)
  simpa [bit, whole, part, List.getElem?_eq_getElem inLeft, List.getElem?_eq_getElem inRight]
    using agree

end FlagSearch.Words
