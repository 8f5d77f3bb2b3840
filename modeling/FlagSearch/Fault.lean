/-!
# Faults

A *fault* is a request that no caller should make: an index past the end of a flag set, a
comparison of sets over different universes, a buffer larger than the address space.  Faults are
kept apart from the errors of a search: an error is an answer, a fault ends the computation that
raised it.  Operations that can be misused return `Except Fault`, so that the absence of faults in
a run is a statement about values.

* `Fault` — the causes.
* `Fault.message` — their wording.
* `maxBlock`, `reserve` — the limit on a block of memory, and the check before one is taken.
-/

namespace FlagSearch

/-- Why a computation was abandoned. -/
inductive Fault where
  | flagIndex (index length : Nat)
  | differentLengths (left right : Nat)
  | foreignSet (bits flags : Nat)
  | capacityOverflow
  | wordOverflow
  deriving DecidableEq

namespace Fault

def message : Fault → String
  | flagIndex index length => s!"flag index {index} out of range {length}"
  | differentLengths left right =>
      "assertion `left == right` failed: flag sets over different universes\n  left: "
        ++ toString left ++ "\n right: " ++ toString right
  | foreignSet bits flags =>
      "assertion `left == right` failed\n  left: " ++ toString bits ++ "\n right: "
        ++ toString flags
  | capacityOverflow => "capacity overflow"
  | wordOverflow => "attempt to add with overflow"

end Fault

/-! ## Memory blocks -/

/-- The largest block of memory, in bytes: addresses are signed 64-bit offsets. -/
def maxBlock : Nat := UInt64.size / 2 - 1

/-- Reserve room for `count` items of `size` bytes each, or fail before anything is stored.  A block
within the limit is taken to be granted: running out of memory is outside of the model. -/
def reserve (count size : Nat) : Except Fault Unit :=
  if count * size ≤ maxBlock then .ok () else .error .capacityOverflow

end FlagSearch
