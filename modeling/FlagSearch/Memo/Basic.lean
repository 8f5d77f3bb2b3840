import FlagSearch.Reply

/-!
# The memo of outcomes

A `Memo` remembers the outcomes of the keys touched last, up to a capacity.  A key is *touched*
when a lookup finds it and when an outcome is published for it; the key touched longest ago makes
room for a new one.

* `Memo.ofCapacity` — the empty memo; a memo without room is refused.
* `Memo.peek?` — the outcome held for a key, without touching it.
* `Memo.lookup` — the same as a counted and touching access.
* `Memo.publish` — storing an outcome.
* `Memo.getOrCompute` — a lookup that falls back on a computation.
-/

namespace FlagSearch

/-- Outcomes of recently touched keys, with counts of the accesses so far. -/
structure Memo (κ : Type) where
  capacity : Nat
  /-- The keys and their outcomes, most recently touched first. -/
  entries : List (κ × Outcome)
  /-- Accesses answered without a computation of their own. -/
  hits : Nat
  misses : Nat

structure MemoStats where
  hits : Nat
  misses : Nat
  entries : Nat
  capacity : Nat
  deriving DecidableEq

structure Lookup where
  outcome : Outcome
  cached : Bool
  deriving DecidableEq

namespace Memo

variable {κ : Type} [DecidableEq κ]

def capacityError : SearchError := .invalidParameter "cache capacity must be > 0"

/-- An empty memo for `capacity` keys.  However many these are, the room for them is taken to be
granted. -/
def ofCapacity (capacity : Nat) : Except SearchError (Memo κ) :=
  if capacity = 0 then .error capacityError else .ok ⟨capacity, [], 0, 0⟩

def keys (memo : Memo κ) : List κ := memo.entries.map (·.1)

/-- The outcome held for a key. -/
def peek? (memo : Memo κ) (key : κ) : Option Outcome := memo.entries.lookup key

def size (memo : Memo κ) : Nat := memo.entries.length

def stats (memo : Memo κ) : MemoStats := ⟨memo.hits, memo.misses, memo.size, memo.capacity⟩

/-- Hold `outcome` for `key` as the most recently touched, dropping what exceeds the capacity. -/
def publish (memo : Memo κ) (key : κ) (outcome : Outcome) : Memo κ :=
  { memo with
    -- The old entry of the key goes first, so touching a key never drops another one.
    entries :=
      ((key, outcome) :: memo.entries.filter fun entry => entry.1 ≠ key).take memo.capacity }

/-- Publish a result; an error leaves no trace. -/
def settle (memo : Memo κ) (key : κ) : Except SearchError Outcome → Memo κ
  | .ok outcome => memo.publish key outcome
  | .error _ => memo

/-- Look a key up.  A key that is held is touched and counts as a hit. -/
def lookup (memo : Memo κ) (key : κ) : Option Outcome × Memo κ :=
  match memo.peek? key with
  | some outcome => (some outcome, { memo.publish key outcome with hits := memo.hits + 1 })
  | none => (none, memo)

def started (memo : Memo κ) : Memo κ := { memo with misses := memo.misses + 1 }

/-- The outcome of a key: the one held, or the one that `compute` comes to.  Only a miss runs
`compute`, and only an outcome is stored. -/
def getOrCompute {σ : Type} (memo : Memo κ) (key : κ)
    (compute : σ → Except SearchError Outcome × σ) (world : σ) :
    Except SearchError Lookup × Memo κ × σ :=
  match memo.lookup key with
  | (some outcome, memo) => (.ok ⟨outcome, true⟩, memo, world)
  | (none, memo) =>
      -- The miss is counted whether or not the computation succeeds.
      let (result, world) := compute world
      (result.map fun outcome => ⟨outcome, false⟩, memo.started.settle key result, world)

end Memo

end FlagSearch
