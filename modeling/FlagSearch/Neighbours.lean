import FlagSearch.FlagSet.Basic
import FlagSearch.SearchError

/-!
# Neighbours of a flag set

The neighbours of a set are the sets reached by turning over at least one and at most `maxFlip`
positions.  `Neighbours` lists them one at a time: first the single flips by ascending position,
then the pairs in lexicographic order, and so on.

* `neighbours` — the listing of a set, from its start.
* `Neighbours.next` — the next neighbour and the listing after it.
* `Neighbours.toList`, `Neighbours.count` — everything still to come, and its number.
-/

namespace FlagSearch

/-- A listing of neighbours, as far as it has come. -/
structure Neighbours where
  base : FlagSet
  maxFlip : Nat
  /-- The positions turned over for the next neighbour, ascending. -/
  positions : List Nat
  exhausted : Bool
  deriving DecidableEq

/-- The neighbours of `base`, from the first. -/
def neighbours (base : FlagSet) (maxFlip : Nat) : Except SearchError Neighbours :=
  if maxFlip = 0 ∨ base.length < maxFlip then
    .error (.invalidParameter s!"max_flip must be in 1..={base.length}, got {maxFlip}")
  else .ok ⟨base, maxFlip, [0], false⟩

namespace Neighbours

/-- The next ascending tuple below `bound` of the same size, in lexicographic order: the last
position that has room moves up, and the ones after it follow directly. -/
def successor (bound : Nat) : List Nat → Option (List Nat)
  | [] => none
  | position :: rest =>
      match successor bound rest with
      | some rest' => some (position :: rest')
      | none =>
          -- What follows is as far up as it can be; is there room for this position to move?
          if position + rest.length + 1 < bound then
            some (List.range' (position + 1) (rest.length + 1))
          else none

def advance (listing : Neighbours) : Neighbours :=
  match successor listing.base.length listing.positions with
  | some positions => { listing with positions }
  | none =>
      -- All tuples of this size have had their turn.
      if listing.positions.length < listing.maxFlip then
        { listing with positions := List.range (listing.positions.length + 1) }
      else { listing with exhausted := true }

def next (listing : Neighbours) : Except Fault (Option (FlagSet × Neighbours)) :=
  if listing.exhausted then .ok none
  else do
    let neighbour ← listing.base.flipAll listing.positions
    pure (some (neighbour, listing.advance))

def take : Nat → Neighbours → Except Fault (List FlagSet)
  | 0, _ => .ok []
  | fuel + 1, listing => do
      match ← listing.next with
      | none => pure []
      | some (neighbour, later) => pure (neighbour :: (← take fuel later))

/-- All neighbours still to come.  A set of `n` flags has fewer than `2 ^ n` neighbours, since no
set is listed twice. -/
def toList (listing : Neighbours) : Except Fault (List FlagSet) :=
  listing.take (Nat.pow 2 listing.base.length)

/-- How many neighbours are still to come, up to `fuel`, added to `seen`. -/
def tally : Nat → Nat → Neighbours → Except Fault Nat
  | 0, seen, _ => .ok seen
  | fuel + 1, seen, listing =>
      match listing.next with
      | .error fault => .error fault
      | .ok none => .ok seen
      | .ok (some (_, later)) => tally fuel (seen + 1) later

def count (listing : Neighbours) : Except Fault Nat :=
  listing.tally (Nat.pow 2 listing.base.length) 0

end Neighbours

end FlagSearch
