import FlagSearch.Memo.Basic

/-!
# A memo with many callers

Several callers may want the same key at once.  The first one computes it, as the *leader* of a
*flight*; those that come while the flight is in the air follow it and wait.  Keys in flight are
kept apart from the memo, so no eviction can touch them.

The three moves of a caller are single steps, and any interleaving of the steps of many callers is
a run of the shared memo.

* `Shared.enter` — look a key up, join its flight, or start one.
* `Shared.land` — the leader publishes its result and takes the key out of flight.
* `Shared.wake` — a follower collects what its flight published.
-/

namespace FlagSearch

/-- A memo and the flights over it. -/
structure Shared (κ : Type) where
  memo : Memo κ
  /-- The keys being computed, each with the number of its flight. -/
  inFlight : List (κ × Nat)
  /-- What each flight published, in the order in which flights were started. -/
  published : List (Option (Except SearchError Outcome))

/-- The part a caller plays after its first step. -/
inductive Role where
  | served (outcome : Outcome)
  | follow (flight : Nat)
  | lead (flight : Nat)
  deriving DecidableEq

namespace Shared

variable {κ : Type} [DecidableEq κ]

def idle (memo : Memo κ) : Shared κ := ⟨memo, [], []⟩

/-- First step of a caller. -/
def enter (shared : Shared κ) (key : κ) : Role × Shared κ :=
  match shared.memo.lookup key with
  | (some outcome, memo) => (.served outcome, { shared with memo })
  | (none, memo) =>
      match shared.inFlight.lookup key with
      | some flight => (.follow flight, shared)
      | none =>
          -- Flights are numbered in the order in which they start.
          let flight := shared.published.length
          (.lead flight,
            { memo := memo.started
              inFlight := (key, flight) :: shared.inFlight
              published := shared.published ++ [none] })

/-- The leader of `flight` ends its computation of `key`. -/
def land (shared : Shared κ) (key : κ) (flight : Nat) (reply : Reply) : Shared κ where
  memo := shared.memo.settle key reply.published
  inFlight := shared.inFlight.filter fun entry => entry.1 ≠ key
  published := shared.published.set flight (some reply.published)

/-- A follower of `flight` collects its result, if there is one. -/
def wake (shared : Shared κ) (flight : Nat) : Option (Except SearchError Outcome × Shared κ) :=
  match shared.published[flight]? with
  | some (some result) =>
      some (result, { shared with memo := { shared.memo with hits := shared.memo.hits + 1 } })
  | _ => none

end Shared

end FlagSearch
