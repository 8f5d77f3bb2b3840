import Std.Data.HashSet
import FlagSearch.FlagSet.Basic

/-!
# The tabu list

A `TabuList` remembers the sets that a search visited last, up to a capacity.  A set that is
inserted again counts as visited now; a new set in a full list drops the one that was inserted
longest ago.

The order of insertion is a queue; a hash set beside it answers membership at once.

* `TabuList.insert` — remember a set, with the one that is dropped for it.
* `TabuList.contains` — membership.
-/

namespace FlagSearch

/-- The sets inserted last, with their order. -/
structure TabuList where
  capacity : Nat
  queue : List FlagSet
  members : Std.HashSet FlagSet

namespace TabuList

def ofCapacity (capacity : Nat) : TabuList := ⟨capacity, [], ∅⟩

def contains (tabu : TabuList) (set : FlagSet) : Bool := tabu.members.contains set

def size (tabu : TabuList) : Nat := tabu.queue.length

/-- Remember `set` as the last one, and tell which set was dropped for it. -/
def insert (tabu : TabuList) (set : FlagSet) : Option FlagSet × TabuList :=
  if tabu.capacity = 0 then (none, tabu)
  else if tabu.contains set then
    -- The set moves to the end of the queue, and nothing is dropped.
    (none, { tabu with queue := tabu.queue.erase set ++ [set] })
  else
    match tabu.queue with
    | oldest :: rest =>
        if tabu.capacity ≤ tabu.size then
          (some oldest,
            { tabu with
              queue := rest ++ [set]
              members := (tabu.members.erase oldest).insert set })
        else
          (none, { tabu with
            queue := tabu.queue ++ [set]
            members := tabu.members.insert set })
    | [] => (none, { tabu with queue := [set], members := tabu.members.insert set })

end TabuList

end FlagSearch
