import FlagSearch.FlagSet.Basic
import FlagSearch.SearchError

/-!
# The flag universe

A `Universe` is the ordered list of flags that a search chooses from, with what is known about the
compiler they belong to.

* `Universe.ofFlags`, `Universe.checked` — a universe has at least one flag.
* `Universe.resolve` — the flags that a set selects, in the order of the universe.
* `Universe.emptySet` — the set that selects none of them.
-/

namespace FlagSearch

/-- The flags of a compiler, in order; a flag may occur more than once. -/
structure Universe where
  executable : Option String
  version : Option String
  flags : List String
  deriving DecidableEq

namespace Universe

def emptyError : SearchError := .invalidParameter "flag universe is empty"

def checked (u : Universe) : Except SearchError Universe :=
  if u.flags.isEmpty then .error emptyError else .ok u

def ofFlags (flags : List String) : Except SearchError Universe :=
  checked ⟨none, none, flags⟩

def size (u : Universe) : Nat := u.flags.length

/-- The flags at the selected positions, in order.  The set must have a position per flag. -/
def resolve (u : Universe) (set : FlagSet) : Except Fault (List String) :=
  if set.length = u.size then .ok (set.ones.filterMap fun i => u.flags[i]?)
  else .error (.foreignSet set.length u.size)

def emptySet (u : Universe) : FlagSet := FlagSet.zeros u.size

end Universe

end FlagSearch
