import FlagSearch.Reply

/-!
# Evaluators

An `Evaluator` scores lists of flags.  It lives in a world of type `σ`: every call may depend on
everything that happened in that world before, and changes it.  The world also knows whether
someone outside wants the search to stop, and what time it is.

* `Evaluator` — the interface.
* `Evaluator.ofHistory` — the evaluator whose answers are a function of the calls made so far.
* `Evaluator.ofFunction` — the evaluator whose answers depend on the flags alone.
-/

namespace FlagSearch

/-- Something that builds and runs the program with given flags. -/
structure Evaluator (σ : Type) where
  name : String
  poll : σ → Bool × σ
  score : List String → σ → Reply × σ
  clock : σ → Nat

namespace Evaluator

def defaultName : String := "evaluator"

def functionName : String := "closure"

/-- An evaluator that no one interrupts and that answers by the calls made so far, the present one
last.  Its world is the list of those calls. -/
def ofHistory (name : String) (answer : List (List String) → Reply) :
    Evaluator (List (List String)) where
  name := name
  poll calls := (false, calls)
  score flags calls := (answer (calls ++ [flags]), calls ++ [flags])
  clock _ := 0

/-- An evaluator that no one interrupts and whose answer to a list of flags is always the same.
Its world is the list of calls. -/
def ofFunction (name : String) (answer : List String → Reply) :
    Evaluator (List (List String)) where
  name := name
  poll calls := (false, calls)
  score flags calls := (answer flags, calls ++ [flags])
  clock _ := 0

end Evaluator

end FlagSearch
