import FlagSearch.Memo.Shared

/-!
# Nested calls of a memo

A computation may itself use the memo it fills.  A `Call` describes one access with everything
that happens while it is answered, and `Shared.perform` carries it out on a single thread.

* `Call` — an access: a key with the calls its computation makes first, or a question about the
  contents.
* `Answer` — what the caller learns.
* `Shared.perform`, `Shared.performAll` — one call, and a sequence of calls.

A call for a key that is in flight waits for a computation that waits for the call; it is answered
with `Answer.blocked`.
-/

namespace FlagSearch

/-- One use of a memo. -/
inductive Call (κ : Type) where
  | get (key : κ) (inner : List (Call κ)) (reply : Reply)
  | peek (key : κ)
  | size
  /-- One caller wants `key`, and while its computation runs `followers` others do, too. -/
  | burst (key : κ) (reply : Reply) (followers : Nat)

/-- How a caller of `burst` comes out. -/
inductive Ending where
  | found (lookup : Lookup)
  | failed (e : SearchError)
  | unwound (message : String)
  deriving DecidableEq

inductive Answer where
  | served (outcome : Outcome)
  | computed (inner : List (Answer × MemoStats)) (reply : Reply)
  /-- The key is being computed by a computation that waits for this call. -/
  | blocked
  | peeked (outcome : Option Outcome)
  | sized (entries capacity : Nat)
  | burst (leader : Ending) (followers : List Ending) (computations : Nat)

namespace Ending

def ofReply : Reply → Ending
  | .outcome outcome => .found ⟨outcome, false⟩
  | .error e => .failed e
  | .panic message => .unwound message

def ofPublished : Except SearchError Outcome → Ending
  | .ok outcome => .found ⟨outcome, true⟩
  | .error e => .failed e

end Ending

namespace Shared

variable {κ : Type} [DecidableEq κ]

def enterOne (key : κ) (entered : List Role × Shared κ) : List Role × Shared κ :=
  let (role, shared) := entered.2.enter key
  (entered.1 ++ [role], shared)

def leaveOne (left : List Ending × Shared κ) : Role → List Ending × Shared κ
  | .served outcome => (left.1 ++ [.found ⟨outcome, true⟩], left.2)
  | .follow flight | .lead flight =>
      match left.2.wake flight with
      | some (result, shared) => (left.1 ++ [.ofPublished result], shared)
      | none => left

/-- A leader and `followers` callers want `key` at once. -/
def crowd (shared : Shared κ) (key : κ) (reply : Reply) (followers : Nat) :
    Answer × Shared κ :=
  -- The others come after the leader has entered and before it lands.
  let (role, entered) := shared.enter key
  let (roles, entered) := Nat.repeat (enterOne key) followers ([], entered)
  match role with
  | .served outcome =>
      let (endings, shared) := roles.foldl leaveOne ([], entered)
      (.burst (.found ⟨outcome, true⟩) endings 0, shared)
  | .follow _ => (.blocked, shared)
  | .lead flight =>
      let (endings, shared) := roles.foldl leaveOne ([], entered.land key flight reply)
      (.burst (.ofReply reply) endings 1, shared)

mutual

def perform (shared : Shared κ) : Call κ → Answer × Shared κ
  | .get key inner reply =>
      match shared.enter key with
      | (.served outcome, shared) => (.served outcome, shared)
      | (.follow _, _) => (.blocked, shared)
      | (.lead flight, entered) =>
          -- The inner calls see the key in flight.
          let (answers, shared) := performAll entered inner
          (.computed answers reply, shared.land key flight reply)
  | .peek key => (.peeked (shared.memo.peek? key), shared)
  | .size => (.sized shared.memo.size shared.memo.capacity, shared)
  | .burst key reply followers => crowd shared key reply followers

/-- Carry out calls one after the other, with the counts after each. -/
def performAll (shared : Shared κ) : List (Call κ) → List (Answer × MemoStats) × Shared κ
  | [] => ([], shared)
  | call :: calls =>
      let (answer, shared) := perform shared call
      let (answers, final) := performAll shared calls
      ((answer, shared.memo.stats) :: answers, final)

end

end Shared

end FlagSearch
