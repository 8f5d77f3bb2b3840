import FlagSearch.Draws
import Mathlib.Data.List.Nodup

/-!
# What is drawn

Hill climbing turns over the positions that it draws, so it relies on their being different
positions of its set, as many as it asks for.

* `Draws.offer_cases` — a reservoir takes in the offered element or nothing.
* `Draws.sample_lt` — what is drawn is below the bound.
* `Draws.length_sample`, `Draws.nodup_sample` — it is as much as was asked for, and nothing twice.
* `Draws.after`, `Draws.picked` — one sample after the other.
-/

namespace FlagSearch.Draws

theorem offer_cases (size : Nat) (drawn : List Nat × Draws) (element : Nat) :
    (∃ later, offer size drawn element = (drawn.1, later)) ∨
      ∃ slot later, offer size drawn element = (drawn.1.set slot element, later) := by
  simp only [offer]
  split
  · exact .inr ⟨_, _, rfl⟩
  · exact .inl ⟨_, rfl⟩

theorem foldl_offer_lt {bound size : Nat} {elements : List Nat}
    (inside : ∀ element ∈ elements, element < bound) {drawn : List Nat × Draws}
    (below : ∀ i ∈ drawn.1, i < bound) :
    ∀ i ∈ (elements.foldl (offer size) drawn).1, i < bound := by
  induction elements generalizing drawn with
  | nil => exact below
  | cons element elements ih =>
    have inside' := fun other member => inside other (List.mem_cons_of_mem element member)
    rw [List.foldl_cons]
    rcases offer_cases size drawn element with ⟨later, same⟩ | ⟨slot, later, taken⟩
    · rw [same]
      exact ih inside' below
    · rw [taken]
      refine ih inside' fun i member => ?_
      rcases List.mem_or_eq_of_mem_set member with kept | rfl
      · exact below i kept
      · exact inside i List.mem_cons_self

theorem sample_lt {bound size : Nat} (fits : size ≤ bound) (draws : Draws) :
    ∀ i ∈ (sample bound size draws).1, i < bound := by
  refine foldl_offer_lt (fun element member => ?_) fun i member => ?_
  · have above := List.mem_range'_1.1 member
    omega
  · exact Nat.lt_of_lt_of_le (List.mem_range.1 member) fits

theorem length_sample (bound size : Nat) (draws : Draws) :
    (sample bound size draws).1.length = size := by
  suffices kept : ∀ (elements : List Nat) (drawn : List Nat × Draws),
      (elements.foldl (offer size) drawn).1.length = drawn.1.length from
    (kept _ _).trans List.length_range
  -- The fold is over a list of its own, so the size of the reservoir stays fixed in the induction.
  intro elements
  induction elements with
  | nil => exact fun _ => rfl
  | cons element elements ih =>
    intro drawn
    rw [List.foldl_cons, ih]
    rcases offer_cases size drawn element with ⟨later, same⟩ | ⟨slot, later, taken⟩
    · rw [same]
    · rw [taken, List.length_set]

theorem nodup_foldl_offer {size count first : Nat} {drawn : List Nat × Draws}
    (below : ∀ i ∈ drawn.1, i < first) (nodup : drawn.1.Nodup) :
    ((List.range' first count).foldl (offer size) drawn).1.Nodup := by
  induction count generalizing first drawn with
  | zero => exact nodup
  | succ count ih =>
    rw [List.range'_succ, List.foldl_cons]
    rcases offer_cases size drawn first with ⟨later, same⟩ | ⟨slot, later, taken⟩
    · rw [same]
      exact ih (fun i member => Nat.lt_succ_of_lt (below i member)) nodup
    · rw [taken]
      refine ih (fun i member => ?_) (nodup.set fun member => Nat.lt_irrefl _ (below _ member))
      rcases List.mem_or_eq_of_mem_set member with kept | rfl
      · exact Nat.lt_succ_of_lt (below i kept)
      · exact Nat.lt_succ_self i

theorem nodup_sample (bound size : Nat) (draws : Draws) : (sample bound size draws).1.Nodup :=
  nodup_foldl_offer (fun _ member => List.mem_range.1 member) List.nodup_range

def after (bound size : Nat) (draws : Draws) : Nat → Draws
  | 0 => draws
  | count + 1 => (sample bound size (after bound size draws count)).2

def picked (seed : UInt64) (bound size count : Nat) : List Nat :=
  (sample bound size (after bound size ⟨seed⟩ count)).1

end FlagSearch.Draws
