/-!
# Random draws

A small multiplicative generator with a 64-bit state, and the draws that hill climbing makes from
it.  Every draw is a function of the state, so a run with a given seed can be repeated.

* `Draws.next` — 64 fresh bits.
* `Draws.below` — a number below a bound, every one equally likely.
* `Draws.sample` — distinct positions below a bound, by reservoir sampling.
-/

namespace FlagSearch

structure Draws where
  state : UInt64
  deriving DecidableEq

namespace Draws

def states : Nat := UInt64.size

/-- What is added to the state before each draw; it is odd, so all states are visited. -/
def stride : UInt64 := 0x2d358dccaa6c78a5

def mask : UInt64 := 0x8bb84b93962eacc9

/-- The next 64 bits: the two halves of a 128-bit product, mixed. -/
def next (draws : Draws) : Nat × Draws :=
  let state := draws.state + stride
  let product := state.toNat * (state ^^^ mask).toNat
  (Nat.xor (product % states) (product / states), ⟨state⟩)

/-- Draw until the low half of `r * bound` is at least `limit`, which leaves every high half
equally likely; `fuel` bounds the draws. -/
def redraw (bound limit : Nat) : Nat → Nat → Draws → Nat × Draws
  | 0, r, draws => (r * bound / states, draws)
  | fuel + 1, r, draws =>
      if r * bound % states < limit then
        let (r', draws') := draws.next
        redraw bound limit fuel r' draws'
      else (r * bound / states, draws)

/-- A number below `bound`.  After as many draws as there are states the generator repeats itself,
so no more are made. -/
def below (bound : Nat) (draws : Draws) : Nat × Draws :=
  let (r, draws') := draws.next
  -- Only a low half below `bound` can be below the limit, so the remainder is rarely needed.
  if r * bound % states < bound then redraw bound ((states - bound) % bound) states r draws'
  else (r * bound / states, draws')

/-- Offer one more element to a reservoir of `size` elements. -/
def offer (size : Nat) (drawn : List Nat × Draws) (element : Nat) : List Nat × Draws :=
  let draw := drawn.2.below (element + 1)
  (if draw.1 < size then drawn.1.set draw.1 element else drawn.1, draw.2)

/-- `size` distinct numbers below `bound`: the first ones fill a reservoir, and each later one
replaces a random element of it or is dropped. -/
def sample (bound size : Nat) (draws : Draws) : List Nat × Draws :=
  (List.range' size (bound - size)).foldl (offer size) (List.range size, draws)

end Draws

end FlagSearch
