import FlagSearch.Binary64.Basic
import FlagSearch.Duration

/-!
# Timings

The time of a candidate is the mean of its timed runs, and the sample deviation says how far they
are apart; one run has no deviation.  Sums are taken from left to right and start from negative
zero, which is the neutral element of addition.

* `seconds` — a duration in seconds.
* `Timing.ofSamples` — mean and deviation of a list of times.
-/

namespace FlagSearch

/-- A duration in seconds; whole seconds and the rest are converted one by one. -/
def seconds (nanos : Nat) : Binary64 :=
  .ofNat (nanos / nanosPerSecond) + .ofNat (nanos % nanosPerSecond) / .ofNat nanosPerSecond

structure Timing where
  mean : Binary64
  stdev : Option Binary64
  deriving DecidableEq

namespace Timing

def sum (numbers : List Binary64) : Binary64 := numbers.foldl (· + ·) .negZero

def meanOf (samples : List Binary64) : Binary64 := sum samples / .ofNat samples.length

def deviation (mean : Binary64) (samples : List Binary64) : Binary64 :=
  let squares := samples.map fun x => (x - mean) * (x - mean)
  (sum squares / (.ofNat samples.length - .ofNat 1)).sqrt

def ofSamples : List Binary64 → Timing
  | [] => ⟨.zero, none⟩
  | [x] => ⟨meanOf [x], none⟩
  | samples => ⟨meanOf samples, some (deviation (meanOf samples) samples)⟩

end Timing

end FlagSearch
