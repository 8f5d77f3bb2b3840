/-!
# Durations

Clocks count nanoseconds.

* `nanosPerSecond` — the unit that times are shown in.
-/

namespace FlagSearch

def nanosPerSecond : Nat := 1000000000

end FlagSearch
