/-
# The hit rate of a cache

The share of lookups that succeeded, in percent, as a floating-point number: both counts are
rounded to the nearest number of 64 bits, then divided, then multiplied by a hundred, each step
rounding to the nearest.  A cache that was never asked has the rate zero.
-/
import NestedJoin.Cache
import NestedJoin.Text.Places

namespace NestedJoin

/-- The figures of a cache. -/
structure CacheStats where
  entries : Nat
  hits : Nat
  misses : Nat
  deriving DecidableEq, Repr

/-- The figures of a cache as it is. -/
def Cache.stats (c : Cache) : CacheStats := ⟨c.size, c.hits, c.misses⟩

namespace CacheStats

/-- A count below `2 ^ 64`, rounded to the nearest floating-point number. -/
def rounded (n : Nat) : Float := n.toUInt64.toFloat

/-- The share of hits in percent. -/
def hitRate (s : CacheStats) : Float :=
  if s.hits + s.misses = 0 then 0
  else rounded s.hits / rounded (s.hits + s.misses) * 100

end CacheStats

end NestedJoin
