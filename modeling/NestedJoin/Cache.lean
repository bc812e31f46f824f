/-
# The cache of nested forms

A cache maps the text of a statement, character by character, to an answer, and counts how often
it was asked with and without success.  Entries are never dropped.  A cache that is switched off
knows nothing, keeps nothing and counts nothing.
-/
import NestedJoin.Keyed

namespace NestedJoin

/-- A cache: whether it is switched on, its entries in the order of their first storing, and how
often a lookup succeeded and failed. -/
structure Cache where
  enabled : Bool := true
  entries : Keyed Text := []
  hits : Nat := 0
  misses : Nat := 0
  deriving DecidableEq, Repr

namespace Cache

/-- The number of entries. -/
def size (c : Cache) : Nat := c.entries.length

/-- The answer for a statement, and the cache with the question counted. -/
def lookup (c : Cache) (sql : Text) : Option Text × Cache :=
  if c.enabled then
    match Keyed.get? c.entries sql with
    | some answer => (some answer, { c with hits := c.hits + 1 })
    | none => (none, { c with misses := c.misses + 1 })
  else (none, c)

/-- The cache with an answer stored. -/
def store (c : Cache) (sql answer : Text) : Cache :=
  if c.enabled then { c with entries := Keyed.set c.entries sql answer } else c

end Cache

end NestedJoin
