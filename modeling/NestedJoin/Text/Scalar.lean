/-
# Characters by their number

A character is written by its number in hexadecimal digits of either case.  A number that no
character has, such as that of half a surrogate pair, writes none.
-/
import NestedJoin.Text.Blank

namespace NestedJoin.Text

/-- The value of a hexadecimal digit. -/
def hexValue? (c : Char) : Option Nat :=
  if '0' ≤ c && c ≤ '9' then some (c.toNat - '0'.toNat)
  else if 'a' ≤ c && c ≤ 'f' then some (c.toNat - 'a'.toNat + 10)
  else if 'A' ≤ c && c ≤ 'F' then some (c.toNat - 'A'.toNat + 10)
  else none

/-- The character whose number hexadecimal digits give. -/
def scalar? (digits : Text) : Option Char := do
  let n := (← digits.mapM hexValue?).foldl (fun n d => 16 * n + d) 0
  if n.isValidChar then some (Char.ofNat n) else none

example : scalar? "20aC".toList = some '€' ∧ scalar? "d800".toList = none := by decide +kernel

end NestedJoin.Text
