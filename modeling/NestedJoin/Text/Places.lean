/-
# Fixed places

The decimal text of a binary floating-point number with a fixed number of places.  The number is
taken at its exact value `m · 2 ^ q`, scaled to a whole number of units of the last place, and
rounded to the nearest unit; a tie goes to the even one.
-/
import NestedJoin.Text.Blank

namespace NestedJoin.Text

/-- A quotient rounded to the nearest whole number, a tie to the even one. -/
def roundDiv (num den : Nat) : Nat :=
  let q := num / den
  let twice := 2 * (num % den)
  if twice < den then q
  else if den < twice then q + 1
  else if q % 2 = 0 then q else q + 1

/-- A non-negative number of units of the last place in decimal. -/
def ofUnits (places units : Nat) : Text :=
  let digits := Nat.toDigits 10 units
  let digits := List.replicate (places + 1 - digits.length) '0' ++ digits
  let (whole, fraction) := digits.splitAt (digits.length - places)
  whole ++ '.' :: fraction

/-- With one place, 6.25 is written 6.2 and 18.75 is written 18.8. -/
example : ofUnits 1 (roundDiv 625 10) = "6.2".toList ∧
    ofUnits 1 (roundDiv 1875 10) = "18.8".toList := by decide

/-- The numerator and the denominator of a finite non-negative number, read off its bits. -/
def fractionOfBits (bits : Nat) : Nat × Nat :=
  let exponent := bits / Nat.pow 2 52
  let fraction := bits % Nat.pow 2 52
  if exponent = 0 then (fraction, Nat.pow 2 1074)
  else if exponent < 1075 then (Nat.pow 2 52 + fraction, Nat.pow 2 (1075 - exponent))
  else ((Nat.pow 2 52 + fraction) * Nat.pow 2 (exponent - 1075), 1)

/-- A finite non-negative number with a fixed number of places. -/
def fixedPlaces (places : Nat) (x : Float) : Text :=
  let (num, den) := fractionOfBits x.toBits.toNat
  ofUnits places (roundDiv (num * Nat.pow 10 places) den)

end NestedJoin.Text
