/-
# The numbers, dates and times of a TOML document

Whole numbers have 64 bits and a sign, or are written without a sign in base 16, 8 or 2.  A single
underscore may stand between two digits.  A decimal number does not begin with a needless zero.  A
number with a fraction or an exponent may not be so large that no floating-point number but
infinity is near; a negative one may.  Dates are days of the calendar and times are times of the
day, to the second or finer.
-/
import NestedJoin.Toml.Node
import NestedJoin.Toml.Strings

namespace NestedJoin.Toml

/-! ## 1. Digits -/

/-- The value of a digit in a base up to sixteen. -/
def digitValue? (base : Nat) (c : Char) : Option Nat := (Text.hexValue? c).filter (· < base)

/-- A digit's value in front of what a reader gives. -/
def pushDigit (d : Nat) (read : Option (List Nat × Text)) : Option (List Nat × Text) :=
  read.map fun (ds, rest) => (d :: ds, rest)

/-- The digits that follow a digit; an underscore has to be followed by one. -/
def moreDigits (base : Nat) : Text → Option (List Nat × Text)
  | [] => some ([], [])
  | ['_'] => none
  | '_' :: c :: rest =>
    match digitValue? base c with
    | none => none
    | some d => pushDigit d (moreDigits base rest)
  | c :: rest =>
    match digitValue? base c with
    | none => some ([], c :: rest)
    | some d => pushDigit d (moreDigits base rest)

/-- One or more digits. -/
def digits? (base : Nat) : Text → Option (List Nat × Text)
  | [] => none
  | c :: rest =>
    match digitValue? base c with
    | none => none
    | some d => pushDigit d (moreDigits base rest)

/-- One or more digits, the first of them zero only if it stands alone. -/
def leadingDigits? : Text → Option (List Nat × Text)
  | '0' :: rest => some ([0], rest)
  | t => digits? 10 t

/-- The number that digits write. -/
def ofDigits (base : Nat) (ds : List Nat) : Nat := ds.foldl (fun n d => base * n + d) 0

/-- A sign, if there is one, and whether it is a minus. -/
def sign : Text → Bool × Text
  | '+' :: rest => (false, rest)
  | '-' :: rest => (true, rest)
  | t => (false, t)

/-! ## 2. Numbers -/

/-- A whole number of 64 bits with a sign. -/
def integer? (negative : Bool) (magnitude : Nat) : Option Node :=
  if magnitude < Nat.pow 2 63 then
    some (.integer (if negative then -(magnitude : Int) else magnitude))
  else if negative && magnitude == Nat.pow 2 63 then some (.integer (-(Nat.pow 2 63 : Nat)))
  else none

/-- No floating-point number but infinity is near `n · 10 ^ exponent`: it is not below the
midpoint between the largest one and `2 ^ 1024`. -/
def overflows (n : Nat) (exponent : Int) : Bool :=
  let size := (Nat.toDigits 10 n).length + exponent
  if n == 0 || size < 300 then false
  else if 320 < size then true
  else if 0 ≤ exponent then Nat.pow 2 1024 - Nat.pow 2 970 ≤ n * Nat.pow 10 exponent.toNat
  else (Nat.pow 2 1024 - Nat.pow 2 970) * Nat.pow 10 (-exponent).toNat ≤ n

/-- The exponent of a number, if the text begins with one; no answer if it begins with a spoiled
one. -/
def exponent? : Text → Option (Option Int × Text)
  | [] => some (none, [])
  | c :: rest =>
    if c == 'e' || c == 'E' then
      let (negative, after) := sign rest
      match digits? 10 after with
      | none => none
      | some (ds, after) =>
        let n : Int := ofDigits 10 ds
        some (some (if negative then -n else n), after)
    else some (none, c :: rest)

/-- A number with a fraction or an exponent. -/
def float? (negative : Bool) (whole fraction : List Nat) (exponent : Int) : Option Node :=
  if !negative && overflows (ofDigits 10 (whole ++ fraction)) (exponent - fraction.length) then
    none
  else some .float

/-- A decimal number after its sign. -/
def decimal? (negative : Bool) (t : Text) : Option (Node × Text) :=
  match leadingDigits? t with
  | none => none
  | some (whole, '.' :: rest) =>
    match digits? 10 rest with
    | none => none
    | some (fraction, rest) =>
      match exponent? rest with
      | none => none
      | some (exponent, rest) =>
        (float? negative whole fraction (exponent.getD 0)).map fun v => (v, rest)
  | some (whole, rest) =>
    match exponent? rest with
    | none => none
    | some (none, rest) => (integer? negative (ofDigits 10 whole)).map fun v => (v, rest)
    | some (some exponent, rest) => (float? negative whole [] exponent).map fun v => (v, rest)

/-- A whole number in another base, after the letter that tells the base. -/
def based? (base : Nat) (t : Text) : Option (Node × Text) :=
  match digits? base t with
  | none => none
  | some (ds, rest) => (integer? false (ofDigits base ds)).map fun v => (v, rest)

/-- A number of any kind. -/
def number? : Text → Option (Node × Text)
  | '0' :: 'x' :: rest => based? 16 rest
  | '0' :: 'o' :: rest => based? 8 rest
  | '0' :: 'b' :: rest => based? 2 rest
  | t =>
    match sign t with
    | (_, 'i' :: 'n' :: 'f' :: rest) => some (.float, rest)
    | (_, 'n' :: 'a' :: 'n' :: rest) => some (.float, rest)
    | (negative, rest) => decimal? negative rest

/-! ## 3. Dates and times -/

/-- A number of exactly so many decimal digits that lies within bounds. -/
def fixedDigits? (width lo hi : Nat) (t : Text) : Option (Nat × Text) := do
  if t.length < width then none
  let n := ofDigits 10 (← (t.take width).mapM (digitValue? 10))
  if lo ≤ n && n ≤ hi then some (n, t.drop width) else none

/-- What follows a character, if the text begins with it. -/
def after? (c : Char) : Text → Option Text
  | [] => none
  | d :: rest => if d == c then some rest else none

/-- The number of days of a month. -/
def daysIn (year month : Nat) : Nat :=
  if month == 2 then
    if year % 4 == 0 && (year % 100 != 0 || year % 400 == 0) then 29 else 28
  else if month == 4 || month == 6 || month == 9 || month == 11 then 30
  else 31

/-- What follows a date. -/
def date? (t : Text) : Option Text := do
  let (year, t) ← fixedDigits? 4 0 9999 t
  let (month, t) ← fixedDigits? 2 1 12 (← after? '-' t)
  let (_, t) ← fixedDigits? 2 1 (daysIn year month) (← after? '-' t)
  some t

/-- The text without the fraction of a second it begins with. -/
def skipFraction : Text → Text
  | '.' :: c :: rest => if c.isDigit then rest.dropWhile Char.isDigit else '.' :: c :: rest
  | t => t

/-- What follows a time of the day; a sixtieth second is a leap second. -/
def time? (t : Text) : Option Text := do
  let (_, t) ← fixedDigits? 2 0 23 t
  let (_, t) ← fixedDigits? 2 0 59 (← after? ':' t)
  let (_, t) ← fixedDigits? 2 0 60 (← after? ':' t)
  some (skipFraction t)

/-- What follows the distance from universal time. -/
def offset? : Text → Option Text
  | [] => none
  | c :: rest =>
    if c == 'Z' || c == 'z' then some rest
    else if c == '+' || c == '-' then do
      let (_, t) ← fixedDigits? 2 0 23 rest
      let (_, t) ← fixedDigits? 2 0 59 (← after? ':' t)
      some t
    else none

/-- What follows a date, a time, or both with or without the distance from universal time. -/
def dateTime? (t : Text) : Option Text :=
  match date? t with
  | none => time? t
  | some [] => some []
  | some (c :: rest) =>
    if c == 'T' || c == 't' || c == ' ' then
      match time? rest with
      | none => some (c :: rest)
      | some rest => some ((offset? rest).getD rest)
    else some (c :: rest)

end NestedJoin.Toml
