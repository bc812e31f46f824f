/-
# JSON values

A value of the JSON data format, read by the parameter descriptors of a command and written by the
command line, on one line or indented by two blanks a level.  The members of an object keep their
order.
-/
import NestedJoin.Keyed

namespace NestedJoin

/-- A JSON value; a number is `mantissa · 10 ^ (-places)`. -/
inductive Json where
  | null
  | bool (b : Bool)
  | number (mantissa : Int) (places : Nat)
  | text (t : Text)
  | array (items : List Json)
  | object (members : List (Text × Json))
  deriving Repr, Inhabited

namespace Json

/-! ## 1. Building and taking apart -/

/-- A natural number. -/
def nat (n : Nat) : Json := .number n 0

/-- A number written without places and without a sign, below a bound. -/
def natBelow? (bound : Nat) : Json → Option Nat
  | .number (.ofNat n) 0 => if n < bound then some n else none
  | _ => none

/-! ## 2. Strings -/

/-- The lower-case hexadecimal digits of a number, filled up with zeros to a width. -/
def hex (width n : Nat) : Text :=
  let digits := Nat.toDigits 16 n
  List.replicate (width - digits.length) '0' ++ digits

/-- A character as it stands between the quotes of a string. -/
def escape (c : Char) : Text :=
  match c with
  | '"' => "\\\"".toList
  | '\\' => "\\\\".toList
  | '\x08' => "\\b".toList
  | '\x0c' => "\\f".toList
  | '\n' => "\\n".toList
  | '\r' => "\\r".toList
  | '\t' => "\\t".toList
  | c => if c.toNat < 0x20 then "\\u".toList ++ hex 4 c.toNat else [c]

/-- A text in quotes. -/
def quote (t : Text) : Text := '"' :: (t.flatMap escape ++ ['"'])

/-! ## 3. Writing -/

/-- A number in decimal. -/
def decimal (mantissa : Int) (places : Nat) : Text :=
  let digits := Nat.toDigits 10 mantissa.natAbs
  let digits := List.replicate (places + 1 - digits.length) '0' ++ digits
  let sign : Text := if mantissa < 0 then ['-'] else []
  let (whole, fraction) := digits.splitAt (digits.length - places)
  sign ++ whole ++ (if fraction.isEmpty then [] else '.' :: fraction)

mutual

/-- A value on one line, without blanks. -/
def compact : Json → Text
  | .null => "null".toList
  | .bool b => (toString b).toList
  | .number mantissa places => decimal mantissa places
  | .text t => quote t
  | .array [] => "[]".toList
  | .array (item :: rest) => '[' :: (compact item ++ (compactItems rest ++ [']']))
  | .object [] => ['\x7b', '\x7d']
  | .object ((key, v) :: rest) =>
    '\x7b' :: (quote key ++ (':' :: (compact v ++ (compactMembers rest ++ ['\x7d']))))

/-- The items after the first, each with the comma in front of it. -/
def compactItems : List Json → Text
  | [] => []
  | item :: rest => ',' :: (compact item ++ compactItems rest)

/-- The members after the first, each with the comma in front of it. -/
def compactMembers : List (Text × Json) → Text
  | [] => []
  | (key, v) :: rest => ',' :: (quote key ++ (':' :: (compact v ++ compactMembers rest)))

end

/-- A new line at a depth. -/
def newLine (depth : Nat) : Text := '\n' :: List.replicate (2 * depth) ' '

mutual

/-- A value with each item and each member on a line of its own, from a depth on. -/
def indented (depth : Nat) : Json → Text
  | .null => "null".toList
  | .bool b => (toString b).toList
  | .number mantissa places => decimal mantissa places
  | .text t => quote t
  | .array [] => "[]".toList
  | .array (item :: rest) =>
    '[' :: (newLine (depth + 1) ++ (indented (depth + 1) item ++
      (indentedItems (depth + 1) rest ++ (newLine depth ++ [']']))))
  | .object [] => ['\x7b', '\x7d']
  | .object ((key, v) :: rest) =>
    '\x7b' :: (newLine (depth + 1) ++ (quote key ++ (": ".toList ++ (indented (depth + 1) v ++
      (indentedMembers (depth + 1) rest ++ (newLine depth ++ ['\x7d']))))))

/-- The items after the first, each on its line. -/
def indentedItems (depth : Nat) : List Json → Text
  | [] => []
  | item :: rest =>
    ',' :: (newLine depth ++ (indented depth item ++ indentedItems depth rest))

/-- The members after the first, each on its line. -/
def indentedMembers (depth : Nat) : List (Text × Json) → Text
  | [] => []
  | (key, v) :: rest =>
    ',' :: (newLine depth ++ (quote key ++ (": ".toList ++ (indented depth v ++
      indentedMembers depth rest))))

end

end Json

end NestedJoin
