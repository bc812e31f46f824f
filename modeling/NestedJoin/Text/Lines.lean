/-
# Lines of bytes

A line ends with a line feed or with the input; the line feed is no part of it, and neither is one
carriage return right before it.
-/
import NestedJoin.Text.Utf8

namespace NestedJoin.Text

/-- A byte in front of the first of some lines. -/
def pushByte (b : UInt8) : List (List UInt8 × Bool) → List (List UInt8 × Bool)
  | [] => [([b], false)]
  | (line, ended) :: rest => (b :: line, ended) :: rest

/-- The lines of an input, each with whether a line feed ended it. -/
def rawLines : List UInt8 → List (List UInt8 × Bool)
  | [] => []
  | b :: rest => if b = 0x0A then ([], true) :: rawLines rest else pushByte b (rawLines rest)

/-- A line without the carriage return that belongs to its end. -/
def withoutReturn (line : List UInt8) : List UInt8 :=
  if line.getLast? = some 0x0D then line.dropLast else line

/-- The lines of an input. -/
def byteLines (input : List UInt8) : List (List UInt8) :=
  (rawLines input).map fun (line, ended) => if ended then withoutReturn line else line

/-- The texts of some lines up to the first that is no text, and whether there is none such. -/
def readLines : List (List UInt8) → List Text × Bool
  | [] => ([], true)
  | line :: rest =>
    match ofBytes? line with
    | none => ([], false)
    | some t =>
      let (more, whole) := readLines rest
      (t :: more, whole)

end NestedJoin.Text
