/-
# Commands and their parameters

A command is what the execution layer receives: how its text is to be taken, the text in its
nested form, and the types of its parameters, which pass through untouched and in order.  The
engine knows parameters by name, with a leading `@`.

The descriptors are read from JSON: a word of a fixed list is written as a string or as an object
with that one member and no value, a parameter type as an object or as the list of its four
parts.
-/
import NestedJoin.Json

namespace NestedJoin

/-! ## 1. Words of a fixed list -/

/-- The value that goes with the word a JSON value spells. -/
def spelled? {α : Type} (words : Keyed α) : Json → Option α
  | .text word => Keyed.get? words word
  | .object [(word, .null)] => Keyed.get? words word
  | _ => none

/-! ## 2. Parameter types -/

/-- The database type of a parameter. -/
inductive DataType where
  | ansiString
  | string
  | boolean
  | byte
  | int16
  | int32
  | int64
  | single
  | double
  | decimal
  | currency
  | dateTime
  | guid
  | binary
  deriving DecidableEq, Repr

namespace DataType

/-- The name of a database type. -/
def name : DataType → Text
  | .ansiString => "AnsiString".toList
  | .string => "String".toList
  | .boolean => "Boolean".toList
  | .byte => "Byte".toList
  | .int16 => "Int16".toList
  | .int32 => "Int32".toList
  | .int64 => "Int64".toList
  | .single => "Single".toList
  | .double => "Double".toList
  | .decimal => "Decimal".toList
  | .currency => "Currency".toList
  | .dateTime => "DateTime".toList
  | .guid => "Guid".toList
  | .binary => "Binary".toList

/-- Every database type. -/
def all : List DataType :=
  [.ansiString, .string, .boolean, .byte, .int16, .int32, .int64, .single, .double, .decimal,
    .currency, .dateTime, .guid, .binary]

/-- The database type a JSON value spells. -/
def ofJson? (j : Json) : Option DataType := spelled? (all.map fun d => (d.name, d)) j

end DataType

/-- The type of a parameter: its database type, and its length, precision and scale where they are
given. -/
structure ParameterType where
  base : DataType
  length : Option UInt32 := none
  precision : Option UInt8 := none
  scale : Option UInt8 := none
  deriving DecidableEq, Repr

namespace ParameterType

/-- A type with a length. -/
def ofLength (base : DataType) (length : UInt32) : ParameterType := ⟨base, some length, none, none⟩

/-- A decimal number with a precision and a scale. -/
def ofDecimal (precision scale : UInt8) : ParameterType :=
  ⟨.decimal, none, some precision, some scale⟩

/-- A length: a whole number of 32 bits. -/
def length? (j : Json) : Option UInt32 := (j.natBelow? UInt32.size).map UInt32.ofNat

/-- A precision or a scale: a whole number of 8 bits. -/
def small? (j : Json) : Option UInt8 := (j.natBelow? UInt8.size).map UInt8.ofNat

/-- A part that may be left out or null. -/
def part? {α : Type} (read : Json → Option α) : Option Json → Option (Option α)
  | none => some none
  | some .null => some none
  | some j => (read j).map some

/-- The four parts put together, if each can be read. -/
def ofParts? (base : Json) (length precision scale : Option Json) : Option ParameterType := do
  some ⟨← DataType.ofJson? base, ← part? length? length, ← part? small? precision,
    ← part? small? scale⟩

/-- The parameter type a JSON value describes: an object, in which other members do not count, or
the list of the four parts. -/
def ofJson? : Json → Option ParameterType
  | .object members => do
    ofParts? (← Keyed.get? members "db_type".toList) (Keyed.get? members "length".toList)
      (Keyed.get? members "precision".toList) (Keyed.get? members "scale".toList)
  | .array [base, length, precision, scale] =>
    ofParts? base (some length) (some precision) (some scale)
  | _ => none

/-- The parameter types a JSON value lists; no value lists none. -/
def listOfJson? : Json → Option (List ParameterType)
  | .null => some []
  | .array items => items.mapM ofJson?
  | _ => none

end ParameterType

/-! ## 3. Commands -/

/-- How the text of a command is to be taken. -/
inductive CommandKind where
  | text
  | storedProcedure
  | tableDirect
  deriving DecidableEq, Repr

namespace CommandKind

/-- The name of a command kind. -/
def name : CommandKind → Text
  | .text => "Text".toList
  | .storedProcedure => "StoredProcedure".toList
  | .tableDirect => "TableDirect".toList

/-- Every command kind. -/
def all : List CommandKind := [.text, .storedProcedure, .tableDirect]

/-- The command kind a JSON value spells; no value is the kind of plain text. -/
def ofJson? : Json → Option CommandKind
  | .null => some .text
  | j => spelled? (all.map fun k => (k.name, k)) j

end CommandKind

/-- A statement ready for execution. -/
structure Command where
  kind : CommandKind
  sql : Text
  parameters : List ParameterType
  deriving DecidableEq, Repr

namespace Parameter

/-- What the name of a parameter begins with in a statement. -/
def mark : Text := "@".toList

/-- Parameters are told apart by name, not by position. -/
def isNamed : Bool := true

/-- The name of a parameter as it stands in a statement. -/
def marked (name : Text) : Text := mark ++ name

end Parameter

end NestedJoin
