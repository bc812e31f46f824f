/-
# Log lines

An event on a line of its own: level, target, message, and the fields with their names.
-/
import NestedJoin.Log.Event
import NestedJoin.Text.Quoted

namespace NestedJoin.Log

/-- The value of a field, as it is written. -/
def FieldValue.render : FieldValue → Text
  | .quoted t => Text.quoted t
  | .plain t => t
  | .count n => Nat.toDigits 10 n

/-- An event as a line, without the end of the line. -/
def Event.render (e : Event) : Text :=
  e.level.name ++ " ".toList ++ e.target ++ ": ".toList ++ e.message ++
    e.fields.flatMap fun (name, v) => " ".toList ++ name ++ "=".toList ++ v.render

end NestedJoin.Log
