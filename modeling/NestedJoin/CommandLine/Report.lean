/-
# What the command line prints

The texts for a converted statement, for the steps of a conversion, for errors and for the figures
at the end.  Every text here ends its last line.
-/
import NestedJoin.CommandLine.Arguments
import NestedJoin.Converter
import NestedJoin.HitRate
import NestedJoin.Json
import NestedJoin.Text.Style

namespace NestedJoin.CommandLine

open Text

/-- A number in decimal. -/
def decimal (n : Nat) : Text := Nat.toDigits 10 n

/-- A text on a line of its own. -/
def line (t : Text) : Text := t ++ ['\n']

/-! ## 1. One statement -/

/-- A statement and its nested form as a JSON object. -/
def resultJson (sql result : Text) : Json :=
  .object [("original".toList, .text sql), ("translated".toList, .text result)]

/-- The nested form of a statement. -/
def renderResult (format : Format) (sql result : Text) : Text :=
  match format with
  | .text => line result
  | .json => line (resultJson sql result).compact

/-! ## 2. The steps -/

/-- The byte offsets of a clause as a JSON value. -/
def spanJson : Option Span → Json
  | none => .null
  | some s => .object [("begin".toList, .nat s.first), ("end".toList, .nat s.stop)]

/-- What became of a group as a JSON object. -/
def outcomeJson (o : GroupOutcome) : Json :=
  .object [("index".toList, .nat o.index), ("original".toList, .text o.given),
    ("rewritten".toList, .text o.result), ("wrapped".toList, .bool o.derived)]

/-- The steps on the way to a nested form as a JSON object. -/
def explanationJson (e : Statement.Explanation) : Json :=
  .object [("kind".toList, .text e.kind.name), ("span".toList, spanJson e.span),
    ("groups".toList, .array (e.groups.map outcomeJson)), ("translated".toList, .text e.result)]

/-- What became of a group, in one line or two. -/
def renderOutcome (color : Bool) (o : GroupOutcome) : Text :=
  let mark :=
    if o.derived then styled color .magenta "wrapped".toList
    else styled color .dimmed "kept".toList
  line ("  [".toList ++ decimal o.index ++ "] ".toList ++ mark ++ " ".toList ++
      styled color .white (trim o.given)) ++
    if o.result == o.given then []
    else line ("      → ".toList ++ styled color .yellow (trim o.result))

/-- The clause and its groups, if the statement has a clause that takes a nested form. -/
def renderClause (color : Bool) (span : Option Span) (groups : List GroupOutcome) : Text :=
  match span with
  | none => line (styled color .dimmed "Nothing to translate.".toList)
  | some s =>
    line (styled color .dimmed "FROM clause:".toList ++ " [".toList ++ decimal s.first ++
        ", ".toList ++ decimal s.stop ++ ")  ".toList ++
        styled color .white (Group.join (groups.map (·.given)))) ++
      line [] ++ line (styled color .boldGreen "Groups:".toList) ++
      groups.flatMap (renderOutcome color)

/-- The steps on the way to a nested form as a text. -/
def renderExplanationText (color : Bool) (sql : Text) (e : Statement.Explanation) : Text :=
  line (styled color .boldCyan "Statement Explanation".toList) ++ line [] ++
    line (styled color .dimmed "Input:".toList ++ " ".toList ++ styled color .yellow sql) ++
    line (styled color .dimmed "Kind:".toList ++ " ".toList ++
      styled color .cyan e.kind.display) ++
    renderClause color e.span e.groups ++ line [] ++
    line (styled color .boldGreen "Translated SQL:".toList) ++
    line ("  ".toList ++ styled color .white e.result)

/-- The steps on the way to a nested form. -/
def renderExplanation (color : Bool) (format : Format) (sql : Text) (e : Statement.Explanation) :
    Text :=
  match format with
  | .text => renderExplanationText color sql e
  | .json => line ((explanationJson e).indented 0)

/-! ## 3. Errors and figures -/

/-- An error in words. -/
def renderError (color : Bool) (message : Text) : Text :=
  line (styled color .boldRed "Error:".toList ++ " ".toList ++ message)

/-- The figures of a converter and its cache. -/
def renderFigures (color : Bool) (v : Converter) (cache : Cache) : Text :=
  let number (style : Style) (n : Nat) := styled color style (decimal n)
  line [] ++
    line (styled color .dimmed "Stats:".toList ++ " ".toList ++
      number .cyan v.counters.conversions ++ " translated, ".toList ++
      number .cyan v.counters.passed ++ " passed through, ".toList ++
      number .red v.counters.failures ++ " failed".toList) ++
    line (styled color .dimmed "Cache:".toList ++ " ".toList ++ number .cyan cache.size ++
      " entries, ".toList ++ fixedPlaces 1 cache.stats.hitRate ++ "% hit rate".toList)

end NestedJoin.CommandLine
