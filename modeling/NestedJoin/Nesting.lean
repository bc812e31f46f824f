/-
# The nested form of a statement

Only the body of the FROM clause of a SELECT changes; every other part of a statement, and every
other statement, is passed through as it is.  `nest` gives the new text, `explain` the steps on
the way to it.

The main statement: the text that `explain` ends with is the text of `nest`
(`map_result_explain`).
-/
import NestedJoin.Statement
import NestedJoin.Clause
import NestedJoin.Group

namespace NestedJoin.Statement

/-! ## 1. The nested form -/

/-- The clause that takes a nested form: that of a SELECT which has one. -/
def clause? (sql : Text) : Option Clause := if isSelect sql then Clause.cut? sql else none

/-- The nested form of a statement, where the names of derived tables begin with `nameLead`. -/
def nest (nameLead sql : Text) : Except MalformedChain Text :=
  match clause? sql with
  | none => .ok sql
  | some c => (Group.nestBody nameLead c.body).map fun outcomes =>
      c.withBody (Group.joinResults outcomes)

/-! ## 2. The steps -/

/-- The steps on the way to the nested form: the kind of the statement, its clause if that takes a
nested form, what became of each group, and the result. -/
structure Explanation where
  kind : Kind
  span : Option Span
  groups : List GroupOutcome
  result : Text
  deriving DecidableEq, Repr

/-- The steps for a statement that is passed through. -/
def Explanation.passed (sql : Text) : Explanation := ⟨Statement.kind sql, none, [], sql⟩

/-- The steps for a statement whose clause and outcomes are known. -/
def Explanation.nested (sql : Text) (c : Clause) (outcomes : List GroupOutcome) : Explanation :=
  ⟨Statement.kind sql, some c.span, outcomes, c.withBody (Group.joinResults outcomes)⟩

/-- The steps on the way to the nested form of a statement. -/
def explain (nameLead sql : Text) : Except MalformedChain Explanation :=
  match clause? sql with
  | none => .ok (.passed sql)
  | some c => (Group.nestBody nameLead c.body).map (.nested sql c)

/-- **The steps lead to the nested form**, and fail where it does. -/
theorem map_result_explain (nameLead sql : Text) :
    (explain nameLead sql).map (·.result) = nest nameLead sql := by
  unfold explain nest
  split
  · rfl
  · cases Group.nestBody nameLead _ <;> rfl

/-! ## 3. Example -/

example : nest "t".toList "select * from a inner join b on p, c where d".toList =
    .ok "select * from (select * from a inner join b on p) as t0, c where d".toList := rfl

end NestedJoin.Statement
