/-
# The groups of a clause

The commas of a clause body cut it into groups.  Each group takes its nested form, and in a clause
of several groups one that holds a join becomes a derived table with a name of its own:

    a inner join b on p, c
    (select * from a inner join b on p) as jetJoinAlias0, c

A comma cuts wherever it stands, in parentheses too.

The main statement: the groups put together with commas are the body (`join_split`).
-/
import NestedJoin.Chain

namespace NestedJoin

/-! ## 1. Groups and derived tables -/

namespace Group

/-- The pieces of a clause body between its commas. -/
def split (body : Text) : List Text := body.splitOn ','

/-- The groups put together with commas. -/
def join (groups : List Text) : Text := [','].intercalate groups

/-- **The groups lose nothing.** -/
theorem join_split (body : Text) : join (split body) = body := List.intercalate_splitOn ','

/-- The name of the derived table of the group at a position: the given lead and the position in
decimal. -/
def derivedName (nameLead : Text) (index : Nat) : Text := nameLead ++ Nat.toDigits 10 index

/-- The lead of the names of derived tables, where none is given. -/
def defaultNameLead : Text := "jetJoinAlias".toList

/-- A group as a derived table; the blanks around the group stay outside. -/
def derive (group name : Text) : Text :=
  Text.lead group ++ "(select * from ".toList ++ Text.trim group ++ ") as ".toList ++ name ++
    Text.trail group

end Group

/-! ## 2. The outcome for each group -/

/-- What became of one group: its position, its text before and after, and whether it is a derived
table now. -/
structure GroupOutcome where
  index : Nat
  given : Text
  result : Text
  derived : Bool
  deriving DecidableEq, Repr

namespace Group

/-- The outcome for a group whose nested form is known. -/
def outcome (nameLead : Text) (several : Bool) (index : Nat) (group nested : Text) :
    GroupOutcome :=
  if several && Chain.hasJoin nested then
    ⟨index, group, derive nested (derivedName nameLead index), true⟩
  else ⟨index, group, nested, false⟩

/-- The outcomes for a list of groups that begins at a position; the first malformed group stops
it. -/
def nestAll (nameLead : Text) (several : Bool) :
    Nat → List Text → Except MalformedChain (List GroupOutcome)
  | _, [] => .ok []
  | index, group :: rest =>
    match Chain.nest group with
    | .error m => .error m
    | .ok nested =>
      (nestAll nameLead several (index + 1) rest).map
        (outcome nameLead several index group nested :: ·)

/-- The outcomes for the groups of a clause body. -/
def nestBody (nameLead body : Text) : Except MalformedChain (List GroupOutcome) :=
  nestAll nameLead (1 < (split body).length) 0 (split body)

/-- The texts of a list of outcomes, put together with commas. -/
def joinResults (outcomes : List GroupOutcome) : Text := join (outcomes.map (·.result))

end Group

end NestedJoin
