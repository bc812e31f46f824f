/-
# Join chains

A chain is a group of tables linked by joins.  The marker ` join` cuts it into segments; between
two markers a segment must end in a join qualifier, which belongs to the join that follows.  The
nested form of a chain puts each join but the last into parentheses, from the left:

    a inner join b on p left outer join c on q
    (a inner join b on p) left outer join c on q

The main statement: the segments put together with the marker are the chain
(`intercalate_segments`), and there is at least one (`segments_ne_nil`).
-/
import NestedJoin.Text.Blank

namespace NestedJoin

/-! ## 1. The marker and the segments -/

/-- The word of every join, with the blank in front of it. -/
def joinMarker : Text := " join".toList

namespace Chain

/-- The pieces of a chain between its markers, found from the left without overlap. -/
def segments : Text → List Text
  | [] => [[]]
  | ' ' :: 'j' :: 'o' :: 'i' :: 'n' :: rest => [] :: segments rest
  | c :: rest =>
    match segments rest with
    | [] => [[c]]
    | s :: more => (c :: s) :: more

/-- The number of markers in a chain. -/
def joins (chain : Text) : Nat := (segments chain).length - 1

/-- The chain holds a marker. -/
def hasJoin (chain : Text) : Bool := 0 < joins chain

theorem segments_ne_nil (chain : Text) : segments chain ≠ [] := by
  fun_cases segments chain <;> simp

theorem intercalate_cons_cons (sep c : Text) (s : Text) (more : List Text) :
    sep.intercalate ((c ++ s) :: more) = c ++ sep.intercalate (s :: more) := by
  cases more <;> simp [List.intercalate, List.intersperse]

/-- **The segments lose nothing**: put together with the marker they are the chain. -/
theorem intercalate_segments (chain : Text) : joinMarker.intercalate (segments chain) = chain := by
  fun_induction segments chain with
  | case1 => rfl
  | case2 rest ih =>
    have hne := segments_ne_nil rest
    cases hs : segments rest with
    | nil => exact absurd hs hne
    | cons s more =>
      rw [hs] at ih
      simp only [List.intercalate, List.intersperse, List.flatten_cons, List.nil_append] at ih ⊢
      rw [ih]
      rfl
  | case3 c rest _ hs ih => exact absurd hs (segments_ne_nil rest)
  | case4 c rest _ s more hs ih =>
    rw [hs] at ih
    have := intercalate_cons_cons joinMarker [c] s more
    simp only [List.cons_append, List.nil_append] at this
    rw [this, ih]

end Chain

/-! ## 2. Qualifiers -/

/-- The kinds of join the nested form knows. -/
inductive Qualifier where
  | inner
  | leftOuter
  | rightOuter
  deriving DecidableEq, Repr

namespace Qualifier

/-- Every qualifier, in the order in which they are tried. -/
def all : List Qualifier := [.inner, .leftOuter, .rightOuter]

/-- The text a segment ends in when its next join has the qualifier. -/
def suffix : Qualifier → Text
  | .inner => " inner".toList
  | .leftOuter => " left outer".toList
  | .rightOuter => " right outer".toList

/-- The qualifier a segment ends in. -/
def trailing? (segment : Text) : Option Qualifier :=
  all.find? fun q => q.suffix.isSuffixOf segment

end Qualifier

/-! ## 3. The nested form -/

/-- A chain that has no nested form, with the segment that is to blame: one between two markers
that does not end in a qualifier, or a last one that does. -/
structure MalformedChain where
  group : Text
  segment : Text
  deriving DecidableEq, Repr

namespace Chain

/-- A segment with a parenthesis closed in front of its qualifier. -/
def closeBefore (q : Qualifier) (segment : Text) : Text :=
  segment.take (segment.length - q.suffix.length) ++ ')' :: q.suffix

/-- The segments after the first, each but the last closed in front of its qualifier; or the first
segment that is to blame. -/
def closeSegments : List Text → Except Text (List Text)
  | [] => .ok []
  | [last] => if (Qualifier.trailing? last).isSome then .error last else .ok [last]
  | segment :: rest =>
    match Qualifier.trailing? segment with
    | none => .error segment
    | some q =>
      match closeSegments rest with
      | .error blamed => .error blamed
      | .ok closed => .ok (closeBefore q segment :: closed)

/-- A text with parentheses opened after the blanks it begins with. -/
def openAfterLead (depth : Nat) (t : Text) : Text :=
  Text.lead t ++ (List.replicate depth '(' ++ Text.trimStart t)

/-- How many parentheses the nested form opens: one for each join but the last. -/
def depth (chain : Text) : Nat := joins chain - 1

/-- The nested form of a chain.  The first segment is taken as it is, whatever it ends in, and a
text without a marker is its own nested form. -/
def nest (chain : Text) : Except MalformedChain Text :=
  match segments chain with
  | first :: second :: rest =>
    match closeSegments (second :: rest) with
    | .error blamed => .error ⟨chain, blamed⟩
    | .ok closed => .ok (openAfterLead (depth chain) (joinMarker.intercalate (first :: closed)))
  | _ => .ok chain

end Chain

/-- How a malformed chain is reported; the blanks around both texts are left out. -/
def MalformedChain.message (m : MalformedChain) : Text :=
  "Invalid join syntax in '".toList ++ Text.trim m.group ++
    "': could not parenthesize the join block at '".toList ++ Text.trim m.segment ++ "'".toList

/-! ## 4. Examples -/

example : Chain.nest " a inner join b on p left outer join c on q".toList =
    .ok " (a inner join b on p) left outer join c on q".toList := rfl

/-- The segment between the two joins has no qualifier at its end. -/
example : Chain.nest " a join b on p join c on q".toList =
    .error ⟨" a join b on p join c on q".toList, " b on p".toList⟩ := rfl

/-- A single join needs neither a qualifier nor a parenthesis. -/
example : Chain.nest " a join b on p".toList = .ok " a join b on p".toList := rfl

end NestedJoin
