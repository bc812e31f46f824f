/-
# The FROM clause of a statement

The clause begins at the first FROM of the statement and runs up to the first WHERE after it, or
to the end.  Both words are found as letters in a row, in either case and within longer words:
`fromage` holds a FROM.  A clause is held in two forms: `Clause`, the four pieces a statement is
cut into, and `Span`, the byte offsets of the clause, from which the same pieces are cut by
counting bytes.

The main statement: the four pieces are the statement (`append_of_cut?`).
-/
import NestedJoin.Text.Search

namespace NestedJoin

/-! ## 1. The clause as byte offsets -/

/-- The word a clause begins with. -/
def fromWord : Text := "from".toList

/-- The word that ends a clause. -/
def whereWord : Text := "where".toList

/-- The byte offsets of a clause: of its FROM, and of the end of its body. -/
structure Span where
  first : Nat
  stop : Nat
  deriving DecidableEq, Repr

namespace Span

/-- The offset of the first byte after FROM. -/
def bodyStart (s : Span) : Nat := s.first + Text.byteLength fromWord

/-- The statement up to and with FROM. -/
def head (s : Span) (sql : Text) : Except Fault Text := Text.slice sql 0 s.bodyStart

/-- The statement between FROM and the end of the clause. -/
def body (s : Span) (sql : Text) : Except Fault Text := Text.slice sql s.bodyStart s.stop

/-- The statement from the end of the clause on. -/
def tail (s : Span) (sql : Text) : Except Fault Text :=
  Text.slice sql s.stop (Text.byteLength sql)

end Span

/-! ## 2. The clause as pieces of its statement -/

/-- A statement cut at its clause: what stands before FROM, FROM as written, the body, and what
begins with WHERE. -/
structure Clause where
  before : Text
  word : Text
  body : Text
  tail : Text
  deriving DecidableEq, Repr

namespace Clause

/-- The statement cut at its first FROM and the first WHERE after that; nothing if it has no
FROM. -/
def cut? (sql : Text) : Option Clause :=
  match Text.breakAt fromWord sql with
  | none => none
  | some (before, rest) =>
    let word := rest.take fromWord.length
    let after := rest.drop fromWord.length
    match Text.breakAt whereWord after with
    | none => some ⟨before, word, after, []⟩
    | some (body, tail) => some ⟨before, word, body, tail⟩

/-- What a change of the body leaves alone in front of it. -/
def head (c : Clause) : Text := c.before ++ c.word

/-- The statement with another body. -/
def withBody (c : Clause) (body : Text) : Text := c.head ++ (body ++ c.tail)

/-- The byte offsets of the clause in its statement. -/
def span (c : Clause) : Span :=
  ⟨Text.byteLength c.before, Text.byteLength (c.head ++ c.body)⟩

/-- **The pieces are the statement.** -/
theorem append_of_cut? {sql : Text} {c : Clause} (h : cut? sql = some c) :
    c.withBody c.body = sql := by
  simp only [cut?] at h
  split at h
  · simp at h
  · rename_i before rest hb
    have hsql := (Text.append_of_breakAt hb).1
    have hrest : rest.take fromWord.length ++ rest.drop fromWord.length = rest :=
      List.take_append_drop _ _
    split at h
    · obtain rfl := Option.some.inj h
      simp only [withBody, head, List.append_nil, List.append_assoc, hrest, hsql]
    · rename_i body tail hw
      have hafter := (Text.append_of_breakAt hw).1
      obtain rfl := Option.some.inj h
      simp only [withBody, head, List.append_assoc, hafter, hrest, hsql]

end Clause

end NestedJoin
