/-
# Statements and their kinds

The kind of a statement is read off its first word: leading blanks are skipped, letter case does
not count, and what follows the word is not looked at, so that `selection` is a SELECT too.

The main statement: the SELECT test and the kind agree (`isSelect_iff`).
-/
import NestedJoin.Text.Search

namespace NestedJoin.Statement

/-- What a statement does, as far as its first word tells. -/
inductive Kind where
  | select
  | insert
  | update
  | delete
  | other
  deriving DecidableEq, Repr

namespace Kind

/-- The kinds that have a word of their own, in the order in which they are tried. -/
def worded : List Kind := [.select, .insert, .update, .delete]

/-- The name of a kind, which is also the word that a statement of that kind begins with. -/
def name : Kind → Text
  | .select => "select".toList
  | .insert => "insert".toList
  | .update => "update".toList
  | .delete => "delete".toList
  | .other => "other".toList

/-- The name of a kind in capitals, as it is shown. -/
def display (k : Kind) : Text := k.name.map Char.toUpper

end Kind

/-- The kind of a statement: the first whose word it begins with. -/
def kind (sql : Text) : Kind :=
  (Kind.worded.find? fun k => Text.beginsWith k.name (Text.trimStart sql)).getD .other

/-- The statement begins with the word SELECT. -/
def isSelect (sql : Text) : Bool := Text.beginsWith Kind.select.name (Text.trimStart sql)

/-- **The SELECT test is the kind**: SELECT is the first word tried. -/
theorem isSelect_iff (sql : Text) : isSelect sql = true ↔ kind sql = .select := by
  constructor
  · intro h
    simp only [kind, Kind.worded]
    rw [List.find?_cons_of_pos (by simpa [isSelect] using h)]
    rfl
  · intro h
    simp only [kind, Kind.worded, List.find?_cons] at h
    split at h
    · rename_i hs
      exact hs
    · exfalso
      revert h
      repeat' split
      all_goals simp

end NestedJoin.Statement
