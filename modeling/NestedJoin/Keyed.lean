/-
# Values by name

A list of values, each under a text as its name, in the order in which the names first came up.
Caches, the tables of a document, JSON objects and the units of a workspace are such lists.

The main statements: what was set is found (`get?_set_self`), and nothing else changes
(`get?_set_of_ne`).
-/
import NestedJoin.Text.Blank

namespace NestedJoin

/-- Values by name. -/
abbrev Keyed (α : Type) := List (Text × α)

namespace Keyed

variable {α : Type}

/-- The value of a name. -/
def get? : Keyed α → Text → Option α
  | [], _ => none
  | (name, v) :: rest, key => if name = key then some v else get? rest key

/-- The list with a value under a name, in place of the one it had, or else at the end. -/
def set : Keyed α → Text → α → Keyed α
  | [], key, v => [(key, v)]
  | (name, old) :: rest, key, v =>
    if name = key then (name, v) :: rest else (name, old) :: set rest key v

@[simp] theorem get?_nil (key : Text) : get? ([] : Keyed α) key = none := rfl

theorem get?_set_self : ∀ (l : Keyed α) (key : Text) (v : α), get? (set l key v) key = some v
  | [], key, v => by simp [set, get?]
  | (name, old) :: rest, key, v => by
    by_cases h : name = key
    · simp [set, get?, h]
    · simp [set, get?, h, get?_set_self rest]

theorem get?_set_of_ne {key other : Text} (h : key ≠ other) :
    ∀ (l : Keyed α) (v : α), get? (set l key v) other = get? l other
  | [], v => by simp [set, get?, h]
  | (name, old) :: rest, v => by
    by_cases hn : name = key
    · simp [set, get?, hn, h]
    · simp [set, get?, hn, get?_set_of_ne h rest]

/-- A new name makes the list longer by one, a known one leaves its length. -/
theorem length_set : ∀ (l : Keyed α) (key : Text) (v : α),
    (set l key v).length = if (get? l key).isSome then l.length else l.length + 1
  | [], key, v => rfl
  | (name, old) :: rest, key, v => by
    by_cases h : name = key
    · simp [set, get?, h]
    · simp only [set, get?, if_neg h, List.length_cons, length_set rest key v]
      split <;> rfl

end Keyed

end NestedJoin
