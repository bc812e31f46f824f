/-
# Results that come with a log

A computation that tells its log is a value beside the list of its events, in the order in which
they happened.  Running one after another appends the second list to the first.
-/
import NestedJoin.Log.Event

namespace NestedJoin

/-- A value and the events that happened on the way to it. -/
structure Logged (α : Type) where
  value : α
  log : List Log.Event
  deriving Repr

namespace Logged

variable {α β : Type}

/-- One event and no value. -/
def tell (e : Log.Event) : Logged Unit := ⟨(), [e]⟩

instance : Monad Logged where
  map f x := ⟨f x.value, x.log⟩
  pure a := ⟨a, []⟩
  bind x f :=
    let y := f x.value
    ⟨y.value, x.log ++ y.log⟩

@[simp] theorem value_pure (a : α) : (pure a : Logged α).value = a := rfl

@[simp] theorem log_pure (a : α) : (pure a : Logged α).log = [] := rfl

@[simp] theorem value_bind (x : Logged α) (f : α → Logged β) :
    (x >>= f).value = (f x.value).value := rfl

@[simp] theorem log_bind (x : Logged α) (f : α → Logged β) :
    (x >>= f).log = x.log ++ (f x.value).log := rfl

@[simp] theorem value_map (f : α → β) (x : Logged α) : (f <$> x).value = f x.value := rfl

@[simp] theorem log_map (f : α → β) (x : Logged α) : (f <$> x).log = x.log := rfl

@[simp] theorem log_tell (e : Log.Event) : (tell e).log = [e] := rfl

end Logged

end NestedJoin
