/-
# Nesting with a log

The nested forms of chains, bodies and statements again, each with the events that it leaves in
the log.  A chain with a marker leaves one event, of success or of failure; the groups after the
first malformed one are not looked at and leave none.

The main statements: the log changes no value (`value_nestLogged`, `value_nestAllLogged`,
`value_explainLogged`).
-/
import NestedJoin.Log.Logged
import NestedJoin.Nesting

namespace NestedJoin

/-! ## 1. Chains and groups -/

/-- The nested form of a chain, with its event. -/
def Chain.nestLogged (chain : Text) : Logged (Except MalformedChain Text) :=
  match Chain.nest chain with
  | .error m => ⟨.error m, [.chainMalformed m]⟩
  | .ok nested =>
    ⟨.ok nested, if hasJoin chain then [.chainNested chain nested (depth chain)] else []⟩

theorem Chain.value_nestLogged (chain : Text) : (nestLogged chain).value = nest chain := by
  unfold nestLogged
  split <;> simp_all

namespace Group

/-- The outcomes for a list of groups, with their events up to the first malformed one. -/
def nestAllLogged (nameLead : Text) (several : Bool) :
    Nat → List Text → Logged (Except MalformedChain (List GroupOutcome))
  | _, [] => pure (.ok [])
  | index, group :: rest => do
    match ← Chain.nestLogged group with
    | .error m => pure (.error m)
    | .ok nested =>
      (Except.map (outcome nameLead several index group nested :: ·)) <$>
        nestAllLogged nameLead several (index + 1) rest

theorem value_nestAllLogged (nameLead : Text) (several : Bool) :
    ∀ (index : Nat) (groups : List Text),
      (nestAllLogged nameLead several index groups).value = nestAll nameLead several index groups
  | _, [] => rfl
  | index, group :: rest => by
    have ih := value_nestAllLogged nameLead several (index + 1) rest
    simp only [nestAllLogged, nestAll, Logged.value_bind, Chain.value_nestLogged]
    cases Chain.nest group with
    | error m => rfl
    | ok nested => simp only [Logged.value_map, ih]

/-- The outcomes for the groups of a clause body, with their events. -/
def nestBodyLogged (nameLead body : Text) : Logged (Except MalformedChain (List GroupOutcome)) :=
  nestAllLogged nameLead (1 < (split body).length) 0 (split body)

theorem value_nestBodyLogged (nameLead body : Text) :
    (nestBodyLogged nameLead body).value = nestBody nameLead body :=
  value_nestAllLogged _ _ _ _

end Group

/-! ## 2. Statements -/

/-- The steps on the way to the nested form of a statement, with the events of its groups. -/
def Statement.explainLogged (nameLead sql : Text) :
    Logged (Except MalformedChain Explanation) :=
  match clause? sql with
  | none => pure (.ok (.passed sql))
  | some c => (Except.map (Explanation.nested sql c)) <$> Group.nestBodyLogged nameLead c.body

theorem Statement.value_explainLogged (nameLead sql : Text) :
    (explainLogged nameLead sql).value = explain nameLead sql := by
  simp only [explainLogged, explain]
  cases clause? sql with
  | none => rfl
  | some c => simp only [Logged.value_map, Group.value_nestBodyLogged]

end NestedJoin
