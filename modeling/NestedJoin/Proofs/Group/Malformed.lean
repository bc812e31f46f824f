/-
# Which clauses are malformed, and which group is to blame

A clause fails at the first of its groups that is malformed, with the chain and the segment that are
to blame there (`Group.nestAll_eq_error_iff`); the groups behind it are not looked at.  It has a
nested form if all its groups have one (`Group.exists_nestAll_eq_ok_iff`).  What is rejected, of a
chain and of a clause, and what is blamed for it, is put together in
`Group.fails_at_first_fault`.
-/
import NestedJoin.Proofs.Chain.Malformed
import NestedJoin.Proofs.Statement.Additive

namespace NestedJoin

/-! ## 1. Bodies -/

namespace Group

/-- The nested form of a clause body. -/
def nestedBody (nameLead body : Text) : Except MalformedChain Text :=
  (nestBody nameLead body).map joinResults

end Group

/-- The nested form of a statement, by that of its clause body. -/
theorem Statement.nest_of_clause?_eq_some {nameLead sql : Text} {c : Clause}
    (h : clause? sql = some c) :
    nest nameLead sql = (Group.nestedBody nameLead c.body).map c.withBody := by
  rw [nest, h, Group.nestedBody]
  cases hb : Group.nestBody nameLead c.body <;> simp [Except.map, hb]

/-! ## 2. The first malformed group -/

/-- What fails is what does not succeed. -/
theorem exists_eq_error_iff {ε α : Type} {x : Except ε α} :
    (∃ e, x = .error e) ↔ ¬ ∃ a, x = .ok a := by
  cases x <;> simp

namespace Group

variable {nameLead : Text} {several : Bool}

/-- **A walk fails at the first malformed group**, and as that group does. -/
theorem nestAll_eq_error_iff {m : MalformedChain} : ∀ {groups : List Text} {index : Nat},
    nestAll nameLead several index groups = .error m ↔
      ∃ before group after, groups = before ++ group :: after ∧
        (∀ g ∈ before, ∃ nested, Chain.nest g = .ok nested) ∧ Chain.nest group = .error m
  | [], _ => by simp [nestAll]
  | first :: rest, index => by
    rw [nestAll_cons_eq_error_iff, nestAll_eq_error_iff]
    constructor
    · rintro (hfirst | ⟨hfirst, before, group, after, rfl, hbefore, hgroup⟩)
      · exact ⟨[], first, rest, rfl, by simp, hfirst⟩
      · exact ⟨first :: before, group, after, rfl,
          List.forall_mem_cons.mpr ⟨hfirst, hbefore⟩, hgroup⟩
    · rintro ⟨before, group, after, hgroups, hbefore, hgroup⟩
      cases before with
      | nil =>
        obtain ⟨rfl, -⟩ := List.cons.inj hgroups
        exact Or.inl hgroup
      | cons g before =>
        obtain ⟨rfl, hrest⟩ := List.cons.inj hgroups
        obtain ⟨hfirst, hbefore⟩ := List.forall_mem_cons.mp hbefore
        exact Or.inr ⟨hfirst, before, group, after, hrest, hbefore, hgroup⟩

/-- **A walk succeeds** exactly if every group has a nested form. -/
theorem exists_nestAll_eq_ok_iff : ∀ {groups : List Text} {index : Nat},
    (∃ outcomes, nestAll nameLead several index groups = .ok outcomes) ↔
      ∀ g ∈ groups, ∃ nested, Chain.nest g = .ok nested
  | [], _ => by simp [nestAll]
  | first :: rest, index => by
    have ih : (∃ outcomes, nestAll nameLead several (index + 1) rest = .ok outcomes) ↔
        ∀ g ∈ rest, ∃ nested, Chain.nest g = .ok nested :=
      exists_nestAll_eq_ok_iff
    rw [List.forall_mem_cons, ← ih]
    constructor
    · rintro ⟨outcomes, h⟩
      obtain ⟨nested, more, hn, hr, -⟩ := nestAll_cons_eq_ok_iff.mp h
      exact ⟨⟨nested, hn⟩, more, hr⟩
    · rintro ⟨⟨nested, hn⟩, more, hr⟩
      exact ⟨_, nestAll_cons_eq_ok_iff.mpr ⟨nested, more, hn, hr, rfl⟩⟩

/-- So a walk fails exactly if some group is malformed. -/
theorem exists_nestAll_eq_error_iff {groups : List Text} {index : Nat} :
    (∃ m, nestAll nameLead several index groups = .error m) ↔
      ∃ g ∈ groups, ∃ m, Chain.nest g = .error m := by
  simp only [exists_eq_error_iff, exists_nestAll_eq_ok_iff, not_forall, exists_prop]

/-- The nested form of a body fails as the outcomes for its groups do. -/
theorem nestedBody_eq_error_iff {body : Text} {m : MalformedChain} :
    nestedBody nameLead body = .error m ↔ nestBody nameLead body = .error m := by
  rw [nestedBody]
  cases nestBody nameLead body <;> simp [Except.map]

/-! ## 3. What is rejected -/

/-- **What is rejected, and what is blamed for it.**

* A chain is malformed exactly if a segment between two of its markers ends in no qualifier, or the
  one behind the last marker ends in one.  It is reported whole, with the first such segment from
  the left.
* The segment in front of the first marker has no part in this, and a text without a join is its own
  nested form.
* A clause body fails as the first of its groups that is malformed, and it fails exactly if some
  group is.  This holds of the outcomes for its groups and of its nested form, whatever the lead of
  the names. -/
theorem fails_at_first_fault :
    (∀ chain, (∃ m, Chain.nest chain = .error m) ↔
      (∃ s ∈ Chain.middleSegments chain, ¬ EndsInQualifier s) ∨
        ∃ s ∈ Chain.lastSegment? chain, EndsInQualifier s) ∧
    (∀ chain m, Chain.nest chain = .error m ↔
      m.group = chain ∧ Chain.Blamed (Chain.segments chain).tail m.segment) ∧
    (∀ chain other s, (Chain.segments chain).tail = (Chain.segments other).tail →
      (Chain.nest chain = .error ⟨chain, s⟩ ↔ Chain.nest other = .error ⟨other, s⟩)) ∧
    (∀ chain, Chain.joins chain = 0 → Chain.nest chain = .ok chain) ∧
    (∀ nameLead body m, nestBody nameLead body = .error m ↔
      ∃ before group after, split body = before ++ group :: after ∧
        (∀ g ∈ before, ∃ nested, Chain.nest g = .ok nested) ∧ Chain.nest group = .error m) ∧
    (∀ nameLead body, (∃ m, nestBody nameLead body = .error m) ↔
      ∃ g ∈ split body, ∃ m, Chain.nest g = .error m) ∧
    (∀ nameLead other body m, nestedBody nameLead body = .error m ↔
      nestBody other body = .error m) := by
  refine ⟨fun _ => Chain.exists_nest_eq_error_iff, fun _ _ => Chain.nest_eq_error_iff,
    fun _ _ s h => Chain.nest_eq_error_congr h s, fun _ => Chain.nest_of_joins_eq_zero,
    fun _ _ _ => nestAll_eq_error_iff, fun _ _ => exists_nestAll_eq_error_iff, ?_⟩
  intro nameLead other body m
  rw [nestedBody_eq_error_iff]
  exact nestAll_eq_error_congr nameLead other _ _ _ 0 0

/-- The second of three groups has both faults, and the third one has one too: the missing qualifier
of the second is reported, and it would be whatever stood in front of the first join there. -/
theorem fails_at_first_fault_of_second_group :
    (Chain.segments "d join e inner join f join g on p inner".toList).tail =
      (Chain.segments "x inner join e inner join f join g on p inner".toList).tail ∧
    Chain.nest "x inner join e inner join f join g on p inner".toList =
      .error ⟨"x inner join e inner join f join g on p inner".toList, " f".toList⟩ ∧
    Chain.joins "x inner".toList = 0 ∧ Chain.nest "x inner".toList = .ok "x inner".toList ∧
    nestedBody "t".toList
        "a join b inner join c,d join e inner join f join g on p inner,h join i join j".toList =
      .error ⟨"d join e inner join f join g on p inner".toList, " f".toList⟩ := by
  obtain ⟨-, hblame, hhead, hnone, hclause, -, hlead⟩ := fails_at_first_fault
  have htail : (Chain.segments "d join e inner join f join g on p inner".toList).tail =
      (Chain.segments "x inner join e inner join f join g on p inner".toList).tail := by
    decide +kernel
  have hgroup : Chain.nest "d join e inner join f join g on p inner".toList =
      .error ⟨"d join e inner join f join g on p inner".toList, " f".toList⟩ :=
    (hblame _ _).mpr ⟨rfl, [" e inner".toList], [" g on p inner".toList], by decide +kernel,
      by decide +kernel, by decide +kernel⟩
  have hzero : Chain.joins "x inner".toList = 0 := by decide +kernel
  refine ⟨htail, (hhead _ _ _ htail).mp hgroup, hzero, hnone _ hzero, ?_⟩
  refine (hlead _ [] _ _).mpr ((hclause _ _ _).mpr ⟨["a join b inner join c".toList], _,
    ["h join i join j".toList], by decide +kernel, ?_, hgroup⟩)
  exact List.forall_mem_singleton.mpr ⟨"(a join b) inner join c".toList, rfl⟩

end Group

end NestedJoin
