/-
# From groups to statements

A statement is cut into a clause and the rest, its body into groups, and what the groups become is
put together again.  Whatever holds between each group and its result, and is kept by putting texts
together, holds between the statement and its nested form (`Statement.rel_of_nest`).  Nothing else
about the cuts is needed: the pieces of each of them make up the whole.
-/
import NestedJoin.Nesting
import NestedJoin.Proofs.Group.Outcomes

namespace NestedJoin

/-! ## 1. The endings of the nesting of a statement -/

namespace Statement

theorem clause?_eq_some_iff {sql : Text} {c : Clause} :
    clause? sql = some c ↔ isSelect sql = true ∧ Clause.cut? sql = some c := by
  simp [clause?]

theorem clause?_eq_none_iff {sql : Text} :
    clause? sql = none ↔ isSelect sql = false ∨ Clause.cut? sql = none := by
  cases h : isSelect sql <;> simp [clause?, h]

theorem append_of_clause? {sql : Text} {c : Clause} (h : clause? sql = some c) :
    c.withBody c.body = sql := Clause.append_of_cut? (clause?_eq_some_iff.mp h).2

theorem nest_of_clause?_eq_none {nameLead sql : Text} (h : clause? sql = none) :
    nest nameLead sql = .ok sql := by
  rw [nest, h]

theorem eq_of_nest_of_clause?_eq_none {nameLead sql out : Text} (hc : clause? sql = none)
    (h : nest nameLead sql = .ok out) : out = sql := by
  rw [nest_of_clause?_eq_none hc] at h
  exact (Except.ok.inj h).symm

/-- A statement whose clause takes a nested form succeeds where the walk over its groups does. -/
theorem nest_eq_ok_iff {nameLead sql out : Text} {c : Clause} (h : clause? sql = some c) :
    nest nameLead sql = .ok out ↔
      ∃ outcomes, Group.nestBody nameLead c.body = .ok outcomes ∧
        out = c.withBody (Group.joinResults outcomes) := by
  rw [nest, h]
  cases hb : Group.nestBody nameLead c.body with
  | error m => simp [Except.map, hb]
  | ok outcomes => simp [Except.map, hb, eq_comm]

theorem nest_eq_error_iff {nameLead sql : Text} {m : MalformedChain} :
    nest nameLead sql = .error m ↔
      ∃ c, clause? sql = some c ∧ Group.nestBody nameLead c.body = .error m := by
  rw [nest]
  cases h : clause? sql with
  | none => simp
  | some c => cases hb : Group.nestBody nameLead c.body <;> simp [Except.map, hb]

/-- **A statement fails under one lead of the names exactly as under any other.** -/
theorem nest_eq_error_congr (nameLead other : Text) {sql : Text} {m : MalformedChain} :
    nest nameLead sql = .error m ↔ nest other sql = .error m := by
  rw [nest_eq_error_iff, nest_eq_error_iff]
  exact exists_congr fun c => and_congr_right fun _ =>
    Group.nestAll_eq_error_congr nameLead other _ _ _ 0 0

/-- Success does not depend on the lead of the names either. -/
theorem exists_nest_eq_ok_congr (nameLead other sql : Text) :
    (∃ out, nest nameLead sql = .ok out) ↔ ∃ out, nest other sql = .ok out := by
  cases h : nest nameLead sql with
  | error m => simp [(nest_eq_error_congr nameLead other).mp h]
  | ok out =>
    cases h' : nest other sql with
    | error m => simp [(nest_eq_error_congr other nameLead).mp h'] at h
    | ok out' => simp

end Statement

/-! ## 2. Relations that putting together keeps -/

/-- A relation between texts that holds of equal texts, and of two texts put together if it holds
of their parts. -/
structure Additive (R : Text → Text → Prop) : Prop where
  refl : ∀ t, R t t
  append : ∀ {s s' t t' : Text}, R s s' → R t t' → R (s ++ t) (s' ++ t')

/-- Between two texts put together with commas and their results. -/
theorem Additive.join_results {R : Text → Text → Prop} (hR : Additive R) {nameLead : Text}
    {several : Bool}
    (hgroup : ∀ index group nested, Chain.nest group = .ok nested →
      R group (Group.outcome nameLead several index group nested).result) :
    ∀ {groups : List Text} {index : Nat} {outcomes : List GroupOutcome},
      Group.nestAll nameLead several index groups = .ok outcomes →
      R (Group.join groups) (Group.joinResults outcomes)
  | [], _, outcomes, h => by
    rw [Group.nestAll] at h
    obtain rfl := Except.ok.inj h
    exact hR.refl _
  | [group], index, outcomes, h => by
    obtain ⟨nested, more, hn, hr, rfl⟩ := Group.nestAll_cons_eq_ok_iff.mp h
    rw [Group.nestAll] at hr
    obtain rfl := Except.ok.inj hr
    simpa [Group.join, Group.joinResults] using hgroup index group nested hn
  | group :: next :: rest, index, outcomes, h => by
    obtain ⟨nested, more, hn, hr, rfl⟩ := Group.nestAll_cons_eq_ok_iff.mp h
    have ih := hR.join_results hgroup hr
    obtain ⟨nested', more', -, -, rfl⟩ := Group.nestAll_cons_eq_ok_iff.mp hr
    simp only [Group.join, Group.joinResults, List.map_cons, List.intercalate_cons_cons] at ih ⊢
    exact hR.append (hR.append (hgroup index group nested hn) (hR.refl _)) ih

/-- **What holds between each group and its result holds between a statement and its nested
form.** -/
theorem Statement.rel_of_nest {R : Text → Text → Prop} (hR : Additive R) {nameLead sql out : Text}
    (hgroup : ∀ several index group nested, Chain.nest group = .ok nested →
      R group (Group.outcome nameLead several index group nested).result)
    (h : nest nameLead sql = .ok out) : R sql out := by
  cases hc : clause? sql with
  | none =>
    rw [eq_of_nest_of_clause?_eq_none hc h]
    exact hR.refl sql
  | some c =>
    obtain ⟨outcomes, hb, rfl⟩ := (nest_eq_ok_iff hc).mp h
    have hbody := hR.join_results (hgroup _) hb
    rw [Group.join_split] at hbody
    have hall := hR.append (hR.refl c.head) (hR.append hbody (hR.refl c.tail))
    rwa [show c.head ++ (c.body ++ c.tail) = sql from append_of_clause? hc] at hall

end NestedJoin
