/-
# The steps on the way agree with the answer

A converter is asked for the nested form of a statement, or for the steps on the way to it.  For the
one it goes through its cache and counts what it does, for the other it begins anew each time and
leaves everything as it is.  Where the cache has no say the two agree, in a failure as well
(`Workspace.steps_agree_with_answer`).

What the steps say of their statement does not depend on the lead of the names and is gathered in
`Statement.Explanation.Describes`: there are offsets exactly for a SELECT with a clause, and between
them the groups are the old body and the results the new one.
-/
import NestedJoin.Proofs.Clause.Pieces
import NestedJoin.Proofs.Workspace.FirstWriter

namespace NestedJoin

/-! ## 1. What the steps say -/

namespace Statement

/-- The steps tell the kind of a statement, where its clause is if that takes a nested form, and how
the result is put together. -/
structure Explanation.Describes (e : Explanation) (sql : Text) : Prop where
  kind : e.kind = Statement.kind sql
  /-- There are offsets exactly for a SELECT that has a clause, and they are those of the clause. -/
  span : ∀ span, e.span = some span ↔
    Statement.kind sql = .select ∧ ∃ c, Clause.cut? sql = some c ∧ span = c.span
  /-- The groups are what stands between the offsets; in the result the new groups stand there. -/
  nested : ∀ span, e.span = some span → ∃ head tail,
    span.head sql = .ok head ∧
    span.body sql = .ok (Group.join (e.groups.map (·.given))) ∧
    span.tail sql = .ok tail ∧
    e.result = head ++ (Group.join (e.groups.map (·.result)) ++ tail)
  passed : e.span = none → e.groups = [] ∧ e.result = sql

theorem clause?_eq_some_iff_kind {sql : Text} {c : Clause} :
    clause? sql = some c ↔ kind sql = .select ∧ Clause.cut? sql = some c := by
  rw [clause?_eq_some_iff, isSelect_iff]

theorem describes_passed {sql : Text} (h : clause? sql = none) :
    (Explanation.passed sql).Describes sql := by
  refine ⟨rfl, fun span => ?_, fun span hs => ?_, fun _ => ⟨rfl, rfl⟩⟩
  · constructor
    · intro hs
      cases hs
    · rintro ⟨hkind, c, hcut, -⟩
      rw [clause?_eq_some_iff_kind.mpr ⟨hkind, hcut⟩] at h
      cases h
  · cases hs

theorem describes_nested {nameLead sql : Text} {c : Clause} {outcomes : List GroupOutcome}
    (hc : clause? sql = some c) (h : Group.nestBody nameLead c.body = .ok outcomes) :
    (Explanation.nested sql c outcomes).Describes sql := by
  obtain ⟨hkind, hcut⟩ := clause?_eq_some_iff_kind.mp hc
  obtain ⟨hhead, hbody, htail⟩ := Clause.slices_of_cut? hcut
  refine ⟨rfl, fun span => ?_, fun span hs => ?_, fun hs => by cases hs⟩
  · constructor
    · intro hs
      exact ⟨hkind, c, hcut, (Option.some.inj hs).symm⟩
    · rintro ⟨-, c', hcut', rfl⟩
      obtain rfl := Option.some.inj (hcut.symm.trans hcut')
      rfl
  · obtain rfl := Option.some.inj hs
    refine ⟨c.head, c.tail, hhead, ?_, htail, rfl⟩
    rw [hbody]
    exact congrArg Except.ok (Group.join_given_of_nestBody h).symm

/-- **Steps describe their statement**, whatever the lead of the names. -/
theorem describes_of_explain {nameLead sql : Text} {e : Explanation}
    (h : explain nameLead sql = .ok e) : e.Describes sql := by
  rw [explain] at h
  cases hc : clause? sql with
  | none =>
    rw [hc] at h
    obtain rfl := Except.ok.inj h
    exact describes_passed hc
  | some c =>
    rw [hc] at h
    cases hb : Group.nestBody nameLead c.body with
    | error m => exact absurd h (by simp [hb, Except.map])
    | ok outcomes =>
      simp only [hb, Except.map, Except.ok.injEq] at h
      subst h
      exact describes_nested hc hb

end Statement

/-! ## 2. Steps and answers -/

/-- What a step answers where a converter gave these steps. -/
def StepResult.ofSteps : Except MalformedChain Statement.Explanation → StepResult
  | .error chain => .failed (.malformedChain chain)
  | .ok e => .explanation e

theorem value_convertOnce (sql : Text) :
    (convertOnce sql).value = Statement.nest Group.defaultNameLead sql :=
  Converter.uncached_eq_nest _ _

namespace Workspace

/-- A unit's converter asked for the steps. -/
theorem value_step_explain {w : Workspace} {name : Text} {m : Member} {v : Converter}
    (hm : w.member? name = some m) (hv : m.role.converter? = some v) (sql : Text) :
    (w.step ⟨name, .explain sql⟩).value =
      (.ofSteps (Statement.explain v.nameLead sql), w) := by
  rw [step]
  simp only [hm, act, explain, hv, Logged.value_bind, Converter.explain,
    Statement.value_explainLogged]
  cases Statement.explain v.nameLead sql <;> rfl

/-- **Steps and answer agree.**  A converter that is asked for the steps leaves the whole workspace
as it is.  Where its cache is switched off, or holds nothing for the statement, its answer is the
result of the steps, and a failure is the same failure; under the default lead this is also the
answer that is given once and without a cache.  The steps describe the statement. -/
theorem steps_agree_with_answer {w : Workspace} {name : Text} {m : Member} {v : Converter}
    (hm : w.member? name = some m) (hv : m.role.converter? = some v) (sql : Text) :
    ∃ steps : Except MalformedChain Statement.Explanation,
      (w.step ⟨name, .explain sql⟩).value = (.ofSteps steps, w) ∧
      ((w.cacheAt m.cacheAt).enabled = false ∨ w.held? m.cacheAt sql = none →
        (w.step ⟨name, .convert sql⟩).value.1 = .ofAnswer (steps.map (·.result))) ∧
      (v.nameLead = "jetJoinAlias".toList →
        (convertOnce sql).value = steps.map (·.result)) ∧
      ∀ e, steps = .ok e → e.Describes sql := by
  have hresult := Statement.map_result_explain v.nameLead sql
  refine ⟨Statement.explain v.nameLead sql, value_step_explain hm hv sql, ?_, ?_, ?_⟩
  · intro hcache
    have hshare : w.sharer? m.cacheAt name = some v := sharer?_eq_some_iff.mpr ⟨m, hm, rfl, hv⟩
    rw [answer_of_no_entry hshare hcache, Converter.uncached_eq_nest, hresult]
  · intro hlead
    rw [hresult, hlead]
    exact value_convertOnce sql
  · intro e he
    exact Statement.describes_of_explain he

/-- A converter with an empty cache and the default lead: its steps, its answer and the answer
without a cache all end with the same text. -/
theorem steps_agree_with_answer_of_default :
    let w : Workspace :=
      { caches := [{}], members := [("one".toList, ⟨0, .converter {}⟩)] }
    (w.step ⟨"one".toList, .explain "SELECT*from a join b,c where d".toList⟩).value.1 =
      .explanation ⟨.select, some ⟨7, 23⟩,
        [⟨0, " a join b".toList, " (select * from a join b) as jetJoinAlias0".toList, true⟩,
          ⟨1, "c ".toList, "c ".toList, false⟩],
        "SELECT*from (select * from a join b) as jetJoinAlias0,c where d".toList⟩ ∧
    (w.step ⟨"one".toList, .convert "SELECT*from a join b,c where d".toList⟩).value.1 =
      .text "SELECT*from (select * from a join b) as jetJoinAlias0,c where d".toList ∧
    (convertOnce "SELECT*from a join b,c where d".toList).value =
      .ok "SELECT*from (select * from a join b) as jetJoinAlias0,c where d".toList := by
  intro w
  have hm : w.member? "one".toList = some ⟨0, .converter {}⟩ := rfl
  obtain ⟨steps, hsteps, hanswer, honce, -⟩ :=
    steps_agree_with_answer hm rfl "SELECT*from a join b,c where d".toList
  have hgiven : (w.step ⟨"one".toList, .explain "SELECT*from a join b,c where d".toList⟩).value.1 =
      .explanation ⟨.select, some ⟨7, 23⟩,
        [⟨0, " a join b".toList, " (select * from a join b) as jetJoinAlias0".toList, true⟩,
          ⟨1, "c ".toList, "c ".toList, false⟩],
        "SELECT*from (select * from a join b) as jetJoinAlias0,c where d".toList⟩ := rfl
  refine ⟨hgiven, ?_⟩
  rw [hsteps] at hgiven
  cases steps with
  | error chain => cases hgiven
  | ok e =>
    cases hgiven
    exact ⟨hanswer (Or.inr rfl), honce rfl⟩

end Workspace

end NestedJoin
