/-
# A failure leaves its counters behind, and nothing else

When a statement fails, its cache has been asked and some of its groups may have been nested, but
none of that is kept: the converter counts a conversion and a failure, the cache counts that it was
asked in vain, and every other value in the workspace stays as it was (`Workspace.step_of_given`).

Two things follow for the rest of a run.  The cache still has no answer for the statement, and will
have none, since it is given one only by a conversion that succeeds (`Workspace.Lacks.after`); so the
statement fails again, of whomever it is asked.  And since figures are not looked at, every other
step answers as if the failing one had never been taken (`Workspace.answers_without`).
-/
import NestedJoin.Proofs.Workspace.Explained
import NestedJoin.Proofs.Workspace.Figures

namespace NestedJoin

/-! ## 1. Conversions that fail -/

namespace Cache

/-- The cache after it was asked in vain, if it is switched on. -/
def askedInVain (c : Cache) : Cache := { c with misses := c.misses + if c.enabled then 1 else 0 }

theorem eraseFigures_askedInVain (c : Cache) : c.askedInVain.eraseFigures = c.eraseFigures := rfl

/-- A lookup in vain is counted, and finds no entry. -/
theorem eq_askedInVain {c c' : Cache} {sql : Text} (h : c.lookup sql = (none, c')) :
    c' = c.askedInVain ∧ (c.enabled = false ∨ c.held? sql = none) := by
  rcases lookup_eq_none_iff.mp h with ⟨hoff, rfl⟩ | ⟨hon, hnone, rfl⟩
  · refine ⟨?_, .inl hoff⟩
    cases c'
    simp_all [askedInVain]
  · refine ⟨?_, .inr hnone⟩
    simp [askedInVain, countMiss, hon]

end Cache

/-- The steps on the way to a nested form fail where that fails. -/
theorem Statement.explain_of_nest_eq_error {nameLead sql : Text} {chain : MalformedChain}
    (h : nest nameLead sql = .error chain) : explain nameLead sql = .error chain := by
  have hresult := map_result_explain nameLead sql
  rw [h] at hresult
  cases he : explain nameLead sql with
  | error chain' =>
    rw [he] at hresult
    cases hresult
    rfl
  | ok e =>
    rw [he] at hresult
    cases hresult

namespace Converter

/-- The converter after a conversion that failed. -/
def failedOnce (v : Converter) : Converter :=
  { v with counters := { v.counters with
      conversions := v.counters.conversions + 1
      failures := v.counters.failures + 1 } }

theorem eraseFigures_failedOnce (v : Converter) : v.failedOnce.eraseFigures = v.eraseFigures := rfl

/-- **What a failure says and leaves**: the statement has no nested form, the cache had no answer
for it, and both are counted. -/
theorem convert_of_error {v : Converter} {cache : Cache} {sql : Text} {chain : MalformedChain}
    (h : (v.convert cache sql).value.answer = .error chain) :
    Statement.nest v.nameLead sql = .error chain ∧
      (cache.enabled = false ∨ cache.held? sql = none) ∧
      (v.convert cache sql).value = ⟨.error chain, v.failedOnce, cache.askedInVain⟩ := by
  rcases convert_cases v cache sql with
    ⟨-, hv⟩ | ⟨answer, -, -, hv⟩ | ⟨m, cache', -, hl, hv⟩ | ⟨out, cache', -, -, hv⟩
  · rw [hv] at h
    cases h
  · rw [hv] at h
    cases h
  · have hnest := answer_convert_of_lookup_eq_none hl v
    rw [h] at hnest
    rw [hv] at h ⊢
    obtain rfl : m = chain := Except.error.inj h
    obtain ⟨rfl, hlacks⟩ := Cache.eq_askedInVain hl
    exact ⟨hnest.symm, hlacks, rfl⟩
  · rw [hv] at h
    cases h

/-- Where a conversion fails, the statement is a SELECT. -/
theorem isSelect_of_error {v : Converter} {cache : Cache} {sql : Text} {chain : MalformedChain}
    (h : (v.convert cache sql).value.answer = .error chain) : Statement.isSelect sql = true := by
  cases hs : Statement.isSelect sql with
  | true => rfl
  | false =>
    rw [value_convert_of_no_clause (Statement.clause?_eq_none_iff.mpr (.inl hs))] at h
    cases h

/-- A conversion gives the cache no answer for a statement that has no nested form. -/
theorem lacks_convert {v : Converter} {cache : Cache} {sql : Text} {chain : MalformedChain}
    (hnest : Statement.nest v.nameLead sql = .error chain)
    (hlacks : cache.enabled = false ∨ cache.held? sql = none) (asked : Text) :
    (v.convert cache asked).value.cache.enabled = false ∨
      (v.convert cache asked).value.cache.held? sql = none := by
  cases hon : cache.enabled with
  | false => exact .inl ((enabled_convert cache v asked).trans hon)
  | true =>
    have hnone : cache.held? sql = none := hlacks.resolve_left (by simp [hon])
    have hkept : kept? v.nameLead sql = none := by
      rw [Option.eq_none_iff_forall_ne_some]
      intro answer hanswer
      have hok := (kept?_eq_some_iff.mp hanswer).2
      rw [uncached_eq_nest, hnest] at hok
      cases hok
    right
    rw [held?_convert hon, hnone, hkept, ite_self, Option.none_or]

end Converter

/-- A driver whose converter fails builds no command, and is otherwise left as the converter
leaves it. -/
theorem Driver.generate_of_error {d : Driver} {cache : Cache} {sql : Text} {chain : MalformedChain}
    (h : (d.converter.convert cache sql).value.answer = .error chain) (kind : CommandKind)
    (parameters : List ParameterType) :
    (d.generate cache kind sql parameters).value =
      ⟨.error chain, { d with converter := d.converter.failedOnce }, cache.askedInVain⟩ := by
  obtain ⟨-, -, hv⟩ := Converter.convert_of_error h
  rw [generate, if_pos (Converter.isSelect_of_error h)]
  simp only [Logged.value_bind, hv]
  rfl

/-! ## 2. Steps that fail -/

/-- The statement that a unit is asked to convert, or to build a command of. -/
def Action.asked? : Action → Option Text
  | .convert sql => some sql
  | .command sql _ _ => some sql
  | _ => none

theorem Action.asked?_eq_some_iff {action : Action} {sql : Text} :
    action.asked? = some sql ↔
      action = .convert sql ∨ ∃ kind parameters, action = .command sql kind parameters := by
  cases action <;> simp [asked?, eq_comm]

theorem Action.isRequest_of_asked? {action : Action} {sql : Text} (h : action.asked? = some sql) :
    action.isRequest = true := by
  rcases asked?_eq_some_iff.mp h with rfl | ⟨kind, parameters, rfl⟩ <;> rfl

/-- To give a unit the converter that it has changes nothing. -/
theorem Role.setConverter_of_converter? {role : Role} {v : Converter}
    (h : role.converter? = some v) : role.setConverter v = role := by
  cases role with
  | cache => cases h
  | converter u =>
    obtain rfl := Option.some.inj h
    rfl
  | driver d counting =>
    obtain rfl := Option.some.inj h
    rfl

theorem Role.asked?_of_given? {role : Role} {action : Action} {sql : Text}
    (h : role.given? action = some sql) : action.asked? = some sql := by
  cases role <;> cases action <;> simp_all [Role.given?, Action.asked?]

namespace Workspace

variable {w : Workspace} {s : Step} {sql : Text} {m : Member} {v : Converter}
  {chain : MalformedChain}

/-- The workspace after a unit has failed to convert a statement. -/
def afterFailure (w : Workspace) (name : Text) (m : Member) (v : Converter) : Workspace :=
  w.renew name m (m.role.setConverter v.failedOnce) (w.cacheAt m.cacheAt).askedInVain

/-- **A step whose converter fails**, fails in the same way and leaves its counters behind. -/
theorem step_of_given (hgiven : w.given? s = some sql) (hm : w.member? s.name = some m)
    (hv : m.role.converter? = some v)
    (herror : (v.convert (w.cacheAt m.cacheAt) sql).value.answer = .error chain) :
    (w.step s).value = (.failed (.malformedChain chain), w.afterFailure s.name m v) := by
  obtain ⟨name, action⟩ := s
  rw [given?, hm, Option.bind_some] at hgiven
  rcases Action.asked?_eq_some_iff.mp (Role.asked?_of_given? hgiven) with
    rfl | ⟨kind, parameters, rfl⟩
  · obtain ⟨-, -, hreply⟩ := Converter.convert_of_error herror
    rw [value_step_convert hm hv, hreply]
    rfl
  · obtain ⟨place, role⟩ := m
    cases role with
    | cache => cases hgiven
    | converter u => cases hgiven
    | driver d counting =>
      obtain rfl : d.converter = v := Option.some.inj hv
      simp only [Role.given?, Option.ite_none_right_eq_some] at hgiven
      obtain ⟨⟨-, hkind, hparameters⟩, -⟩ := hgiven
      obtain ⟨k, hk⟩ := Option.isSome_iff_exists.mp hkind
      obtain ⟨ps, hps⟩ := Option.isSome_iff_exists.mp hparameters
      rw [value_step_command hm, value_command hk hps, Driver.generate_of_error herror]
      rfl

/-- A command that fails is one of a driver, for a SELECT and with descriptors that can be read. -/
theorem given?_of_command_failed {name : Text} {kind parameters : Json} {e : Error}
    (hfail : (w.command name m sql kind parameters).value.1 = .failed e) :
    m.role.given? (.command sql kind parameters) = some sql := by
  obtain ⟨place, role⟩ := m
  cases role with
  | cache => cases hfail
  | converter u => cases hfail
  | driver d counting =>
    cases hk : CommandKind.ofJson? kind with
    | none =>
      simp only [command, hk] at hfail
      cases hfail
    | some k =>
      cases hps : ParameterType.listOfJson? parameters with
      | none =>
        simp only [command, hk, hps] at hfail
        cases hfail
      | some ps =>
        cases hs : Statement.isSelect sql with
        | true => simp [Role.given?, hk, hps, hs]
        | false =>
          rw [value_command hk hps, Driver.value_generate_of_not_select _ _ _ _ hs] at hfail
          cases hfail

/-- A step that fails to convert a statement has given it to the converter of a unit. -/
theorem given?_of_failed {e : Error} (hasked : s.action.asked? = some sql)
    (hfail : (w.step s).value.1 = .failed e) : w.given? s = some sql := by
  obtain ⟨name, action⟩ := s
  cases hm : w.member? name with
  | none =>
    rcases Action.asked?_eq_some_iff.mp hasked with rfl | ⟨kind, parameters, rfl⟩ <;>
    · rw [step] at hfail
      simp only [hm] at hfail
      cases hfail
  | some m =>
    rw [given?, hm, Option.bind_some]
    rcases Action.asked?_eq_some_iff.mp hasked with rfl | ⟨kind, parameters, rfl⟩
    · cases hv : m.role.converter? with
      | none =>
        rw [step] at hfail
        simp only [hm, act, value_convert_of_none hv] at hfail
        cases hfail
      | some v => rw [Role.given?_convert, hv, Option.map_some]
    · rw [value_step_command hm] at hfail
      exact given?_of_command_failed hfail

/-- **A step that fails to convert a statement**: its unit has a converter, and that has failed. -/
theorem step_of_failed {e : Error} (hasked : s.action.asked? = some sql)
    (hfail : (w.step s).value.1 = .failed e) :
    ∃ m v chain, e = .malformedChain chain ∧ w.member? s.name = some m ∧
      m.role.converter? = some v ∧
      (v.convert (w.cacheAt m.cacheAt) sql).value.answer = .error chain ∧
      (w.step s).value = (.failed (.malformedChain chain), w.afterFailure s.name m v) := by
  have hgiven := given?_of_failed hasked hfail
  rcases step_cases_of_request (Action.isRequest_of_asked? hasked) w with
    hspared | ⟨asked, m, v, hconverted⟩
  · rw [hspared.1] at hgiven
    cases hgiven
  · obtain rfl : sql = asked := Option.some.inj (hgiven.symm.trans hconverted.given)
    obtain ⟨chain, herror⟩ := hconverted.failed.mp (by rw [hfail]; rfl)
    have hstep := step_of_given hgiven hconverted.member hconverted.converter herror
    rw [hstep] at hfail
    exact ⟨m, v, chain, (StepResult.failed.inj hfail).symm, hconverted.member,
      hconverted.converter, herror, hstep⟩

/-! ## 3. The statement fails again -/

/-- No answer for the statement comes from the cache at the place. -/
def Lacks (w : Workspace) (place : Nat) (sql : Text) : Prop :=
  (w.cacheAt place).enabled = false ∨ w.held? place sql = none

/-- What stands at a place after a unit has been at work: the cache of the unit, if that is its
place, and else what stood there. -/
theorem cacheAt_renew (w : Workspace) (name : Text) (m : Member) (role : Role) (cache : Cache)
    (place : Nat) :
    (w.renew name m role cache).cacheAt place = w.cacheAt place ∨
      m.cacheAt = place ∧ (w.renew name m role cache).cacheAt place = cache := by
  rw [cacheAt, caches_renew, List.getElem?_set]
  split
  · next hp =>
    split
    · exact .inr ⟨hp, rfl⟩
    · next hlt => exact .inl (by rw [cacheAt, ← hp, List.getElem?_eq_none (Nat.le_of_not_lt hlt)])
  · exact .inl rfl

/-- **No request puts an answer there**, where the statement has no nested form. -/
theorem Lacks.step {place : Nat} {nameLead : Text} (hlacks : w.Lacks place sql)
    (hnest : Statement.nest nameLead sql = .error chain) (h : s.action.isRequest = true) :
    (w.step s).value.2.Lacks place sql := by
  rcases step_cases_of_request h w with hspared | ⟨asked, m, v, hconverted⟩
  · rw [Lacks, held?, cacheAt, hspared.2.caches]
    exact hlacks
  · obtain ⟨role, -, hleft⟩ := hconverted.left
    rw [hleft, Lacks, held?]
    rcases cacheAt_renew w s.name m role _ place with hsame | ⟨rfl, hcache⟩
    · rw [hsame]
      exact hlacks
    · rw [hcache]
      have hnest' := (Statement.nest_eq_error_congr nameLead v.nameLead).mp hnest
      exact Converter.lacks_convert hnest' hlacks asked

theorem Lacks.after {place : Nat} {nameLead : Text} (hlacks : w.Lacks place sql)
    (hnest : Statement.nest nameLead sql = .error chain) {steps : List Step}
    (h : ∀ s ∈ steps, s.action.isRequest = true) : (w.after steps).Lacks place sql := by
  induction steps generalizing w with
  | nil => exact hlacks
  | cons s rest ih =>
    rw [after_cons]
    exact ih (hlacks.step hnest (h s (.head rest))) fun t ht => h t (.tail s ht)

/-- **Where the cache has no answer, a statement without a nested form fails**, of whomever it is
asked, and so do the steps on the way to it. -/
theorem Lacks.failed {place : Nat} {nameLead : Text} (hlacks : w.Lacks place sql)
    (hnest : Statement.nest nameLead sql = .error chain) (hv : w.sharer? place s.name = some v)
    (hasked : w.given? s = some sql ∨ s.action = .explain sql) :
    (w.step s).value.1 = .failed (.malformedChain chain) := by
  obtain ⟨m, hm, rfl, hrole⟩ := sharer?_eq_some_iff.mp hv
  have hnest' := (Statement.nest_eq_error_congr nameLead v.nameLead).mp hnest
  rcases hasked with hgiven | hexplain
  · obtain ⟨cache', hl⟩ := Cache.exists_lookup_eq_none hlacks
    have herror := (Converter.answer_convert_of_lookup_eq_none hl v).trans hnest'
    rw [step_of_given hgiven hm hrole herror]
  · obtain ⟨name, action⟩ := s
    obtain rfl : action = .explain sql := hexplain
    rw [value_step_explain hm hrole, Statement.explain_of_nest_eq_error hnest']
    rfl

/-! ## 4. The step can be left out -/

/-- A failure is not to be seen but in the figures. -/
theorem eraseFigures_afterFailure {name : Text} (hm : w.member? name = some m)
    (hv : m.role.converter? = some v) : (w.afterFailure name m v).eraseFigures = w.eraseFigures := by
  have hcache : w.eraseFigures.setCache m.cacheAt (w.cacheAt m.cacheAt).eraseFigures =
      w.eraseFigures := by
    rw [← cacheAt_eraseFigures, setCache, set_cacheAt]
  have hrole : (m.role.setConverter v.failedOnce).eraseFigures = m.role.eraseFigures := by
    have hv' : m.role.eraseFigures.converter? = some v.eraseFigures := by
      rw [Role.converter?_eraseFigures, hv, Option.map_some]
    rw [Role.eraseFigures_setConverter, Converter.eraseFigures_failedOnce,
      Role.setConverter_of_converter? hv']
  -- The unit, too, is put back as it was.
  have hmember : w.eraseFigures.setMember name m.eraseFigures = w.eraseFigures := by
    have hget : w.eraseFigures.member? name = some m.eraseFigures := by
      rw [member?_eraseFigures, hm, Option.map_some]
    rw [setMember, Keyed.set_of_get? hget]
  rw [afterFailure, renew, eraseFigures_setMember, eraseFigures_setCache,
    Cache.eraseFigures_askedInVain, hcache, Member.eraseFigures, hrole]
  exact hmember

/-- **A step that leaves nothing but figures behind can be left out**: no other step answers
differently. -/
theorem answers_without {before rest : List Step}
    (h : ((w.after before).step s).value.2.eraseFigures = (w.after before).eraseFigures) :
    w.answers (before ++ rest) = (w.answers (before ++ s :: rest)).eraseIdx before.length := by
  have hlength := length_answers w before
  rw [answers_append, answers_append, answers_cons, answers_congr h, ← hlength,
    List.eraseIdx_append_of_length_le (Nat.le_refl _), Nat.sub_self, List.eraseIdx_cons_zero]

/-! ## 5. What a failure leaves -/

/-- **A failure leaves its counters behind, and nothing else.**  At some point of a run a unit with
a converter is asked to convert a statement, or to build a command of it, and fails.

* The failure is a malformed chain.  The converter has counted a conversion and a failure, its cache,
  if that is switched on, that it was asked in vain; the rest of the workspace is as it was.
* In any run of requests from there on, the statement fails again, with the same group and the same
  segment, of whomever it is asked that shares the cache.
* Any run answers every other step as it does without the one that failed. -/
theorem failure_leaves_counters {w₀ : Workspace} {before : List Step} {s : Step} {sql : Text}
    {m : Member} {v : Converter} {c : Cache} {e : Error} (hasked : s.action.asked? = some sql)
    (hm : (w₀.after before).member? s.name = some m) (hv : m.role.converter? = some v)
    (hc : (w₀.after before).caches[m.cacheAt]? = some c)
    (hfail : ((w₀.after before).step s).value.1 = .failed e) :
    (∃ chain, e = .malformedChain chain) ∧
    ((w₀.after before).step s).value.2 =
      { caches := (w₀.after before).caches.set m.cacheAt
          { c with misses := c.misses + if c.enabled then 1 else 0 }
        members := Keyed.set (w₀.after before).members s.name
          { m with role := m.role.setConverter { v with counters := { v.counters with
              conversions := v.counters.conversions + 1
              failures := v.counters.failures + 1 } } } } ∧
    (∀ more, (∀ t ∈ more, t.action.isRequest = true) → ∀ t u,
      let w := w₀.after (before ++ s :: more)
      w.sharer? m.cacheAt t.name = some u → w.given? t = some sql ∨ t.action = .explain sql →
        (w.step t).value.1 = .failed e) ∧
    ∀ rest, w₀.answers (before ++ rest) =
      (w₀.answers (before ++ s :: rest)).eraseIdx before.length := by
  obtain ⟨m', v', chain, rfl, hm', hv', herror, hstep⟩ := step_of_failed hasked hfail
  obtain rfl : m = m' := Option.some.inj (hm.symm.trans hm')
  obtain rfl : v = v' := Option.some.inj (hv.symm.trans hv')
  have hat : (w₀.after before).cacheAt m.cacheAt = c := by rw [cacheAt, hc, Option.getD_some]
  obtain ⟨hnest, hlacks, -⟩ := Converter.convert_of_error herror
  refine ⟨⟨chain, rfl⟩, ?_, fun more hmore t u => ?_, fun rest => ?_⟩
  · rw [hstep, afterFailure, hat]
    rfl
  · intro w hu ht
    -- The failing step is itself a request after which the cache has no answer still.
    have hrequests : ∀ t ∈ s :: more, t.action.isRequest = true := by
      intro t ht
      rcases List.mem_cons.mp ht with rfl | ht
      · exact Action.isRequest_of_asked? hasked
      · exact hmore t ht
    have hstill : w.Lacks m.cacheAt sql := by
      change (w₀.after (before ++ s :: more)).Lacks m.cacheAt sql
      rw [after_append]
      exact Lacks.after hlacks hnest hrequests
    exact hstill.failed hnest hu ht
  · refine answers_without ?_
    rw [hstep]
    exact eraseFigures_afterFailure hm hv

/-- A converter and a driver with leads of their own on one cache. -/
def converterAndDriver : Workspace where
  caches := [{}]
  members := [("one".toList, ⟨0, .converter { nameLead := "t".toList }⟩),
    ("two".toList, ⟨0, .driver {} true⟩)]

/-- The converter has put an answer into the cache when the driver fails in the second group of
another statement.  The converter fails on that statement too, and the answer it gave before is
given to the driver as it would have been. -/
theorem failure_leaves_counters_of_converter_and_driver :
    let nested : Step := ⟨"one".toList, .convert "select*from a join b,c".toList⟩
    let failing : Step := ⟨"two".toList,
      .command "select*from a join b,c join d join e".toList .null .null⟩
    let again : Step := ⟨"two".toList, .convert "select*from a join b,c".toList⟩
    (converterAndDriver.after [nested, failing]).caches =
      [{ entries := [("select*from a join b,c".toList,
          "select*from (select * from a join b) as t0,c".toList)], misses := 2 }] ∧
    ((converterAndDriver.after [nested, failing, again]).step
      ⟨"one".toList, .convert "select*from a join b,c join d join e".toList⟩).value.1 =
        .failed (.malformedChain ⟨"c join d join e".toList, " d".toList⟩) ∧
    converterAndDriver.answers [nested, again] =
      (converterAndDriver.answers [nested, failing, again]).eraseIdx 1 := by
  intro nested failing again
  have hasked : failing.action.asked? = some "select*from a join b,c join d join e".toList := rfl
  have hm : (converterAndDriver.after [nested]).member? failing.name =
      some ⟨0, .driver {} true⟩ := rfl
  have hc : (converterAndDriver.after [nested]).caches[0]? =
      some { entries := [("select*from a join b,c".toList,
        "select*from (select * from a join b) as t0,c".toList)], misses := 1 } := rfl
  have hfail : ((converterAndDriver.after [nested]).step failing).value.1 =
      .failed (.malformedChain ⟨"c join d join e".toList, " d".toList⟩) := rfl
  obtain ⟨-, hleft, hagain, hwithout⟩ := failure_leaves_counters hasked hm rfl hc hfail
  have hone : (converterAndDriver.after [nested, failing, again]).sharer? 0 "one".toList =
      some { nameLead := "t".toList, counters := { conversions := 1 } } := by
    decide +kernel
  have hgiven : (converterAndDriver.after [nested, failing, again]).given?
      ⟨"one".toList, .convert "select*from a join b,c join d join e".toList⟩ =
        some "select*from a join b,c join d join e".toList := by
    decide +kernel
  have hrun : [nested, failing, again] = [nested] ++ failing :: [again] := rfl
  rw [hrun] at hone hgiven
  refine ⟨?_, ?_, hwithout [again]⟩
  · exact congrArg Workspace.caches hleft
  · rw [hrun]
    exact hagain [again] (by simp [again, Action.isRequest]) _ _ hone (.inl hgiven)

end Workspace

end NestedJoin
