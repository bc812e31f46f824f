/-
# What a conversion tells its log

A statement that is handed back leaves one notice in the log, and so does one whose answer comes
from the cache.  Otherwise the log follows the groups of the clause: each group that holds a join
and takes its nested form leaves one notice, up to the first that is malformed.  That one leaves a
notice too, the statement leaves another, and the groups behind it are not looked at
(`Converter.log_of_conversion`).

The walk over the groups is the same for the steps on the way to the nested form, so these leave the
notices of the groups and no other.
-/
import NestedJoin.Error
import NestedJoin.Proofs.Converter.Uncached
import NestedJoin.Proofs.Group.Malformed

namespace NestedJoin

/-! ## 1. Notices -/

namespace Log

/-- What a log shows of an event. -/
structure Notice where
  level : Level
  target : Text
  message : Text
  fields : List (Text × FieldValue)
  deriving DecidableEq, Repr

def Event.notice (e : Event) : Notice := ⟨e.level, e.target, e.message, e.fields⟩

/-- Where the notices of single groups come from. -/
def joinTarget : Text := "jetjoin::join".toList

/-- Where the notices of whole statements come from. -/
def statementTarget : Text := "jetjoin::translator".toList

namespace Notice

/-- A group has taken its nested form, which opens a parenthesis for each of its joins but one. -/
def nested (group result : Text) : Notice :=
  ⟨.trace, joinTarget, "parenthesized join chain".toList,
    [("group".toList, .quoted group), ("rewritten".toList, .plain result),
      ("nesting".toList, .count (Chain.markerCount group - 1))]⟩

/-- A group is malformed. -/
def malformed (m : MalformedChain) : Notice :=
  ⟨.error, joinTarget, "Invalid join syntax. Could not parenthesize the join block properly.".toList,
    [("group".toList, .quoted m.group), ("segment".toList, .quoted m.segment)]⟩

/-- A statement has failed. -/
def failed (sql : Text) (e : Error) : Notice :=
  ⟨.error, statementTarget, "statement translation failed".toList,
    [("sql".toList, .quoted sql), ("error".toList, .plain e.message)]⟩

/-- A statement has been handed back. -/
def passed (reason : Text) : Notice :=
  ⟨.debug, statementTarget, "statement passed through untranslated".toList,
    [("reason".toList, .quoted reason)]⟩

/-- The answer for a statement was in the cache. -/
def found (sql : Text) : Notice :=
  ⟨.debug, statementTarget, "translation cache hit".toList, [("sql".toList, .quoted sql)]⟩

/-- The notice of a group that takes its nested form: there is one if the group holds a join. -/
def ofGroup (group : Text) : List Notice :=
  match Chain.nest group with
  | .ok result => if 1 ≤ Chain.markerCount group then [nested group result] else []
  | .error _ => []

theorem mem_ofGroup {group : Text} {x : Notice} (h : x ∈ ofGroup group) :
    x.level = .trace ∧ x.target = joinTarget := by
  rw [ofGroup] at h
  split at h
  · split at h
    · obtain rfl := List.mem_singleton.mp h
      exact ⟨rfl, rfl⟩
    · cases h
  · cases h

end Notice

end Log

namespace Logged

variable {α β : Type}

/-- The log as it is shown. -/
def notices (x : Logged α) : List Log.Notice := x.log.map Log.Event.notice

theorem notices_bind (x : Logged α) (f : α → Logged β) :
    (x >>= f).notices = x.notices ++ (f x.value).notices := List.map_append

end Logged

open Log

/-! ## 2. The walk over the groups -/

theorem Chain.notices_nestLogged_of_ok {group result : Text} (h : nest group = .ok result) :
    (nestLogged group).notices = Notice.ofGroup group := by
  have hdepth : depth group = markerCount group - 1 := by rw [depth, joins_eq_markerCount]
  rw [Notice.ofGroup, h]
  simp only [Logged.notices, nestLogged, h, ← hasJoin_iff_markerCount]
  split
  · simp only [List.map_cons, List.map_nil, Event.notice, Notice.nested, ← hdepth]
    rfl
  · rfl

theorem Chain.notices_nestLogged_of_error {group : Text} {m : MalformedChain}
    (h : nest group = .error m) : (nestLogged group).notices = [.malformed m] := by
  simp only [Logged.notices, nestLogged, h]
  rfl

namespace Group

variable {nameLead : Text} {several : Bool}

theorem notices_nestAllLogged_cons_of_ok {g nested : Text} (hg : Chain.nest g = .ok nested)
    (rest : List Text) (index : Nat) :
    (nestAllLogged nameLead several index (g :: rest)).notices =
      Notice.ofGroup g ++ (nestAllLogged nameLead several (index + 1) rest).notices := by
  rw [nestAllLogged, Logged.notices_bind, Chain.notices_nestLogged_of_ok hg,
    Chain.value_nestLogged, hg]
  rfl

theorem notices_nestAllLogged_cons_of_error {g : Text} {m : MalformedChain}
    (hg : Chain.nest g = .error m) (rest : List Text) (index : Nat) :
    (nestAllLogged nameLead several index (g :: rest)).notices = [.malformed m] := by
  rw [nestAllLogged, Logged.notices_bind, Chain.notices_nestLogged_of_error hg,
    Chain.value_nestLogged, hg]
  rfl

/-- **Groups that have nested forms** leave their notices in order, and what stands behind them
follows. -/
theorem notices_nestAllLogged_append {before : List Text}
    (h : ∀ g ∈ before, ∃ nested, Chain.nest g = .ok nested) (rest : List Text) (index : Nat) :
    (nestAllLogged nameLead several index (before ++ rest)).notices =
      before.flatMap Notice.ofGroup ++
        (nestAllLogged nameLead several (index + before.length) rest).notices := by
  induction before generalizing index with
  | nil => rfl
  | cons g more ih =>
    obtain ⟨⟨nested, hg⟩, hmore⟩ := List.forall_mem_cons.mp h
    -- The position moves on with each group, and no notice depends on it.
    rw [List.cons_append, notices_nestAllLogged_cons_of_ok hg, ih hmore, List.flatMap_cons,
      List.append_assoc, List.length_cons, Nat.add_right_comm, Nat.add_assoc]

theorem notices_nestAllLogged_of_forall_ok {groups : List Text}
    (h : ∀ g ∈ groups, ∃ nested, Chain.nest g = .ok nested) (index : Nat) :
    (nestAllLogged nameLead several index groups).notices = groups.flatMap Notice.ofGroup := by
  have hwalk : (nestAllLogged nameLead several index (groups ++ [])).notices =
      groups.flatMap Notice.ofGroup ++ [] := notices_nestAllLogged_append h [] index
  rwa [List.append_nil, List.append_nil] at hwalk

/-- **What the walk over a body tells**: the notices of its groups, if all have nested forms, and
else those of the groups in front of the first malformed one, and that it is malformed. -/
theorem notices_nestBodyLogged_cases (nameLead body : Text) :
    ((∀ g ∈ split body, ∃ nested, Chain.nest g = .ok nested) ∧
      (∃ outcomes, nestBody nameLead body = .ok outcomes) ∧
      (nestBodyLogged nameLead body).notices = (split body).flatMap Notice.ofGroup) ∨
    ∃ before group after m, split body = before ++ group :: after ∧
      (∀ g ∈ before, ∃ nested, Chain.nest g = .ok nested) ∧ Chain.nest group = .error m ∧
      nestBody nameLead body = .error m ∧
      (nestBodyLogged nameLead body).notices =
        before.flatMap Notice.ofGroup ++ [.malformed m] := by
  cases h : nestBody nameLead body with
  | ok outcomes =>
    left
    have hall : ∀ g ∈ split body, ∃ nested, Chain.nest g = .ok nested :=
      exists_nestAll_eq_ok_iff.mp ⟨outcomes, h⟩
    exact ⟨hall, ⟨outcomes, rfl⟩, notices_nestAllLogged_of_forall_ok hall 0⟩
  | error m =>
    right
    obtain ⟨before, group, after, hsplit, hbefore, hgroup⟩ := nestAll_eq_error_iff.mp h
    refine ⟨before, group, after, m, hsplit, hbefore, hgroup, rfl, ?_⟩
    rw [nestBodyLogged, hsplit, notices_nestAllLogged_append hbefore,
      notices_nestAllLogged_cons_of_error hgroup]

/-- Everything the walk tells is told of a single group. -/
theorem target_of_mem_nestBodyLogged {nameLead body : Text} {x : Notice}
    (h : x ∈ (nestBodyLogged nameLead body).notices) : x.target = joinTarget := by
  have hgroups : ∀ groups : List Text, x ∈ groups.flatMap Notice.ofGroup → x.target = joinTarget := by
    intro groups hx
    obtain ⟨g, -, hg⟩ := List.mem_flatMap.mp hx
    exact (Notice.mem_ofGroup hg).2
  rcases notices_nestBodyLogged_cases nameLead body with
    ⟨-, -, hwalk⟩ | ⟨before, group, after, m, -, -, -, -, hwalk⟩
  · rw [hwalk] at h
    exact hgroups _ h
  · rw [hwalk, List.mem_append] at h
    rcases h with h | h
    · exact hgroups _ h
    · obtain rfl := List.mem_singleton.mp h
      rfl

end Group

/-! ## 3. Conversions -/

namespace Converter

variable {v : Converter} {cache : Cache} {sql : Text} {c : Clause}

theorem notices_convert_of_not_select (h : Statement.isSelect sql = false) :
    (v.convert cache sql).notices = [.passed "not a SELECT statement".toList] := by
  rw [convert, if_neg (by simp [h])]
  rfl

theorem notices_convert_of_no_from (h : Statement.isSelect sql = true)
    (hc : Clause.cut? sql = none) :
    (v.convert cache sql).notices = [.passed "no FROM clause".toList] := by
  rw [convert, if_pos h, hc]
  rfl

/-- Where no clause takes a nested form, the one notice says so. -/
theorem exists_notices_of_no_clause (v : Converter) (cache : Cache)
    (h : Statement.clause? sql = none) :
    ∃ reason, (v.convert cache sql).notices = [.passed reason] := by
  cases hs : Statement.isSelect sql with
  | false => exact ⟨_, notices_convert_of_not_select hs⟩
  | true =>
    have hcut : Clause.cut? sql = none :=
      (Statement.clause?_eq_none_iff.mp h).resolve_left (by simp [hs])
    exact ⟨_, notices_convert_of_no_from hs hcut⟩

theorem notices_convert_of_entry {answer : Text} (hc : Statement.clause? sql = some c)
    (hon : cache.enabled = true) (he : cache.held? sql = some answer) :
    (v.convert cache sql).notices = [.found sql] := by
  obtain ⟨hs, hcut⟩ := Statement.clause?_eq_some_iff.mp hc
  rw [convert, if_pos hs]
  simp only [hcut, Cache.lookup_of_entry hon he]
  rfl

/-- A clause that is nested anew leaves the notices of the walk, and one more if that fails. -/
theorem notices_convert_of_miss {cache' : Cache} (hc : Statement.clause? sql = some c)
    (hl : cache.lookup sql = (none, cache')) :
    (v.convert cache sql).notices = (Group.nestBodyLogged v.nameLead c.body).notices ++
      match Group.nestBody v.nameLead c.body with
      | .ok _ => []
      | .error m => [.failed sql (.malformedChain m)] := by
  obtain ⟨hs, hcut⟩ := Statement.clause?_eq_some_iff.mp hc
  rw [convert, if_pos hs]
  simp only [hcut, hl, nestClause, Logged.notices_bind, Group.value_nestBodyLogged]
  cases Group.nestBody v.nameLead c.body <;> rfl

/-- The steps leave the notices of the walk, if there is a clause to walk over, and else none. -/
theorem notices_explain (v : Converter) (sql : Text) :
    (v.explain sql).notices = (Statement.clause? sql).elim [] fun c =>
      (Group.nestBodyLogged v.nameLead c.body).notices := by
  rw [explain, Statement.explainLogged]
  cases Statement.clause? sql <;> rfl

/-- **A statement that is nested anew** leaves the notices of its groups, if all have nested forms,
and else those up to the first that has none, and one of its own. -/
theorem notices_convert_cases (hc : Statement.clause? sql = some c)
    (hlacks : cache.enabled = false ∨ cache.held? sql = none) :
    ((∀ g ∈ Group.split c.body, ∃ result, Chain.nest g = .ok result) ∧
      (∃ result, (v.convert cache sql).value.answer = .ok result) ∧
      (v.convert cache sql).notices = (Group.split c.body).flatMap Notice.ofGroup) ∨
    ∃ before group after segment, Group.split c.body = before ++ group :: after ∧
      (∀ g ∈ before, ∃ result, Chain.nest g = .ok result) ∧
      Chain.nest group = .error ⟨group, segment⟩ ∧
      (v.convert cache sql).value.answer = .error ⟨group, segment⟩ ∧
      (v.convert cache sql).notices = before.flatMap Notice.ofGroup ++
        [.malformed ⟨group, segment⟩, .failed sql (.malformedChain ⟨group, segment⟩)] := by
  obtain ⟨cache', hl⟩ := Cache.exists_lookup_eq_none hlacks
  have hanswer := answer_convert_of_lookup_eq_none hl v
  rw [hanswer, notices_convert_of_miss hc hl, Statement.nest, hc]
  rcases Group.notices_nestBodyLogged_cases v.nameLead c.body with
    ⟨hall, ⟨outcomes, hbody⟩, hwalk⟩ | ⟨before, group, after, m, hsplit, hbefore, hm, hbody, hwalk⟩
  · left
    simp only [hbody, hwalk, List.append_nil]
    exact ⟨hall, ⟨_, rfl⟩, trivial⟩
  · right
    have hgroup : m.group = group := (Chain.nest_eq_error_iff.mp hm).1
    obtain ⟨blamed, segment⟩ := m
    obtain rfl : blamed = group := hgroup
    refine ⟨before, blamed, after, segment, hsplit, hbefore, hm, ?_, ?_⟩
    · simp only [hbody]
      rfl
    · simp only [hbody, hwalk, List.append_assoc]
      rfl

/-- An answer leaves no error in the log. -/
theorem level_of_mem_notices {result : Text} (h : (v.convert cache sql).value.answer = .ok result)
    {x : Notice} (hx : x ∈ (v.convert cache sql).notices) : x.level ≠ .error := by
  have hsingle : ∀ y : Notice, y.level = .debug → x ∈ [y] → x.level ≠ .error := by
    intro y hy hmem
    rw [List.mem_singleton.mp hmem, hy]
    decide
  cases hc : Statement.clause? sql with
  | none =>
    obtain ⟨reason, hnotices⟩ := exists_notices_of_no_clause v cache hc
    rw [hnotices] at hx
    exact hsingle _ rfl hx
  | some c =>
    have hlacking : cache.enabled = false ∨ cache.held? sql = none → x.level ≠ .error := by
      intro hlacks
      rcases notices_convert_cases hc hlacks with
        ⟨-, -, hnotices⟩ | ⟨before, group, after, segment, -, -, -, herror, -⟩
      · rw [hnotices] at hx
        obtain ⟨g, -, hg⟩ := List.mem_flatMap.mp hx
        rw [(Notice.mem_ofGroup hg).1]
        decide
      · rw [h] at herror
        cases herror
    cases hon : cache.enabled with
    | false => exact hlacking (.inl hon)
    | true =>
      cases he : cache.held? sql with
      | none => exact hlacking (.inr he)
      | some found =>
        rw [notices_convert_of_entry hc hon he] at hx
        exact hsingle _ rfl hx

/-- **The steps tell what the walk tells**, as a conversion does that has no answer from the
cache. -/
theorem notices_explain_eq_filter (v : Converter)
    (hlacks : cache.enabled = false ∨ cache.held? sql = none) :
    (v.explain sql).notices =
      (v.convert cache sql).notices.filter fun x => x.target = joinTarget := by
  rw [notices_explain]
  cases hc : Statement.clause? sql with
  | none =>
    obtain ⟨reason, hnotices⟩ := exists_notices_of_no_clause v cache hc
    rw [hnotices]
    rfl
  | some c =>
    obtain ⟨cache', hl⟩ := Cache.exists_lookup_eq_none hlacks
    have hwalk : (Group.nestBodyLogged v.nameLead c.body).notices.filter
        (fun x => x.target = joinTarget) = (Group.nestBodyLogged v.nameLead c.body).notices :=
      List.filter_eq_self.mpr fun x hx => decide_eq_true (Group.target_of_mem_nestBodyLogged hx)
    rw [notices_convert_of_miss hc hl, List.filter_append, hwalk, Option.elim_some]
    cases Group.nestBody v.nameLead c.body with
    | ok outcomes => rw [List.filter_nil, List.append_nil]
    | error m =>
      have hfailed : [Notice.failed sql (.malformedChain m)].filter
          (fun x => x.target = joinTarget) = [] := rfl
      simp only [hfailed, List.append_nil]

/-- **The log of a conversion.**

* A statement that is no SELECT, or has no FROM, leaves one notice, which says why it was handed back;
  one that is found in the cache leaves one, with its text.
* Any other leaves a notice for each of its groups that holds a join, in their order.  If all groups
  have nested forms, there is no more.  Otherwise this ends with the first that has none: it leaves
  a notice with its whole text and the segment to blame, and the statement one with its text and the
  error.
* Where there is an answer, no notice is an error.
* The steps leave the notices of the groups that a conversion without an answer from the cache would
  leave, and nothing else. -/
theorem log_of_conversion (v : Converter) (cache : Cache) (sql : Text) :
    let notices := (v.convert cache sql).notices
    let answer := (v.convert cache sql).value.answer
    (Statement.isSelect sql = false → notices = [.passed "not a SELECT statement".toList]) ∧
    (Statement.isSelect sql = true → Clause.cut? sql = none →
      notices = [.passed "no FROM clause".toList]) ∧
    (∀ c, Statement.clause? sql = some c → cache.enabled = true →
      (cache.held? sql).isSome = true → notices = [.found sql]) ∧
    (∀ c, Statement.clause? sql = some c → cache.enabled = false ∨ cache.held? sql = none →
      ((∀ g ∈ Group.split c.body, ∃ result, Chain.nest g = .ok result) ∧
        (∃ result, answer = .ok result) ∧
        notices = (Group.split c.body).flatMap Notice.ofGroup) ∨
      ∃ before group after segment, Group.split c.body = before ++ group :: after ∧
        (∀ g ∈ before, ∃ result, Chain.nest g = .ok result) ∧
        Chain.nest group = .error ⟨group, segment⟩ ∧ answer = .error ⟨group, segment⟩ ∧
        notices = before.flatMap Notice.ofGroup ++
          [.malformed ⟨group, segment⟩, .failed sql (.malformedChain ⟨group, segment⟩)]) ∧
    (∀ result, answer = .ok result → ∀ x ∈ notices, x.level ≠ .error) ∧
    ∀ other : Cache, other.enabled = false ∨ other.held? sql = none →
      (v.explain sql).notices =
        (v.convert other sql).notices.filter fun x => x.target = joinTarget := by
  intro notices answer
  refine ⟨notices_convert_of_not_select, notices_convert_of_no_from, fun c hc hon he => ?_,
    fun c hc hlacks => notices_convert_cases hc hlacks,
    fun result h x hx => level_of_mem_notices h hx, fun other hlacks => ?_⟩
  · obtain ⟨found, he⟩ := Option.isSome_iff_exists.mp he
    exact notices_convert_of_entry hc hon he
  · exact notices_explain_eq_filter v hlacks

/-- A chain, a group without a join, a malformed chain, and a group behind it. -/
def fourGroups : Text := "select*from a join b,c,d join e join f,g join h".toList

/-- The first group takes its nested form, the second holds no join, the third is malformed, and
the fourth is not looked at.  Where there is an entry for the statement, that is all there is to
tell. -/
theorem log_of_conversion_of_four_groups :
    (({} : Converter).convert {} "delete from a".toList).notices =
      [.passed "not a SELECT statement".toList] ∧
    (({} : Converter).convert {} "select 1".toList).notices = [.passed "no FROM clause".toList] ∧
    (({} : Converter).convert { entries := [(fourGroups, "select 1".toList)] } fourGroups).notices =
      [.found fourGroups] ∧
    (({} : Converter).convert {} fourGroups).notices =
      [.nested " a join b".toList " a join b".toList,
        .malformed ⟨"d join e join f".toList, " e".toList⟩,
        .failed fourGroups (.malformedChain ⟨"d join e join f".toList, " e".toList⟩)] ∧
    (({} : Converter).explain fourGroups).notices =
      [.nested " a join b".toList " a join b".toList,
        .malformed ⟨"d join e join f".toList, " e".toList⟩] ∧
    ∀ x ∈ (({} : Converter).convert {} "select*from a join b".toList).notices, x.level ≠ .error := by
  obtain ⟨hpassed, -, -, -, -, -⟩ := log_of_conversion {} {} "delete from a".toList
  obtain ⟨-, hnone, -, -, -, -⟩ := log_of_conversion {} {} "select 1".toList
  obtain ⟨-, -, hfound, -, -, -⟩ :=
    log_of_conversion {} { entries := [(fourGroups, "select 1".toList)] } fourGroups
  obtain ⟨-, -, -, hcases, -, hsteps⟩ := log_of_conversion {} {} fourGroups
  obtain ⟨-, -, -, -, hlevel, -⟩ := log_of_conversion {} {} "select*from a join b".toList
  have hclause : Statement.clause? fourGroups = some ⟨"select*".toList, "from".toList,
      " a join b,c,d join e join f,g join h".toList, []⟩ := by decide +kernel
  have hmalformed : Chain.nest "d join e join f".toList =
      .error ⟨"d join e join f".toList, " e".toList⟩ := rfl
  have hnotices : (({} : Converter).convert {} fourGroups).notices =
      [.nested " a join b".toList " a join b".toList,
        .malformed ⟨"d join e join f".toList, " e".toList⟩,
        .failed fourGroups (.malformedChain ⟨"d join e join f".toList, " e".toList⟩)] := by
    have hsplit : Group.split " a join b,c,d join e join f,g join h".toList =
        [" a join b".toList, "c".toList, "d join e join f".toList, "g join h".toList] := by
      decide +kernel
    have hanswer : (({} : Converter).convert {} fourGroups).value.answer =
        .error ⟨"d join e join f".toList, " e".toList⟩ := rfl
    rcases hcases _ hclause (.inr rfl) with
      ⟨-, ⟨result, hok⟩, -⟩ | ⟨before, group, after, segment, hgroups, hbefore, -, herror, h⟩
    · rw [hanswer] at hok
      cases hok
    · obtain ⟨rfl, rfl⟩ := MalformedChain.mk.inj (Except.error.inj (hanswer.symm.trans herror))
      rw [hsplit] at hgroups
      -- Only the third place fits: the malformed group is neither of the first two, nor in front.
      rcases before with _ | ⟨first, _ | ⟨second, _ | ⟨third, more⟩⟩⟩
      · exact absurd (List.cons.inj hgroups).1 (by decide)
      · exact absurd (List.cons.inj (List.cons.inj hgroups).2).1 (by decide)
      · obtain ⟨rfl, hrest⟩ := List.cons.inj hgroups
        obtain ⟨rfl, -⟩ := List.cons.inj hrest
        rw [h]
        decide +kernel
      · obtain ⟨rfl, -⟩ := List.cons.inj (List.cons.inj (List.cons.inj hgroups).2).2
        obtain ⟨nested, hnested⟩ := hbefore "d join e join f".toList (by simp)
        rw [hmalformed] at hnested
        cases hnested
  refine ⟨hpassed (by decide +kernel), hnone (by decide +kernel) (by decide +kernel),
    hfound _ hclause rfl (by decide +kernel), hnotices, ?_, hlevel "select*from a join b".toList rfl⟩
  rw [hsteps {} (.inr rfl), hnotices]
  decide +kernel

end Converter

end NestedJoin
