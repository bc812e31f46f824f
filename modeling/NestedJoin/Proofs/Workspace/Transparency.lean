/-
# When a shared cache can be told from none

A cache goes by the text of a statement alone.  The nested form depends on the lead of the names as
well, and converters that share a cache may have leads of their own.  So what a converter answers is
not always what it would answer without the cache, and `Workspace.answer_is_uncached_iff` says when
it is: the cache is switched off, or the nested form has no derived table to name, or whoever
answered the statement first has the same lead.  A failure is the same with and without the cache.

An entry is the nested form under the lead of the first to answer (`Workspace.exists_first_answer`),
and there is only one first (`Workspace.FirstAnsweredBy.unique`); whether another lead gives the
same form is decided in `Statement.nest_eq_ok_iff_of_nest`.
-/
import NestedJoin.Proofs.Statement.Names
import NestedJoin.Proofs.Workspace.FirstWriter

namespace NestedJoin

namespace StepResult

theorem ofAnswer_eq_failed_iff {answer : Except MalformedChain Text} {m : MalformedChain} :
    ofAnswer answer = .failed (.malformedChain m) ↔ answer = .error m := by
  cases answer <;> simp [ofAnswer]

end StepResult

namespace Workspace

/-! ## 1. The first to answer -/

/-- Calls that do not answer a statement come to an end in front of one that does. -/
theorem prefix_of_not_answered {w : Workspace} {place : Nat} {sql : Text}
    {before rest other : List Step} {s : Step} (hs : (w.after before).Answers place sql s)
    (hother : other <+: before ++ s :: rest) (hnot : ¬ w.Answered place sql other) :
    other <+: before := by
  rcases List.prefix_or_prefix_of_prefix hother (List.prefix_append before _) with h | ⟨more, rfl⟩
  · exact h
  · cases more with
    | nil => exact ⟨[], by simp⟩
    | cons t more =>
      obtain ⟨rfl, -⟩ :=
        List.cons_prefix_cons.mp ((List.prefix_append_right_inj before).mp hother)
      exact absurd ⟨before, t, more, rfl, hs⟩ hnot

/-- **Only one converter is the first to answer.** -/
theorem FirstAnsweredBy.unique {w : Workspace} {place : Nat} {sql : Text} {steps : List Step}
    {u v : Converter} (hu : w.FirstAnsweredBy place sql steps u)
    (hv : w.FirstAnsweredBy place sql steps v) : u = v := by
  obtain ⟨before, s, rest, rfl, hnot, hs, hshare⟩ := hu
  obtain ⟨before', s', rest', heq, hnot', hs', hshare'⟩ := hv
  have hle : before' <+: before := prefix_of_not_answered hs ⟨_, heq.symm⟩ hnot'
  have hge : before <+: before' := prefix_of_not_answered hs' ⟨_, heq⟩ hnot
  obtain rfl : before = before' := hge.eq_of_length_le hle.length_le
  obtain ⟨rfl, -⟩ := List.cons.inj (List.append_cancel_left heq)
  exact Option.some.inj (hshare.symm.trans hshare')

/-! ## 2. Answers with and without the cache -/

/-- An entry made under some lead is the answer without the cache exactly if the nested form has no
derived table or the lead is the same. -/
theorem entry_is_uncached_iff {nameLead sql answer : Text}
    (h : Converter.uncached nameLead sql = .ok answer) (other : Text) :
    Converter.uncached other sql = .ok answer ↔ (Statement.Derives sql → other = nameLead) := by
  rw [Converter.uncached_eq_nest] at h ⊢
  exact Statement.nest_eq_ok_iff_of_nest h other

/-- **When the answer is the one without the cache.**  In a cache that begins empty, after any
sequence of calls, a converter answers a statement as it would without the cache exactly if the
cache is switched off, or the nested form of the statement has no derived table, or no converter
with another lead was the first to answer it.  A failure is the same in any case. -/
theorem answer_is_uncached_iff {w : Workspace} {place : Nat} {c : Cache} {steps : List Step}
    (hc : w.caches[place]? = some c) (hempty : c.entries = [])
    (h : ∀ s ∈ steps, s.action.isCall = true) {name : Text} {v : Converter}
    (hv : (w.after steps).sharer? place name = some v) (sql : Text) :
    (((w.after steps).step ⟨name, .convert sql⟩).value.1 =
        .ofAnswer (Converter.uncached v.nameLead sql) ↔
      (c.enabled = true → Statement.Derives sql →
        ∀ u, w.FirstAnsweredBy place sql steps u → u.nameLead = v.nameLead)) ∧
    ∀ m, ((w.after steps).step ⟨name, .convert sql⟩).value.1 = .failed (.malformedChain m) ↔
      Converter.uncached v.nameLead sql = .error m := by
  have hnone : ∀ sql, w.held? place sql = none := held?_of_entries_nil hc hempty
  obtain ⟨c', hc', hsame⟩ := exists_cache_after hc h
  have hat : (w.after steps).cacheAt place = c' := by rw [cacheAt, hc', Option.getD_some]
  cases hon : c.enabled with
  | false =>
    have hoff : ((w.after steps).cacheAt place).enabled = false := by rw [hat, hsame, hon]
    rw [answer_of_no_entry hv (Or.inl hoff)]
    exact ⟨by simp, fun m => StepResult.ofAnswer_eq_failed_iff⟩
  | true =>
    have hw : w.HasCache place := ⟨c, hc, hon⟩
    cases he : (w.after steps).held? place sql with
    | none =>
      rw [answer_of_no_entry hv (Or.inr he)]
      refine ⟨iff_of_true rfl ?_, fun m => StepResult.ofAnswer_eq_failed_iff⟩
      -- Nobody has answered the statement, or there would be an entry.
      rintro - ⟨cl, hcl, -⟩ u ⟨before, s, rest, hsteps, -, hs, -⟩
      have hsome := (isSome_held?_after_iff hw hnone h).mpr ⟨⟨cl, hcl⟩, before, s, rest, hsteps, hs⟩
      rw [he] at hsome
      exact absurd hsome (by simp)
    | some answer =>
      obtain ⟨cl, hcl⟩ := exists_clause_of_entry hw hnone h he
      obtain ⟨u, hfirst, hok⟩ := exists_first_answer hw hnone h he
      rw [(step_of_entry (hw.after h) hcl he hv).1]
      constructor
      · rw [eq_comm, StepResult.ofAnswer_eq_text_iff, entry_is_uncached_iff hok]
        constructor
        · intro hlead _ hder u' hu'
          rw [hu'.unique hfirst, hlead hder]
        · intro hlead hder
          exact (hlead rfl hder u hfirst).symm
      · intro m
        rw [Converter.uncached_eq_nest] at hok ⊢
        obtain ⟨out, hout⟩ :=
          (Statement.exists_nest_eq_ok_congr u.nameLead v.nameLead sql).mp ⟨answer, hok⟩
        simp [hout]

/-- The first of two converters converts a statement. -/
def firstConverts (sql : Text) : List Step := [⟨"first".toList, .convert sql⟩]

/-- A single group takes no name, so the second converter is given what it would have given. -/
theorem answer_is_uncached_of_single_group :
    ((twoLeads.after (firstConverts "select*from a join b inner join c".toList)).step
        ⟨"second".toList, .convert "select*from a join b inner join c".toList⟩).value.1 =
      .ofAnswer (Converter.uncached "q".toList "select*from a join b inner join c".toList) := by
  have hcache : twoLeads.caches[0]? = some ({} : Cache) := rfl
  have hcalls : ∀ s ∈ firstConverts "select*from a join b inner join c".toList,
      s.action.isCall = true := by
    simp [firstConverts, Action.isCall]
  have hshare : (twoLeads.after
      (firstConverts "select*from a join b inner join c".toList)).sharer? 0 "second".toList =
        some { nameLead := "q".toList } := by
    decide +kernel
  have hclause : Statement.clause? "select*from a join b inner join c".toList =
      some ⟨"select*".toList, "from".toList, " a join b inner join c".toList, []⟩ := by
    decide +kernel
  have hsingle : ¬ Statement.Derives "select*from a join b inner join c".toList := by
    rintro ⟨c, hc, hlen, -⟩
    obtain rfl := Option.some.inj (hclause.symm.trans hc)
    exact absurd hlen (by decide +kernel)
  exact (answer_is_uncached_iff hcache rfl hcalls hshare _).1.mpr
    fun _ hder => absurd hder hsingle

/-- **The cache is not transparent**: of two converters with leads of their own, the second is given
the form of the first. -/
theorem not_transparent_for_two_leads :
    ¬ ∀ steps : List Step, (∀ s ∈ steps, ∃ sql, s.action = .convert sql) →
      ∀ name v sql, (twoLeads.after steps).sharer? 0 name = some v →
        ((twoLeads.after steps).step ⟨name, .convert sql⟩).value.1 =
          .ofAnswer (Converter.uncached v.nameLead sql) := by
  intro hall
  have hcalls : ∀ s ∈ firstConverts "select*from a join b,c".toList,
      ∃ sql, s.action = .convert sql := by
    simp [firstConverts]
  have hshare : (twoLeads.after (firstConverts "select*from a join b,c".toList)).sharer? 0
      "second".toList = some { nameLead := "q".toList } := by
    decide +kernel
  have hsame := hall _ hcalls "second".toList _ "select*from a join b,c".toList hshare
  have hgiven : ((twoLeads.after (firstConverts "select*from a join b,c".toList)).step
        ⟨"second".toList, .convert "select*from a join b,c".toList⟩).value.1 =
      .text "select*from (select * from a join b) as p0,c".toList := rfl
  have hown : Converter.uncached "q".toList "select*from a join b,c".toList =
      .ok "select*from (select * from a join b) as q0,c".toList := rfl
  rw [hgiven, hown] at hsame
  exact absurd (StepResult.text.inj hsame) (by decide +kernel)

end Workspace

end NestedJoin
