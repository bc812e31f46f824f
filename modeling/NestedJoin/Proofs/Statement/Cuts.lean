/-
# A nested form is cut where its statement was

The nested form of a statement holds words that the statement did not: the SELECT and the FROM of
each derived table, and the names.  A statement is searched for its words letter by letter, within
longer words and across whatever stands side by side, so each of these could be a place for a cut
that was not there before.  It is not, where the lead of the names is an identifier without a WHERE
(`Converter.cuts_of_uncached`): FROM and WHERE are found where they were, in front of the body and
behind it, and the commas of the new body are those between the results.

That the first FROM is the old one needs nothing of the body, since it stands in front of it.  For
WHERE and for the commas the body is taken apart group by group (`Group.not_holds_joinResults`,
`Group.split_joinResults`).
-/
import NestedJoin.Proofs.Converter.Uncached
import NestedJoin.Proofs.Group.Results

namespace NestedJoin

/-- The names of derived tables bring in no cut: their lead is an identifier that does not hold
WHERE. -/
structure SafeLead (nameLead : Text) : Prop where
  identifier : Config.isIdentifier nameLead = true
  no_where : ¬ Text.Holds whereWord nameLead

namespace Statement

/-! ## 1. The clause of the nested form -/

/-- **The nested form has the clause of its statement**, with the results in place of the body. -/
theorem cut?_of_nest {nameLead sql out : Text} {c : Clause} (hlead : SafeLead nameLead)
    (hc : clause? sql = some c) (h : nest nameLead sql = .ok out) :
    ∃ outcomes, Group.nestBody nameLead c.body = .ok outcomes ∧
      out = c.withBody (Group.joinResults outcomes) ∧
      Clause.cut? out = some { c with body := Group.joinResults outcomes } := by
  obtain ⟨-, hcut⟩ := clause?_eq_some_iff.mp hc
  obtain ⟨hwell, -⟩ := Clause.cut?_eq_some_iff.mp hcut
  obtain ⟨outcomes, hbody, rfl⟩ := (nest_eq_ok_iff hc).mp h
  have hfree := Group.not_holds_joinResults hlead.no_where hwell.body hbody
  exact ⟨outcomes, hbody, rfl, Clause.cut?_withBody hwell hfree⟩

/-- **The nested form is of the kind of its statement.** -/
theorem kind_of_nest {nameLead sql out : Text} (h : nest nameLead sql = .ok out) :
    kind out = kind sql := by
  cases hc : clause? sql with
  | none => rw [eq_of_nest_of_clause?_eq_none hc h]
  | some c =>
    obtain ⟨-, hcut⟩ := clause?_eq_some_iff.mp hc
    obtain ⟨hwell, rfl⟩ := Clause.cut?_eq_some_iff.mp hcut
    obtain ⟨outcomes, -, rfl⟩ := (nest_eq_ok_iff hc).mp h
    rw [kind_withBody hwell, kind_withBody hwell]

theorem isSelect_of_nest {nameLead sql out : Text} (h : nest nameLead sql = .ok out) :
    isSelect out = isSelect sql := by
  rw [Bool.eq_iff_iff, isSelect_iff, isSelect_iff, kind_of_nest h]

/-- **A clause that takes a nested form stays one that does.** -/
theorem clause?_of_nest {nameLead sql out : Text} {c : Clause} (hlead : SafeLead nameLead)
    (hc : clause? sql = some c) (h : nest nameLead sql = .ok out) :
    ∃ outcomes, Group.nestBody nameLead c.body = .ok outcomes ∧
      clause? out = some { c with body := Group.joinResults outcomes } := by
  obtain ⟨outcomes, hbody, -, hcut⟩ := cut?_of_nest hlead hc h
  have hselect := isSelect_of_nest h
  rw [(clause?_eq_some_iff.mp hc).1] at hselect
  exact ⟨outcomes, hbody, clause?_eq_some_iff.mpr ⟨hselect, hcut⟩⟩

end Statement

/-! ## 2. What is found in the nested form -/

namespace Converter

/-- **A nested form is cut where its statement was.**  It is a SELECT again.  Its clause begins at
the same byte, and ends as many bytes behind FROM as the new body has.  What stands in front of the
body and what stands behind it is the same.  The commas cut the new body into the results of the
groups, one for each group of the old body. -/
theorem cuts_of_uncached {nameLead sql out : Text} {c : Clause}
    (hlead : Config.isIdentifier nameLead = true) (hwhere : ¬ Text.Holds whereWord nameLead)
    (hs : Statement.isSelect sql = true) (hc : Clause.cut? sql = some c)
    (h : Converter.uncached nameLead sql = .ok out) :
    ∃ outcomes c', c.span.body sql = .ok c.body ∧
      Group.nestBody nameLead c.body = .ok outcomes ∧
      Statement.isSelect out = true ∧
      Clause.cut? out = some c' ∧
      c'.span = ⟨c.span.first, c.span.first + 4 + Text.byteLength (Group.joinResults outcomes)⟩ ∧
      (c.span.head sql = .ok c.head ∧ c'.span.head out = .ok c.head) ∧
      (c.span.tail sql = .ok c.tail ∧ c'.span.tail out = .ok c.tail) ∧
      c'.span.body out = .ok (Group.joinResults outcomes) ∧
      Group.split (Group.joinResults outcomes) = outcomes.map (·.result) ∧
      outcomes.length = (Group.split c.body).length := by
  rw [uncached_eq_nest] at h
  have hsafe : SafeLead nameLead := ⟨hlead, hwhere⟩
  have hcomma : ',' ∉ nameLead := Config.comma_notMem_of_isIdentifier hlead
  obtain ⟨outcomes, hbody, -, hcut⟩ :=
    Statement.cut?_of_nest hsafe (Statement.clause?_eq_some_iff.mpr ⟨hs, hc⟩) h
  have hselect : Statement.isSelect out = true := (Statement.isSelect_of_nest h).trans hs
  have hspan := (Clause.wellCut_of_cut? hc).span_withBody (Group.joinResults outcomes)
  obtain ⟨hhead, hslice, htail⟩ := Clause.slices_of_cut? hc
  obtain ⟨hhead', hslice', htail'⟩ := Clause.slices_of_cut? hcut
  exact ⟨outcomes, _, hslice, hbody, hselect, hcut, hspan, ⟨hhead, hhead'⟩, ⟨htail, htail'⟩,
    hslice', Group.split_joinResults hcomma hbody, Group.length_nestBody hbody⟩

/-- A name that ends in all but the last letter of WHERE, and a WHERE right behind it. -/
theorem cuts_of_uncached_at_seam :
    Config.isIdentifier "wher".toList = true ∧ ¬ Text.Holds whereWord "wher".toList ∧
    Statement.isSelect "select*From c,a join bWHERE d".toList = true ∧
    Clause.cut? "select*From c,a join bWHERE d".toList =
      some ⟨"select*".toList, "From".toList, " c,a join b".toList, "WHERE d".toList⟩ ∧
    Converter.uncached "wher".toList "select*From c,a join bWHERE d".toList =
      .ok "select*From c,(select * from a join b) as wher1WHERE d".toList ∧
    ∃ c', Clause.cut? "select*From c,(select * from a join b) as wher1WHERE d".toList = some c' ∧
      c'.span = ⟨7, 47⟩ ∧
      Group.split " c,(select * from a join b) as wher1".toList =
        [" c".toList, "(select * from a join b) as wher1".toList] := by
  have hlead : Config.isIdentifier "wher".toList = true := by decide +kernel
  have hwhere : ¬ Text.Holds whereWord "wher".toList := by decide +kernel
  have hs : Statement.isSelect "select*From c,a join bWHERE d".toList = true := by decide +kernel
  have hc : Clause.cut? "select*From c,a join bWHERE d".toList =
      some ⟨"select*".toList, "From".toList, " c,a join b".toList, "WHERE d".toList⟩ := by
    decide +kernel
  have hout : Converter.uncached "wher".toList "select*From c,a join bWHERE d".toList =
      .ok "select*From c,(select * from a join b) as wher1WHERE d".toList := rfl
  refine ⟨hlead, hwhere, hs, hc, hout, ?_⟩
  obtain ⟨outcomes, c', -, hbody, -, hcut, hspan, -, -, -, hsplit, -⟩ :=
    cuts_of_uncached hlead hwhere hs hc hout
  have houtcomes : Group.nestBody "wher".toList " c,a join b".toList =
      .ok [⟨0, " c".toList, " c".toList, false⟩,
        ⟨1, "a join b".toList, "(select * from a join b) as wher1".toList, true⟩] := rfl
  obtain rfl := Except.ok.inj (houtcomes.symm.trans hbody)
  refine ⟨c', hcut, ?_, hsplit⟩
  rw [hspan]
  decide +kernel

end Converter

end NestedJoin
