/-
# Blanks behind a clause

A WHERE is parted from the clause in front of it by a blank, and the blank belongs to the body of
the clause.  It stands behind the last segment of the last group, and whether that segment ends in a
qualifier is asked of the segment as it is.  So a qualifier at the very end of a clause is a fault,
and one with a blank behind it is none:

    a inner join b on p inner
    a inner join b on p inner where c

Every other fault is found in either case.  Blanks behind a body change the answer exactly if this
qualifier is its only fault (`Group.malformed_behind_blanks_iff`), and they do so for some
(`Group.blanks_hide_qualifier`).
-/
import Mathlib.Data.List.Basic
import NestedJoin.Proofs.Converter.Uncached
import NestedJoin.Proofs.Group.Malformed
import NestedJoin.Proofs.Group.Results

namespace NestedJoin

/-! ## 1. Blanks at the end of the last piece -/

section Blanks

variable {w : Text} (hw : ∀ c ∈ w, Text.isBlank c = true)

/-- What stands behind some texts put together stands behind the last of them. -/
theorem Text.intercalate_concat_append (sep last w : Text) : ∀ front : List Text,
    sep.intercalate (front ++ [last ++ w]) = sep.intercalate (front ++ [last]) ++ w
  | [] => by simp
  | t :: front => by
    have ih := intercalate_concat_append sep last w front
    rw [List.cons_append, List.cons_append, List.intercalate_cons_of_ne_nil (by simp),
      List.intercalate_cons_of_ne_nil (by simp), ih]
    simp only [List.append_assoc]

/-- A qualifier ends in a letter. -/
theorem Qualifier.exists_suffix_eq_concat (q : Qualifier) : ∃ front, q.suffix = front ++ ['r'] := by
  cases q
  · exact ⟨" inne".toList, rfl⟩
  · exact ⟨" left oute".toList, rfl⟩
  · exact ⟨" right oute".toList, rfl⟩

theorem Chain.exists_segments_eq_concat (chain : Text) :
    ∃ front last, segments chain = front ++ [last] :=
  ⟨_, _, (List.dropLast_concat_getLast (segments_ne_nil chain)).symm⟩

include hw

/-- **A text with a blank behind it ends in no qualifier.** -/
theorem not_endsInQualifier_append_blank (hne : w ≠ []) (t : Text) :
    ¬ EndsInQualifier (t ++ w) := by
  rintro ⟨q, front, hq⟩
  obtain ⟨word, hword⟩ := q.exists_suffix_eq_concat
  have hlast : w.getLast? = some 'r' := by
    rw [← List.getLast?_append_of_ne_nil t hne, ← hq, hword, ← List.append_assoc,
      List.getLast?_concat]
  have hblank := hw 'r' (List.mem_of_getLast? hlast)
  exact absurd hblank (by decide)

namespace Chain

/-- **Blanks behind a chain belong to its last segment.** -/
theorem segments_append_blank {chain last : Text} {front : List Text}
    (h : segments chain = front ++ [last]) : segments (chain ++ w) = front ++ [last ++ w] := by
  have hjoin := intercalate_segments chain
  rw [h] at hjoin
  rw [← hjoin, ← Text.intercalate_concat_append]
  refine segments_intercalate (by simp) fun t ht => ?_
  have hfree : ∀ s ∈ front ++ [last], ¬ joinMarker <:+: s := by
    intro s hs
    exact not_infix_of_mem_segments (h ▸ hs)
  rcases List.mem_append.mp ht with ht | ht
  · exact hfree t (List.mem_append_left _ ht)
  · rw [List.mem_singleton.mp ht]
    intro hm
    exact hfree last (by simp) (marker_infix_of_append_blanks hw hm)

theorem middleSegments_append_blank (chain : Text) :
    middleSegments (chain ++ w) = middleSegments chain := by
  obtain ⟨front, last, h⟩ := exists_segments_eq_concat chain
  rw [middleSegments, middleSegments, segments_append_blank hw h, h]
  cases front <;> simp

theorem lastSegment?_append_blank (chain : Text) :
    lastSegment? (chain ++ w) = (lastSegment? chain).map (· ++ w) := by
  obtain ⟨front, last, h⟩ := exists_segments_eq_concat chain
  rw [lastSegment?, lastSegment?, segments_append_blank hw h, h]
  cases front <;> simp

end Chain

/-- **Blanks behind a body belong to its last group.** -/
theorem Group.split_append_blank {body last : Text} {front : List Text}
    (h : split body = front ++ [last]) : split (body ++ w) = front ++ [last ++ w] := by
  have hjoin := join_split body
  rw [h] at hjoin
  rw [← hjoin, join, ← Text.intercalate_concat_append]
  refine split_join (by simp) fun t ht => ?_
  have hfree : ∀ g ∈ front ++ [last], ',' ∉ g := by
    intro g hg
    exact comma_notMem_of_mem_split (h ▸ hg)
  rcases List.mem_append.mp ht with ht | ht
  · exact hfree t (List.mem_append_left _ ht)
  · rw [List.mem_singleton.mp ht]
    intro hc
    rcases List.mem_append.mp hc with hc | hc
    · exact hfree last (by simp) hc
    · exact absurd (hw ',' hc) (by decide)

end Blanks

/-! ## 2. A qualifier at the very end -/

/-- A segment with blanks behind it ends in no qualifier, though it does without them. -/
theorem endsInQualifier_iff_trimEnd_eq {s : Text} (h : EndsInQualifier (Text.trimEnd s)) :
    EndsInQualifier s ↔ Text.trimEnd s = s := by
  obtain ⟨w, hw, hs⟩ := Text.exists_eq_trimEnd_append s
  constructor
  · intro hq
    by_cases hne : w = []
    · rw [hne, List.append_nil] at hs
      exact hs.symm
    · rw [hs] at hq
      exact absurd hq (not_endsInQualifier_append_blank hw hne _)
  · intro heq
    rwa [heq] at h

/-- The only fault of a chain is that it ends in a qualifier. -/
def Chain.OnlyDangles (chain : Text) : Prop :=
  (∀ s ∈ middleSegments chain, EndsInQualifier s) ∧ ∃ s ∈ lastSegment? chain, EndsInQualifier s

/-- The only fault of a clause body is that its last group ends in a qualifier. -/
def Group.OnlyDangles (body : Text) : Prop :=
  (∀ g ∈ (split body).dropLast, ∃ nested, Chain.nest g = .ok nested) ∧
    ∃ g ∈ (split body).getLast?, Chain.OnlyDangles g

/-- What only dangles is malformed. -/
theorem Chain.OnlyDangles.malformed {chain : Text} (h : OnlyDangles chain) :
    ∃ m, nest chain = .error m := exists_nest_eq_error_iff.mpr (Or.inr h.2)

theorem Group.OnlyDangles.malformed {body : Text} (h : OnlyDangles body) (nameLead : Text) :
    ∃ m, nestedBody nameLead body = .error m := by
  obtain ⟨-, g, hg, hd⟩ := h
  obtain ⟨m, hm⟩ := exists_nestAll_eq_error_iff.mpr ⟨g, List.mem_of_getLast? hg, hd.malformed⟩
  exact ⟨m, nestedBody_eq_error_iff.mpr hm⟩

section Faults

variable {w : Text} (hw : ∀ c ∈ w, Text.isBlank c = true)
include hw

/-- **A chain with blanks behind it** has the faults that it has without them, but for a qualifier
at its very end. -/
theorem Chain.exists_nest_append_blank_iff (chain : Text) :
    (∃ m, nest (chain ++ w) = .error m) ↔
      (∃ m, nest chain = .error m) ∧ (w = [] ∨ ¬ OnlyDangles chain) := by
  by_cases hne : w = []
  · simp [hne]
  · have hlast : ¬ ∃ s ∈ lastSegment? (chain ++ w), EndsInQualifier s := by
      rw [lastSegment?_append_blank hw]
      rintro ⟨s, hs, hq⟩
      obtain ⟨t, -, rfl⟩ := Option.map_eq_some_iff.mp hs
      exact not_endsInQualifier_append_blank hw hne t hq
    rw [exists_nest_eq_error_iff, exists_nest_eq_error_iff, middleSegments_append_blank hw,
      OnlyDangles]
    constructor
    · intro h
      obtain ⟨s, hs, hq⟩ := h.resolve_right hlast
      exact ⟨Or.inl ⟨s, hs, hq⟩, Or.inr fun hd => hq (hd.1 s hs)⟩
    · rintro ⟨h, hd⟩
      have hd := hd.resolve_left hne
      refine Or.inl (h.elim id fun hdangle => ?_)
      by_contra hmiddle
      exact hd ⟨fun s hs => not_not.mp fun hq => hmiddle ⟨s, hs, hq⟩, hdangle⟩

/-- **And so has a clause body.** -/
theorem Group.exists_nestedBody_append_blank_iff (nameLead body : Text) :
    (∃ m, nestedBody nameLead (body ++ w) = .error m) ↔
      (∃ m, nestedBody nameLead body = .error m) ∧ (w = [] ∨ ¬ OnlyDangles body) := by
  have hfails : ∀ b, (∃ m, nestedBody nameLead b = .error m) ↔
      ∃ g ∈ split b, ∃ m, Chain.nest g = .error m := by
    intro b
    rw [← exists_nestAll_eq_error_iff]
    exact exists_congr fun _ => nestedBody_eq_error_iff
  obtain ⟨front, last, h⟩ : ∃ front last, split body = front ++ [last] :=
    ⟨_, _, (List.dropLast_concat_getLast (List.splitOn_ne_nil ',' body)).symm⟩
  have hlast := Chain.exists_nest_append_blank_iff hw last
  have hdangles : OnlyDangles body ↔
      (∀ g ∈ front, ∃ nested, Chain.nest g = .ok nested) ∧ Chain.OnlyDangles last := by
    rw [OnlyDangles, h]
    simp
  have hfront : (∃ g ∈ front, ∃ m, Chain.nest g = .error m) ↔
      ¬ ∀ g ∈ front, ∃ nested, Chain.nest g = .ok nested := by
    simp only [exists_eq_error_iff, not_forall, exists_prop]
  rw [hfails, hfails, split_append_blank hw h, h]
  simp only [List.mem_append, List.mem_singleton, or_and_right, exists_or, exists_eq_left, hlast,
    hdangles, hfront]
  generalize (∀ g ∈ front, ∃ nested, Chain.nest g = .ok nested) = inFront
  by_cases hg : inFront <;> simp [hg]

end Faults

/-! ## 3. What blanks behind a clause change -/

namespace Group

/-- **Blanks behind a clause body change whether it fails exactly if its only fault is a qualifier
at its very end.**

* Then the body without them fails, and the body with them does not.  They never make a body fail.
* A chain whose last segment ends in a qualifier, but for the blanks behind it, is malformed exactly
  if there are no such blanks, or a segment between two markers ends in no qualifier.
* A statement fails as the body of its clause does, with the blanks that stand in front of a WHERE
  there. -/
theorem malformed_behind_blanks_iff {w : Text} (hw : ∀ c ∈ w, Text.isBlank c = true)
    (nameLead body : Text) :
    (((∃ m, nestedBody nameLead body = .error m) ↔
        ∃ m, nestedBody nameLead (body ++ w) = .error m) ↔ w = [] ∨ ¬ OnlyDangles body) ∧
    ((∃ m, nestedBody nameLead (body ++ w) = .error m) →
      ∃ m, nestedBody nameLead body = .error m) ∧
    (∀ chain, ∀ s ∈ Chain.lastSegment? chain, EndsInQualifier (Text.trimEnd s) →
      ((∃ m, Chain.nest chain = .error m) ↔
        Text.trimEnd s = s ∨ ∃ t ∈ Chain.middleSegments chain, ¬ EndsInQualifier t)) ∧
    (∀ sql c, Statement.clause? sql = some c → c.body = body ++ w →
      ((∃ m, Converter.uncached nameLead sql = .error m) ↔
        (∃ m, nestedBody nameLead body = .error m) ∧ (w = [] ∨ ¬ OnlyDangles body))) := by
  have hbody := exists_nestedBody_append_blank_iff hw nameLead body
  refine ⟨?_, fun h => (hbody.mp h).1, ?_, ?_⟩
  · have hdangles : OnlyDangles body → ∃ m, nestedBody nameLead body = .error m :=
      fun h => h.malformed nameLead
    rw [hbody]
    constructor
    · intro h
      by_contra hnot
      obtain ⟨hw, hd⟩ := not_or.mp hnot
      exact hnot (h.mp (hdangles (not_not.mp hd))).2
    · intro h
      exact ⟨fun hfail => ⟨hfail, h⟩, And.left⟩
  · intro chain s hs hq
    have hlast : (∃ t ∈ Chain.lastSegment? chain, EndsInQualifier t) ↔ Text.trimEnd s = s := by
      rw [Option.mem_def.mp hs, ← endsInQualifier_iff_trimEnd_eq hq]
      simp
    rw [Chain.exists_nest_eq_error_iff, hlast, or_comm]
  · intro sql c hc hcbody
    rw [← hbody, ← hcbody, Converter.uncached_eq_nest, Statement.nest_of_clause?_eq_some hc]
    cases nestedBody nameLead c.body <;> simp [Except.map]

/-- A missing qualifier between two joins is found with a blank behind the clause too.  A qualifier
at the end is not, though the chain is otherwise the same. -/
theorem malformed_behind_blanks_of_missing_qualifier :
    (∀ c ∈ " \u3000".toList, Text.isBlank c = true) ∧
    Statement.clause? "select*from a inner join b join c inner \u3000where d".toList =
      some ⟨"select*".toList, "from".toList, " a inner join b join c inner \u3000".toList,
        "where d".toList⟩ ∧
    (∃ m, Converter.uncached "t".toList
      "select*from a inner join b join c inner \u3000where d".toList = .error m) ∧
    " c inner \u3000".toList ∈ Chain.lastSegment? " a join b inner join c inner \u3000".toList ∧
    EndsInQualifier (Text.trimEnd " c inner \u3000".toList) ∧
    ¬ ∃ m, Chain.nest " a join b inner join c inner \u3000".toList = .error m := by
  have hw : ∀ c ∈ " \u3000".toList, Text.isBlank c = true :=
    List.all_eq_true.mp (by decide +kernel)
  have hsplit : split " a inner join b join c inner".toList =
      [" a inner join b join c inner".toList] := by decide +kernel
  have hmiddle : Chain.middleSegments " a inner join b join c inner".toList = [" b".toList] := by
    decide +kernel
  have hnot : ¬ OnlyDangles " a inner join b join c inner".toList := by
    rintro ⟨-, g, hg, hd⟩
    rw [hsplit, List.getLast?_singleton, Option.mem_some_iff] at hg
    have hb := hd.1 " b".toList (by rw [← hg, hmiddle]; exact List.mem_singleton_self _)
    exact absurd hb (by decide +kernel)
  have hfail : ∃ m, nestedBody "t".toList " a inner join b join c inner".toList = .error m :=
    ⟨⟨" a inner join b join c inner".toList, " b".toList⟩, rfl⟩
  obtain ⟨-, -, hchain, hstatement⟩ := malformed_behind_blanks_iff hw "t".toList
    " a inner join b join c inner".toList
  have hclause : Statement.clause? "select*from a inner join b join c inner \u3000where d".toList =
      some ⟨"select*".toList, "from".toList, " a inner join b join c inner \u3000".toList,
        "where d".toList⟩ := by decide +kernel
  have hlast : " c inner \u3000".toList ∈
      Chain.lastSegment? " a join b inner join c inner \u3000".toList := by decide +kernel
  have hend : EndsInQualifier (Text.trimEnd " c inner \u3000".toList) := by decide +kernel
  refine ⟨hw, hclause, ?_, hlast, hend, ?_⟩
  · exact (hstatement _ _ hclause (by decide +kernel)).mpr ⟨hfail, Or.inr hnot⟩
  · rw [hchain _ _ hlast hend]
    decide +kernel

/-- **A blank hides a qualifier at the end of a clause**: without the blank the clause fails, and
with it in front of a WHERE the statement is its own nested form. -/
theorem blanks_hide_qualifier :
    nestedBody "t".toList " a inner join b on p inner".toList =
      .error ⟨" a inner join b on p inner".toList, " b on p inner".toList⟩ ∧
    nestedBody "t".toList " a inner join b on p inner ".toList =
      .ok " a inner join b on p inner ".toList ∧
    Converter.uncached "t".toList "select * from a inner join b on p inner where c".toList =
      .ok "select * from a inner join b on p inner where c".toList ∧
    ¬ ∀ nameLead body w, (∀ c ∈ w, Text.isBlank c = true) →
      ((∃ m, nestedBody nameLead body = .error m) ↔
        ∃ m, nestedBody nameLead (body ++ w) = .error m) := by
  have hfail : nestedBody "t".toList " a inner join b on p inner".toList =
      .error ⟨" a inner join b on p inner".toList, " b on p inner".toList⟩ := rfl
  have hok : nestedBody "t".toList " a inner join b on p inner ".toList =
      .ok " a inner join b on p inner ".toList := rfl
  refine ⟨hfail, hok, rfl, fun hall => ?_⟩
  have hblank : ∀ c ∈ " ".toList, Text.isBlank c = true := List.all_eq_true.mp (by decide +kernel)
  obtain ⟨m, hm⟩ := (hall _ _ _ hblank).mp ⟨_, hfail⟩
  exact absurd (hok.symm.trans hm) (by simp)

end Group

end NestedJoin
