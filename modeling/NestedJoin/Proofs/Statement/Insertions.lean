/-
# Nesting only inserts, and how much

A statement goes through five cuts on the way to its nested form: at the clause, at the commas, at
the markers, and at the blanks around a chain and around a group.  No cut loses, doubles or moves a
character, so the statement is a subsequence of its nested form, and what is added can be counted to
the byte: two bytes for each join of a group but its first, and in a clause of several groups twenty
bytes and a name for each group that holds a marker (`Converter.insertions_of_uncached`).
-/
import NestedJoin.Proofs.Chain.Parenthesized
import NestedJoin.Proofs.Converter.Uncached

namespace NestedJoin

/-! ## 1. Subsequences and their bytes -/

namespace Text

theorem byteLength_le_of_sublist {s t : Text} (h : s.Sublist t) : byteLength s ≤ byteLength t := by
  induction h with
  | slnil => exact Nat.le_refl _
  | cons c _ ih =>
    rw [byteLength_cons]
    omega
  | cons_cons c _ ih =>
    rw [byteLength_cons, byteLength_cons]
    omega

/-- A subsequence of as many bytes is the whole. -/
theorem eq_of_sublist_of_byteLength {s t : Text} (h : s.Sublist t)
    (hlen : byteLength s = byteLength t) : s = t := by
  induction h with
  | slnil => rfl
  | @cons s t c h _ =>
    have hle := byteLength_le_of_sublist h
    have hpos := c.utf8Size_pos
    rw [byteLength_cons] at hlen
    omega
  | cons_cons c _ ih =>
    rw [byteLength_cons, byteLength_cons] at hlen
    rw [ih (by omega)]

end Text

theorem additive_sublist : Additive (List.Sublist (α := Char)) where
  refl := List.Sublist.refl
  append := List.Sublist.append

/-! ## 2. Groups -/

namespace Group

/-- **A group is a subsequence of its result.** -/
theorem sublist_outcome {nameLead : Text} {several : Bool} {index : Nat} {group nested : Text}
    (h : Chain.nest group = .ok nested) :
    group.Sublist (outcome nameLead several index group nested).result := by
  have hnest := Chain.sublist_of_nest h
  rw [outcome]
  split
  · exact hnest.trans (sublist_derive nested _)
  · exact hnest

/-- The bytes that the parentheses of nested chains add: two for each marker but the first of a
group. -/
def chainBytes (groups : List Text) : Nat :=
  (groups.map fun g => 2 * (Chain.markerCount g - 1)).sum

/-- The bytes that derived tables add: in a clause of several groups, those of one around each group
that holds a marker. -/
def tableBytes (nameLead : Text) (groups : List Text) : Nat :=
  (groups.zipIdx.map fun x =>
    if 2 ≤ groups.length ∧ 1 ≤ Chain.markerCount x.1 then derivedBytes nameLead x.2 else 0).sum

/-- What is added to all groups is what their chains and what their tables add. -/
theorem sum_addedBytes (nameLead : Text) (several : Bool) : ∀ (groups : List Text) (index : Nat),
    ((groups.zipIdx index).map fun (g, i) => addedBytes nameLead several g i).sum =
      chainBytes groups +
        ((groups.zipIdx index).map fun x =>
          if several = true ∧ 1 ≤ Chain.markerCount x.1 then derivedBytes nameLead x.2 else 0).sum
  | [], _ => rfl
  | group :: rest, index => by
    have ih := sum_addedBytes nameLead several rest (index + 1)
    have hchain : chainBytes (group :: rest) =
        2 * (Chain.markerCount group - 1) + chainBytes rest := by simp [chainBytes]
    rw [List.zipIdx_cons, List.map_cons, List.map_cons, List.sum_cons, List.sum_cons, ih, hchain]
    simp only [addedBytes]
    omega

/-- **What a body gains** when its groups have nested forms. -/
theorem byteLength_nestBody {nameLead body : Text} {outcomes : List GroupOutcome}
    (h : nestBody nameLead body = .ok outcomes) :
    Text.byteLength (joinResults outcomes) =
      Text.byteLength body + (chainBytes (split body) + tableBytes nameLead (split body)) := by
  have hne : split body ≠ [] := List.splitOn_ne_nil ',' body
  rw [byteLength_joinResults hne h, join_split, sum_addedBytes]
  simp only [decide_eq_true_eq]
  rfl

/-- Nothing is added by chains of one join at most. -/
theorem chainBytes_eq_zero_iff {groups : List Text} :
    chainBytes groups = 0 ↔ ∀ g ∈ groups, Chain.markerCount g ≤ 1 := by
  rw [chainBytes, List.sum_eq_zero_iff_forall_eq_nat]
  simp only [List.forall_mem_map]
  refine forall₂_congr fun g _ => ?_
  omega

/-- Nothing is added by derived tables where there is a single group, or no group with a marker. -/
theorem tableBytes_eq_zero_iff {nameLead : Text} {groups : List Text} :
    tableBytes nameLead groups = 0 ↔
      groups.length ≤ 1 ∨ ∀ g ∈ groups, Chain.markerCount g = 0 := by
  have hpos : ∀ i, derivedBytes nameLead i ≠ 0 := fun i => by
    rw [derivedBytes]
    omega
  rw [tableBytes, List.sum_eq_zero_iff_forall_eq_nat]
  simp only [List.forall_mem_map]
  constructor
  · intro h
    by_cases hlen : groups.length ≤ 1
    · exact Or.inl hlen
    · refine Or.inr fun g hg => ?_
      obtain ⟨i, hi⟩ := List.mem_iff_getElem?.mp hg
      have hzero := h (g, i) (List.mem_zipIdx_iff_getElem?.mpr hi)
      rcases Nat.eq_zero_or_pos (Chain.markerCount g) with hm | hm
      · exact hm
      · rw [if_pos ⟨by omega, hm⟩] at hzero
        exact absurd hzero (hpos i)
  · rintro h ⟨g, i⟩ hgi
    refine if_neg fun hboth => ?_
    rcases h with hlen | hm
    · omega
    · have hzero := hm g (List.fst_mem_of_mem_zipIdx hgi)
      have hone : 1 ≤ Chain.markerCount g := hboth.2
      omega

/-- Nothing at all is added to a single group with one marker at most, or where no group holds
one. -/
theorem chainBytes_add_tableBytes_eq_zero_iff (nameLead : Text) {groups : List Text}
    (hne : groups ≠ []) :
    chainBytes groups + tableBytes nameLead groups = 0 ↔
      (∃ g, groups = [g] ∧ Chain.markerCount g ≤ 1) ∨ ∀ g ∈ groups, Chain.markerCount g = 0 := by
  rw [Nat.add_eq_zero_iff, chainBytes_eq_zero_iff, tableBytes_eq_zero_iff]
  constructor
  · rintro ⟨hchain, hlen | hm⟩
    · obtain ⟨g, more, rfl⟩ := List.exists_cons_of_ne_nil hne
      have hmore : more = [] := List.eq_nil_of_length_eq_zero (by simpa using hlen)
      subst hmore
      exact Or.inl ⟨g, rfl, hchain g (by simp)⟩
    · exact Or.inr hm
  · rintro (⟨g, rfl, hg⟩ | hm)
    · exact ⟨by simpa using hg, Or.inl (Nat.le_refl 1)⟩
    · exact ⟨fun g hg => by rw [hm g hg]; omega, Or.inr hm⟩

end Group

/-! ## 3. Statements -/

namespace Statement

/-- **The bytes of a statement whose clause takes a nested form.** -/
theorem byteLength_of_nest {nameLead sql out : Text} {c : Clause} (hc : clause? sql = some c)
    (h : nest nameLead sql = .ok out) :
    Text.byteLength out = Text.byteLength sql + Group.chainBytes (Group.split c.body) +
      Group.tableBytes nameLead (Group.split c.body) := by
  obtain ⟨outcomes, hb, rfl⟩ := (nest_eq_ok_iff hc).mp h
  have hbody := Group.byteLength_nestBody hb
  have hsql : Text.byteLength sql = Text.byteLength (c.withBody c.body) := by
    rw [append_of_clause? hc]
  rw [hsql, Clause.withBody, Clause.withBody]
  simp only [Text.byteLength_append, hbody]
  omega

end Statement

namespace Converter

/-- **What nesting inserts.**  The statement is a subsequence of its nested form.  The clause of a
SELECT gains the bytes of its chains and of its derived tables, and any other statement nothing.  So
a statement is left as it is exactly if it is no SELECT, or has no clause, or a clause of a single
group with one marker at most, or one without any marker. -/
theorem insertions_of_uncached {nameLead sql out : Text}
    (h : Converter.uncached nameLead sql = .ok out) :
    sql.Sublist out ∧
    (∀ c, Statement.isSelect sql = true → Clause.cut? sql = some c →
      Text.byteLength out = Text.byteLength sql + Group.chainBytes (Group.split c.body) +
        Group.tableBytes nameLead (Group.split c.body)) ∧
    (Statement.isSelect sql = false ∨ Clause.cut? sql = none → out = sql) ∧
    (out = sql ↔ Statement.isSelect sql = false ∨ Clause.cut? sql = none ∨
      ∃ c, Clause.cut? sql = some c ∧
        ((∃ g, Group.split c.body = [g] ∧ Chain.markerCount g ≤ 1) ∨
          ∀ g ∈ Group.split c.body, Chain.markerCount g = 0)) := by
  rw [uncached_eq_nest] at h
  have hsub : sql.Sublist out := Statement.rel_of_nest additive_sublist
    (fun _ _ _ _ hn => Group.sublist_outcome hn) h
  have hclause : ∀ c, Statement.isSelect sql = true → Clause.cut? sql = some c →
      Text.byteLength out = Text.byteLength sql + Group.chainBytes (Group.split c.body) +
        Group.tableBytes nameLead (Group.split c.body) :=
    fun c hs hc => Statement.byteLength_of_nest (Statement.clause?_eq_some_iff.mpr ⟨hs, hc⟩) h
  have hpass : Statement.isSelect sql = false ∨ Clause.cut? sql = none → out = sql := fun hn =>
    Statement.eq_of_nest_of_clause?_eq_none (Statement.clause?_eq_none_iff.mpr hn) h
  refine ⟨hsub, hclause, hpass, ?_⟩
  cases hs : Statement.isSelect sql with
  | false => exact iff_of_true (hpass (Or.inl hs)) (Or.inl rfl)
  | true =>
    cases hc : Clause.cut? sql with
    | none => exact iff_of_true (hpass (Or.inr hc)) (Or.inr (Or.inl rfl))
    | some c =>
      have hbytes := hclause c hs hc
      have hne : Group.split c.body ≠ [] := List.splitOn_ne_nil ',' c.body
      have hadded := Group.chainBytes_add_tableBytes_eq_zero_iff nameLead hne
      constructor
      · intro heq
        rw [heq] at hbytes
        exact Or.inr (Or.inr ⟨c, rfl, hadded.mp (by omega)⟩)
      · rintro (h | h | ⟨c', hc', hgroups⟩)
        · exact absurd h (by simp)
        · exact absurd h (by simp)
        · obtain rfl := Option.some.inj hc'
          have hzero := hadded.mpr hgroups
          exact (Text.eq_of_sublist_of_byteLength hsub (by omega)).symm

/-- Two joins in the first of two groups: two bytes for the second of them, and twenty and a name of
two bytes for the derived table. -/
theorem insertions_of_uncached_two_joins :
    Text.byteLength "select*from (select * from (a join b) inner join c) as t0,d".toList =
      Text.byteLength "select*from a join b inner join c,d".toList + 2 + 22 := by
  have hchain : Group.chainBytes (Group.split " a join b inner join c,d".toList) = 2 := by
    decide +kernel
  have htable : Group.tableBytes "t".toList
      (Group.split " a join b inner join c,d".toList) = 22 := by
    decide +kernel
  have hout : uncached "t".toList "select*from a join b inner join c,d".toList =
      .ok "select*from (select * from (a join b) inner join c) as t0,d".toList := rfl
  have hbytes := (insertions_of_uncached hout).2.1
    ⟨"select*".toList, "from".toList, " a join b inner join c,d".toList, []⟩
    (by decide +kernel) (by decide +kernel)
  rw [hchain, htable] at hbytes
  exact hbytes

end Converter

end NestedJoin
