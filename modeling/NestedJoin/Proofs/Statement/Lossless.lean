/-
# A statement can be read back from its nested form

What nesting puts into a statement can stand in a statement from the beginning: parentheses, a
`select * from`, a name.  Yet two statements with the same nested form are the same
(`Converter.uncached_injective`), where the lead of the names is an identifier without a WHERE and
each group has a table in front of its first join.

The nested form is taken apart from the outside.  It is cut at its clause and at its commas where
the statement was (`Statement.clause?_of_nest`, `Group.split_joinResults`).  A result holds a marker
exactly if its group did, so it tells whether it is a derived table, and then the words of the table
stand at its ends, between blanks that are those of the group (`Group.derive_injective`).  What is
left is the nested form of a chain (`Chain.nest_injective`).
-/
import NestedJoin.Proofs.Chain.Lossless
import NestedJoin.Proofs.Statement.Cuts

namespace NestedJoin

/-! ## 1. Groups -/

namespace Group

/-- **A derived table holds a marker** if its group does. -/
theorem hasJoin_derive {group : Text} (h : Chain.hasJoin group = true) (name : Text) :
    Chain.hasJoin (derive group name) = true := by
  rw [Chain.hasJoin_iff] at h ⊢
  rw [← Text.lead_append_trim_append_trail group] at h
  have hcore : joinMarker <:+: (' ' :: Text.trim group) ++ Text.trail group :=
    Chain.marker_infix_of_blanks_append (fun _ => Text.isBlank_of_mem_lead) h
  have htrim : joinMarker <:+: ' ' :: Text.trim group :=
    Chain.marker_infix_of_append_blanks (fun _ => Text.isBlank_of_mem_trail) hcore
  have hpiece : ' ' :: Text.trim group <:+: derive group name := by
    refine ⟨Text.lead group ++ "(select * from".toList,
      ") as ".toList ++ (name ++ Text.trail group), ?_⟩
    have hopen : "(select * from ".toList = "(select * from".toList ++ [' '] := rfl
    simp only [derive, hopen, List.append_assoc, List.cons_append, List.nil_append]
  exact htrim.trans hpiece

/-- The blanks in front of a derived table are those of its group. -/
theorem lead_derive (group name : Text) : Text.lead (derive group name) = Text.lead group := by
  have hopen : "(select * from ".toList = '(' :: "select * from ".toList := rfl
  simp only [derive, hopen, List.append_assoc, List.cons_append]
  rw [Text.lead_append_of_blank (fun _ => Text.isBlank_of_mem_lead),
    Text.lead_cons_of_not_blank (by decide), List.append_nil]

/-- **Derived tables of the same name tell their groups**, if the name does not end in a blank. -/
theorem derive_injective {group group' front : Text} {c : Char} (hc : Text.isBlank c = false)
    (h : derive group (front ++ [c]) = derive group' (front ++ [c])) : group = group' := by
  have hlead : Text.lead group = Text.lead group' := by
    rw [← lead_derive group (front ++ [c]), h, lead_derive]
  simp only [derive, hlead, List.append_assoc, List.cons_append, List.nil_append] at h
  have hbody := List.append_cancel_left (List.append_cancel_left h)
  have htrail : Text.trail group = Text.trail group' := by
    simp only [← List.append_assoc] at hbody
    exact Text.eq_of_append_blank (fun _ => Text.isBlank_of_mem_trail)
      (fun _ => Text.isBlank_of_mem_trail) hc hc hbody
  rw [htrail] at hbody
  have htrim : Text.trim group = Text.trim group' := List.append_cancel_right hbody
  rw [← Text.lead_append_trim_append_trail group, hlead, htrim, htrail,
    Text.lead_append_trim_append_trail]

/-- The name of a derived table ends in a digit. -/
theorem exists_derivedName_eq (nameLead : Text) (index : Nat) :
    ∃ front c, derivedName nameLead index = front ++ [c] ∧ Text.isBlank c = false := by
  have hne : Nat.toDigits 10 index ≠ [] := by simp
  refine ⟨nameLead ++ (Nat.toDigits 10 index).dropLast, (Nat.toDigits 10 index).getLast hne, ?_, ?_⟩
  · rw [derivedName, List.append_assoc, List.dropLast_concat_getLast]
  · exact Text.isBlank_eq_false_of_isDigit
      (Nat.isDigit_of_mem_toDigits (by decide) (by decide) (List.getLast_mem hne))

variable {nameLead : Text} {several : Bool} {index : Nat}

/-- **A result holds a marker** exactly if the nested form of its group does. -/
theorem hasJoin_result (nameLead : Text) (several : Bool) (index : Nat) (group nested : Text) :
    Chain.hasJoin (outcome nameLead several index group nested).result = Chain.hasJoin nested := by
  rw [outcome]
  split
  · next h =>
    rw [Bool.and_eq_true] at h
    rw [h.2]
    exact hasJoin_derive h.2 _
  · rfl

/-- **Equal results come from equal nested forms.** -/
theorem result_injective {group group' nested nested' : Text}
    (h : (outcome nameLead several index group nested).result =
      (outcome nameLead several index group' nested').result) : nested = nested' := by
  have hjoin : Chain.hasJoin nested = Chain.hasJoin nested' := by
    rw [← hasJoin_result nameLead several index group nested, h, hasJoin_result]
  rw [outcome, outcome, hjoin] at h
  split at h
  · obtain ⟨front, c, hname, hc⟩ := exists_derivedName_eq nameLead index
    rw [hname] at h
    exact derive_injective hc h
  · exact h

/-- **Lists of groups with the same results are the same**, if each group has a table in front of
its first join. -/
theorem nestAll_injective : ∀ {groups groups' : List Text} {index : Nat}
    {outcomes outcomes' : List GroupOutcome},
    (∀ g ∈ groups, Chain.TableFirst g) → (∀ g ∈ groups', Chain.TableFirst g) →
    nestAll nameLead several index groups = .ok outcomes →
    nestAll nameLead several index groups' = .ok outcomes' →
    outcomes.map (·.result) = outcomes'.map (·.result) → groups = groups'
  | [], [], _, _, _, _, _, _, _, _ => rfl
  | [], group :: rest, _, outcomes, outcomes', _, _, h, h', hr => by
    have hlen := congrArg List.length hr
    rw [List.length_map, List.length_map, length_nestAll h, length_nestAll h'] at hlen
    exact absurd hlen (by simp)
  | group :: rest, [], _, outcomes, outcomes', _, _, h, h', hr => by
    have hlen := congrArg List.length hr
    rw [List.length_map, List.length_map, length_nestAll h, length_nestAll h'] at hlen
    exact absurd hlen (by simp)
  | group :: rest, group' :: rest', index, outcomes, outcomes', ht, ht', h, h', hr => by
    obtain ⟨nested, more, hn, hm, rfl⟩ := nestAll_cons_eq_ok_iff.mp h
    obtain ⟨nested', more', hn', hm', rfl⟩ := nestAll_cons_eq_ok_iff.mp h'
    rw [List.map_cons, List.map_cons] at hr
    obtain ⟨hresult, hmore⟩ := List.cons.inj hr
    have hrest : rest = rest' := nestAll_injective (fun g hg => ht g (List.mem_cons_of_mem _ hg))
      (fun g hg => ht' g (List.mem_cons_of_mem _ hg)) hm hm' hmore
    rw [result_injective hresult] at hn
    have hgroup : group = group' :=
      Chain.nest_injective (ht group List.mem_cons_self) (ht' group' List.mem_cons_self) hn hn'
    rw [hgroup, hrest]

/-- **Bodies with the same results put together are the same.** -/
theorem nestBody_injective {body body' : Text} {outcomes outcomes' : List GroupOutcome}
    (hlead : ',' ∉ nameLead) (ht : ∀ g ∈ split body, Chain.TableFirst g)
    (ht' : ∀ g ∈ split body', Chain.TableFirst g)
    (h : nestBody nameLead body = .ok outcomes) (h' : nestBody nameLead body' = .ok outcomes')
    (hr : joinResults outcomes = joinResults outcomes') : body = body' := by
  have hresults : outcomes.map (·.result) = outcomes'.map (·.result) := by
    rw [← split_joinResults hlead h, hr, split_joinResults hlead h']
  have hlen : (split body).length = (split body').length := by
    rw [← length_nestBody h, ← length_nestBody h', ← List.length_map, hresults, List.length_map]
  rw [nestBody] at h h'
  rw [← hlen] at h'
  have hgroups : split body = split body' := nestAll_injective ht ht' h h' hresults
  rw [← join_split body, hgroups, join_split]

end Group

/-! ## 2. Statements -/

/-- Each group of the clause that takes a nested form, if there is one, has a table in front of its
first join. -/
def Statement.TablesFirst (sql : Text) : Prop :=
  ∀ c ∈ Statement.clause? sql, ∀ g ∈ Group.split c.body, Chain.TableFirst g

instance (sql : Text) : Decidable (Statement.TablesFirst sql) :=
  inferInstanceAs (Decidable (∀ c ∈ Statement.clause? sql, ∀ g ∈ Group.split c.body, _))

namespace Statement

/-- The nested form has a clause that takes one exactly if its statement has. -/
theorem isSome_clause?_of_nest {nameLead sql out : Text} (hlead : SafeLead nameLead)
    (h : nest nameLead sql = .ok out) : (clause? out).isSome = (clause? sql).isSome := by
  cases hc : clause? sql with
  | none => rw [eq_of_nest_of_clause?_eq_none hc h, hc]
  | some c =>
    obtain ⟨outcomes, -, hout⟩ := clause?_of_nest hlead hc h
    rw [hout]
    rfl

/-- **Statements with the same nested form are the same.** -/
theorem nest_injective {nameLead s t out : Text} (hlead : SafeLead nameLead)
    (hs : TablesFirst s) (ht : TablesFirst t) (h : nest nameLead s = .ok out)
    (h' : nest nameLead t = .ok out) : s = t := by
  have hsome : (clause? s).isSome = (clause? t).isSome := by
    rw [← isSome_clause?_of_nest hlead h, isSome_clause?_of_nest hlead h']
  cases hc : clause? s with
  | none =>
    cases hc' : clause? t with
    | none =>
      rw [← eq_of_nest_of_clause?_eq_none hc h]
      exact eq_of_nest_of_clause?_eq_none hc' h'
    | some c' => exact absurd hsome (by simp [hc, hc'])
  | some c =>
    cases hc' : clause? t with
    | none => exact absurd hsome (by simp [hc, hc'])
    | some c' =>
      obtain ⟨outcomes, hbody, hcut⟩ := clause?_of_nest hlead hc h
      obtain ⟨outcomes', hbody', hcut'⟩ := clause?_of_nest hlead hc' h'
      obtain ⟨hbefore, hword, hresults, htail⟩ :=
        Clause.mk.inj (Option.some.inj (hcut.symm.trans hcut'))
      have hcomma : ',' ∉ nameLead := Config.comma_notMem_of_isIdentifier hlead.identifier
      have hbodies : c.body = c'.body :=
        Group.nestBody_injective hcomma (hs c hc) (ht c' hc') hbody hbody' hresults
      rw [← append_of_clause? hc, ← append_of_clause? hc', Clause.withBody, Clause.withBody,
        Clause.head, Clause.head, hbefore, hword, hbodies, htail]

end Statement

namespace Converter

/-- **Nesting loses nothing.**  Under a lead that is an identifier and does not hold WHERE, two
statements whose groups have a table in front of their first join, and that have the same nested
form, are the same.  This is so too where one of them, or both, are passed through as they are. -/
theorem uncached_injective {nameLead s t out : Text}
    (hlead : Config.isIdentifier nameLead = true) (hwhere : ¬ Text.Holds whereWord nameLead)
    (hs : Statement.TablesFirst s) (ht : Statement.TablesFirst t)
    (h : Converter.uncached nameLead s = .ok out) (h' : Converter.uncached nameLead t = .ok out) :
    s = t := by
  rw [uncached_eq_nest] at h h'
  exact Statement.nest_injective ⟨hlead, hwhere⟩ hs ht h h'

/-- A statement that is nested already, and one that is put together from its groups. -/
theorem uncached_injective_of_nested :
    Config.isIdentifier "t".toList = true ∧ ¬ Text.Holds whereWord "t".toList ∧
    Statement.TablesFirst "select*from(a join b) inner join c,d".toList ∧
    Converter.uncached "t".toList "select*from(a join b) inner join c,d".toList =
      .ok "select*from(select * from ((a join b)) inner join c) as t0,d".toList ∧
    "select*from(a join b) inner join c,d".toList =
      "select*from".toList ++
        Group.join ["(a join b) inner join c".toList, "d".toList] := by
  have hlead : Config.isIdentifier "t".toList = true := by decide +kernel
  have hwhere : ¬ Text.Holds whereWord "t".toList := by decide +kernel
  have hs : Statement.TablesFirst "select*from(a join b) inner join c,d".toList := by
    decide +kernel
  have ht : Statement.TablesFirst ("select*from".toList ++
      Group.join ["(a join b) inner join c".toList, "d".toList]) := by
    decide +kernel
  have hout : Converter.uncached "t".toList "select*from(a join b) inner join c,d".toList =
      .ok "select*from(select * from ((a join b)) inner join c) as t0,d".toList := rfl
  have hout' : Converter.uncached "t".toList ("select*from".toList ++
      Group.join ["(a join b) inner join c".toList, "d".toList]) =
      .ok "select*from(select * from ((a join b)) inner join c) as t0,d".toList := rfl
  exact ⟨hlead, hwhere, hs, hout, uncached_injective hlead hwhere hs ht hout hout'⟩

end Converter

end NestedJoin
