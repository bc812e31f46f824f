/-
# The outcome for a group, by its position

The groups of a clause are walked from the left, but the outcome for a group is told by the group,
its position and whether the clause has others (`Group.outcome_at_position`).  The other groups
have no part in it, as long as they have nested forms.

Two things are said of the group as it was given, though they are done to its nested form:

* whether it holds a join: the first marker may be broken up by a parenthesis
  (`Chain.hasJoin_of_nest`);
* the blanks around it, which stay outside of a derived table (`Chain.lead_of_nest`,
  `Chain.trail_of_nest`).

The blanks are found by byte offsets, and every such cut lies between two characters of the nested
form (`Group.deriveAtOffsets_eq`).
-/
import Mathlib.Data.List.Basic
import NestedJoin.Proofs.Group.Malformed
import NestedJoin.Proofs.Group.Results

namespace NestedJoin

/-! ## 1. Derived tables by byte offsets -/

namespace Group

/-- A derived table whose blanks are cut off at byte offsets: up to where the trimmed group begins,
and from where it ends. -/
def deriveAtOffsets (group name : Text) : Except Fault Text := do
  let start := Text.byteLength group - Text.byteLength (Text.trimStart group)
  let stop := start + Text.byteLength (Text.trim group)
  let before ← Text.slice group 0 start
  let behind ← Text.slice group stop (Text.byteLength group)
  return before ++ "(select * from ".toList ++ Text.trim group ++ ") as ".toList ++ name ++ behind

/-- **The offsets lie between two characters**, and what they cut off are the blanks. -/
theorem deriveAtOffsets_eq (group name : Text) :
    deriveAtOffsets group name = .ok (derive group name) := by
  have hcut := Text.lead_append_trim_append_trail group
  have hstart : Text.byteLength group - Text.byteLength (Text.trimStart group) =
      Text.byteLength (Text.lead group) := by
    have hlen := congrArg Text.byteLength (Text.lead_append_trimStart group)
    rw [Text.byteLength_append] at hlen
    omega
  have hbefore : Text.slice group 0 (Text.byteLength (Text.lead group)) =
      .ok (Text.lead group) := by
    have h := Text.slice_append [] (Text.lead group) (Text.trim group ++ Text.trail group)
    rwa [List.nil_append, List.nil_append, hcut] at h
  have hbehind : Text.slice group
      (Text.byteLength (Text.lead group) + Text.byteLength (Text.trim group))
      (Text.byteLength group) = .ok (Text.trail group) := by
    have h := Text.slice_append (Text.lead group ++ Text.trim group) (Text.trail group) []
    rwa [List.append_nil, List.append_assoc, hcut, Text.byteLength_append] at h
  rw [deriveAtOffsets]
  simp only [hstart, hbefore, hbehind, bind, Except.bind]
  rfl

/-! ## 2. Commas and groups -/

/-- A body has one group more than commas. -/
theorem length_split : ∀ body : Text, (split body).length = body.count ',' + 1
  | [] => rfl
  | c :: rest => by
    have ih : (rest.splitOn ',').length = rest.count ',' + 1 := length_split rest
    rw [split, List.splitOn_cons_eq_if_modifyHead]
    by_cases hc : c = ','
    · subst hc
      rw [if_pos (beq_self_eq_true ','), List.length_cons, ih, List.count_cons_self]
    · rw [if_neg (by simpa using hc), List.length_modifyHead, ih, List.count_cons_of_ne hc]

end Group

/-! ## 3. The outcome at a position -/

/-- An outcome is that for the group at a position of a clause, said of the group as it was given
and of whether the clause has several. -/
structure GroupOutcome.At (nameLead : Text) (several : Prop) (index : Nat) (o : GroupOutcome) :
    Prop where
  /-- It has the position. -/
  index_eq : o.index = index
  /-- The group holds no comma. -/
  comma_notMem : ',' ∉ o.given
  /-- It is a derived table now if it holds a marker and is not alone. -/
  derived_iff : o.derived = true ↔ several ∧ joinMarker <:+: o.given
  /-- Then it is the nested form of the group between the blanks of the group, with the name of the
  position, and the blanks are where the byte offsets say.  Or else it is the nested form. -/
  result_eq : ∃ nested, Chain.nest o.given = .ok nested ∧
    (o.derived = true →
      o.result = Text.lead o.given ++ "(select * from ".toList ++ Text.trim nested ++
        ") as ".toList ++ (nameLead ++ Nat.toDigits 10 index) ++ Text.trail o.given ∧
      Group.deriveAtOffsets nested (nameLead ++ Nat.toDigits 10 index) = .ok o.result) ∧
    (o.derived = false → o.result = nested)

namespace Group

theorem at_outcome (nameLead : Text) (several : Bool) (index : Nat) {group nested : Text}
    (hgroup : ',' ∉ group) (h : Chain.nest group = .ok nested) :
    (outcome nameLead several index group nested).At nameLead (several = true) index where
  index_eq := index_outcome nameLead several index group nested
  comma_notMem := by rwa [given_outcome]
  derived_iff := by rw [given_outcome, derived_outcome_iff h, Chain.hasJoin_iff]
  result_eq := by
    rw [given_outcome]
    refine ⟨nested, h, ?_⟩
    rw [outcome]
    split
    · refine ⟨fun _ => ⟨?_, deriveAtOffsets_eq nested _⟩, fun hd => absurd hd (by simp)⟩
      rw [derive, derivedName, Chain.lead_of_nest h, Chain.trail_of_nest h]
    · exact ⟨fun hd => absurd hd (by simp), fun _ => rfl⟩

/-- **A walk gives each group the outcome at its position.** -/
theorem getElem?_of_nestAll {nameLead : Text} {several : Bool} :
    ∀ {groups : List Text} {index : Nat} {outcomes : List GroupOutcome},
      nestAll nameLead several index groups = .ok outcomes →
      ∀ {i : Nat} {group : Text}, groups[i]? = some group →
        ∃ nested, Chain.nest group = .ok nested ∧
          outcomes[i]? = some (outcome nameLead several (index + i) group nested)
  | [], _, _, _, i, group, hi => by simp at hi
  | first :: rest, index, outcomes, h, i, group, hi => by
    obtain ⟨nested, more, hn, hr, rfl⟩ := nestAll_cons_eq_ok_iff.mp h
    cases i with
    | zero =>
      obtain rfl : first = group := by simpa using hi
      exact ⟨nested, hn, rfl⟩
    | succ i =>
      rw [List.getElem?_cons_succ] at hi ⊢
      have ih := getElem?_of_nestAll hr hi
      rwa [Nat.add_right_comm] at ih

/-- **The outcome for a group is told by the group, its position and whether it is alone.**

* There is one outcome more than the body has commas, and the groups that were given are the body.
* Each outcome is that of its position.
* Where a body of several groups has, at the same position, the same group as another one of several
  groups, it has the same outcome there, whatever its other groups are, provided that they have
  nested forms. -/
theorem outcome_at_position {nameLead body : Text} {outcomes : List GroupOutcome}
    (h : nestBody nameLead body = .ok outcomes) :
    outcomes.length = body.count ',' + 1 ∧
    join (outcomes.map (·.given)) = body ∧
    (∀ (i : Nat) (o : GroupOutcome), outcomes[i]? = some o →
      o.At nameLead (2 ≤ outcomes.length) i) ∧
    (∀ (i : Nat) (o : GroupOutcome) (groups : List Text), outcomes[i]? = some o →
      groups[i]? = some o.given → 2 ≤ outcomes.length → 2 ≤ groups.length →
      (∀ g ∈ groups, ',' ∉ g ∧ ∃ nested, Chain.nest g = .ok nested) →
      ∃ others, nestBody nameLead (join groups) = .ok others ∧ others[i]? = some o) := by
  have hlength : outcomes.length = (split body).length := length_nestBody h
  have hplace : ∀ (i : Nat) (o : GroupOutcome), outcomes[i]? = some o →
      (split body)[i]? = some o.given ∧ ∃ nested, Chain.nest o.given = .ok nested ∧
        o = outcome nameLead (1 < (split body).length) i o.given nested := by
    intro i o ho
    have hi : (split body)[i]? = some o.given := by
      rw [← map_given_of_nestAll h, List.getElem?_map, ho]
      rfl
    obtain ⟨nested, hn, hout⟩ := getElem?_of_nestAll h hi
    rw [Nat.zero_add, ho] at hout
    exact ⟨hi, nested, hn, Option.some.inj hout⟩
  refine ⟨hlength.trans (length_split body), join_given_of_nestBody h, ?_, ?_⟩
  · intro i o ho
    obtain ⟨hi, nested, hn, hout⟩ := hplace i o ho
    have hat := at_outcome nameLead (1 < (split body).length) i
      (comma_notMem_of_mem_split (List.mem_of_getElem? hi)) hn
    rwa [← hout, decide_eq_true_eq, ← hlength] at hat
  · intro i o groups ho hi hseveral hseveral' hgroups
    obtain ⟨-, nested, hn, hout⟩ := hplace i o ho
    have hsplit : split (join groups) = groups :=
      split_join (List.ne_nil_of_mem (List.mem_of_getElem? hi)) fun g hg => (hgroups g hg).1
    obtain ⟨others, hothers⟩ : ∃ others, nestBody nameLead (join groups) = .ok others := by
      refine exists_nestAll_eq_ok_iff.mpr fun g hg => ?_
      rw [hsplit] at hg
      exact (hgroups g hg).2
    refine ⟨others, hothers, ?_⟩
    rw [← hsplit] at hi
    obtain ⟨nested', hn', hout'⟩ := getElem?_of_nestAll hothers hi
    obtain rfl := Except.ok.inj (hn.symm.trans hn')
    -- Both clauses have several groups.
    have hboth : (1 < (split (join groups)).length) = (1 < (split body).length) := by
      rw [hsplit, ← hlength]
      exact propext ⟨fun _ => hseveral, fun _ => hseveral'⟩
    rw [hout', Nat.zero_add, hout, given_outcome]
    simp only [hboth]

/-- The first group begins with a wide blank and the blank of its first marker, from which the
opened parenthesis parts the word; it has the same outcome with one other group behind it. -/
theorem outcome_at_position_of_three_groups :
    nestBody "t1".toList "\u3000 join x inner join y\u00a0,\u2003a join b\u3000,c".toList =
      .ok [⟨0, "\u3000 join x inner join y\u00a0".toList,
          "\u3000 (select * from (join x) inner join y) as t10\u00a0".toList, true⟩,
        ⟨1, "\u2003a join b\u3000".toList,
          "\u2003(select * from a join b) as t11\u3000".toList, true⟩,
        ⟨2, "c".toList, "c".toList, false⟩] ∧
    GroupOutcome.At "t1".toList (2 ≤ 3) 0 ⟨0, "\u3000 join x inner join y\u00a0".toList,
      "\u3000 (select * from (join x) inner join y) as t10\u00a0".toList, true⟩ ∧
    ∃ others, nestBody "t1".toList (join ["\u3000 join x inner join y\u00a0".toList,
        "d join e left outer join f".toList]) = .ok others ∧
      others[0]? = some ⟨0, "\u3000 join x inner join y\u00a0".toList,
        "\u3000 (select * from (join x) inner join y) as t10\u00a0".toList, true⟩ := by
  have hbody : nestBody "t1".toList
      "\u3000 join x inner join y\u00a0,\u2003a join b\u3000,c".toList =
        .ok [⟨0, "\u3000 join x inner join y\u00a0".toList,
            "\u3000 (select * from (join x) inner join y) as t10\u00a0".toList, true⟩,
          ⟨1, "\u2003a join b\u3000".toList,
            "\u2003(select * from a join b) as t11\u3000".toList, true⟩,
          ⟨2, "c".toList, "c".toList, false⟩] := by decide +kernel
  obtain ⟨-, -, hat, hreplace⟩ := outcome_at_position hbody
  refine ⟨hbody, hat 0 _ rfl, hreplace 0 _ _ rfl rfl (by decide) (by decide) ?_⟩
  refine List.forall_mem_cons.mpr ⟨⟨by decide +kernel, ?_⟩, List.forall_mem_singleton.mpr
    ⟨by decide +kernel, ?_⟩⟩
  · exact ⟨"\u3000 (join x) inner join y\u00a0".toList, by decide +kernel⟩
  · exact ⟨"(d join e) left outer join f".toList, by decide +kernel⟩

end Group

end NestedJoin
