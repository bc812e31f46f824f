/-
# Nesting does no damage to parentheses

Commas and markers cut a clause without regard to parentheses, so a group or a segment may open what
it does not close.  Even so the nested form ends at the depth of the statement and never goes below
the least depth of it (`Converter.depth_of_uncached`): within each group every parenthesis that is
opened stands in front of every one that is closed, and there are as many of both.

The relation between a text and its nested form is `Text.NoShallower`.  Putting texts together keeps
it, so it is shown for a chain and for a derived table, and lifted from there.
-/
import NestedJoin.Proofs.Converter.Uncached
import NestedJoin.Proofs.Text.Depth

namespace NestedJoin

/-! ## 1. The relation -/

namespace Text

/-- The second text ends at the depth of the first and nowhere goes below its least depth. -/
structure NoShallower (s t : Text) : Prop where
  final : finalDepth t = finalDepth s
  least : leastDepth s ≤ leastDepth t

theorem additive_noShallower : Additive NoShallower where
  refl _ := ⟨rfl, Int.le_refl _⟩
  append {s s' t t'} hs ht := by
    have hs1 := hs.final
    have hs2 := hs.least
    have ht1 := ht.final
    have ht2 := ht.least
    refine ⟨?_, ?_⟩
    · rw [finalDepth_append, finalDepth_append, hs1, ht1]
    · rw [leastDepth_append, leastDepth_append]
      omega

theorem NoShallower.trans {s t u : Text} (h : NoShallower s t) (h' : NoShallower t u) :
    NoShallower s u :=
  ⟨h'.final.trans h.final, Int.le_trans h.least h'.least⟩

/-- A text that is never shallower than a well-nested one is well nested. -/
theorem NoShallower.wellNested {s t : Text} (h : NoShallower s t) (hs : WellNested s) :
    WellNested t := by
  obtain ⟨hfinal, hleast⟩ := wellNested_iff.mp hs
  have hnonpos := leastDepth_nonpos t
  have hle := h.least
  exact wellNested_iff.mpr ⟨h.final.trans hfinal, by omega⟩

end Text

open Text

/-! ## 2. Chains -/

namespace Chain

theorem noParens_joinMarker : NoParens joinMarker := by decide +kernel

theorem noParens_suffix (q : Qualifier) : NoParens q.suffix := by
  cases q <;> decide +kernel

/-- Behind the first marker one parenthesis is closed for each later join. -/
theorem finalDepth_writeTail : ∀ (t : Text) (links : List (Qualifier × Text)),
    finalDepth (JoinList.writeTail [')'] t links) =
      finalDepth (JoinList.writeTail [] t links) - links.length
  | _, [] => by simp [JoinList.writeTail]
  | t, (q, u) :: rest => by
    have ih := finalDepth_writeTail u rest
    have hclose : finalDepth [')'] = -1 := rfl
    simp only [JoinList.writeTail_cons, Text.finalDepth_append, finalDepth_nil, hclose,
      (noParens_suffix q).depths.1, noParens_joinMarker.depths.1, ih, List.length_cons]
    omega

/-- So the text goes down by no more than that. -/
theorem leastDepth_writeTail : ∀ (t : Text) (links : List (Qualifier × Text)),
    leastDepth (JoinList.writeTail [] t links) - links.length ≤
      leastDepth (JoinList.writeTail [')'] t links)
  | _, [] => by simp [JoinList.writeTail]
  | t, (q, u) :: rest => by
    have ih := leastDepth_writeTail u rest
    have hplain : leastDepth (q.suffix ++ (joinMarker ++ JoinList.writeTail [] u rest)) =
        leastDepth (JoinList.writeTail [] u rest) := by
      rw [(noParens_suffix q).leastDepth_append, noParens_joinMarker.leastDepth_append]
    have hclosed : leastDepth ([')'] ++ (q.suffix ++ (joinMarker ++
        JoinList.writeTail [')'] u rest))) = leastDepth (JoinList.writeTail [')'] u rest) - 1 := by
      have hfinal : finalDepth [')'] = -1 := rfl
      have hleast : leastDepth [')'] = -1 := rfl
      have hnonpos := leastDepth_nonpos (JoinList.writeTail [')'] u rest)
      rw [Text.leastDepth_append, (noParens_suffix q).leastDepth_append,
        noParens_joinMarker.leastDepth_append, hfinal, hleast]
      omega
    rw [JoinList.writeTail_cons, JoinList.writeTail_cons, List.nil_append,
      Text.leastDepth_append t, hplain, Text.leastDepth_append t, hclosed, List.length_cons]
    omega

/-- The parentheses that are opened raise everything behind the leading blanks. -/
theorem depths_openAfterLead (depth : Nat) (t : Text) :
    finalDepth (openAfterLead depth t) = finalDepth t + depth ∧
      leastDepth (openAfterLead depth t) = min 0 (leastDepth t + depth) := by
  have hlead := noParens_lead t
  obtain ⟨hfinal, hleast⟩ := depths_trimStart t
  rw [openAfterLead, hlead.finalDepth_append, hlead.leastDepth_append, Text.finalDepth_append,
    Text.leastDepth_append, finalDepth_replicate, leastDepth_replicate, hfinal, hleast]
  constructor <;> omega

/-- **A chain and its nested form.** -/
theorem noShallower_of_nest {chain out : Text} (h : nest chain = .ok out) :
    NoShallower chain out := by
  rcases nest_eq_ok_iff.mp h with ⟨-, rfl⟩ | ⟨p, -, rfl, rfl⟩
  · exact additive_noShallower.refl _
  · obtain ⟨hfinal, hleast⟩ := depths_openAfterLead p.links.length p.closed
    have htail1 := finalDepth_writeTail p.first p.links
    have htail2 := leastDepth_writeTail p.first p.links
    have hnonpos := leastDepth_nonpos (JoinList.writeTail [] p.first p.links)
    refine ⟨?_, ?_⟩
    · rw [hfinal, JoinList.closed, JoinList.flat, JoinList.write, JoinList.write]
      simp only [Text.finalDepth_append, htail1]
      omega
    · have hchain := leastDepth_nonpos p.flat
      rw [hleast]
      rw [JoinList.flat, JoinList.write, Text.leastDepth_append,
        noParens_joinMarker.leastDepth_append] at hchain ⊢
      rw [JoinList.closed, JoinList.write, Text.leastDepth_append,
        noParens_joinMarker.leastDepth_append]
      omega

end Chain

/-! ## 3. Derived tables -/

namespace Group

theorem noShallower_derive (group : Text) {name : Text} (hname : NoParens name) :
    NoShallower group (derive group name) := by
  have hlead := noParens_lead group
  have htrail := noParens_trail group
  have hopen : finalDepth "(select * from ".toList = 1 ∧ leastDepth "(select * from ".toList = 0 := by
    decide +kernel
  have hclose : finalDepth ") as ".toList = -1 ∧ leastDepth ") as ".toList = -1 := by
    decide +kernel
  obtain ⟨hfinal, hleast⟩ := depths_trim group
  have hnonpos := leastDepth_nonpos (trim group)
  have hle := leastDepth_le_finalDepth (trim group)
  simp only [derive, List.append_assoc]
  refine ⟨?_, ?_⟩
  · rw [hlead.finalDepth_append, Text.finalDepth_append, Text.finalDepth_append,
      Text.finalDepth_append, hname.finalDepth_append, htrail.depths.1, hopen.1, hclose.1, hfinal]
    omega
  · rw [hlead.leastDepth_append, Text.leastDepth_append, Text.leastDepth_append,
      Text.leastDepth_append, hname.leastDepth_append, htrail.depths.2, hopen.1, hopen.2,
      hclose.1, hclose.2, hleast]
    omega

/-- **A group and its result**, where the lead of the names holds no parenthesis. -/
theorem noShallower_outcome {nameLead : Text} (hlead : NoParens nameLead) (several : Bool)
    (index : Nat) {group nested : Text} (h : Chain.nest group = .ok nested) :
    NoShallower group (outcome nameLead several index group nested).result := by
  have hnest := Chain.noShallower_of_nest h
  rw [outcome]
  split
  · exact hnest.trans (noShallower_derive nested (hlead.append (noParens_toDigits index)))
  · exact hnest

end Group

/-! ## 4. Statements -/

/-- **The depth of a statement is kept.**  The nested form ends at the same depth and nowhere goes
below the least depth of the statement; so it is well nested if the statement is. -/
theorem Converter.depth_of_uncached {nameLead sql out : Text}
    (hlead : '(' ∉ nameLead ∧ ')' ∉ nameLead) (h : Converter.uncached nameLead sql = .ok out) :
    finalDepth out = finalDepth sql ∧ leastDepth sql ≤ leastDepth out ∧
      (WellNested sql → WellNested out) := by
  rw [Converter.uncached_eq_nest] at h
  have hall : NoShallower sql out := Statement.rel_of_nest additive_noShallower
    (fun several index group nested hn => Group.noShallower_outcome hlead several index hn) h
  exact ⟨hall.final, hall.least, hall.wellNested⟩

/-- A comma cuts the inner SELECT in two, and the second half with its join becomes a derived table
that closes a parenthesis it does not open. -/
theorem Converter.depth_of_uncached_cut_select :
    WellNested "select*from(select a,(select * from b from t)d inner join u) as t1,v".toList := by
  have hlead : '(' ∉ "t".toList ∧ ')' ∉ "t".toList := by decide +kernel
  have hout : Converter.uncached "t".toList "select*from(select a,b from t)d inner join u,v".toList =
      .ok "select*from(select a,(select * from b from t)d inner join u) as t1,v".toList := rfl
  have hsql : WellNested "select*from(select a,b from t)d inner join u,v".toList :=
    wellNested_iff.mpr (by decide +kernel)
  exact (Converter.depth_of_uncached hlead hout).2.2 hsql

end NestedJoin
