/-
# A chain can be read back from its nested form

Nesting puts in parentheses, and the chain may hold parentheses of its own.  Yet two chains with the
same nested form are the same (`Chain.nest_injective`), if each has a table in front of its first
join (`Chain.TableFirst`).  Then the opening parentheses stand in the text in front of the first
marker, and every marker of the chain is one of the nested form and the other way round.  So the
segments of the nested form tell the number of joins, and with it which parentheses are new: one in
front of each qualifier that a segment ends in, and as many behind the leading blanks.

Without a table the first marker may be lost: of the two ` join x inner join y` and
` (join x) inner join y` the second is its own nested form and that of the first.
-/
import NestedJoin.Proofs.Chain.Parenthesized

namespace NestedJoin

/-! ## 1. What the parts of a nested form tell -/

namespace JoinList

/-- Closed segments tell the texts and the qualifiers that they were made of. -/
theorem tailSegments_injective : ∀ {t t' : Text} {links links' : List (Qualifier × Text)},
    tailSegments [')'] t links = tailSegments [')'] t' links' → t = t' ∧ links = links'
  | t, t', [], [], h => by
    simp only [tailSegments, List.cons.injEq, and_true] at h
    exact ⟨h, rfl⟩
  | t, t', [], (q, u) :: rest, h => by
    have htail := (List.cons.inj h).2
    exact absurd htail.symm (tailSegments_ne_nil _ _ _)
  | t, t', (q, u) :: rest, [], h => by
    have htail := (List.cons.inj h).2
    exact absurd htail (tailSegments_ne_nil _ _ _)
  | t, t', (q, u) :: rest, (q', u') :: rest', h => by
    obtain ⟨hfirst, htail⟩ := List.cons.inj h
    obtain ⟨rfl, rfl⟩ := tailSegments_injective htail
    -- Both texts end in a qualifier, and no text ends in two.
    have hq : q.suffix <:+ t ++ ([')'] ++ q.suffix) := ⟨t ++ [')'], List.append_assoc _ _ _⟩
    have hq' : q'.suffix <:+ t ++ ([')'] ++ q.suffix) :=
      ⟨t' ++ [')'], by rw [hfirst, List.append_assoc]⟩
    obtain rfl := Qualifier.eq_of_suffix hq hq'
    exact ⟨List.append_cancel_right hfirst, rfl⟩

end JoinList

namespace Chain

theorem openAfterLead_injective {depth : Nat} {s t : Text}
    (h : openAfterLead depth s = openAfterLead depth t) : s = t := by
  have hlead : Text.lead s = Text.lead t := by
    rw [← lead_openAfterLead depth, h, lead_openAfterLead]
  rw [openAfterLead, openAfterLead, hlead] at h
  have hrest : Text.trimStart s = Text.trimStart t :=
    List.append_cancel_left (List.append_cancel_left h)
  rw [← Text.lead_append_trimStart s, hlead, hrest, Text.lead_append_trimStart]

/-- Opening makes no marker. -/
theorem marker_infix_of_openAfterLead {depth : Nat} {t : Text}
    (h : joinMarker <:+: openAfterLead depth t) : joinMarker <:+: t :=
  (parenthesized_openAfterLead depth t).isInfix (by decide) h

/-! ## 2. Chains -/

/-- A chain has a table in front of its first join: behind its leading blanks it does not begin with
the word of a join. -/
def TableFirst (chain : Text) : Prop := ¬ "join".toList <+: Text.trimStart chain

instance (chain : Text) : Decidable (TableFirst chain) :=
  inferInstanceAs (Decidable (¬ "join".toList <+: Text.trimStart chain))

/-- So the text in front of the first marker is not blank. -/
theorem TableFirst.head_not_blank {p : JoinList} (h : TableFirst p.flat) :
    ∃ c ∈ p.head, Text.isBlank c = false := by
  rcases Text.all_blank_or_exists_not p.head with hblank | hhead
  · refine absurd ?_ h
    rw [JoinList.flat, JoinList.write, Text.trimStart_append_of_blank hblank]
    exact List.prefix_append "join".toList _
  · exact hhead

/-- **The segments of a nested form**: the opened head, and each text with the closed qualifier
behind it. -/
theorem segments_nested {p : JoinList} (hp : p.Plain) (hfirst : TableFirst p.flat) (depth : Nat) :
    segments (openAfterLead depth p.closed) =
      openAfterLead depth p.head :: JoinList.tailSegments [')'] p.first p.links := by
  have hopen : openAfterLead depth p.closed =
      ({ p with head := openAfterLead depth p.head } : JoinList).closed := by
    rw [JoinList.closed, JoinList.write, openAfterLead_append hfirst.head_not_blank]
    rfl
  have htexts : ∀ t ∈ ({ p with head := openAfterLead depth p.head } : JoinList).texts,
      ¬ joinMarker <:+: t := by
    intro t ht
    rcases List.mem_cons.mp ht with rfl | ht
    · exact fun hm => hp.no_marker p.head List.mem_cons_self (marker_infix_of_openAfterLead hm)
    · exact hp.no_marker t (List.mem_cons_of_mem _ ht)
  rw [hopen, JoinList.segments_closed htexts]

/-- **Chains with the same nested form are the same**, if each has a table in front of its first
join. -/
theorem nest_injective {s t out : Text} (hs : TableFirst s) (ht : TableFirst t)
    (h : nest s = .ok out) (h' : nest t = .ok out) : s = t := by
  have hjoin : hasJoin s = hasJoin t := (hasJoin_of_nest h).symm.trans (hasJoin_of_nest h')
  rw [Bool.eq_iff_iff, hasJoin_iff, hasJoin_iff] at hjoin
  rcases nest_eq_ok_iff.mp h with ⟨hm, rfl⟩ | ⟨p, hp, rfl, rfl⟩
  · rcases nest_eq_ok_iff.mp h' with ⟨-, rfl⟩ | ⟨p', -, rfl, -⟩
    · rfl
    · exact absurd (hjoin.mpr (List.infix_append' _ _ _)) hm
  · rcases nest_eq_ok_iff.mp h' with ⟨hm', -⟩ | ⟨p', hp', rfl, hout⟩
    · exact absurd (hjoin.mp (List.infix_append' _ _ _)) hm'
    · have hsegs := congrArg segments hout
      rw [segments_nested hp hs, segments_nested hp' ht] at hsegs
      obtain ⟨hhead, htail⟩ := List.cons.inj hsegs
      obtain ⟨hfirst, hlinks⟩ := JoinList.tailSegments_injective htail
      rw [hlinks] at hhead
      have hsame : p = p' := by
        obtain ⟨head, first, links⟩ := p
        obtain ⟨head', first', links'⟩ := p'
        have hheads : head = head' := openAfterLead_injective hhead
        simp only [JoinList.mk.injEq]
        exact ⟨hheads, hfirst, hlinks⟩
      rw [hsame]

/-- Without a table the opening parenthesis breaks up the first marker, and two chains have the same
nested form. -/
example : nest " join x inner join y".toList = .ok " (join x) inner join y".toList ∧
    nest " (join x) inner join y".toList = .ok " (join x) inner join y".toList := ⟨rfl, rfl⟩

end Chain

end NestedJoin
