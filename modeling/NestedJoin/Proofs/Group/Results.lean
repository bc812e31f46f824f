/-
# What the results of groups hold

The groups of a body hold no comma, and those of a clause no WHERE.  Nesting a group puts in
parentheses, and a derived table its own words and a name.  None of these brings in a comma or a
WHERE, provided that the lead of the names has none, and none stands so close to a letter of the
group that the two together make one.

* `split_joinResults`: the commas of the results put together are those between them, so the cut at
  the commas finds the results again;
* `not_holds_joinResults`: no WHERE stands in the results put together, not even across a comma.
-/
import NestedJoin.Proofs.Chain.Parenthesized
import NestedJoin.Proofs.Clause.Pieces
import NestedJoin.Proofs.Config.Identifiers
import NestedJoin.Proofs.Group.Outcomes

namespace NestedJoin

namespace Group

/-! ## 1. Commas -/

/-- **A group holds no comma.** -/
theorem comma_notMem_of_mem_split : ∀ {body group : Text}, group ∈ split body → ',' ∉ group
  | [], group, h => by
    have hnil : group = [] := by simpa [split] using h
    simp [hnil]
  | c :: rest, group, h => by
    rw [split, List.splitOn_cons_eq_if_modifyHead] at h
    split at h
    · rcases List.mem_cons.mp h with rfl | h
      · simp
      · have hrest : group ∈ split rest := h
        exact comma_notMem_of_mem_split hrest
    · rename_i hcomma
      obtain ⟨g, more, hg⟩ := List.exists_cons_of_ne_nil (List.splitOn_ne_nil ',' rest)
      have ih : ∀ group ∈ g :: more, ',' ∉ group := by
        intro group hmem
        rw [← hg] at hmem
        have hrest : group ∈ split rest := hmem
        exact comma_notMem_of_mem_split hrest
      rw [hg, List.modifyHead_cons] at h
      rcases List.mem_cons.mp h with rfl | h
      · intro hc
        rcases List.mem_cons.mp hc with hc | hc
        · exact hcomma (beq_iff_eq.mpr hc.symm)
        · exact ih g List.mem_cons_self hc
      · exact ih group (List.mem_cons_of_mem g h)

/-- Texts without a comma are the groups of the body they make up. -/
theorem split_join {groups : List Text} (hne : groups ≠ []) (h : ∀ g ∈ groups, ',' ∉ g) :
    split (join groups) = groups := List.splitOn_intercalate ',' h hne

/-- What stands in a derived table is of the group, of the table's own words or of its name. -/
theorem mem_derive {group name : Text} {c : Char} (h : c ∈ derive group name) :
    c ∈ group ∨ c ∈ "(select * from ".toList ∨ c ∈ ") as ".toList ∨ c ∈ name := by
  have hgroup : c ∈ Text.lead group ∨ c ∈ Text.trim group ∨ c ∈ Text.trail group → c ∈ group := by
    intro h
    rwa [← List.mem_append, ← List.mem_append, Text.lead_append_trim_append_trail] at h
  simp only [derive, List.mem_append] at h
  rcases h with ((((h | h) | h) | h) | h) | h
  · exact Or.inl (hgroup (Or.inl h))
  · exact Or.inr (Or.inl h)
  · exact Or.inl (hgroup (Or.inr (Or.inl h)))
  · exact Or.inr (Or.inr (Or.inl h))
  · exact Or.inr (Or.inr (Or.inr h))
  · exact Or.inl (hgroup (Or.inr (Or.inr h)))

/-- What stands in a result is of the group, of what is put in, of the lead of the names, or a
digit. -/
theorem mem_outcome {nameLead : Text} {several : Bool} {index : Nat} {group nested : Text}
    (h : Chain.nest group = .ok nested) {c : Char}
    (hc : c ∈ (outcome nameLead several index group nested).result) :
    c ∈ group ∨ c ∈ "(select * from ) as ".toList ∨ c ∈ nameLead ∨ c.isDigit = true := by
  have hnested : c ∈ nested → c ∈ group ∨ c ∈ "(select * from ) as ".toList := by
    intro hc
    refine ((Chain.parenthesized_of_nest h).mem hc).imp_right ?_
    rintro (rfl | rfl) <;> decide
  rw [outcome] at hc
  split at hc
  · rcases mem_derive hc with hc | hc | hc | hc
    · exact (hnested hc).imp_right Or.inl
    · exact Or.inr (Or.inl (List.mem_of_mem_take (i := 15) hc))
    · exact Or.inr (Or.inl (List.mem_of_mem_drop (i := 15) hc))
    · refine Or.inr (Or.inr ((List.mem_append.mp hc).imp_right ?_))
      exact Nat.isDigit_of_mem_toDigits (by decide) (by decide)
  · exact (hnested hc).imp_right Or.inl

/-- **A result holds no comma** if its group and the lead of the names hold none. -/
theorem comma_notMem_outcome {nameLead : Text} (hlead : ',' ∉ nameLead) (several : Bool)
    (index : Nat) {group nested : Text} (h : Chain.nest group = .ok nested) (hg : ',' ∉ group) :
    ',' ∉ (outcome nameLead several index group nested).result := by
  intro hc
  rcases mem_outcome h hc with hc | hc | hc | hc
  · exact hg hc
  · exact absurd hc (by decide)
  · exact hlead hc
  · exact absurd hc (by decide)

/-! ## 2. WHERE -/

/-- Blanks and digits are no letters of WHERE. -/
theorem toLower_notMem_whereWord {c : Char} (h : Text.isBlank c = true ∨ c.isDigit = true) :
    c.toLower ∉ Text.fold whereWord := by
  intro hc
  have hletters : (Text.fold whereWord).all (fun d => !Text.isBlank d && 97 ≤ d.toNat) = true := by
    decide +kernel
  have hletter := List.all_eq_true.mp hletters _ hc
  rw [Bool.and_eq_true, Bool.not_eq_true', decide_eq_true_eq] at hletter
  obtain ⟨hblank, hlow⟩ := hletter
  rcases h with h | h
  · rw [Text.isBlank_toLower, h] at hblank
    exact Bool.noConfusion hblank
  · have hdigit : c.toNat ≤ 57 := (Char.isDigit_iff_toNat.mp h).2
    rcases Text.toLower_cases c with hsame | ⟨hupper, -, -⟩
    · rw [hsame] at hlow
      omega
    · omega

/-- **A derived table holds no WHERE** if its group and the lead of its name hold none. -/
theorem not_holds_derive {group nameLead : Text} (hg : ¬ Text.Holds whereWord group)
    (hlead : ¬ Text.Holds whereWord nameLead) (index : Nat) :
    ¬ Text.Holds whereWord (derive group (derivedName nameLead index)) := by
  have hword : whereWord ≠ [] := opensOnce_whereWord.ne_nil
  obtain ⟨d, ds, hdigits⟩ := List.exists_cons_of_ne_nil (l := Nat.toDigits 10 index) (by simp)
  have hdigit : ∀ c ∈ d :: ds, c.isDigit = true := by
    intro c hc
    rw [← hdigits] at hc
    exact Nat.isDigit_of_mem_toDigits (by decide) (by decide) hc
  -- Each piece of the table stands between characters that are no letters of WHERE.
  have hshape : derive group (derivedName nameLead index) =
      Text.lead group ++ '(' :: ("select * from".toList ++ ' ' :: (Text.trim group ++
        ')' :: (" as".toList ++ ' ' :: (nameLead ++ d :: (ds ++ Text.trail group))))) := by
    have hopen : "(select * from ".toList = '(' :: ("select * from".toList ++ [' ']) := rfl
    have hclose : ") as ".toList = ')' :: (" as".toList ++ [' ']) := rfl
    simp only [derive, derivedName, hdigits, hopen, hclose, List.append_assoc, List.cons_append,
      List.nil_append]
  have hcut := Text.lead_append_trim_append_trail group
  have hleadPiece : Text.lead group <:+: group := ⟨[], _, by rw [List.nil_append, hcut]⟩
  have htrimPiece : Text.trim group <:+: group :=
    ⟨Text.lead group, Text.trail group, by rw [List.append_assoc, hcut]⟩
  have htail : ¬ Text.Holds whereWord (ds ++ Text.trail group) := by
    refine Text.not_holds_of_disjoint hword ?_
    intro c hc
    rcases List.mem_append.mp hc with hc | hc
    · exact toLower_notMem_whereWord (Or.inr (hdigit c (List.mem_cons_of_mem d hc)))
    · exact toLower_notMem_whereWord (Or.inl (Text.isBlank_of_mem_trail hc))
  rw [hshape, Text.holds_append_cons_iff hword (by decide +kernel),
    Text.holds_append_cons_iff hword (by decide +kernel),
    Text.holds_append_cons_iff hword (by decide +kernel),
    Text.holds_append_cons_iff hword (by decide +kernel),
    Text.holds_append_cons_iff hword
      (toLower_notMem_whereWord (Or.inr (hdigit d List.mem_cons_self)))]
  rintro (h | h | h | h | h | h)
  · exact hg (h.mono hleadPiece)
  · exact absurd h (by decide +kernel)
  · exact hg (h.mono htrimPiece)
  · exact absurd h (by decide +kernel)
  · exact hlead h
  · exact htail h

/-- **A result holds no WHERE** if its group and the lead of the names hold none. -/
theorem not_holds_outcome {nameLead : Text} (hlead : ¬ Text.Holds whereWord nameLead)
    (several : Bool) (index : Nat) {group nested : Text} (h : Chain.nest group = .ok nested)
    (hg : ¬ Text.Holds whereWord group) :
    ¬ Text.Holds whereWord (outcome nameLead several index group nested).result := by
  have hnested : ¬ Text.Holds whereWord nested := fun hn =>
    hg ((Chain.parenthesized_of_nest h).holds (by decide +kernel) hn)
  rw [outcome]
  split
  · exact not_holds_derive hnested hlead index
  · exact hnested

/-- A word without a comma stands in texts put together with commas exactly if it stands in one of
them. -/
theorem holds_join_iff {word : Text} (hword : word ≠ []) (hcomma : ','.toLower ∉ Text.fold word) :
    ∀ groups : List Text, Text.Holds word (join groups) ↔ ∃ g ∈ groups, Text.Holds word g
  | [] => by
    have hnil : ¬ Text.Holds word [] := Text.not_holds_of_disjoint hword (by simp)
    simpa [join] using hnil
  | [group] => by simp [join]
  | group :: next :: rest => by
    have ih := holds_join_iff hword hcomma (next :: rest)
    rw [join] at ih ⊢
    rw [List.intercalate_cons_cons, List.append_assoc, List.singleton_append,
      Text.holds_append_cons_iff hword hcomma, ih]
    simp

/-! ## 3. All results -/

/-- What every outcome has if its group has something, all outcomes have if all groups do. -/
theorem forall_outcome_of_nestAll {P : Text → Prop} {Q : GroupOutcome → Prop} {nameLead : Text}
    {several : Bool}
    (hgroup : ∀ index group nested, Chain.nest group = .ok nested → P group →
      Q (outcome nameLead several index group nested)) :
    ∀ {groups : List Text} {index : Nat} {outcomes : List GroupOutcome},
      nestAll nameLead several index groups = .ok outcomes → (∀ g ∈ groups, P g) →
      ∀ o ∈ outcomes, Q o
  | [], _, outcomes, h, _ => by
    obtain rfl := eq_nil_of_nestAll_nil h
    simp
  | group :: rest, index, outcomes, h, hP => by
    obtain ⟨nested, more, hn, hr, rfl⟩ := nestAll_cons_eq_ok_iff.mp h
    have ih := forall_outcome_of_nestAll hgroup hr fun g hg => hP g (List.mem_cons_of_mem _ hg)
    exact List.forall_mem_cons.mpr ⟨hgroup index group nested hn (hP group List.mem_cons_self), ih⟩

/-- And so have the results. -/
theorem forall_result_of_nestAll {P Q : Text → Prop} {nameLead : Text} {several : Bool}
    (hgroup : ∀ index group nested, Chain.nest group = .ok nested → P group →
      Q (outcome nameLead several index group nested).result)
    {groups : List Text} {index : Nat} {outcomes : List GroupOutcome}
    (h : nestAll nameLead several index groups = .ok outcomes) (hP : ∀ g ∈ groups, P g) :
    ∀ t ∈ outcomes.map (·.result), Q t :=
  List.forall_mem_map.mpr (forall_outcome_of_nestAll (Q := fun o => Q o.result) hgroup h hP)

/-- There are as many results as groups. -/
theorem length_nestBody {nameLead body : Text} {outcomes : List GroupOutcome}
    (h : nestBody nameLead body = .ok outcomes) : outcomes.length = (split body).length :=
  length_nestAll h

/-- **The cut at the commas finds the results again.** -/
theorem split_joinResults {nameLead body : Text} (hlead : ',' ∉ nameLead)
    {outcomes : List GroupOutcome} (h : nestBody nameLead body = .ok outcomes) :
    split (joinResults outcomes) = outcomes.map (·.result) := by
  have hcomma := forall_result_of_nestAll (P := fun g => ',' ∉ g) (Q := fun g => ',' ∉ g)
    (fun index _ _ hn hg => comma_notMem_outcome hlead _ index hn hg) h
    (fun _ hg => comma_notMem_of_mem_split hg)
  have hne : outcomes.map (·.result) ≠ [] := by
    intro hnil
    have hlen := length_nestBody h
    have hsplit := List.splitOn_ne_nil ',' body
    rw [List.map_eq_nil_iff.mp hnil, List.length_nil] at hlen
    exact hsplit (List.eq_nil_of_length_eq_zero hlen.symm)
  exact split_join hne hcomma

/-- **The results put together hold no WHERE** if the body holds none. -/
theorem not_holds_joinResults {nameLead body : Text} (hlead : ¬ Text.Holds whereWord nameLead)
    (hbody : ¬ Text.Holds whereWord body) {outcomes : List GroupOutcome}
    (h : nestBody nameLead body = .ok outcomes) :
    ¬ Text.Holds whereWord (joinResults outcomes) := by
  have hjoin : ∀ groups, Text.Holds whereWord (join groups) ↔
      ∃ g ∈ groups, Text.Holds whereWord g :=
    holds_join_iff opensOnce_whereWord.ne_nil (by decide +kernel)
  have hgroups : ∀ g ∈ split body, ¬ Text.Holds whereWord g := by
    intro g hg hw
    rw [← join_split body] at hbody
    exact hbody ((hjoin _).mpr ⟨g, hg, hw⟩)
  have hresults := forall_result_of_nestAll (P := fun g => ¬ Text.Holds whereWord g)
    (Q := fun g => ¬ Text.Holds whereWord g)
    (fun index _ _ hn hg => not_holds_outcome hlead _ index hn hg) h hgroups
  rw [joinResults, hjoin]
  rintro ⟨t, ht, hw⟩
  exact hresults t ht hw

end Group

end NestedJoin
