/-
# What nesting does to a chain

`Chain.nest` never builds a tree: it closes the segments one by one, puts the marker back between
them and opens all parentheses at once, behind the blanks the chain begins with.

The main statement (`Chain.nest_eq_ok_iff`): a chain has a nested form exactly if it holds no
marker, and then it is its own, or if it is a join list written out, whose texts hold no marker and
whose last text ends in no qualifier.  The list tells the nested form.  What nesting inserts is
proved from this statement, by induction on the later joins: two bytes are added for each join but
the first (`Chain.byteLength_of_nest`), a chain with a join keeps one (`Chain.hasJoin_of_nest`), and
the blanks around the chain stay where they are (`Chain.lead_of_nest`, `Chain.trail_of_nest`).
-/
import NestedJoin.Proofs.Chain.JoinList
import NestedJoin.Proofs.Text.Blanks
import NestedJoin.Text.Utf8

namespace NestedJoin

/-! ## 1. Opening -/

namespace Chain

/-- What stands behind a text that is not blank throughout is not moved by the opening. -/
theorem openAfterLead_append {s : Text} (hs : ∃ c ∈ s, Text.isBlank c = false) (depth : Nat)
    (t : Text) : openAfterLead depth (s ++ t) = openAfterLead depth s ++ t := by
  simp only [openAfterLead, Text.lead_append hs, Text.trimStart_append hs, List.append_assoc]

/-- The parentheses open between the blanks and the first character that is none. -/
theorem openAfterLead_blank_append {w t : Text} {c : Char} (hw : ∀ b ∈ w, Text.isBlank b = true)
    (hc : Text.isBlank c = false) (depth : Nat) :
    openAfterLead depth (w ++ c :: t) = w ++ (List.replicate depth '(' ++ c :: t) := by
  rw [openAfterLead, Text.lead_append_of_blank hw, Text.trimStart_append_of_blank hw,
    Text.lead_cons_of_not_blank hc, Text.trimStart_cons_of_not_blank hc, List.append_nil]

@[simp] theorem openAfterLead_zero (t : Text) : openAfterLead 0 t = t := by
  simp [openAfterLead, Text.lead_append_trimStart]

/-- A parenthesis takes one byte. -/
theorem byteLength_replicate (depth : Nat) :
    Text.byteLength (List.replicate depth '(') = depth := by
  induction depth with
  | zero => rfl
  | succ n ih =>
    have hsize : '('.utf8Size = 1 := rfl
    rw [List.replicate_succ, Text.byteLength_cons, ih, hsize, Nat.add_comm]

theorem byteLength_openAfterLead (depth : Nat) (t : Text) :
    Text.byteLength (openAfterLead depth t) = Text.byteLength t + depth := by
  have h : Text.byteLength t = Text.byteLength (Text.lead t) + Text.byteLength (Text.trimStart t) := by
    rw [← Text.byteLength_append, Text.lead_append_trimStart]
  rw [openAfterLead, Text.byteLength_append, Text.byteLength_append, byteLength_replicate, h]
  omega

/-- Opening leaves the blanks at both ends. -/
theorem lead_openAfterLead (depth : Nat) (t : Text) :
    Text.lead (openAfterLead depth t) = Text.lead t := by
  cases depth with
  | zero => rw [openAfterLead_zero]
  | succ n =>
    rw [openAfterLead, List.replicate_succ, List.cons_append,
      Text.lead_append_of_blank (fun _ => Text.isBlank_of_mem_lead),
      Text.lead_cons_of_not_blank (by decide), List.append_nil]

theorem trail_openAfterLead {t : Text} (ht : ∃ c ∈ t, Text.isBlank c = false) (depth : Nat) :
    Text.trail (openAfterLead depth t) = Text.trail t := by
  have hcore := Text.exists_mem_trimStart ht
  rw [openAfterLead, Text.trail_append (hcore.imp fun _ h => ⟨List.mem_append_right _ h.1, h.2⟩),
    Text.trail_append hcore, ← Text.trail_append hcore (Text.lead t), Text.lead_append_trimStart]

end Chain

/-! ## 2. Closing -/

namespace Chain

open JoinList (tailSegments lastText)

/-- Closing a segment that is not the last. -/
theorem closeSegments_cons {segment : Text} {rest : List Text} (hne : rest ≠ []) :
    closeSegments (segment :: rest) =
      match Qualifier.trailing? segment with
      | none => .error segment
      | some q =>
        match closeSegments rest with
        | .error blamed => .error blamed
        | .ok closed => .ok (closeBefore q segment :: closed) :=
  closeSegments.eq_3 segment rest hne

/-- Segments that each end in a qualifier are closed in front of it, if the last ends in none. -/
theorem closeSegments_tailSegments : ∀ (t : Text) (links : List (Qualifier × Text)),
    Qualifier.trailing? (lastText t links) = none →
    closeSegments (tailSegments [] t links) = .ok (tailSegments [')'] t links)
  | t, [], h => by
    have ht : Qualifier.trailing? t = none := h
    simp [tailSegments, closeSegments, ht]
  | t, (q, u) :: rest, h => by
    have ih := closeSegments_tailSegments u rest h
    rw [tailSegments, closeSegments_cons (JoinList.tailSegments_ne_nil [] u rest), List.nil_append,
      Qualifier.trailing?_append_suffix, ih]
    simp only [closeBefore_append]
    rfl

/-- Only such segments can be closed. -/
theorem exists_links_of_closeSegments {segs closed : List Text} (hne : segs ≠ [])
    (h : closeSegments segs = .ok closed) :
    ∃ t links, segs = tailSegments [] t links ∧ Qualifier.trailing? (lastText t links) = none := by
  induction segs generalizing closed with
  | nil => exact absurd rfl hne
  | cons segment rest ih =>
    by_cases hrest : rest = []
    · subst hrest
      refine ⟨segment, [], rfl, ?_⟩
      cases ht : Qualifier.trailing? segment with
      | none => exact ht
      | some q => simp [closeSegments, ht] at h
    · rw [closeSegments_cons hrest] at h
      cases ht : Qualifier.trailing? segment with
      | none => simp [ht] at h
      | some q =>
        cases hc : closeSegments rest with
        | error blamed => simp [ht, hc] at h
        | ok closed' =>
          obtain ⟨u, links, rfl, hlast⟩ := ih hrest hc
          obtain ⟨t, rfl⟩ := Qualifier.suffix_of_trailing? ht
          exact ⟨t, (q, u) :: links, rfl, hlast⟩

/-! ## 3. Nesting -/

theorem nest_of_not_marker {chain : Text} (h : ¬ joinMarker <:+: chain) :
    nest chain = .ok chain := by
  rw [nest, segments_eq_singleton h]

/-- The nested form by what becomes of the segments. -/
theorem nest_of_segments {chain first : Text} {segs : List Text} (hne : segs ≠ [])
    (hs : segments chain = first :: segs) :
    nest chain =
      match closeSegments segs with
      | .error blamed => .error ⟨chain, blamed⟩
      | .ok closed =>
        .ok (openAfterLead (segs.length - 1) (joinMarker.intercalate (first :: closed))) := by
  cases segs with
  | nil => exact absurd rfl hne
  | cons second rest =>
    have hdepth : depth chain = (second :: rest).length - 1 := by simp [depth, joins, hs]
    cases hc : closeSegments (second :: rest) <;> simp only [nest, hs, hdepth, hc]

/-- **A plain join list has a nested form**: closed in front of each qualifier, and opened as many
times behind its leading blanks. -/
theorem nest_flat {p : JoinList} (hp : p.Plain) :
    nest p.flat = .ok (openAfterLead p.links.length p.closed) := by
  have hlast := Qualifier.trailing?_eq_none_iff.mpr hp.no_qualifier
  rw [nest_of_segments (JoinList.tailSegments_ne_nil [] p.first p.links)
      (JoinList.segments_flat hp.no_marker),
    closeSegments_tailSegments p.first p.links hlast, JoinList.length_tailSegments,
    JoinList.closed, ← JoinList.intercalate_head_tailSegments]
  rfl

/-- The texts of a list whose segments hold no marker hold none. -/
theorem not_marker_infix_of_tailSegments : ∀ {t : Text} {links : List (Qualifier × Text)},
    (∀ s ∈ tailSegments [] t links, ¬ joinMarker <:+: s) →
    ∀ u ∈ t :: links.map (·.2), ¬ joinMarker <:+: u
  | t, [], h, u, hu => h u (by simpa [tailSegments] using hu)
  | t, (q, v) :: rest, h, u, hu => by
    rcases List.mem_cons.mp hu with rfl | hu
    · intro hi
      exact h _ List.mem_cons_self (marker_infix_append_suffix.mpr hi)
    · exact not_marker_infix_of_tailSegments (fun s hs => h s (List.mem_cons_of_mem _ hs)) u hu

/-- A chain that holds a marker and has a nested form is a plain join list written out. -/
theorem exists_plain_of_nest {chain out : Text} (hm : joinMarker <:+: chain)
    (h : nest chain = .ok out) : ∃ p : JoinList, p.Plain ∧ chain = p.flat := by
  obtain ⟨first, segs, hs⟩ := segments_eq_cons chain
  have hne : segs ≠ [] := by
    rintro rfl
    have hjoin := intercalate_segments chain
    rw [hs, List.intercalate_singleton] at hjoin
    exact segments_eq_singleton_iff.mp (by rw [hs, hjoin]) hm
  rw [nest_of_segments hne hs] at h
  cases hc : closeSegments segs with
  | error blamed => simp [hc] at h
  | ok closed =>
    obtain ⟨t, links, rfl, hlast⟩ := exists_links_of_closeSegments hne hc
    have hfree : ∀ s ∈ segments chain, ¬ joinMarker <:+: s := fun s => not_infix_of_mem_segments
    rw [hs] at hfree
    have hmem := not_marker_infix_of_tailSegments (fun s hs => hfree s (List.mem_cons_of_mem _ hs))
    refine ⟨⟨first, t, links⟩, ⟨?_, Qualifier.trailing?_eq_none_iff.mp hlast⟩, ?_⟩
    · intro u hu
      rcases List.mem_cons.mp hu with rfl | hu
      · exact hfree _ List.mem_cons_self
      · exact hmem u hu
    · have hjoin := intercalate_segments chain
      rw [hs] at hjoin
      rw [← hjoin]
      exact JoinList.intercalate_head_tailSegments [] ⟨first, t, links⟩

/-- **Which chains have a nested form, and which it is.** -/
theorem nest_eq_ok_iff {chain out : Text} :
    nest chain = .ok out ↔
      (¬ joinMarker <:+: chain ∧ out = chain) ∨
      ∃ p : JoinList, p.Plain ∧ chain = p.flat ∧ out = openAfterLead p.links.length p.closed := by
  constructor
  · intro h
    by_cases hm : joinMarker <:+: chain
    · obtain ⟨p, hp, rfl⟩ := exists_plain_of_nest hm h
      rw [nest_flat hp] at h
      exact Or.inr ⟨p, hp, rfl, (Except.ok.inj h).symm⟩
    · rw [nest_of_not_marker hm] at h
      exact Or.inl ⟨hm, (Except.ok.inj h).symm⟩
  · rintro (⟨hm, rfl⟩ | ⟨p, hp, rfl, rfl⟩)
    · exact nest_of_not_marker hm
    · exact nest_flat hp

/-! ## 4. What nesting inserts -/

theorem byteLength_writeTail : ∀ (t : Text) (links : List (Qualifier × Text)),
    Text.byteLength (JoinList.writeTail [')'] t links) =
      Text.byteLength (JoinList.writeTail [] t links) + links.length
  | _, [] => rfl
  | t, (q, u) :: rest => by
    have ih := byteLength_writeTail u rest
    have hsize : Text.byteLength [')'] = 1 := rfl
    simp only [JoinList.writeTail_cons, Text.byteLength_append, ih, hsize, Text.byteLength_nil,
      List.length_cons]
    omega

theorem joins_flat {p : JoinList} (hp : p.Plain) : joins p.flat = p.links.length + 1 := by
  rw [joins, JoinList.segments_flat hp.no_marker, List.length_cons, JoinList.length_tailSegments,
    Nat.add_sub_cancel]

/-- **Nesting adds two bytes for each join but the first.** -/
theorem byteLength_of_nest {chain out : Text} (h : nest chain = .ok out) :
    Text.byteLength out = Text.byteLength chain + 2 * (joins chain - 1) := by
  rcases nest_eq_ok_iff.mp h with ⟨hm, rfl⟩ | ⟨p, hp, rfl, rfl⟩
  · have hjoins : joins out = 0 := by rw [joins, segments_eq_singleton hm]; rfl
    rw [hjoins, Nat.zero_sub, Nat.mul_zero, Nat.add_zero]
  · rw [byteLength_openAfterLead, joins_flat hp, JoinList.closed, JoinList.flat, JoinList.write,
      JoinList.write]
    simp only [Text.byteLength_append, byteLength_writeTail]
    omega

/-- A text that holds a marker is not blank throughout. -/
theorem not_blank_of_marker {t : Text} (h : joinMarker <:+: t) :
    ∃ c ∈ t, Text.isBlank c = false := ⟨'j', h.subset (by decide), by decide⟩

/-- The parentheses open in front of what follows the first marker. -/
theorem openAfterLead_closed (depth : Nat) (p : JoinList) :
    openAfterLead depth p.closed =
      openAfterLead depth (p.head ++ joinMarker) ++ JoinList.writeTail [')'] p.first p.links := by
  have hj : joinMarker <:+: p.head ++ joinMarker := (List.suffix_append _ _).isInfix
  rw [← openAfterLead_append (not_blank_of_marker hj), List.append_assoc]
  rfl

/-- **A chain has a join exactly if its nested form has one.**  The opening parentheses may break
up the first marker, but then there is a second one. -/
theorem hasJoin_of_nest {chain out : Text} (h : nest chain = .ok out) :
    hasJoin out = hasJoin chain := by
  rw [Bool.eq_iff_iff, hasJoin_iff, hasJoin_iff]
  rcases nest_eq_ok_iff.mp h with ⟨-, rfl⟩ | ⟨p, -, rfl, rfl⟩
  · exact Iff.rfl
  · have hflat : joinMarker <:+: p.flat := List.infix_append' _ _ _
    refine iff_of_true ?_ hflat
    obtain ⟨head, first, links⟩ := p
    cases links with
    | nil => exact (openAfterLead_zero _).symm ▸ hflat
    | cons link rest =>
      have htail : joinMarker <:+: JoinList.writeTail [')'] first (link :: rest) := by
        rw [JoinList.writeTail_cons]
        exact ⟨first ++ ([')'] ++ link.1.suffix), JoinList.writeTail [')'] link.2 rest, by
          simp only [List.append_assoc]⟩
      rw [openAfterLead_closed]
      exact htail.trans (List.suffix_append _ _).isInfix

/-! ## 5. The blanks around a chain -/

/-- The closing parentheses stand in front of the blanks at the end. -/
theorem trail_writeTail : ∀ (t : Text) (links : List (Qualifier × Text)),
    Text.trail (joinMarker ++ JoinList.writeTail [')'] t links) =
      Text.trail (joinMarker ++ JoinList.writeTail [] t links)
  | _, [] => rfl
  | t, (q, u) :: rest => by
    have ih := trail_writeTail u rest
    have hj : ∀ s : Text, ∃ c ∈ joinMarker ++ s, Text.isBlank c = false := fun s =>
      not_blank_of_marker (List.prefix_append joinMarker s).isInfix
    have hcut : ∀ paren : Text, joinMarker ++ JoinList.writeTail paren t ((q, u) :: rest) =
        (joinMarker ++ (t ++ (paren ++ q.suffix))) ++
          (joinMarker ++ JoinList.writeTail paren u rest) := by
      intro paren
      simp only [JoinList.writeTail_cons, List.append_assoc]
    rw [hcut, hcut, Text.trail_append (hj _), Text.trail_append (hj _), ih]

/-- **Nesting leaves the blanks around a chain.** -/
theorem lead_of_nest {chain out : Text} (h : nest chain = .ok out) :
    Text.lead out = Text.lead chain := by
  rcases nest_eq_ok_iff.mp h with ⟨-, rfl⟩ | ⟨p, -, rfl, rfl⟩
  · rfl
  · have hj : ∃ c ∈ p.head ++ joinMarker, Text.isBlank c = false :=
      not_blank_of_marker (List.suffix_append p.head joinMarker).isInfix
    rw [lead_openAfterLead, JoinList.closed, JoinList.flat, JoinList.write, JoinList.write,
      ← List.append_assoc, ← List.append_assoc, Text.lead_append hj, Text.lead_append hj]

theorem trail_of_nest {chain out : Text} (h : nest chain = .ok out) :
    Text.trail out = Text.trail chain := by
  rcases nest_eq_ok_iff.mp h with ⟨-, rfl⟩ | ⟨p, -, rfl, rfl⟩
  · rfl
  · have hj : ∀ s : Text, ∃ c ∈ joinMarker ++ s, Text.isBlank c = false := fun s =>
      not_blank_of_marker (List.prefix_append joinMarker s).isInfix
    have hclosed : joinMarker <:+: p.closed := List.infix_append' _ _ _
    rw [trail_openAfterLead (not_blank_of_marker hclosed), JoinList.closed, JoinList.flat,
      JoinList.write, JoinList.write, Text.trail_append (hj _), Text.trail_append (hj _),
      trail_writeTail]

end Chain

end NestedJoin
