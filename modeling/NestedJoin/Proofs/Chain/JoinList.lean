/-
# A chain by its parts

A join list holds what a chain is made of: the text in front of the first join, the text behind
it, and for each later join its qualifier and the text behind that.  Written out plainly it is a
chain; written out with a parenthesis closed in front of each qualifier it is the text that the
nested form puts its opening parentheses to.

The main statement: where its texts hold no marker, the cut at the markers finds the texts of a
join list again, each with the qualifier behind it (`segments_write`).
-/
import NestedJoin.Proofs.Chain.Segments

namespace NestedJoin

/-! ## 1. At most one qualifier stands at the end of a text -/

namespace Qualifier

theorem mem_all (q : Qualifier) : q ∈ all := by cases q <;> decide

/-- A qualifier begins with a blank. -/
theorem suffix_eq_blank_cons (q : Qualifier) : ∃ word, q.suffix = ' ' :: word := by
  cases q <;> exact ⟨_, rfl⟩

theorem not_marker_infix_suffix (q : Qualifier) : ¬ joinMarker <:+: q.suffix := by
  cases q <;> decide +kernel

/-- No qualifier ends in another one. -/
theorem eq_of_suffix_suffix {q r : Qualifier} (h : q.suffix <:+ r.suffix) : q = r := by
  revert h
  cases q <;> cases r <;> decide +kernel

theorem eq_of_suffix {q r : Qualifier} {t : Text} (hq : q.suffix <:+ t) (hr : r.suffix <:+ t) :
    q = r := by
  rcases Nat.le_total q.suffix.length r.suffix.length with hle | hle
  · exact eq_of_suffix_suffix (List.suffix_of_suffix_length_le hq hr hle)
  · exact (eq_of_suffix_suffix (List.suffix_of_suffix_length_le hr hq hle)).symm

theorem suffix_of_trailing? {t : Text} {q : Qualifier} (h : trailing? t = some q) :
    q.suffix <:+ t := by
  have hq := List.find?_some (p := fun q : Qualifier => q.suffix.isSuffixOf t) h
  exact List.isSuffixOf_iff_suffix.mp hq

theorem trailing?_eq_some_iff {t : Text} {q : Qualifier} :
    trailing? t = some q ↔ q.suffix <:+ t := by
  refine ⟨suffix_of_trailing?, fun h => ?_⟩
  cases hf : trailing? t with
  | none => exact absurd (List.isSuffixOf_iff_suffix.mpr h) (List.find?_eq_none.mp hf q (mem_all q))
  | some r => rw [eq_of_suffix (suffix_of_trailing? hf) h]

theorem trailing?_eq_none_iff {t : Text} : trailing? t = none ↔ ∀ q : Qualifier, ¬ q.suffix <:+ t := by
  constructor
  · intro h q hq
    rw [trailing?_eq_some_iff.mpr hq] at h
    exact absurd h (by simp)
  · intro h
    cases hf : trailing? t with
    | none => rfl
    | some q => exact absurd (suffix_of_trailing? hf) (h q)

theorem trailing?_append_suffix (t : Text) (q : Qualifier) :
    trailing? (t ++ q.suffix) = some q :=
  trailing?_eq_some_iff.mpr (List.suffix_append t q.suffix)

end Qualifier

theorem Chain.closeBefore_append (t : Text) (q : Qualifier) :
    closeBefore q (t ++ q.suffix) = t ++ ')' :: q.suffix := by
  simp [closeBefore]

/-- A qualifier behind a text makes no marker. -/
theorem Chain.marker_infix_append_suffix {t : Text} {q : Qualifier} :
    joinMarker <:+: t ++ q.suffix ↔ joinMarker <:+: t := by
  obtain ⟨word, hw⟩ := q.suffix_eq_blank_cons
  have hq := q.not_marker_infix_suffix
  rw [hw] at hq ⊢
  rw [marker_infix_append_blank]
  exact ⟨fun h => h.resolve_right hq, Or.inl⟩

/-! ## 2. Join lists -/

/-- A chain with at least one join, by its parts. -/
structure JoinList where
  /-- What stands in front of the first join. -/
  head : Text
  /-- What stands behind the first join, up to the qualifier of the next. -/
  first : Text
  /-- The qualifier of each later join, with what stands behind the join. -/
  links : List (Qualifier × Text)
  deriving DecidableEq, Repr

namespace JoinList

/-- The segments from the first join on, with some text in front of each qualifier. -/
def tailSegments (close : Text) : Text → List (Qualifier × Text) → List Text
  | t, [] => [t]
  | t, (q, u) :: rest => (t ++ (close ++ q.suffix)) :: tailSegments close u rest

/-- What follows the first join, with some text in front of each qualifier. -/
def writeTail (close : Text) (t : Text) (links : List (Qualifier × Text)) : Text :=
  t ++ links.flatMap fun (q, u) => close ++ (q.suffix ++ (joinMarker ++ u))

/-- The list written out, with some text in front of each qualifier but that of the first join. -/
def write (close : Text) (p : JoinList) : Text :=
  p.head ++ (joinMarker ++ writeTail close p.first p.links)

/-- The chain that the list describes. -/
def flat (p : JoinList) : Text := p.write []

/-- The chain with each join but the last closed. -/
def closed (p : JoinList) : Text := p.write [')']

/-- The last text of a first one and the later joins. -/
def lastText : Text → List (Qualifier × Text) → Text
  | t, [] => t
  | _, (_, u) :: rest => lastText u rest

/-- The text behind the last join. -/
def last (p : JoinList) : Text := lastText p.first p.links

/-- Every text of the list. -/
def texts (p : JoinList) : List Text := p.head :: p.first :: p.links.map (·.2)

/-- The texts of the list hold no marker, and the last one ends in no qualifier. -/
structure Plain (p : JoinList) : Prop where
  no_marker : ∀ t ∈ p.texts, ¬ joinMarker <:+: t
  no_qualifier : ∀ q : Qualifier, ¬ q.suffix <:+ p.last

theorem writeTail_cons (close t u : Text) (q : Qualifier) (rest : List (Qualifier × Text)) :
    writeTail close t ((q, u) :: rest) =
      t ++ (close ++ (q.suffix ++ (joinMarker ++ writeTail close u rest))) := by
  simp only [writeTail, List.flatMap_cons, List.append_assoc]

theorem tailSegments_ne_nil (close t : Text) (links : List (Qualifier × Text)) :
    tailSegments close t links ≠ [] := by
  cases links <;> simp [tailSegments]

theorem length_tailSegments (close : Text) : ∀ (t : Text) (links : List (Qualifier × Text)),
    (tailSegments close t links).length = links.length + 1
  | _, [] => rfl
  | _, (_, u) :: rest => by
    simp only [tailSegments, List.length_cons, length_tailSegments close u rest]

/-- The segments put together with the marker are what follows the first join. -/
theorem intercalate_tailSegments (close : Text) : ∀ (t : Text) (links : List (Qualifier × Text)),
    joinMarker.intercalate (tailSegments close t links) = writeTail close t links
  | t, [] => by simp [tailSegments, writeTail]
  | t, (q, u) :: rest => by
    rw [tailSegments, List.intercalate_cons_of_ne_nil (tailSegments_ne_nil close u rest),
      intercalate_tailSegments close u rest, writeTail_cons]
    simp only [List.append_assoc]

theorem intercalate_head_tailSegments (close : Text) (p : JoinList) :
    joinMarker.intercalate (p.head :: tailSegments close p.first p.links) = p.write close := by
  rw [List.intercalate_cons_of_ne_nil (tailSegments_ne_nil close p.first p.links),
    intercalate_tailSegments, write, List.append_assoc]

/-- The text in front of the qualifiers makes no marker with what it stands behind. -/
def KeepsMarkers (close : Text) : Prop :=
  ∀ (t : Text) (q : Qualifier), joinMarker <:+: t ++ (close ++ q.suffix) → joinMarker <:+: t

theorem keepsMarkers_nil : KeepsMarkers [] := fun _ _ h => Chain.marker_infix_append_suffix.mp h

theorem keepsMarkers_paren : KeepsMarkers [')'] := by
  intro t q h
  rw [Chain.joinMarker_eq, List.singleton_append] at h
  rcases (Text.infix_append_cons (by decide)).mp h with h | h
  · exact h
  · exact absurd h (by cases q <;> decide +kernel)

/-- Where the texts hold no marker, the cut at the markers finds them again. -/
theorem segments_writeTail_of_keepsMarkers {close : Text} (hclose : KeepsMarkers close) :
    ∀ (t : Text) (links : List (Qualifier × Text)),
      (∀ u ∈ t :: links.map (·.2), ¬ joinMarker <:+: u) →
      Chain.segments (writeTail close t links) = tailSegments close t links
  | t, [], h => by
    rw [writeTail, List.flatMap_nil, List.append_nil]
    exact Chain.segments_eq_singleton (h t (by simp))
  | t, (q, u) :: rest, h => by
    have ih := segments_writeTail_of_keepsMarkers hclose u rest
      (fun v hv => h v (List.mem_cons_of_mem _ hv))
    have ht : ¬ joinMarker <:+: t ++ (close ++ q.suffix) := fun hi => h t (by simp) (hclose t q hi)
    have hcut : writeTail close t ((q, u) :: rest) =
        (t ++ (close ++ q.suffix)) ++ (joinMarker ++ writeTail close u rest) := by
      rw [writeTail_cons]
      simp only [List.append_assoc]
    rw [hcut, Chain.segments_append_marker, Chain.segments_eq_singleton ht, ih]
    rfl

theorem segments_writeTail (t : Text) (links : List (Qualifier × Text))
    (h : ∀ u ∈ t :: links.map (·.2), ¬ joinMarker <:+: u) :
    Chain.segments (writeTail [] t links) = tailSegments [] t links :=
  segments_writeTail_of_keepsMarkers keepsMarkers_nil t links h

/-- **The segments of a join list**: its head, and each text with the qualifier behind it, closed or
not. -/
theorem segments_write {close : Text} (hclose : KeepsMarkers close) {p : JoinList}
    (h : ∀ t ∈ p.texts, ¬ joinMarker <:+: t) :
    Chain.segments (p.write close) = p.head :: tailSegments close p.first p.links := by
  have hhead := Chain.segments_eq_singleton (h p.head (by simp [texts]))
  have htail := segments_writeTail_of_keepsMarkers hclose p.first p.links
    (fun u hu => h u (List.mem_cons_of_mem _ hu))
  rw [write, Chain.segments_append_marker, hhead, htail]
  rfl

theorem segments_flat {p : JoinList} (h : ∀ t ∈ p.texts, ¬ joinMarker <:+: t) :
    Chain.segments p.flat = p.head :: tailSegments [] p.first p.links :=
  segments_write keepsMarkers_nil h

theorem segments_closed {p : JoinList} (h : ∀ t ∈ p.texts, ¬ joinMarker <:+: t) :
    Chain.segments p.closed = p.head :: tailSegments [')'] p.first p.links :=
  segments_write keepsMarkers_paren h

end JoinList

end NestedJoin
