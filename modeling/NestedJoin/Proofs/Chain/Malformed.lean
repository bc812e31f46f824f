/-
# Which chains are malformed, and which segment is to blame

Behind the first marker of a chain each segment but the last must end in a qualifier, and the last
one must not.  The first segment that breaks this is blamed (`Chain.nest_eq_error_iff`).  So a chain
is malformed exactly if a segment between two markers ends in no qualifier, or the one behind the
last marker ends in one (`Chain.exists_nest_eq_error_iff`).  What stands in front of the first
marker has no part in either (`Chain.nest_eq_error_congr`).
-/
import NestedJoin.Proofs.Chain.NestedForm

namespace NestedJoin

/-! ## 1. Segments by their ends -/

/-- A text ends in a qualifier. -/
def EndsInQualifier (t : Text) : Prop := ∃ q : Qualifier, q.suffix <:+ t

theorem endsInQualifier_iff {t : Text} : EndsInQualifier t ↔ ∃ q, Qualifier.trailing? t = some q :=
  exists_congr fun _ => Qualifier.trailing?_eq_some_iff.symm

theorem not_endsInQualifier_iff {t : Text} :
    ¬ EndsInQualifier t ↔ Qualifier.trailing? t = none := by
  rw [Qualifier.trailing?_eq_none_iff, EndsInQualifier, not_exists]

instance (t : Text) : Decidable (EndsInQualifier t) :=
  decidable_of_iff ((Qualifier.trailing? t).isSome = true)
    (Option.isSome_iff_exists.trans endsInQualifier_iff.symm)

namespace Chain

/-- The segments of a chain that stand between two of its markers. -/
def middleSegments (chain : Text) : List Text := (segments chain).tail.dropLast

/-- The segment behind the last marker of a chain, if it has one. -/
def lastSegment? (chain : Text) : Option Text := (segments chain).tail.getLast?

/-! ## 2. The first segment that does not end as it should -/

/-- Among some segments, this is the first that does not end as it should: those in front of it end
in a qualifier, and so does it itself only if it is the last. -/
def Blamed (segs : List Text) (s : Text) : Prop :=
  ∃ before after, segs = before ++ s :: after ∧ (∀ t ∈ before, EndsInQualifier t) ∧
    (after = [] ↔ EndsInQualifier s)

variable {s t : Text} {segs : List Text}

theorem not_blamed_nil : ¬ Blamed [] s := by
  rintro ⟨before, after, hsegs, -⟩
  cases before <;> cases hsegs

/-- The first of some segments is blamed, or it ends in a qualifier and one behind it is blamed. -/
theorem blamed_cons_iff : Blamed (t :: segs) s ↔
    (s = t ∧ (segs = [] ↔ EndsInQualifier t)) ∨ (EndsInQualifier t ∧ Blamed segs s) := by
  constructor
  · rintro ⟨before, after, hsegs, hbefore, hend⟩
    cases before with
    | nil =>
      obtain ⟨rfl, rfl⟩ := List.cons.inj hsegs
      exact Or.inl ⟨rfl, hend⟩
    | cons first before =>
      obtain ⟨rfl, rfl⟩ := List.cons.inj hsegs
      obtain ⟨hfirst, hbefore⟩ := List.forall_mem_cons.mp hbefore
      exact Or.inr ⟨hfirst, before, after, rfl, hbefore, hend⟩
  · rintro (⟨rfl, hend⟩ | ⟨ht, before, after, rfl, hbefore, hend⟩)
    · exact ⟨[], segs, rfl, by simp, hend⟩
    · exact ⟨t :: before, after, rfl, List.forall_mem_cons.mpr ⟨ht, hbefore⟩, hend⟩

/-- **Some segment is blamed** exactly if one but the last ends in no qualifier, or the last ends in
one. -/
theorem exists_blamed_iff : ∀ {segs : List Text}, (∃ s, Blamed segs s) ↔
    (∃ s ∈ segs.dropLast, ¬ EndsInQualifier s) ∨ ∃ s ∈ segs.getLast?, EndsInQualifier s
  | [] => by simp [not_blamed_nil]
  | [t] => by simp [blamed_cons_iff, not_blamed_nil]
  | t :: next :: rest => by
    have hcons : ∀ s, Blamed (t :: next :: rest) s ↔
        (s = t ∧ ¬ EndsInQualifier t) ∨ (EndsInQualifier t ∧ Blamed (next :: rest) s) := by
      intro s
      rw [blamed_cons_iff, eq_false (List.cons_ne_nil next rest), false_iff]
    have hstep : (∃ s, Blamed (t :: next :: rest) s) ↔
        ¬ EndsInQualifier t ∨ (EndsInQualifier t ∧ ∃ s, Blamed (next :: rest) s) := by
      simp only [hcons]
      rw [exists_or, exists_eq_left, exists_and_left]
    rw [hstep, exists_blamed_iff, List.dropLast_cons_cons, List.getLast?_cons_cons]
    simp only [List.mem_cons, exists_eq_or_imp]
    by_cases ht : EndsInQualifier t <;> simp [ht]

/-! ## 3. Malformed chains -/

/-- **Closing fails at the segment that is blamed.** -/
theorem closeSegments_eq_error_iff : ∀ {segs : List Text} {s : Text},
    closeSegments segs = .error s ↔ Blamed segs s
  | [], s => by simp [closeSegments, not_blamed_nil]
  | [t], s => by
    rw [closeSegments, blamed_cons_iff, endsInQualifier_iff, ← Option.isSome_iff_exists]
    split
    · next ht => simp [ht, not_blamed_nil, eq_comm]
    · next ht => simp [ht]
  | t :: next :: rest, s => by
    have ih : closeSegments (next :: rest) = .error s ↔ Blamed (next :: rest) s :=
      closeSegments_eq_error_iff
    rw [closeSegments_cons (List.cons_ne_nil next rest), blamed_cons_iff, ← ih]
    cases ht : Qualifier.trailing? t with
    | none => simp [not_endsInQualifier_iff.mpr ht, eq_comm]
    | some q =>
      have hq : EndsInQualifier t := endsInQualifier_iff.mpr ⟨q, ht⟩
      cases closeSegments (next :: rest) <;> simp [hq]

/-- **The segment that is to blame** is the first behind a marker that does not end as it should;
the whole chain is reported with it. -/
theorem nest_eq_error_iff {chain : Text} {m : MalformedChain} :
    nest chain = .error m ↔ m.group = chain ∧ Blamed (segments chain).tail m.segment := by
  obtain ⟨first, segs, hs⟩ := segments_eq_cons chain
  rw [hs, List.tail_cons, ← closeSegments_eq_error_iff]
  cases segs with
  | nil => simp [nest, hs, closeSegments]
  | cons second rest =>
    obtain ⟨group, segment⟩ := m
    rw [nest_of_segments (List.cons_ne_nil second rest) hs]
    cases closeSegments (second :: rest) <;> simp [eq_comm]

/-- **A chain is malformed** exactly if a segment between two markers ends in no qualifier, or the
one behind the last marker ends in one. -/
theorem exists_nest_eq_error_iff {chain : Text} : (∃ m, nest chain = .error m) ↔
    (∃ s ∈ middleSegments chain, ¬ EndsInQualifier s) ∨
      ∃ s ∈ lastSegment? chain, EndsInQualifier s := by
  rw [middleSegments, lastSegment?, ← exists_blamed_iff]
  constructor
  · rintro ⟨m, h⟩
    exact ⟨m.segment, (nest_eq_error_iff.mp h).2⟩
  · rintro ⟨s, h⟩
    exact ⟨⟨chain, s⟩, nest_eq_error_iff.mpr ⟨rfl, h⟩⟩

/-- A chain without a join is never malformed. -/
theorem nest_of_joins_eq_zero {chain : Text} (h : joins chain = 0) : nest chain = .ok chain := by
  refine nest_of_not_marker fun hm => ?_
  have hpos : 0 < joins chain := of_decide_eq_true (hasJoin_iff.mpr hm)
  omega

/-- **What stands in front of the first marker is not looked at.** -/
theorem nest_eq_error_congr {chain other : Text} (h : (segments chain).tail = (segments other).tail)
    (s : Text) : nest chain = .error ⟨chain, s⟩ ↔ nest other = .error ⟨other, s⟩ := by
  rw [nest_eq_error_iff, nest_eq_error_iff, h]
  simp

end Chain

end NestedJoin
