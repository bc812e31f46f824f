/-
# The segments of a chain, and the marker they are cut at

`Chain.segments` walks a chain from the left.  Here the same cut is described by where the marker
stands.  The one fact behind everything is that the marker begins with a blank and holds no other:
no occurrence of it reaches over a place where a blank begins
(`marker_infix_append_blank`).  So a cut in front of a marker, or in front of a qualifier, is a cut
for the segments too.

* `segments_append_marker`: the segments of two texts with a marker between them are the segments
  of the one and then those of the other;
* `segments_intercalate`: the cut finds again what was put together with the marker;
* `segments_eq_singleton_iff`, `hasJoin_iff`: one segment, no join, no marker;
* `not_infix_of_mem_segments`: no segment holds a marker;
* `length_segments`: there is one segment more than there are places at which the marker stands.
-/
import NestedJoin.Chain
import NestedJoin.Proofs.Text.Words

namespace NestedJoin.Chain

/-! ## 1. The marker and the blanks -/

theorem joinMarker_eq : joinMarker = ' ' :: "join".toList := rfl

/-- **A marker does not reach over a place where a blank begins.** -/
theorem marker_infix_append_blank {s t : Text} :
    joinMarker <:+: s ++ ' ' :: t ↔ joinMarker <:+: s ∨ joinMarker <:+: ' ' :: t := by
  rw [joinMarker_eq]
  exact Text.infix_append_cons (by decide)

/-- A text that a blank is put behind begins with a marker only if it did so before. -/
theorem marker_prefix_of_append_blank {c : Char} {s t : Text}
    (h : joinMarker <+: (c :: s) ++ ' ' :: t) : joinMarker <+: c :: s := by
  rw [joinMarker_eq] at h ⊢
  exact Text.prefix_of_prefix_append_cons (by decide) h

theorem notMem_join_of_blank {c : Char} (h : Text.isBlank c = true) : c ∉ "join".toList := by
  intro hc
  have hletters : ("join".toList).all (fun d => !Text.isBlank d) = true := by decide +kernel
  have hletter := List.all_eq_true.mp hletters c hc
  rw [h] at hletter
  exact Bool.noConfusion hletter

/-- Blanks behind a text make no marker. -/
theorem marker_infix_of_append_blanks {w t : Text} (hw : ∀ c ∈ w, Text.isBlank c = true)
    (h : joinMarker <:+: t ++ w) : joinMarker <:+: t := by
  cases w with
  | nil => rwa [List.append_nil] at h
  | cons c w =>
    rw [joinMarker_eq] at h ⊢
    rcases (Text.infix_append_cons (notMem_join_of_blank (hw c List.mem_cons_self))).mp h with h | h
    · exact h
    · have hj : 'j' ∈ c :: w := List.IsInfix.subset h (by decide)
      exact absurd (hw 'j' hj) (by decide)

/-- Of blanks in front of a text, a marker takes the last one at most. -/
theorem marker_infix_of_blanks_append {w t : Text} (hw : ∀ c ∈ w, Text.isBlank c = true)
    (h : joinMarker <:+: w ++ t) : joinMarker <:+: ' ' :: t := by
  induction w with
  | nil => exact List.infix_cons h
  | cons c w ih =>
    rcases List.infix_cons_iff.mp h with hp | hi
    · rw [joinMarker_eq, List.cons_prefix_cons] at hp
      obtain ⟨-, hp⟩ := hp
      cases w with
      | nil =>
        have hmarker : ' ' :: "join".toList <+: ' ' :: t := List.cons_prefix_cons.mpr ⟨rfl, hp⟩
        exact hmarker.isInfix
      | cons d w =>
        have hd : 'j' = d := (List.cons_prefix_cons.mp hp).1
        have hblank := hw d (List.mem_cons_of_mem c List.mem_cons_self)
        rw [← hd] at hblank
        exact absurd hblank (by decide)
    · exact ih (fun d hd => hw d (List.mem_cons_of_mem c hd)) hi

/-! ## 2. The equations of the cut -/

/-- The side condition of the last equation of `segments`, said with the marker. -/
theorem not_marker_prefix {c : Char} {t : Text}
    (h : ∀ after, c = ' ' → t = 'j' :: 'o' :: 'i' :: 'n' :: after → False) :
    ¬ joinMarker <+: c :: t := by
  rintro ⟨after, ha⟩
  exact h after (List.cons.inj ha).1.symm (List.cons.inj ha).2.symm

/-- Where no marker stands, a character goes to the segment behind it. -/
theorem segments_cons {c : Char} {t s : Text} {more : List Text}
    (hc : ¬ joinMarker <+: c :: t) (ht : segments t = s :: more) :
    segments (c :: t) = (c :: s) :: more := by
  rw [segments.eq_3, ht]
  rintro rest rfl rfl
  exact hc ⟨rest, rfl⟩

/-- **The segments around a marker** are those in front of it and those behind it. -/
theorem segments_append_marker (s t : Text) :
    segments (s ++ (joinMarker ++ t)) = segments s ++ segments t := by
  fun_induction segments s with
  | case1 => rfl
  | case2 rest ih =>
    change [] :: segments (rest ++ (joinMarker ++ t)) = [] :: (segments rest ++ segments t)
    rw [ih]
  | case3 c rest _ hs _ => exact absurd hs (segments_ne_nil rest)
  | case4 c rest hc s more hs ih =>
    have hnot : ¬ joinMarker <+: (c :: rest) ++ (joinMarker ++ t) := fun h =>
      not_marker_prefix hc (marker_prefix_of_append_blank h)
    rw [hs, List.cons_append] at ih
    exact segments_cons hnot ih

/-- A text without a marker is its only segment. -/
theorem segments_eq_singleton {t : Text} (h : ¬ joinMarker <:+: t) : segments t = [t] := by
  induction t with
  | nil => rfl
  | cons c t ih =>
    have hc : ¬ joinMarker <+: c :: t := fun hp => h hp.isInfix
    have ht : ¬ joinMarker <:+: t := fun hi => h (hi.trans (List.suffix_cons c t).isInfix)
    exact segments_cons hc (ih ht)

/-- The segments of marker-free texts put together with the marker are these texts. -/
theorem segments_intercalate : ∀ {texts : List Text}, texts ≠ [] →
    (∀ t ∈ texts, ¬ joinMarker <:+: t) → segments (joinMarker.intercalate texts) = texts
  | [], hne, _ => absurd rfl hne
  | [t], _, h => by
    rw [List.intercalate_singleton]
    exact segments_eq_singleton (h t (by simp))
  | s :: t :: more, _, h => by
    have ih : segments (joinMarker.intercalate (t :: more)) = t :: more :=
      segments_intercalate (by simp) fun u hu => h u (List.mem_cons_of_mem _ hu)
    rw [List.intercalate_cons_cons, List.append_assoc, segments_append_marker, ih,
      segments_eq_singleton (h s (by simp))]
    rfl

/-! ## 3. Joins and markers -/

theorem segments_eq_cons (t : Text) : ∃ s more, segments t = s :: more :=
  List.exists_cons_of_ne_nil (segments_ne_nil t)

/-- The first segment is what the text begins with. -/
theorem prefix_of_segments_eq_cons {t s : Text} {more : List Text} (h : segments t = s :: more) :
    s <+: t := by
  have hjoin := intercalate_segments t
  rw [h] at hjoin
  cases more with
  | nil =>
    rw [List.intercalate_singleton] at hjoin
    exact ⟨[], by rw [hjoin, List.append_nil]⟩
  | cons s' more' =>
    rw [List.intercalate_cons_cons, List.append_assoc] at hjoin
    exact ⟨_, hjoin⟩

/-- **No segment holds a marker.** -/
theorem not_infix_of_mem_segments {t s : Text} (h : s ∈ segments t) : ¬ joinMarker <:+: s := by
  fun_induction segments t generalizing s with
  | case1 =>
    rw [List.mem_singleton.mp h]
    decide
  | case2 rest ih =>
    rcases List.mem_cons.mp h with rfl | hs
    · decide
    · exact ih hs
  | case3 c rest _ hs _ => exact absurd hs (segments_ne_nil rest)
  | case4 c rest hc first more hs ih =>
    rw [hs] at ih
    rcases List.mem_cons.mp h with rfl | hm
    · intro hi
      rcases List.infix_cons_iff.mp hi with hp | hf
      · have hfirst : first <+: rest := prefix_of_segments_eq_cons hs
        exact not_marker_prefix hc (hp.trans (List.cons_prefix_cons.mpr ⟨rfl, hfirst⟩))
      · exact ih List.mem_cons_self hf
    · exact ih (List.mem_cons_of_mem _ hm)

/-- **A text has one segment exactly if it holds no marker.** -/
theorem segments_eq_singleton_iff {t : Text} : segments t = [t] ↔ ¬ joinMarker <:+: t :=
  ⟨fun h => not_infix_of_mem_segments (h ▸ List.mem_singleton_self t), segments_eq_singleton⟩

/-- The places at which a marker stands in a text. -/
def markerCount : Text → Nat
  | [] => 0
  | c :: t => (if joinMarker <+: c :: t then 1 else 0) + markerCount t

/-- **There is one segment more than there are markers.**  Two markers never overlap, so none is
passed over by the walk from the left. -/
theorem length_segments (t : Text) : (segments t).length = markerCount t + 1 := by
  fun_induction segments t with
  | case1 => rfl
  | case2 rest ih =>
    have hcount : markerCount (joinMarker ++ rest) = 1 + markerCount rest := by
      simp [markerCount, joinMarker]
    change (segments rest).length + 1 = markerCount (joinMarker ++ rest) + 1
    rw [hcount, ih]
    omega
  | case3 c rest _ hs _ => exact absurd hs (segments_ne_nil rest)
  | case4 c rest hc s more hs ih =>
    rw [hs] at ih
    simpa [markerCount, not_marker_prefix hc] using ih

theorem joins_eq_markerCount (t : Text) : joins t = markerCount t := by
  rw [joins, length_segments, Nat.add_sub_cancel]

theorem hasJoin_iff_markerCount {t : Text} : hasJoin t = true ↔ 1 ≤ markerCount t := by
  rw [hasJoin, decide_eq_true_eq, joins_eq_markerCount]
  exact Iff.rfl

/-- **A chain has a join exactly if it holds a marker.** -/
theorem hasJoin_iff {t : Text} : hasJoin t = true ↔ joinMarker <:+: t := by
  obtain ⟨s, more, hs⟩ := segments_eq_cons t
  have hjoin := intercalate_segments t
  rw [hasJoin, decide_eq_true_eq, joins, hs]
  cases more with
  | nil =>
    rw [hs, List.intercalate_singleton] at hjoin
    have hnot : ¬ joinMarker <:+: t := segments_eq_singleton_iff.mp (by rw [hs, hjoin])
    simp [hnot]
  | cons s' more' =>
    rw [hs, List.intercalate_cons_cons] at hjoin
    have hin : joinMarker <:+: t := ⟨s, _, hjoin⟩
    simp [hin]

/-- The joins around a marker: those in front of it, those behind it, and its own. -/
theorem joins_append_marker (s t : Text) :
    joins (s ++ (joinMarker ++ t)) = joins s + joins t + 1 := by
  have hs := length_segments s
  have ht := length_segments t
  rw [joins, joins, joins, segments_append_marker, List.length_append]
  omega

end NestedJoin.Chain
