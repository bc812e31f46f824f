/-
# The nested form is the nesting from the left

The nesting of a chain from the left is built join by join: each later join puts what is there into
parentheses and adds its qualifier, the marker and the text behind it.

    a inner join b on p left outer join c on q right outer join d on r
    ((a inner join b on p) left outer join c on q) right outer join d on r

`Chain.nest` gives exactly this for every well-formed chain, whatever blanks stand in front of it
and whatever the texts between two joins are, as long as no marker stands in front of the first
join (`Chain.nest_blank_append_flat_iff`).  The condition is needed: a chain whose head begins with
the word of a join, right after a space, holds a marker that no text of it holds
(`Chain.nest_flat_fails_behind_space`).
-/
import Mathlib.Data.List.Infix
import NestedJoin.Proofs.Chain.NestedForm

namespace NestedJoin

namespace JoinList

/-! ## 1. Join by join -/

/-- A nested chain with one join more. -/
def joinOnto (nested : Text) (link : Qualifier × Text) : Text :=
  '(' :: (nested ++ ')' :: (link.1.suffix ++ (joinMarker ++ link.2)))

/-- The chain of a list, nested from the left. -/
def leftNested (p : JoinList) : Text :=
  p.links.foldl joinOnto (p.head ++ (joinMarker ++ p.first))

/-- A well-formed chain: a plain list whose head begins with something other than a blank. -/
structure WellFormed (p : JoinList) : Prop extends p.Plain where
  begins : ∃ c t, p.head = c :: t ∧ Text.isBlank c = false

instance (p : JoinList) : Decidable p.Plain :=
  decidable_of_iff
    ((∀ t ∈ p.texts, ¬ joinMarker <:+: t) ∧ Qualifier.trailing? p.last = none)
    ⟨fun h => ⟨h.1, Qualifier.trailing?_eq_none_iff.mp h.2⟩,
      fun h => ⟨h.no_marker, Qualifier.trailing?_eq_none_iff.mpr h.no_qualifier⟩⟩

/-- All parentheses open in front of what the later joins are put to. -/
theorem foldl_joinOnto : ∀ (links : List (Qualifier × Text)) (s t : Text),
    links.foldl joinOnto (s ++ t) =
      List.replicate links.length '(' ++ (s ++ writeTail [')'] t links)
  | [], s, t => by simp [writeTail]
  | (q, u) :: rest, s, t => by
    have ih := foldl_joinOnto rest ('(' :: (s ++ (t ++ ')' :: (q.suffix ++ joinMarker)))) u
    have hstep : joinOnto (s ++ t) (q, u) =
        ('(' :: (s ++ (t ++ ')' :: (q.suffix ++ joinMarker)))) ++ u := by
      simp only [joinOnto, List.append_assoc, List.cons_append]
    rw [List.foldl_cons, hstep, ih, writeTail_cons, List.length_cons, List.replicate_succ']
    simp only [List.append_assoc, List.cons_append, List.nil_append]

/-- **The nesting from the left** is the closed list behind as many parentheses as it has later
joins. -/
theorem leftNested_eq (p : JoinList) :
    p.leftNested = List.replicate p.links.length '(' ++ p.closed := by
  have h := foldl_joinOnto p.links (p.head ++ joinMarker) p.first
  rw [List.append_assoc, List.append_assoc] at h
  exact h

theorem byteLength_leftNested (p : JoinList) :
    Text.byteLength p.leftNested = Text.byteLength p.flat + 2 * p.links.length := by
  rw [leftNested_eq, closed, flat, write, write]
  simp only [Text.byteLength_append, Chain.byteLength_replicate, Chain.byteLength_writeTail]
  omega

/-! ## 2. Blanks in front -/

/-- The list with something in front of its head. -/
def prepend (w : Text) (p : JoinList) : JoinList := { p with head := w ++ p.head }

theorem write_prepend (close w : Text) (p : JoinList) :
    (p.prepend w).write close = w ++ p.write close := List.append_assoc _ _ _

theorem plain_prepend {w : Text} {p : JoinList} (hp : p.Plain) (hw : ¬ joinMarker <:+: w ++ p.head) :
    (p.prepend w).Plain where
  no_marker t ht := by
    rcases List.mem_cons.mp ht with rfl | ht
    · exact hw
    · exact hp.no_marker t (List.mem_cons_of_mem _ ht)
  no_qualifier := hp.no_qualifier

end JoinList

namespace Chain

/-- A marker in front of the first join is one join more than the list has. -/
theorem joins_append_flat {w : Text} {p : JoinList} (hp : p.Plain) :
    joins (w ++ p.flat) = joins (w ++ p.head) + p.links.length + 1 := by
  have htail := JoinList.segments_writeTail p.first p.links
    (fun u hu => hp.no_marker u (List.mem_cons_of_mem _ hu))
  have hjoins : joins (JoinList.writeTail [] p.first p.links) = p.links.length := by
    rw [joins, htail, JoinList.length_tailSegments, Nat.add_sub_cancel]
  rw [JoinList.flat, JoinList.write, ← List.append_assoc, joins_append_marker, hjoins]

/-- **A well-formed chain takes its nesting from the left**, behind any blanks, exactly if no
marker stands in front of its first join. -/
theorem nest_blank_append_flat_iff {w : Text} {p : JoinList} (hw : ∀ c ∈ w, Text.isBlank c = true)
    (hp : p.WellFormed) :
    nest (w ++ p.flat) = .ok (w ++ p.leftNested) ↔ ¬ joinMarker <:+: w ++ p.head := by
  constructor
  · -- One marker more would be one join more, and so two parentheses more.
    intro h hm
    have hlen := byteLength_of_nest h
    have hpos : 0 < joins (w ++ p.head) := of_decide_eq_true (hasJoin_iff.mpr hm)
    rw [joins_append_flat hp.toPlain] at hlen
    simp only [Text.byteLength_append, JoinList.byteLength_leftNested] at hlen
    omega
  · intro hm
    obtain ⟨c, t, hhead, hc⟩ := hp.begins
    have hclosed : ∃ u, p.closed = c :: u :=
      ⟨t ++ (joinMarker ++ JoinList.writeTail [')'] p.first p.links), by
        rw [JoinList.closed, JoinList.write, hhead]; rfl⟩
    obtain ⟨u, hu⟩ := hclosed
    have hnest := nest_flat (JoinList.plain_prepend hp.toPlain hm)
    rw [JoinList.flat, JoinList.closed, JoinList.write_prepend, JoinList.write_prepend] at hnest
    change nest (w ++ p.flat) = .ok (openAfterLead p.links.length (w ++ p.closed)) at hnest
    rw [hnest, hu, openAfterLead_blank_append hw hc, JoinList.leftNested_eq, hu]

/-- Three joins behind a wide and a narrow blank.  The text of the first join ends in a qualifier
of its own and holds a parenthesis, that of the second is empty. -/
theorem nest_flat_three_joins :
    (∀ c ∈ "\u3000 ".toList, Text.isBlank c = true) ∧
    JoinList.WellFormed ⟨"a inner".toList, " b) inner".toList,
      [(.leftOuter, []), (.rightOuter, " d on p".toList)]⟩ ∧
    nest "\u3000 a inner join b) inner left outer join right outer join d on p".toList =
      .ok "\u3000 ((a inner join b) inner) left outer join) right outer join d on p".toList := by
  have hw : ∀ c ∈ "\u3000 ".toList, Text.isBlank c = true :=
    List.all_eq_true.mp (by decide +kernel)
  have hp : JoinList.WellFormed ⟨"a inner".toList, " b) inner".toList,
      [(.leftOuter, []), (.rightOuter, " d on p".toList)]⟩ :=
    ⟨by decide +kernel, 'a', " inner".toList, by decide +kernel, by decide +kernel⟩
  have hnest := (nest_blank_append_flat_iff hw hp).mpr (by decide +kernel)
  have hflat : "\u3000 ".toList ++ JoinList.flat ⟨"a inner".toList, " b) inner".toList,
      [(.leftOuter, []), (.rightOuter, " d on p".toList)]⟩ =
      "\u3000 a inner join b) inner left outer join right outer join d on p".toList := by
    decide +kernel
  have hnested : "\u3000 ".toList ++ JoinList.leftNested ⟨"a inner".toList, " b) inner".toList,
      [(.leftOuter, []), (.rightOuter, " d on p".toList)]⟩ =
      "\u3000 ((a inner join b) inner) left outer join) right outer join d on p".toList := by
    decide +kernel
  rw [hflat, hnested] at hnest
  exact ⟨hw, hp, hnest⟩

/-- **The condition cannot be left out.**  Neither the blank nor a text of the list holds a marker,
but the blank and the head together do; the chain is then malformed. -/
theorem nest_flat_fails_behind_space :
    (∀ c ∈ " ".toList, Text.isBlank c = true) ∧
    JoinList.WellFormed ⟨"join x".toList, " b".toList, []⟩ ∧
    nest (" ".toList ++ JoinList.flat ⟨"join x".toList, " b".toList, []⟩) =
      .error ⟨" join x join b".toList, " x".toList⟩ ∧
    nest (" ".toList ++ JoinList.flat ⟨"join x".toList, " b".toList, []⟩) ≠
      .ok (" ".toList ++ JoinList.leftNested ⟨"join x".toList, " b".toList, []⟩) := by
  have hp : JoinList.WellFormed ⟨"join x".toList, " b".toList, []⟩ :=
    ⟨by decide +kernel, 'j', "oin x".toList, by decide +kernel, by decide +kernel⟩
  have hfail : nest (" ".toList ++ JoinList.flat ⟨"join x".toList, " b".toList, []⟩) =
      .error ⟨" join x join b".toList, " x".toList⟩ := rfl
  refine ⟨List.all_eq_true.mp (by decide +kernel), hp, hfail, ?_⟩
  rw [hfail]
  exact nofun

end Chain

end NestedJoin
