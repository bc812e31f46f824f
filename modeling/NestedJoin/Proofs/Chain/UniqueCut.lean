/-
# The segments of a chain as a repetition

The segments of a chain are found by a parser too: up to a marker and the marker, as often as it
goes, and what is left is the last segment (`joinedSegments`).  Whatever the toolkit that the parser
is built with, as long as it does what is documented of it, the repetition never refuses, and it
finds the segments that the walk from the left finds (`parse_joinedSegments`).

The argument follows the segments.  In front of the first marker there is no other that the parser
could stop at, since a marker does not reach over a place where a blank begins
(`not_marker_prefix_of_lt`); so one round reads one segment, and the last round, which finds no
marker, is the one that ends the repetition.

* `segments_unique`: there is one way to cut a chain at its markers;
* `cut_is_unique`: the repetition finds it, and so what is answered where the repetition refuses or
  where there are no segments does not matter.
-/
import NestedJoin.Proofs.Chain.NestedForm
import NestedJoin.Proofs.Text.Parsers

namespace NestedJoin.Chain

/-! ## 1. One way to cut -/

/-- **There is one way to cut a chain at its markers.** -/
theorem segments_unique {chain : Text} {texts : List Text} :
    segments chain = texts ↔ texts ≠ [] ∧ joinMarker.intercalate texts = chain ∧
      ∀ t ∈ texts, ¬ joinMarker <:+: t := by
  constructor
  · rintro rfl
    exact ⟨segments_ne_nil chain, intercalate_segments chain, fun _ => not_infix_of_mem_segments⟩
  · rintro ⟨hne, rfl, hfree⟩
    exact segments_intercalate hne hfree

/-! ## 2. The parser -/

/-- The segments that a marker follows; what is left is the last segment. -/
def joinedSegments (kit : Toolkit) : Parser (List Text) :=
  kit.many (kit.terminated (kit.takeUntil joinMarker) (kit.tag joinMarker))

/-- The segments of a chain by the parser, or `refused` if that refuses. -/
def parsedSegments (kit : Toolkit) (refused : List Text) (chain : Text) : List Text :=
  match (joinedSegments kit).parse chain with
  | .ok (last, joined) => joined ++ [last]
  | .error _ => refused

/-- Before the first marker of a chain no other begins. -/
theorem not_marker_prefix_of_lt {s t front back : Text} (hs : ¬ joinMarker <:+: s)
    (hcut : front ++ back = s ++ (joinMarker ++ t)) (hlen : front.length < s.length) :
    ¬ joinMarker <+: back := by
  rcases List.append_eq_append_iff.mp hcut with ⟨more, rfl, rfl⟩ | ⟨more, rfl, -⟩
  · intro hback
    cases more with
    | nil =>
      rw [List.append_nil] at hlen
      exact Nat.lt_irrefl _ hlen
    | cons c more =>
      have hmore : joinMarker <+: c :: more := marker_prefix_of_append_blank hback
      exact hs (hmore.isInfix.trans (List.suffix_append front _).isInfix)
  · rw [List.length_append] at hlen
    omega

section Documented

variable {kit : Toolkit} (h : kit.Documented)
include h

/-- **One round reads one segment**, and its marker. -/
theorem parse_round {s : Text} (hs : ¬ joinMarker <:+: s) (t : Text) :
    (kit.terminated (kit.takeUntil joinMarker) (kit.tag joinMarker)).parse
      (s ++ (joinMarker ++ t)) = .ok (t, s) := by
  have hsegment : (kit.takeUntil joinMarker).parse (s ++ (joinMarker ++ t)) =
      .ok (joinMarker ++ t, s) :=
    h.takeUntil_append (List.prefix_append _ _) fun _ _ hcut hlen =>
      not_marker_prefix_of_lt hs hcut hlen
  have hmarker : (kit.tag joinMarker).parse (joinMarker ++ t) = .ok (t, joinMarker) :=
    h.tag_append joinMarker t
  rw [h.terminated_eq, hsegment]
  change ((kit.tag joinMarker).parse (joinMarker ++ t) >>= fun more => Except.ok (more.1, s)) = _
  rw [hmarker]
  rfl

/-- **The round that finds no marker** does not fit, and so ends the repetition. -/
theorem parse_last_round {last : Text} (hlast : ¬ joinMarker <:+: last) :
    (kit.terminated (kit.takeUntil joinMarker) (kit.tag joinMarker)).parse last =
      .error .error := by
  rw [h.terminated_eq, h.takeUntil_of_not_infix hlast]
  rfl

/-- The repetition reads what was put together with the marker. -/
theorem parse_intercalate {joined : List Text} {last : Text}
    (hjoined : ∀ t ∈ joined, ¬ joinMarker <:+: t) (hlast : ¬ joinMarker <:+: last) :
    (joinedSegments kit).parse (joinMarker.intercalate (joined ++ [last])) =
      .ok (last, joined) := by
  induction joined with
  | nil =>
    rw [List.nil_append, List.intercalate_singleton, joinedSegments, h.many_eq,
      parse_last_round h hlast]
  | cons s joined ih =>
    obtain ⟨hs, hjoined⟩ := List.forall_mem_cons.mp hjoined
    have hchain : joinMarker.intercalate (s :: joined ++ [last]) =
        s ++ (joinMarker ++ joinMarker.intercalate (joined ++ [last])) := by
      rw [List.cons_append, List.intercalate_cons_of_ne_nil (by simp), List.append_assoc]
    have hshorter : joinMarker.intercalate (joined ++ [last]) ≠
        s ++ (joinMarker ++ joinMarker.intercalate (joined ++ [last])) := by
      intro heq
      have hlen := congrArg List.length heq
      have hmarker : joinMarker.length = 5 := rfl
      rw [List.length_append, List.length_append, hmarker] at hlen
      omega
    rw [hchain, joinedSegments, h.many_eq, parse_round h hs]
    dsimp only
    rw [if_neg hshorter]
    change Except.map _ ((joinedSegments kit).parse _) = _
    rw [ih hjoined]
    rfl

/-- **The repetition never refuses**, and finds the segments. -/
theorem parse_joinedSegments (chain : Text) :
    ∃ joined last, segments chain = joined ++ [last] ∧
      (joinedSegments kit).parse chain = .ok (last, joined) := by
  obtain ⟨joined, last, hsegments⟩ : ∃ joined last, segments chain = joined ++ [last] :=
    ⟨_, _, (List.dropLast_append_getLast (segments_ne_nil chain)).symm⟩
  obtain ⟨-, hchain, hfree⟩ := segments_unique.mp hsegments
  have hparse := parse_intercalate h
    (fun t ht => hfree t (List.mem_append_left _ ht))
    (hfree last (List.mem_append_right _ (List.mem_singleton_self last)))
  rw [hchain] at hparse
  exact ⟨joined, last, hsegments, hparse⟩

theorem parsedSegments_eq (refused : List Text) (chain : Text) :
    parsedSegments kit refused chain = segments chain := by
  obtain ⟨joined, last, hsegments, hparse⟩ := parse_joinedSegments h chain
  rw [parsedSegments, hparse, hsegments]

end Documented

/-! ## 3. The nested form from segments -/

/-- The nested form of a chain from its segments, or `empty` if there are none. -/
def nestSegments (empty : Except MalformedChain Text) (chain : Text) (texts : List Text) :
    Except MalformedChain Text :=
  match texts.getLast?, texts.dropLast with
  | none, _ => empty
  | some _, [] => .ok chain
  | some last, first :: middle =>
    match closeSegments (middle ++ [last]) with
    | .error blamed => .error ⟨chain, blamed⟩
    | .ok closed =>
      .ok (openAfterLead middle.length (joinMarker.intercalate (first :: closed)))

/-- **There are always segments**, so the nested form is that of the chain. -/
theorem nestSegments_segments (empty : Except MalformedChain Text) (chain : Text) :
    nestSegments empty chain (segments chain) = nest chain := by
  obtain ⟨first, more, hsegments⟩ := segments_eq_cons chain
  rw [hsegments]
  rcases List.eq_nil_or_concat' more with rfl | ⟨middle, last, rfl⟩
  · rw [nest, hsegments]
    rfl
  · have hlast : (first :: (middle ++ [last])).getLast? = some last := by
      rw [← List.cons_append, List.getLast?_concat]
    have hinit : (first :: (middle ++ [last])).dropLast = first :: middle := by
      rw [← List.cons_append, List.dropLast_concat]
    have hlen : (middle ++ [last]).length - 1 = middle.length := by
      rw [List.length_append, List.length_singleton, Nat.add_sub_cancel]
    rw [nest_of_segments (by simp) hsegments, hlen]
    cases hclosed : closeSegments (middle ++ [last]) <;>
      simp only [nestSegments, hlast, hinit, hclosed]

/-- **The cut of a chain at its markers is unique, and found without refusal.**

* The repetition gives segments, and does not refuse.
* They are the only texts that are at least one, make up the chain when they are put together with
  the marker, and hold no marker; and there is one more of them than there are markers.
* Texts without a marker, at least one, that are put together with the marker are found again.
* They are the segments that are nested, and the nested form from them is that of the chain.

What is answered where the repetition refuses, or where there are no segments, may be anything. -/
theorem cut_is_unique {kit : Toolkit} (h : kit.Documented) (chain : Text) :
    (∃ joined last, (joinedSegments kit).parse chain = .ok (last, joined)) ∧
    (∀ refused texts, parsedSegments kit refused chain = texts ↔
      texts ≠ [] ∧ joinMarker.intercalate texts = chain ∧ ∀ t ∈ texts, ¬ joinMarker <:+: t) ∧
    (∀ refused, (parsedSegments kit refused chain).length = markerCount chain + 1) ∧
    (∀ refused texts, texts ≠ [] → (∀ t ∈ texts, ¬ joinMarker <:+: t) →
      parsedSegments kit refused (joinMarker.intercalate texts) = texts) ∧
    (∀ refused, parsedSegments kit refused chain = segments chain) ∧
    ∀ refused empty,
      nestSegments empty chain (parsedSegments kit refused chain) = nest chain := by
  simp only [parsedSegments_eq h]
  obtain ⟨joined, last, -, hparse⟩ := parse_joinedSegments h chain
  exact ⟨⟨joined, last, hparse⟩, fun _ _ => segments_unique, fun _ => length_segments chain,
    fun _ _ hne hfree => segments_intercalate hne hfree, fun _ => trivial,
    fun _ empty => nestSegments_segments empty chain⟩

/-- A segment may end in the first letters of a marker, which is no marker yet, and the last one may
be empty; texts put together are found again also where the first of them is empty. -/
theorem cut_is_unique_of_false_starts :
    Toolkit.plain.Documented ∧
    (∀ refused, parsedSegments Toolkit.plain refused "a joi join jo join".toList =
      ["a joi".toList, " jo".toList, "".toList]) ∧
    markerCount "a joi join jo join".toList = 2 ∧
    (∀ refused, parsedSegments Toolkit.plain refused
      (joinMarker.intercalate ["".toList, " joi".toList]) = ["".toList, " joi".toList]) ∧
    ∃ joined last,
      (joinedSegments Toolkit.plain).parse "a joi join jo join".toList = .ok (last, joined) := by
  obtain ⟨hreads, hunique, hcount, hagain, -⟩ :=
    cut_is_unique Toolkit.documented_plain "a joi join jo join".toList
  have hcut : ∀ refused, parsedSegments Toolkit.plain refused "a joi join jo join".toList =
      ["a joi".toList, " jo".toList, "".toList] := fun refused =>
    (hunique refused _).mpr ⟨by decide, by decide, by decide⟩
  have hlen := hcount []
  rw [hcut] at hlen
  exact ⟨Toolkit.documented_plain, hcut, (Nat.succ.inj hlen).symm,
    fun refused => hagain refused _ (by decide) (by decide), hreads⟩

end NestedJoin.Chain
