/-
# The pieces of a statement that is cut at its clause

`Clause.cut?` finds FROM and WHERE one after the other.  Here its answer is described at once: four
pieces that make up the statement and are cut well (`Clause.WellCut`), that is, the first holds no
FROM, the second is one, the third holds no WHERE and the fourth, if there is one, begins with it.

The main statement (`Clause.cut?_eq_some_iff`): a clause is the answer for a statement exactly if it
is cut well and makes up the statement.  What follows from it:

* `Clause.cut?_withBody`: a statement that is given another body without a WHERE is cut at the same
  places;
* `Clause.slices_of_cut?`: the byte offsets of a clause lie between its pieces;
* `Statement.kind_withBody`: the kind of a statement is decided in front of its FROM.
-/
import NestedJoin.Clause
import NestedJoin.Proofs.Text.Blanks
import NestedJoin.Proofs.Text.Words
import NestedJoin.Statement

namespace NestedJoin

theorem opensOnce_fromWord : Text.OpensOnce fromWord := ⟨'f', "rom".toList, rfl, by decide⟩

theorem opensOnce_whereWord : Text.OpensOnce whereWord := ⟨'w', "here".toList, rfl, by decide⟩

namespace Clause

/-! ## 1. Well-cut clauses -/

/-- The pieces of a clause are where the search for FROM and for WHERE would cut. -/
structure WellCut (c : Clause) : Prop where
  before : ¬ Text.Holds fromWord c.before
  word : Text.fold c.word = fromWord
  body : ¬ Text.Holds whereWord c.body
  tail : c.tail = [] ∨ Text.beginsWith whereWord c.tail = true

theorem wellCut_of_cut? {sql : Text} {c : Clause} (h : cut? sql = some c) : c.WellCut := by
  simp only [cut?] at h
  split at h
  · simp at h
  · rename_i before rest hfrom
    obtain ⟨-, hbefore, hrest⟩ := (Text.breakAt_eq_some_iff opensOnce_fromWord).mp hfrom
    have hword : Text.fold (rest.take fromWord.length) = fromWord := eq_of_beq hrest
    split at h
    · rename_i hwhere
      obtain rfl := Option.some.inj h
      exact ⟨hbefore, hword, Text.breakAt_eq_none_iff.mp hwhere, Or.inl rfl⟩
    · rename_i body tail hwhere
      obtain rfl := Option.some.inj h
      obtain ⟨-, hbody, htail⟩ := (Text.breakAt_eq_some_iff opensOnce_whereWord).mp hwhere
      exact ⟨hbefore, hword, hbody, Or.inr htail⟩

/-- FROM, as a clause has it, is of the same length as the word. -/
theorem WellCut.length_word {c : Clause} (h : c.WellCut) : c.word.length = fromWord.length := by
  have hlen : (Text.fold c.word).length = c.word.length := List.length_map _
  rw [← hlen, h.word]

theorem WellCut.beginsWith_word {c : Clause} (h : c.WellCut) (t : Text) :
    Text.beginsWith fromWord (c.word ++ t) = true := by
  rw [Text.beginsWith_iff, Text.fold_append, h.word]
  exact List.prefix_append _ _

/-- **The pieces of a well-cut clause are found again.** -/
theorem WellCut.cut? {c : Clause} (h : c.WellCut) : cut? (c.withBody c.body) = some c := by
  have hfrom : Text.breakAt fromWord (c.withBody c.body) =
      some (c.before, c.word ++ (c.body ++ c.tail)) := by
    rw [withBody, head, List.append_assoc]
    exact Text.breakAt_append opensOnce_fromWord (h.beginsWith_word _) h.before
  have htake : (c.word ++ (c.body ++ c.tail)).take fromWord.length = c.word := by
    rw [← h.length_word, List.take_left]
  have hdrop : (c.word ++ (c.body ++ c.tail)).drop fromWord.length = c.body ++ c.tail := by
    rw [← h.length_word, List.drop_left]
  simp only [Clause.cut?, hfrom, htake, hdrop]
  rcases h.tail with htail | htail
  · have hwhere : Text.breakAt whereWord (c.body ++ c.tail) = none := by
      rw [htail, List.append_nil]
      exact Text.breakAt_eq_none_iff.mpr h.body
    rw [hwhere, htail, List.append_nil, ← htail]
  · rw [Text.breakAt_append opensOnce_whereWord htail h.body]

/-- **Where a statement is cut.** -/
theorem cut?_eq_some_iff {sql : Text} {c : Clause} :
    cut? sql = some c ↔ c.WellCut ∧ c.withBody c.body = sql := by
  constructor
  · intro h
    exact ⟨wellCut_of_cut? h, append_of_cut? h⟩
  · rintro ⟨h, rfl⟩
    exact h.cut?

/-- **A statement is cut nowhere** exactly if it holds no FROM. -/
theorem cut?_eq_none_iff {sql : Text} : cut? sql = none ↔ ¬ Text.Holds fromWord sql := by
  rw [← Text.breakAt_eq_none_iff]
  cases hfrom : Text.breakAt fromWord sql with
  | none => simp only [cut?, hfrom]
  | some cut =>
    simp only [cut?, hfrom]
    split <;> simp

/-- **Another body without a WHERE leaves the cuts where they are.** -/
theorem cut?_withBody {c : Clause} (h : c.WellCut) {body : Text}
    (hbody : ¬ Text.Holds whereWord body) :
    Clause.cut? (c.withBody body) = some { c with body := body } :=
  WellCut.cut? (c := { c with body := body }) ⟨h.before, h.word, hbody, h.tail⟩

/-! ## 2. Byte offsets -/

theorem WellCut.bodyStart_span {c : Clause} (h : c.WellCut) :
    c.span.bodyStart = Text.byteLength c.head := by
  have hword : Text.byteLength c.word = Text.byteLength fromWord :=
    Text.byteLength_eq_of_fold_eq (by rw [h.word]; rfl)
  rw [Span.bodyStart, head, Text.byteLength_append, hword]
  rfl

/-- **The byte offsets of a clause lie between its pieces.** -/
theorem slices_of_cut? {sql : Text} {c : Clause} (h : cut? sql = some c) :
    c.span.head sql = .ok c.head ∧ c.span.body sql = .ok c.body ∧ c.span.tail sql = .ok c.tail := by
  obtain ⟨hwell, rfl⟩ := cut?_eq_some_iff.mp h
  have hhead := Text.slice_append [] c.head (c.body ++ c.tail)
  have hbody := Text.slice_append c.head c.body c.tail
  have htail := Text.slice_append (c.head ++ c.body) c.tail []
  rw [← hwell.bodyStart_span] at hbody
  rw [List.nil_append, List.nil_append, Text.byteLength_nil, ← hwell.bodyStart_span] at hhead
  rw [List.append_nil, List.append_assoc] at htail
  exact ⟨hhead, hbody, htail⟩

/-- The offsets after a change of the body: the end has moved with the body, the beginning has
not. -/
theorem WellCut.span_withBody {c : Clause} (h : c.WellCut) (body : Text) :
    ({ c with body := body } : Clause).span =
      ⟨c.span.first, c.span.bodyStart + Text.byteLength body⟩ := by
  rw [h.bodyStart_span, ← Text.byteLength_append]
  rfl

end Clause

/-! ## 3. The kind -/

namespace Statement

/-- The first word of a statement is decided in front of its FROM, if it has no `f`. -/
theorem beginsWith_withBody {c : Clause} (h : c.WellCut) {word : Text}
    (hf : 'f' ∉ Text.fold word) (body : Text) :
    Text.beginsWith word (Text.trimStart (c.withBody body)) =
      Text.beginsWith word (Text.trimStart c.before) := by
  obtain ⟨e, more, hword⟩ : ∃ e more, c.word = e :: more :=
    List.exists_cons_of_ne_nil fun hnil => by
      have hlen := h.length_word
      rw [hnil] at hlen
      exact absurd hlen (by decide)
  have he : e.toLower = 'f' := by
    have hfold := h.word
    rw [hword, Text.fold_cons] at hfold
    exact (List.cons.inj hfold).1
  have hblank : Text.isBlank e = false := by
    rw [← Text.isBlank_toLower, he]
    rfl
  rw [Bool.eq_iff_iff, Text.beginsWith_iff, Text.beginsWith_iff, Clause.withBody, Clause.head,
    hword, List.append_assoc, List.cons_append, Text.trimStart_append_cons hblank,
    Text.fold_append, Text.fold_cons, he, Text.prefix_append_cons_iff hf]

/-- **The kind of a statement is decided in front of its FROM.** -/
theorem kind_withBody {c : Clause} (h : c.WellCut) (body : Text) :
    kind (c.withBody body) = kind c.before := by
  have hname : ∀ k : Kind, Text.beginsWith k.name (Text.trimStart (c.withBody body)) =
      Text.beginsWith k.name (Text.trimStart c.before) := by
    intro k
    refine beginsWith_withBody h ?_ body
    cases k <;> decide +kernel
  simp only [kind, hname]

end Statement

end NestedJoin
