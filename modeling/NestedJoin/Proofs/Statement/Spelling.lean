/-
# Letter case and leading blanks

Two statements that are the same but for the case of ASCII letters are of one kind and are cut in
the same places, and blanks in front of one of them only move the cuts
(`Statement.same_parts_of_same_text`).

The two halves go by the pieces of a statement.  Folding a statement folds its pieces
(`Clause.cut?_fold`), since whether pieces are cut well is a matter of their folded forms.  Blanks
in front go to the first piece (`Clause.cut?_blank_append`), since neither FROM nor WHERE has a
blank in it and so none of them can begin among the blanks.
-/
import NestedJoin.Nesting
import NestedJoin.Proofs.Clause.Offsets
import NestedJoin.Proofs.Text.Case

namespace NestedJoin

open Text (SameText fold_eq_fold_iff)

/-! ## 1. Words -/

namespace Text

theorem SameText.byteLength_eq {s t : Text} (h : SameText s t) : byteLength s = byteLength t :=
  byteLength_eq_of_fold_eq (fold_eq_fold_iff.mpr h)

theorem holds_fold_iff {word t : Text} : Holds word (fold t) ↔ Holds word t := by
  rw [Holds, Holds, fold_fold]

theorem beginsWith_fold (word t : Text) : beginsWith word (fold t) = beginsWith word t := by
  rw [Bool.eq_iff_iff, beginsWith_iff, beginsWith_iff, fold_fold]

/-- The leading blanks of a text are those of its folded form. -/
theorem trimStart_fold (t : Text) : trimStart (fold t) = fold (trimStart t) := by
  have hblank : isBlank ∘ Char.toLower = isBlank := funext isBlank_toLower
  rw [trimStart, fold, List.dropWhile_map, hblank]
  rfl

/-- **No word of letters begins among the blanks** in front of a text. -/
theorem holds_blank_append_iff {word : Text} (hword : word ≠ [])
    (hletters : ∀ c ∈ fold word, ¬ isBlank c = true) (t : Text) : ∀ {w : Text},
    (∀ c ∈ w, isBlank c = true) → (Holds word (w ++ t) ↔ Holds word t)
  | [], _ => Iff.rfl
  | b :: w, hw => by
    have ih := holds_blank_append_iff hword hletters t fun c hc => hw c (List.mem_cons_of_mem b hc)
    have hb : b.toLower ∉ fold word := by
      intro hmem
      have hblank := hw b List.mem_cons_self
      rw [← isBlank_toLower] at hblank
      exact hletters _ hmem hblank
    have hnil : ¬ Holds word [] := not_holds_of_disjoint hword (by simp)
    rw [← ih]
    exact (holds_append_cons_iff hword hb (s := [])).trans (or_iff_right hnil)

end Text

/-! ## 2. The pieces of a statement -/

namespace Clause

variable {w : Text}

/-- The folded pieces. -/
def fold (c : Clause) : Clause :=
  ⟨Text.fold c.before, Text.fold c.word, Text.fold c.body, Text.fold c.tail⟩

/-- The pieces with a text in front of the first. -/
def prepend (w : Text) (c : Clause) : Clause := { c with before := w ++ c.before }

theorem WellCut.fold {c : Clause} (h : c.WellCut) : c.fold.WellCut where
  before := mt Text.holds_fold_iff.mp h.before
  word := (Text.fold_fold c.word).trans h.word
  body := mt Text.holds_fold_iff.mp h.body
  tail := by
    refine h.tail.imp (fun htail => ?_) fun htail => ?_
    · rw [Clause.fold, htail]
      rfl
    · exact (Text.beginsWith_fold whereWord c.tail).trans htail

theorem WellCut.prepend {c : Clause} (h : c.WellCut)
    (hw : ¬ Text.Holds fromWord (w ++ c.before)) : (c.prepend w).WellCut :=
  ⟨hw, h.word, h.body, h.tail⟩

/-- **The pieces of a folded statement** are the folded pieces. -/
theorem cut?_fold (sql : Text) : cut? (Text.fold sql) = (cut? sql).map fold := by
  cases hc : cut? sql with
  | none =>
    rw [cut?_eq_none_iff] at hc
    exact cut?_eq_none_iff.mpr (mt Text.holds_fold_iff.mp hc)
  | some c =>
    obtain ⟨hwell, rfl⟩ := cut?_eq_some_iff.mp hc
    refine cut?_eq_some_iff.mpr ⟨hwell.fold, ?_⟩
    simp only [withBody, head, fold, Text.fold_append]

theorem holds_fromWord_blank_append_iff (hw : ∀ c ∈ w, Text.isBlank c = true) (t : Text) :
    Text.Holds fromWord (w ++ t) ↔ Text.Holds fromWord t :=
  Text.holds_blank_append_iff opensOnce_fromWord.ne_nil (List.any_eq_false.mp (by decide)) t hw

/-- **Blanks in front of a statement** go to its first piece. -/
theorem cut?_blank_append (hw : ∀ c ∈ w, Text.isBlank c = true) (sql : Text) :
    cut? (w ++ sql) = (cut? sql).map (prepend w) := by
  cases hc : cut? sql with
  | none =>
    rw [cut?_eq_none_iff] at hc
    exact cut?_eq_none_iff.mpr (mt (holds_fromWord_blank_append_iff hw sql).mp hc)
  | some c =>
    obtain ⟨hwell, rfl⟩ := cut?_eq_some_iff.mp hc
    have hbefore := mt (holds_fromWord_blank_append_iff hw c.before).mp hwell.before
    refine cut?_eq_some_iff.mpr ⟨hwell.prepend hbefore, ?_⟩
    simp only [withBody, head, prepend, List.append_assoc]

/-- The pieces of `c` are those of `d` up to case, with `w` in front of the first. -/
structure SameParts (w : Text) (c d : Clause) : Prop where
  before : ∃ before, c.before = w ++ before ∧ SameText before d.before
  word : SameText c.word d.word
  body : SameText c.body d.body
  tail : SameText c.tail d.tail

theorem sameParts_prepend {c d : Clause} (h : c.fold = d.fold) : SameParts w (c.prepend w) d := by
  obtain ⟨hbefore, hword, hbody, htail⟩ := Clause.mk.inj h
  exact ⟨⟨c.before, rfl, fold_eq_fold_iff.mp hbefore⟩, fold_eq_fold_iff.mp hword,
    fold_eq_fold_iff.mp hbody, fold_eq_fold_iff.mp htail⟩

/-- **Statements that are the same up to case have the same pieces up to case**, also behind
blanks. -/
theorem rel_cut? {s t : Text} (hst : SameText s t) (hw : ∀ c ∈ w, Text.isBlank c = true) :
    Option.Rel (SameParts w) (cut? (w ++ s)) (cut? t) := by
  have hfold : (cut? s).map fold = (cut? t).map fold := by
    rw [← cut?_fold, ← cut?_fold, fold_eq_fold_iff.mpr hst]
  rw [cut?_blank_append hw]
  cases hs : cut? s with
  | none =>
    rw [hs, Option.map_none, eq_comm, Option.map_eq_none_iff] at hfold
    rw [hfold]
    exact .none
  | some c =>
    rw [hs, Option.map_some, eq_comm] at hfold
    obtain ⟨d, ht, hd⟩ := Option.map_eq_some_iff.mp hfold
    rw [ht]
    exact .some (sameParts_prepend hd.symm)

end Clause

/-! ## 3. Byte offsets -/

/-- The offsets of a clause behind that many more bytes. -/
def Span.shift (n : Nat) (s : Span) : Span := ⟨s.first + n, s.stop + n⟩

/-- Pieces that are the same up to case are equally long, so only what is in front moves them. -/
theorem Clause.SameParts.span_eq {w : Text} {c d : Clause} (h : SameParts w c d) :
    c.span = d.span.shift (Text.byteLength w) := by
  obtain ⟨before, hc, hbefore⟩ := h.before
  have hb := hbefore.byteLength_eq
  have hword := h.word.byteLength_eq
  have hbody := h.body.byteLength_eq
  simp only [span, head, Span.shift, hc, Text.byteLength_append, Span.mk.injEq]
  omega

theorem Clause.map_span_eq {w : Text} {found found' : Option Clause}
    (h : Option.Rel (SameParts w) found found') :
    found.map (·.span) = (found'.map (·.span)).map (·.shift (Text.byteLength w)) := by
  cases h with
  | none => rfl
  | some h => exact congrArg some h.span_eq

/-! ## 4. The kind and the clause -/

namespace Statement

variable {s t w : Text}

theorem beginsWith_trimStart_of_sameText (hst : SameText s t)
    (hw : ∀ c ∈ w, Text.isBlank c = true) (word : Text) :
    Text.beginsWith word (Text.trimStart (w ++ s)) = Text.beginsWith word (Text.trimStart t) := by
  rw [Text.trimStart_append_of_blank hw, ← Text.beginsWith_fold, ← Text.trimStart_fold,
    fold_eq_fold_iff.mpr hst, Text.trimStart_fold, Text.beginsWith_fold]

theorem rel_clause? (hst : SameText s t) (hw : ∀ c ∈ w, Text.isBlank c = true) :
    Option.Rel (Clause.SameParts w) (clause? (w ++ s)) (clause? t) := by
  have hselect : isSelect (w ++ s) = isSelect t :=
    beginsWith_trimStart_of_sameText hst hw Kind.select.name
  rw [clause?, clause?, hselect]
  split
  · exact Clause.rel_cut? hst hw
  · exact .none

/-- **Neither letter case nor leading blanks decide what is nested.**  Of two statements that are
the same up to case, one with blanks in front:

* both are of the same kind, and both or none is a SELECT, which is to say that the kind is SELECT;
* the offsets of the clause are the same but for the bytes of the blanks, and both or none has one;
* what is handed on to be nested is the same up to case, and so is what is copied around it, with
  the blanks in front. -/
theorem same_parts_of_same_text (hst : SameText s t) (hw : ∀ c ∈ w, Text.isBlank c = true) :
    kind (w ++ s) = kind t ∧ isSelect (w ++ s) = isSelect t ∧
    (isSelect t = true ↔ kind t = .select) ∧
    (∃ found, Span.locate t = .ok found ∧
      Span.locate (w ++ s) = .ok (found.map (·.shift (Text.byteLength w)))) ∧
    Option.Rel (Clause.SameParts w) (clause? (w ++ s)) (clause? t) := by
  refine ⟨?_, beginsWith_trimStart_of_sameText hst hw _, isSelect_iff t,
    ⟨_, Span.locate_eq t, ?_⟩, rel_clause? hst hw⟩
  · simp only [kind, beginsWith_trimStart_of_sameText hst hw]
  · rw [Span.locate_eq]
    exact congrArg Except.ok (Clause.map_span_eq (Clause.rel_cut? hst hw))

/-- A blank of three bytes and a line feed move a clause by four, whatever the case of its words. -/
theorem same_parts_behind_blanks :
    SameText "SELECT \u00e9 fRom a JOIN b WHERE 1".toList
      "select \u00e9 FROM A join B where 1".toList ∧
    kind ("\u3000\n".toList ++ "SELECT \u00e9 fRom a JOIN b WHERE 1".toList) = .select ∧
    Span.locate "select \u00e9 FROM A join B where 1".toList = .ok (some ⟨10, 24⟩) ∧
    Span.locate ("\u3000\n".toList ++ "SELECT \u00e9 fRom a JOIN b WHERE 1".toList) =
      .ok (some ⟨14, 28⟩) ∧
    ∃ c, clause? ("\u3000\n".toList ++ "SELECT \u00e9 fRom a JOIN b WHERE 1".toList) = some c ∧
      SameText c.body " A join B ".toList := by
  have hst : SameText "SELECT \u00e9 fRom a JOIN b WHERE 1".toList
      "select \u00e9 FROM A join B where 1".toList := fold_eq_fold_iff.mp (by decide +kernel)
  have hw : ∀ c ∈ "\u3000\n".toList, Text.isBlank c = true :=
    List.all_eq_true.mp (by decide +kernel)
  obtain ⟨hkind, -, hselect, ⟨found, ht, hs⟩, hrel⟩ := same_parts_of_same_text hst hw
  have hlocate : Span.locate "select \u00e9 FROM A join B where 1".toList =
      .ok (some ⟨10, 24⟩) := by decide +kernel
  have hclause : clause? "select \u00e9 FROM A join B where 1".toList =
      some ⟨"select \u00e9 ".toList, "FROM".toList, " A join B ".toList, "where 1".toList⟩ := by
    decide +kernel
  have hkindt : kind "select \u00e9 FROM A join B where 1".toList = .select :=
    hselect.mp (by decide +kernel)
  rw [hlocate] at ht
  obtain rfl := Except.ok.inj ht
  rw [hclause] at hrel
  refine ⟨hst, hkind.trans hkindt, hlocate, hs, ?_⟩
  revert hrel
  generalize clause? _ = found
  intro hrel
  cases hrel with
  | some h => exact ⟨_, rfl, h.body⟩

end Statement

end NestedJoin
