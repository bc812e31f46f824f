/-
# The search over bytes is a first-match search

What stands at a byte offset is said here without the search and without folding: the bytes of the
text are cut in three, and the middle part is the word, letter by letter (`SpelledAt`).  No cut has
to lie between two characters, and neither does the start of a search.

* `spelledAt_iff`: what the search compares at an offset is exactly this;
* `find_exact`: the search answers with the least offset from its start on, wherever the start is,
  and what is found is cut out of the text whole.
-/
import NestedJoin.Proofs.Text.Case

namespace NestedJoin.Text

/-! ## 1. A word at an offset -/

/-- The bytes of the text from the offset on begin with those of the word, up to case. -/
def SpelledAt (word t : Text) (o : Nat) : Prop :=
  ∃ front piece back, front ++ (piece ++ back) = bytes t ∧ front.length = o ∧
    SameBytes piece (bytes word)

theorem beginsWithBytes_iff_sameBytes {needle bs : List UInt8} :
    beginsWithBytes needle bs = true ↔ SameBytes (bs.take needle.length) needle := by
  rw [beginsWithBytes, beq_iff_eq, map_foldByte_eq_iff]

/-- **What the search compares** at an offset are the letters there. -/
theorem spelledAt_iff {word : Text} (hword : word ≠ []) {t : Text} {o : Nat} :
    SpelledAt word t o ↔ StandsAt word t o := by
  rw [StandsAt, beginsWithBytes_iff_sameBytes]
  constructor
  · rintro ⟨front, piece, back, ht, rfl, hpiece⟩
    have hlen : piece.length = (bytes word).length := hpiece.length_eq
    rw [← ht, List.drop_left, ← hlen, List.take_left]
    exact hpiece
  · intro h
    have hlen := List.Forall₂.length_eq h
    have hpos : 0 < (bytes word).length := List.length_pos_iff.mpr (bytes_ne_nil hword)
    rw [List.length_take, List.length_drop] at hlen
    refine ⟨(bytes t).take o, ((bytes t).drop o).take (bytes word).length,
      ((bytes t).drop o).drop (bytes word).length, ?_, ?_, h⟩
    · rw [List.take_append_drop, List.take_append_drop]
    · rw [List.length_take]
      omega

/-! ## 2. What is found -/

section Ascii

variable {word : Text} (hascii : IsAscii word) (hword : word ≠ [])
include hascii hword

/-- **Where a word of ASCII stands, it can be cut out whole.** -/
theorem StandsAt.exists_piece {t : Text} {o : Nat} (h : StandsAt word t o) :
    ∃ before piece after, before ++ (piece ++ after) = t ∧ byteLength before = o ∧
      byteLength (before ++ piece) = o + byteLength word ∧ SameText piece word := by
  obtain ⟨before, rest, rfl, rfl, hrest⟩ := (standsAt_iff hascii hword).mp h
  have hfold : fold (rest.take word.length) = fold word := eq_of_beq hrest
  refine ⟨before, rest.take word.length, rest.drop word.length, ?_, rfl, ?_,
    fold_eq_fold_iff.mp hfold⟩
  · rw [List.take_append_drop]
  · rw [byteLength_append, byteLength_eq_of_fold_eq hfold]

/-- **The search finds the first match and nothing else.**

* It finds an offset exactly if that is the least one from its start on at which the word stands,
  and nothing exactly if there is none.
* Nothing is found either if the start is past the end of the text, or what is left behind it is
  shorter than the word.
* What is found ends within the text, begins and ends between two characters, and is the word up to
  case when it is cut out. -/
theorem find_exact (t : Text) (start : Nat) :
    (∀ o, find t word start = .ok (some o) ↔ IsLeast {o | start ≤ o ∧ SpelledAt word t o} o) ∧
    (find t word start = .ok none ↔ ∀ o, start ≤ o → ¬ SpelledAt word t o) ∧
    (byteLength t < start + byteLength word → find t word start = .ok none) ∧
    ∀ o, find t word start = .ok (some o) →
      o + byteLength word ≤ byteLength t ∧ IsCut t o ∧ IsCut t (o + byteLength word) ∧
      ∃ piece, slice t o (o + byteLength word) = .ok piece ∧ SameText piece word := by
  simp only [spelledAt_iff hword]
  refine ⟨fun o => find_eq_some_iff hword, find_eq_none_iff hword, fun hshort => ?_,
    fun o hfound => ?_⟩
  · rw [find_eq_none_iff hword]
    intro o ho h
    have hle := h.add_le hascii hword
    omega
  · have h : StandsAt word t o := ((find_eq_some_iff hword).mp hfound).1.2
    refine ⟨h.add_le hascii hword, ?_⟩
    obtain ⟨before, piece, after, rfl, rfl, hlen, hsame⟩ := h.exists_piece hascii hword
    rw [← hlen]
    refine ⟨⟨before, piece ++ after, rfl, rfl⟩, ⟨before ++ piece, after, ?_, rfl⟩, piece,
      slice_append before piece after, hsame⟩
    rw [List.append_assoc]

end Ascii

/-- A search that begins within the second character passes over the sign for kelvin, which is no
ASCII letter, and finds the word behind it; from there on there is not enough left. -/
theorem find_exact_within_character :
    find "é€\u212aey KEY".toList "key".toList 3 = .ok (some 11) ∧
    IsLeast {o | 3 ≤ o ∧ SpelledAt "key".toList "é€\u212aey KEY".toList o} 11 ∧
    (∀ o, 12 ≤ o → ¬ SpelledAt "key".toList "é€\u212aey KEY".toList o) ∧
    IsCut "é€\u212aey KEY".toList 11 ∧ IsCut "é€\u212aey KEY".toList 14 ∧
    ¬ IsCut "é€\u212aey KEY".toList 3 := by
  have hascii : IsAscii "key".toList := by decide
  obtain ⟨hsome, -, -, hcut⟩ :=
    find_exact hascii (List.cons_ne_nil _ _) "é€\u212aey KEY".toList 3
  obtain ⟨-, hnone, hpast, -⟩ :=
    find_exact hascii (List.cons_ne_nil _ _) "é€\u212aey KEY".toList 12
  have hfound : find "é€\u212aey KEY".toList "key".toList 3 = .ok (some 11) := by decide +kernel
  obtain ⟨-, hfirst, hlast, -⟩ := hcut 11 hfound
  refine ⟨hfound, (hsome 11).mp hfound, hnone.mp (hpast (by decide)), hfirst, hlast, ?_⟩
  decide

end NestedJoin.Text
