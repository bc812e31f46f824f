/-
# Byte offsets into text

Offsets that a caller sees count the bytes of the UTF-8 form.  A cut is defined only between two
characters and within the text; every other offset is answered by a fault that says what was
asked, so that no function here invents a text.

The main statements: the byte length is the number of bytes (`length_bytes`); the two halves of a
cut give the text back (`append_of_splitAtByte`), and every cut between two parts of a text is found
(`splitAtByte_append`).
-/
import NestedJoin.Text.Blank

namespace NestedJoin

/-- Why a question about byte offsets has no answer. -/
inductive Fault where
  /-- A search for the empty text. -/
  | emptyNeedle
  /-- A piece from byte `lo` to byte `hi` whose ends are out of order, outside the text or inside
  a character. -/
  | badCut (lo hi : Nat)
  deriving DecidableEq, Repr

namespace Text

/-! ## 1. The bytes of a text -/

/-- The UTF-8 form of a text. -/
def bytes (t : Text) : List UInt8 := t.flatMap String.utf8EncodeChar

/-- The number of bytes of a text. -/
def byteLength (t : Text) : Nat := t.foldr (fun c n => c.utf8Size + n) 0

/-- The text whose UTF-8 form the bytes are, if there is one. -/
def ofBytes? (bs : List UInt8) : Option Text :=
  (String.fromUTF8? (ByteArray.mk bs.toArray)).map String.toList

@[simp] theorem byteLength_nil : byteLength [] = 0 := rfl

@[simp] theorem byteLength_cons (c : Char) (t : Text) :
    byteLength (c :: t) = c.utf8Size + byteLength t := rfl

@[simp] theorem byteLength_append (s t : Text) :
    byteLength (s ++ t) = byteLength s + byteLength t := by
  induction s with
  | nil => rw [List.nil_append, byteLength_nil, Nat.zero_add]
  | cons c s ih => rw [List.cons_append, byteLength_cons, byteLength_cons, ih, Nat.add_assoc]

@[simp] theorem bytes_append (s t : Text) : bytes (s ++ t) = bytes s ++ bytes t := by
  simp [bytes]

/-- **The byte length counts the bytes.** -/
theorem length_bytes : ∀ t : Text, (bytes t).length = byteLength t
  | [] => rfl
  | c :: t => by
    have ih := length_bytes t
    simp only [bytes, List.flatMap_cons, List.length_append, byteLength_cons] at ih ⊢
    rw [ih, String.length_utf8EncodeChar]

/-! ## 2. Cuts at a byte offset -/

/-- The two halves of a text at a byte offset that lies between two of its characters or at an
end. -/
def splitAtByte : Text → Nat → Option (Text × Text)
  | t, 0 => some ([], t)
  | [], _ + 1 => none
  | c :: t, n + 1 =>
    if c.utf8Size ≤ n + 1 then
      (splitAtByte t (n + 1 - c.utf8Size)).map fun (front, back) => (c :: front, back)
    else none

/-- The halves of a cut are the text, and the first half has the asked number of bytes. -/
theorem append_of_splitAtByte : ∀ {t : Text} {n : Nat} {front back : Text},
    splitAtByte t n = some (front, back) → front ++ back = t ∧ byteLength front = n
  | t, 0, front, back, h => by
    simp only [splitAtByte, Option.some.injEq, Prod.mk.injEq] at h
    obtain ⟨rfl, rfl⟩ := h
    simp
  | [], n + 1, front, back, h => by simp [splitAtByte] at h
  | c :: t, n + 1, front, back, h => by
    simp only [splitAtByte] at h
    split at h
    · rename_i hc
      obtain ⟨⟨f, b⟩, hs, hfb⟩ := Option.map_eq_some_iff.mp h
      simp only [Prod.mk.injEq] at hfb
      obtain ⟨rfl, rfl⟩ := hfb
      obtain ⟨h1, h2⟩ := append_of_splitAtByte hs
      exact ⟨by simp [h1], by simp only [byteLength_cons]; omega⟩
    · simp at h

/-- **Every cut between two parts is found**, at the byte length of the first. -/
theorem splitAtByte_append : ∀ s t : Text, splitAtByte (s ++ t) (byteLength s) = some (s, t)
  | [], t => by cases t <;> rfl
  | c :: s, t => by
    have hc : 0 < c.utf8Size := c.utf8Size_pos
    have ih := splitAtByte_append s t
    obtain ⟨n, hn⟩ : ∃ n, byteLength (c :: s) = n + 1 :=
      ⟨byteLength (c :: s) - 1, by rw [byteLength_cons]; omega⟩
    have hle : c.utf8Size ≤ n + 1 := by rw [← hn, byteLength_cons]; omega
    have hsub : n + 1 - c.utf8Size = byteLength s := by rw [← hn, byteLength_cons]; omega
    rw [List.cons_append, hn, splitAtByte, if_pos hle, hsub, ih]
    rfl

/-- The piece of a text from byte `lo` up to byte `hi`. -/
def slice (t : Text) (lo hi : Nat) : Except Fault Text :=
  if lo ≤ hi then
    match splitAtByte t lo with
    | none => .error (.badCut lo hi)
    | some (_, rest) =>
      match splitAtByte rest (hi - lo) with
      | none => .error (.badCut lo hi)
      | some (piece, _) => .ok piece
  else .error (.badCut lo hi)

/-- The middle of three parts is the piece between the byte lengths up to it and up to its end. -/
theorem slice_append (s t u : Text) :
    slice (s ++ (t ++ u)) (byteLength s) (byteLength (s ++ t)) = .ok t := by
  have hle : byteLength s ≤ byteLength (s ++ t) := by simp
  have hsub : byteLength (s ++ t) - byteLength s = byteLength t := by simp
  rw [slice, if_pos hle]
  simp only [splitAtByte_append, hsub]

end Text

end NestedJoin
