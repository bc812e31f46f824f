/-
# Search without regard to ASCII case

Two searches.  The first runs over the bytes of the UTF-8 form and answers with a byte offset;
neither its start nor its answer need lie between two characters.  The second cuts a text in front
of the first occurrence of a word, character by character.  Only the 26 ASCII letters have two
forms; every other byte or character is equal to itself alone.

The main statement: a cut keeps the text, and the word stands at its second half
(`append_of_breakAt`).
-/
import NestedJoin.Text.Utf8

namespace NestedJoin.Text

/-! ## 1. Folding -/

/-- The lower-case form of an ASCII letter; every other byte as it is. -/
def foldByte (b : UInt8) : UInt8 := if 0x41 ≤ b && b ≤ 0x5A then b + 0x20 else b

/-- The lower-case form of the ASCII letters of a text; every other character as it is. -/
def fold (t : Text) : Text := t.map Char.toLower

/-! ## 2. Over bytes -/

/-- The bytes begin with the needle, up to ASCII case. -/
def beginsWithBytes (needle bs : List UInt8) : Bool :=
  (bs.take needle.length).map foldByte == needle.map foldByte

/-- The number of bytes before the first occurrence of the needle. -/
def firstOffset (needle : List UInt8) : List UInt8 → Option Nat
  | [] => if beginsWithBytes needle [] then some 0 else none
  | b :: bs =>
    if beginsWithBytes needle (b :: bs) then some 0
    else (firstOffset needle bs).map (· + 1)

/-- The least byte offset, not before `start`, at which the needle stands in the text.  Past the
end of the text nothing is found; up to the end, an empty needle is a fault. -/
def find (haystack needle : Text) (start : Nat) : Except Fault (Option Nat) :=
  let bs := bytes haystack
  if bs.length < start then .ok none
  else if needle.isEmpty then .error .emptyNeedle
  else .ok ((firstOffset (bytes needle) (bs.drop start)).map (· + start))

/-! ## 3. Over characters -/

/-- The text begins with the word, up to ASCII case. -/
def beginsWith (word t : Text) : Bool := fold (t.take word.length) == fold word

/-- The text cut in front of the first occurrence of the word. -/
def breakAt (word : Text) : Text → Option (Text × Text)
  | [] => if beginsWith word [] then some ([], []) else none
  | c :: t =>
    if beginsWith word (c :: t) then some ([], c :: t)
    else (breakAt word t).map fun (before, rest) => (c :: before, rest)

/-- **A cut keeps the text**, and its second half begins with the word. -/
theorem append_of_breakAt {word : Text} : ∀ {t before rest : Text},
    breakAt word t = some (before, rest) → before ++ rest = t ∧ beginsWith word rest = true
  | [], before, rest, h => by
    simp only [breakAt] at h
    split at h
    · rename_i hw
      simp only [Option.some.injEq, Prod.mk.injEq] at h
      obtain ⟨rfl, rfl⟩ := h
      exact ⟨rfl, hw⟩
    · simp at h
  | c :: t, before, rest, h => by
    simp only [breakAt] at h
    split at h
    · rename_i hw
      simp only [Option.some.injEq, Prod.mk.injEq] at h
      obtain ⟨rfl, rfl⟩ := h
      exact ⟨rfl, hw⟩
    · obtain ⟨⟨b, r⟩, hs, hbr⟩ := Option.map_eq_some_iff.mp h
      simp only [Prod.mk.injEq] at hbr
      obtain ⟨rfl, rfl⟩ := hbr
      obtain ⟨h1, h2⟩ := append_of_breakAt hs
      exact ⟨by simp [h1], h2⟩

end NestedJoin.Text
