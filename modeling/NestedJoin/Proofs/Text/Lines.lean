/-
# Lines and their bytes

The lines of an input are what stands between its line feeds, each line but the last without one
carriage return at its end, and the last only if there is something in it (`Text.cutLines`).  This
can be said of bytes and of characters alike, and it makes no difference which are cut: the bytes of
a line feed and of a carriage return are in the UTF-8 form of no other character
(`Text.cutLines_bytes`).

* `byteLines_eq_cutLines`: the lines that are read are these;
* `ofBytes?_eq_some_iff`, `ofBytes?_eq_none_iff`: a line is read as a text exactly where it is the
  UTF-8 form of one;
* `readLines_map_bytes`, `readLines_of_bad`: reading goes up to the first line that is not.
-/
import Mathlib.Data.List.Basic
import NestedJoin.Text.Lines

namespace NestedJoin.Text

/-! ## 1. Lines of any symbols -/

section Cut

variable {α : Type} [DecidableEq α]

/-- A line without one `ret` at its end. -/
def dropReturn (ret : α) (line : List α) : List α :=
  if line.getLast? = some ret then line.dropLast else line

/-- The lines of an input, where `feed` ends a line and `ret` in front of it belongs to the end. -/
def cutLines (feed ret : α) (input : List α) : List (List α) :=
  (input.splitOn feed).dropLast.map (dropReturn ret) ++
    (input.splitOn feed).getLast?.toList.filter (· ≠ [])

section Lemmas

variable {feed ret : α}

theorem cutLines_nil : cutLines feed ret [] = [] := rfl

/-- What no line feed ends is one line. -/
theorem cutLines_of_notMem {input : List α} (hne : input ≠ []) (h : feed ∉ input) :
    cutLines feed ret input = [input] := by
  simp [cutLines, List.splitOn_eq_singleton h, hne]

/-- The first line feed ends the first line. -/
theorem cutLines_append_cons {line : List α} (h : feed ∉ line) (rest : List α) :
    cutLines feed ret (line ++ feed :: rest) = dropReturn ret line :: cutLines feed ret rest := by
  have hne : rest.splitOn feed ≠ [] := List.splitOn_ne_nil feed rest
  rw [cutLines, List.splitOn_append_cons_self_of_not_mem h, List.dropLast_cons_of_ne_nil hne,
    List.getLast?_cons_of_ne_nil hne, List.map_cons, List.cons_append, cutLines]

end Lemmas

/-- **Induction on the lines of an input.** -/
theorem lines_induction (feed : α) {P : List α → Prop} (nil : P [])
    (last : ∀ input, input ≠ [] → feed ∉ input → P input)
    (line : ∀ line rest, feed ∉ line → P rest → P (line ++ feed :: rest)) (input : List α) :
    P input := by
  by_cases hfeed : feed ∈ input
  · obtain ⟨front, rest, rfl, hfront⟩ := List.eq_append_cons_of_mem hfeed
    exact line front rest hfront (lines_induction feed nil last line rest)
  · by_cases hne : input = []
    · rw [hne]
      exact nil
    · exact last input hne hfeed
termination_by input.length
decreasing_by
  subst_vars
  simp only [List.length_append, List.length_cons]
  omega

/-- **No line holds the line feed.** -/
theorem notMem_of_mem_cutLines {feed ret : α} {input line : List α}
    (h : line ∈ cutLines feed ret input) : feed ∉ line := by
  induction input using lines_induction feed with
  | nil => exact absurd h (by simp [cutLines_nil])
  | last input hne hfeed =>
    rw [cutLines_of_notMem hne hfeed, List.mem_singleton] at h
    rwa [h]
  | line front rest hfront ih =>
    rw [cutLines_append_cons hfront, List.mem_cons] at h
    rcases h with rfl | h
    · intro hmem
      rw [dropReturn] at hmem
      split at hmem
      · exact hfront (List.dropLast_subset front hmem)
      · exact hfront hmem
    · exact ih h

end Cut

/-! ## 2. The lines that are read -/

theorem rawLines_of_notMem : ∀ {input : List UInt8}, input ≠ [] → 0x0A ∉ input →
    rawLines input = [(input, false)]
  | [], h, _ => absurd rfl h
  | b :: rest, _, h => by
    obtain ⟨hb, hrest⟩ := List.ne_and_not_mem_of_not_mem_cons h
    rw [rawLines, if_neg (Ne.symm hb)]
    by_cases hne : rest = []
    · rw [hne]
      rfl
    · rw [rawLines_of_notMem hne hrest, pushByte]

theorem rawLines_append_cons : ∀ {line : List UInt8}, 0x0A ∉ line → ∀ rest : List UInt8,
    rawLines (line ++ 0x0A :: rest) = (line, true) :: rawLines rest
  | [], _, rest => by rw [List.nil_append, rawLines, if_pos rfl]
  | b :: line, h, rest => by
    obtain ⟨hb, hline⟩ := List.ne_and_not_mem_of_not_mem_cons h
    rw [List.cons_append, rawLines, if_neg (Ne.symm hb), rawLines_append_cons hline, pushByte]

/-- **The lines that are read are the lines of the input.** -/
theorem byteLines_eq_cutLines (input : List UInt8) :
    byteLines input = cutLines 0x0A 0x0D input := by
  induction input using lines_induction (0x0A : UInt8) with
  | nil => rfl
  | last input hne h => rw [byteLines, rawLines_of_notMem hne h, cutLines_of_notMem hne h]; rfl
  | line line rest h ih =>
    rw [cutLines_append_cons h, ← ih, byteLines, rawLines_append_cons h]
    rfl

/-! ## 3. The UTF-8 form -/

/-- A character below 128 is a single byte, its number. -/
theorem utf8EncodeChar_of_lt {c : Char} (hc : c.toNat < 128) :
    String.utf8EncodeChar c = [UInt8.ofNat c.toNat] := by
  have hle : c.val.toNat ≤ 0x7F := Nat.le_of_lt_succ hc
  rw [String.utf8EncodeChar, if_pos hle]
  rfl

/-- The bytes of any other character have their highest bit set. -/
theorem le_of_mem_utf8EncodeChar {c : Char} (hc : 128 ≤ c.toNat) :
    ∀ b ∈ String.utf8EncodeChar c, 128 ≤ b.toNat := by
  have hlong : ¬ c.val.toNat ≤ 0x7F := Nat.not_le_of_lt hc
  rw [String.utf8EncodeChar, if_neg hlong]
  split
  · simp only [List.mem_cons, List.not_mem_nil, or_false, forall_eq_or_imp, forall_eq,
      UInt8.toNat_ofNat']
    omega
  · split
    all_goals
      simp only [List.mem_cons, List.not_mem_nil, or_false, forall_eq_or_imp, forall_eq,
        UInt8.toNat_ofNat']
      omega

section Ascii

variable {a : Char} (ha : a.toNat < 128)
include ha

theorem toNat_ofNat_of_lt : (UInt8.ofNat a.toNat).toNat = a.toNat := by
  rw [UInt8.toNat_ofNat']
  omega

/-- The byte of a character below 128 is in the UTF-8 form of no other. -/
theorem mem_utf8EncodeChar_iff {c : Char} :
    UInt8.ofNat a.toNat ∈ String.utf8EncodeChar c ↔ a = c := by
  constructor
  · intro h
    by_cases hc : c.toNat < 128
    · rw [utf8EncodeChar_of_lt hc, List.mem_singleton] at h
      have hsame := congrArg UInt8.toNat h
      rw [toNat_ofNat_of_lt ha, toNat_ofNat_of_lt hc] at hsame
      exact Char.toNat_inj.mp hsame
    · have hle := le_of_mem_utf8EncodeChar (Nat.le_of_not_lt hc) _ h
      rw [toNat_ofNat_of_lt ha] at hle
      exact absurd ha (Nat.not_lt_of_le hle)
  · rintro rfl
    rw [utf8EncodeChar_of_lt ha]
    exact List.mem_singleton_self _

theorem mem_bytes_iff {t : Text} : UInt8.ofNat a.toNat ∈ bytes t ↔ a ∈ t := by
  simp [bytes, mem_utf8EncodeChar_iff ha]

/-- **A text ends with a character below 128 where its bytes do**, and loses both at once. -/
theorem dropReturn_bytes (t : Text) :
    dropReturn (UInt8.ofNat a.toNat) (bytes t) = bytes (dropReturn a t) := by
  rcases List.eq_nil_or_concat' t with rfl | ⟨t, c, rfl⟩
  · rfl
  · have hlast : bytes (t ++ [c]) = bytes t ++ String.utf8EncodeChar c := by simp [bytes]
    by_cases hc : c = a
    · subst hc
      simp [dropReturn, hlast, utf8EncodeChar_of_lt ha]
    · have hne : String.utf8EncodeChar c ≠ [] := by
        rw [← List.length_pos_iff, String.length_utf8EncodeChar]
        exact c.utf8Size_pos
      have hother : (bytes t ++ String.utf8EncodeChar c).getLast? ≠
          some (UInt8.ofNat a.toNat) := by
        rw [List.getLast?_append_of_ne_nil _ hne]
        intro h
        exact hc ((mem_utf8EncodeChar_iff ha).mp (List.mem_of_getLast? h)).symm
      rw [dropReturn, dropReturn, hlast, if_neg hother, if_neg (by simpa using hc), hlast]

/-- The first line feed is in the bytes where it is in the text. -/
theorem bytes_append_cons (line rest : Text) :
    bytes (line ++ a :: rest) = bytes line ++ UInt8.ofNat a.toNat :: bytes rest := by
  simp [bytes, utf8EncodeChar_of_lt ha]

end Ascii

theorem bytes_ne_nil {t : Text} (h : t ≠ []) : bytes t ≠ [] := by
  obtain ⟨c, t, rfl⟩ := List.exists_cons_of_ne_nil h
  rw [← List.length_pos_iff, length_bytes, byteLength_cons]
  have hpos := c.utf8Size_pos
  omega

/-- **It makes no difference whether the bytes are cut into lines or the characters.** -/
theorem cutLines_bytes (t : Text) :
    cutLines 0x0A 0x0D (bytes t) = (cutLines '\n' '\r' t).map bytes := by
  have hfeed : ('\n').toNat < 128 := by decide
  have hret : ('\r').toNat < 128 := by decide
  induction t using lines_induction '\n' with
  | nil => rfl
  | last t hne h =>
    have hbytes : 0x0A ∉ bytes t := fun hm => h ((mem_bytes_iff hfeed).mp hm)
    rw [cutLines_of_notMem (bytes_ne_nil hne) hbytes, cutLines_of_notMem hne h]
    rfl
  | line line rest h ih =>
    have hbytes : 0x0A ∉ bytes line := fun hm => h ((mem_bytes_iff hfeed).mp hm)
    have hcut : bytes (line ++ '\n' :: rest) = bytes line ++ 0x0A :: bytes rest :=
      bytes_append_cons hfeed line rest
    have hdrop : dropReturn 0x0D (bytes line) = bytes (dropReturn '\r' line) :=
      dropReturn_bytes hret line
    rw [hcut, cutLines_append_cons hbytes, cutLines_append_cons h, hdrop, ih, List.map_cons]

/-! ## 4. Reading texts -/

theorem mk_toArray_eq (bs : List UInt8) : ByteArray.mk bs.toArray = bs.toByteArray :=
  ByteArray.ext List.data_toByteArray.symm

/-- **A text is read from its UTF-8 form and from nothing else.** -/
theorem ofBytes?_eq_some_iff {bs : List UInt8} {t : Text} :
    ofBytes? bs = some t ↔ bs = bytes t := by
  rw [ofBytes?, mk_toArray_eq, Option.map_eq_some_iff]
  constructor
  · rintro ⟨s, hs, rfl⟩
    have hsame : s.toByteArray = bs.toByteArray := by
      rw [String.fromUTF8?] at hs
      split at hs
      · rw [← Option.some.inj hs]
        rfl
      · exact absurd hs (by simp)
    have hencode : (bytes s.toList).toByteArray = bs.toByteArray :=
      String.utf8Encode_toList.trans hsame
    exact (List.toByteArray_inj.mp hencode).symm
  · rintro rfl
    have hvalid : (bytes t).toByteArray.IsValidUTF8 := ⟨t, rfl⟩
    refine ⟨String.fromUTF8 _ hvalid, dif_pos hvalid, ?_⟩
    have hsame : String.fromUTF8 _ hvalid = String.ofList t := String.toByteArray_inj.mp rfl
    rw [hsame, String.toList_ofList]

theorem ofBytes?_eq_none_iff {bs : List UInt8} : ofBytes? bs = none ↔ ∀ t, bs ≠ bytes t := by
  rw [Option.eq_none_iff_forall_ne_some]
  exact forall_congr' fun t => ofBytes?_eq_some_iff.not

/-- Lines that are the UTF-8 forms of texts are all read. -/
theorem readLines_map_bytes : ∀ texts : List Text, readLines (texts.map bytes) = (texts, true)
  | [] => rfl
  | t :: texts => by
    rw [List.map_cons, readLines, ofBytes?_eq_some_iff.mpr rfl, readLines_map_bytes texts]

/-- **Reading stops at the first line that is no text.** -/
theorem readLines_of_bad {bad : List UInt8} (hbad : ∀ t, bad ≠ bytes t) (rest : List (List UInt8)) :
    ∀ texts : List Text, readLines (texts.map bytes ++ bad :: rest) = (texts, false)
  | [] => by
    rw [List.map_nil, List.nil_append, readLines, ofBytes?_eq_none_iff.mpr hbad]
  | t :: texts => by
    rw [List.map_cons, List.cons_append, readLines, ofBytes?_eq_some_iff.mpr rfl,
      readLines_of_bad hbad rest texts]

end NestedJoin.Text
