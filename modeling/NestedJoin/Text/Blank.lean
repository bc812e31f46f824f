/-
# Blanks and trimming

Text is a list of Unicode scalar values.  A blank is one of the 25 characters of the Unicode
property `White_Space`; every trimming in this library goes by that set, and by no smaller one.

The main statements: every text is its leading blanks, its core and its trailing blanks in that
order (`lead_append_trim_append_trail`), and the first two parts are blank throughout
(`isBlank_of_mem_lead`, `isBlank_of_mem_trail`).
-/

namespace NestedJoin

/-- A text: a finite sequence of Unicode scalar values. -/
abbrev Text := List Char

namespace Text

/-! ## 1. The blank characters -/

/-- The characters of the Unicode property `White_Space`. -/
def isBlank (c : Char) : Bool :=
  let n := c.toNat
  (0x09 ≤ n && n ≤ 0x0D) || n == 0x20 || n == 0x85 || n == 0xA0 || n == 0x1680 ||
    (0x2000 ≤ n && n ≤ 0x200A) || n == 0x2028 || n == 0x2029 || n == 0x202F || n == 0x205F ||
    n == 0x3000

/-- The controls that only look like blanks, and the spaces without width, are none. -/
example : (['\x1c', '\x1f', '\u180e', '\u200b', '\ufeff'].any isBlank) = false := by decide

/-! ## 2. Trimming -/

/-- The blanks a text begins with. -/
def lead (t : Text) : Text := t.takeWhile isBlank

/-- A text without the blanks it begins with. -/
def trimStart (t : Text) : Text := t.dropWhile isBlank

/-- A text without the blanks it ends with. -/
def trimEnd (t : Text) : Text := (t.reverse.dropWhile isBlank).reverse

/-- A text without the blanks at either end. -/
def trim (t : Text) : Text := trimEnd (trimStart t)

/-- The blanks a text ends with, those of an all-blank text being counted as leading. -/
def trail (t : Text) : Text := ((trimStart t).reverse.takeWhile isBlank).reverse

theorem lead_append_trimStart (t : Text) : lead t ++ trimStart t = t :=
  List.takeWhile_append_dropWhile

/-- **Trimming loses nothing**: leading blanks, core and trailing blanks make up the text. -/
theorem lead_append_trim_append_trail (t : Text) : lead t ++ (trim t ++ trail t) = t := by
  have h : trim t ++ trail t = trimStart t := by
    rw [trim, trail, trimEnd, ← List.reverse_append, List.takeWhile_append_dropWhile,
      List.reverse_reverse]
  rw [h, lead_append_trimStart]

theorem isBlank_of_mem_takeWhile : ∀ {t : Text} {c : Char}, c ∈ t.takeWhile isBlank →
    isBlank c = true
  | [], _, h => by simp at h
  | d :: t, c, h => by
    rw [List.takeWhile_cons] at h
    split at h
    · rename_i hd
      rcases List.mem_cons.mp h with rfl | hm
      · exact hd
      · exact isBlank_of_mem_takeWhile hm
    · simp at h

theorem isBlank_of_mem_lead {t : Text} {c : Char} (h : c ∈ lead t) : isBlank c = true :=
  isBlank_of_mem_takeWhile h

theorem isBlank_of_mem_trail {t : Text} {c : Char} (h : c ∈ trail t) : isBlank c = true :=
  isBlank_of_mem_takeWhile (List.mem_reverse.mp h)

/-- A text that holds nothing but blanks. -/
def isBlankLine (t : Text) : Bool := t.all isBlank

end Text

end NestedJoin
