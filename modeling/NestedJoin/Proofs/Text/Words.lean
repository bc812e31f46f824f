/-
# Where a word stands in a text

`Text.breakAt` walks a text from the left and cuts it in front of the first place where a word
stands.  Here the same cut is described without the walk.  A word stands in a text if its folded
form is a piece of the folded text (`Text.Holds`), and a cut is any two parts of the text of which
the first does not hold the word and the second begins with it.

This is so for a word whose first letter comes up in it only once (`Text.OpensOnce`), as that of
FROM and of WHERE does: such a word does not reach over a place where its first letter stands, so
the second part has no say in what the first one holds.

* `breakAt_eq_none_iff`: nothing is found exactly if the text does not hold the word;
* `breakAt_eq_some_iff`: the two parts of a cut, as above;
* `holds_append_cons_iff`: a character that is no letter of the word keeps apart what stands around
  it.
-/
import NestedJoin.Proofs.Text.Blanks
import NestedJoin.Text.Search

namespace NestedJoin.Text

/-! ## 1. Words at a seam

A word `c :: rest`, and a seam in front of a character that does not stand in `rest`.  The word
cannot reach over the seam. -/

section Seam

variable {c d : Char} {rest : Text}

/-- **A word does not reach over a place where a character begins that it does not go on with.** -/
theorem infix_append_cons (hd : d ∉ rest) {s t : Text} :
    c :: rest <:+: s ++ d :: t ↔ c :: rest <:+: s ∨ c :: rest <:+: d :: t := by
  constructor
  · intro h
    rcases List.infix_append_iff.mp h with hs | ht | ⟨front, back, hw, hfront, hback⟩
    · exact Or.inl hs
    · exact Or.inr ht
    · rcases List.prefix_cons_iff.mp hback with rfl | ⟨back', rfl, -⟩
      · rw [List.append_nil] at hw
        exact Or.inl (hw ▸ hfront.isInfix)
      · cases front with
        | nil => exact Or.inr (hw ▸ hback.isInfix)
        | cons e front' =>
          have hrest : rest = front' ++ d :: back' := (List.cons.inj hw).2
          exact absurd (hrest ▸ List.mem_append_right front' List.mem_cons_self) hd
  · rintro (h | h)
    · exact h.trans (List.prefix_append s _).isInfix
    · exact h.trans (List.suffix_append s _).isInfix

/-- A text in front of such a place begins with the word if the whole does. -/
theorem prefix_of_prefix_append_cons (hd : d ∉ rest) {e : Char} {s t : Text}
    (h : c :: rest <+: (e :: s) ++ d :: t) : c :: rest <+: e :: s := by
  rcases List.prefix_or_prefix_of_prefix h (List.prefix_append (e :: s) _) with hs | ⟨more, hw⟩
  · exact hs
  · rw [← hw] at h
    rcases List.prefix_cons_iff.mp ((List.prefix_append_right_inj (e :: s)).mp h) with
      rfl | ⟨back, rfl, -⟩
    · exact ⟨[], by rw [← hw]; simp only [List.append_nil]⟩
    · have hrest : s ++ d :: back = rest := (List.cons.inj hw).2
      exact absurd (hrest ▸ List.mem_append_right s List.mem_cons_self) hd

/-- No word reaches over a character that does not stand in it. -/
theorem prefix_append_cons_iff {w : Text} (hd : d ∉ w) {s t : Text} :
    w <+: s ++ d :: t ↔ w <+: s := by
  constructor
  · intro h
    rcases List.prefix_or_prefix_of_prefix h (List.prefix_append s _) with hs | ⟨more, rfl⟩
    · exact hs
    · rcases List.prefix_cons_iff.mp ((List.prefix_append_right_inj s).mp h) with
        rfl | ⟨back, rfl, -⟩
      · exact ⟨[], by simp only [List.append_nil]⟩
      · exact absurd (List.mem_append_right s List.mem_cons_self) hd
  · intro h
    exact h.trans (List.prefix_append s _)

end Seam

/-! ## 2. Folded texts -/

/-- Folding changes the capitals of ASCII, and each to the character thirty-two places on. -/
theorem toLower_cases (c : Char) :
    c.toLower = c ∨ (65 ≤ c.toNat ∧ c.toNat ≤ 90 ∧ c.toLower.toNat = c.toNat + 32) := by
  unfold Char.toLower
  split
  · next h =>
    have hlow : 65 ≤ c.toNat := h.1
    have hhigh : c.toNat ≤ 90 := h.2
    refine Or.inr ⟨hlow, hhigh, ?_⟩
    have hval : c.val.toNat = c.toNat := rfl
    have hdiff : ('a'.val - 'A'.val).toNat = 32 := rfl
    change (c.val + ('a'.val - 'A'.val)).toNat = c.toNat + 32
    rw [UInt32.toNat_add, hval, hdiff]
    omega
  · exact Or.inl rfl

/-- Blanks have no case. -/
theorem isBlank_toLower (c : Char) : isBlank c.toLower = isBlank c := by
  rcases toLower_cases c with h | ⟨hlow, hhigh, h⟩
  · rw [h]
  · have hblank : isBlank c = false := isBlank_eq_false_of_toNat (by omega) (by omega)
    rw [hblank]
    exact isBlank_eq_false_of_toNat (by omega) (by omega)

@[simp] theorem fold_nil : fold [] = [] := rfl

@[simp] theorem fold_cons (c : Char) (t : Text) : fold (c :: t) = c.toLower :: fold t := rfl

@[simp] theorem fold_append (s t : Text) : fold (s ++ t) = fold s ++ fold t := List.map_append

theorem fold_eq_nil_iff {t : Text} : fold t = [] ↔ t = [] := List.map_eq_nil_iff

theorem mem_fold_iff {d : Char} {t : Text} : d ∈ fold t ↔ ∃ c ∈ t, c.toLower = d := List.mem_map

/-- **A text begins with a word** if its folded form begins with that of the word. -/
theorem beginsWith_iff {word t : Text} : beginsWith word t = true ↔ fold word <+: fold t := by
  have htake : fold (t.take word.length) = (fold t).take (fold word).length := by
    simp only [fold, List.map_take, List.length_map]
  rw [beginsWith, beq_iff_eq, htake, List.prefix_iff_eq_take, eq_comm]

/-- The word stands somewhere in the text, in whatever case. -/
def Holds (word t : Text) : Prop := fold word <:+: fold t

instance (word t : Text) : Decidable (Holds word t) := inferInstanceAs (Decidable (_ <:+: _))

theorem Holds.mono {word s t : Text} (h : Holds word s) (hst : s <:+: t) : Holds word t :=
  List.IsInfix.trans h (hst.map Char.toLower)

theorem holds_cons_iff {word t : Text} {c : Char} :
    Holds word (c :: t) ↔ beginsWith word (c :: t) = true ∨ Holds word t := by
  rw [Holds, fold_cons, List.infix_cons_iff, beginsWith_iff]
  exact Iff.rfl

/-- A character that is no letter of the word keeps apart what stands around it. -/
theorem holds_append_cons_iff {word : Text} (hword : word ≠ []) {d : Char}
    (hd : d.toLower ∉ fold word) {s t : Text} :
    Holds word (s ++ d :: t) ↔ Holds word s ∨ Holds word t := by
  obtain ⟨c, rest, hw⟩ := List.exists_cons_of_ne_nil (mt fold_eq_nil_iff.mp hword)
  rw [hw] at hd
  have hne : c ≠ d.toLower := fun h => hd (h ▸ List.mem_cons_self)
  simp only [Holds, hw, fold_append, fold_cons]
  rw [infix_append_cons (fun h => hd (List.mem_cons_of_mem _ h)), List.infix_cons_iff,
    List.cons_prefix_cons]
  simp only [hne, false_and, false_or]

/-- A text that shares no letter with the word does not hold it. -/
theorem not_holds_of_disjoint {word t : Text} (hword : word ≠ [])
    (h : ∀ c ∈ t, c.toLower ∉ fold word) : ¬ Holds word t := by
  intro hw
  obtain ⟨c, rest, hcons⟩ := List.exists_cons_of_ne_nil (mt fold_eq_nil_iff.mp hword)
  have hc : c ∈ fold t := List.IsInfix.subset hw (by rw [hcons]; exact List.mem_cons_self)
  obtain ⟨d, hd, hdc⟩ := mem_fold_iff.mp hc
  exact h d hd (by rw [hdc, hcons]; exact List.mem_cons_self)

/-! ## 3. Cuts in front of a word -/

/-- **Nothing is found** exactly if the text does not hold the word. -/
theorem breakAt_eq_none_iff {word t : Text} : breakAt word t = none ↔ ¬ Holds word t := by
  induction t with
  | nil =>
    have hnil : Holds word [] ↔ beginsWith word [] = true := by
      rw [Holds, beginsWith_iff, fold_nil, List.infix_nil, List.prefix_nil]
    rw [breakAt, hnil]
    cases beginsWith word [] with
    | true => simp
    | false => simp
  | cons c t ih =>
    rw [breakAt, holds_cons_iff]
    cases beginsWith word (c :: t) with
    | true => simp
    | false => simp [ih]

/-- In front of the first place where a word stands, it stands nowhere. -/
theorem not_holds_of_breakAt {word : Text} (hword : word ≠ []) : ∀ {t before rest : Text},
    breakAt word t = some (before, rest) → ¬ Holds word before
  | [], before, rest, h => by
    obtain ⟨hcut, -⟩ := append_of_breakAt h
    rw [(List.append_eq_nil_iff.mp hcut).1]
    exact not_holds_of_disjoint hword (by simp)
  | c :: t, before, rest, h => by
    simp only [breakAt] at h
    split at h
    · simp only [Option.some.injEq, Prod.mk.injEq] at h
      obtain ⟨rfl, -⟩ := h
      exact not_holds_of_disjoint hword (by simp)
    · rename_i hc
      obtain ⟨⟨b, r⟩, hs, hbr⟩ := Option.map_eq_some_iff.mp h
      simp only [Prod.mk.injEq] at hbr
      obtain ⟨rfl, rfl⟩ := hbr
      have ih := not_holds_of_breakAt hword hs
      have hcut : b ++ r = t := (append_of_breakAt hs).1
      rw [holds_cons_iff]
      rintro (hb | hb)
      · have hlong : beginsWith word (c :: t) = true := by
          rw [beginsWith_iff] at hb ⊢
          rw [← hcut, ← List.cons_append, fold_append]
          exact hb.trans (List.prefix_append _ _)
        exact hc hlong
      · exact ih hb

/-- The first letter of the word comes up in it only once. -/
def OpensOnce (word : Text) : Prop := ∃ c rest, fold word = c :: rest ∧ c ∉ rest

theorem OpensOnce.ne_nil {word : Text} (h : OpensOnce word) : word ≠ [] := by
  rintro rfl
  obtain ⟨c, rest, hw, -⟩ := h
  exact absurd hw (by simp)

/-- Two parts of which the second alone has the word are the cut of the whole. -/
theorem breakAt_append {word : Text} (hword : OpensOnce word) {rest : Text}
    (hrest : beginsWith word rest = true) : ∀ {before : Text}, ¬ Holds word before →
    breakAt word (before ++ rest) = some (before, rest)
  | [], _ => by
    cases rest with
    | nil => rw [List.append_nil, breakAt, if_pos hrest]
    | cons c t => rw [List.nil_append, breakAt, if_pos hrest]
  | c :: b, hb => by
    rw [holds_cons_iff, not_or] at hb
    have ih := breakAt_append hword hrest hb.2
    have hnot : ¬ beginsWith word (c :: (b ++ rest)) = true := by
      intro h
      obtain ⟨d, more, hw, hd⟩ := hword
      rw [beginsWith_iff, hw] at h hrest
      -- What follows begins with the first letter of the word.
      obtain ⟨after, hafter⟩ := hrest
      rw [fold_cons, fold_append, ← hafter] at h
      have hshort : d :: more <+: c.toLower :: fold b := prefix_of_prefix_append_cons hd h
      exact hb.1 (beginsWith_iff.mpr (by rw [hw]; exact hshort))
    rw [List.cons_append, breakAt, if_neg hnot, ih]
    rfl

/-- **The cut in front of a word**: the first part does not hold it, the second begins with it. -/
theorem breakAt_eq_some_iff {word : Text} (hword : OpensOnce word) {t before rest : Text} :
    breakAt word t = some (before, rest) ↔
      before ++ rest = t ∧ ¬ Holds word before ∧ beginsWith word rest = true := by
  constructor
  · intro h
    obtain ⟨hcut, hrest⟩ := append_of_breakAt h
    exact ⟨hcut, not_holds_of_breakAt hword.ne_nil h, hrest⟩
  · rintro ⟨rfl, hbefore, hrest⟩
    exact breakAt_append hword hrest hbefore

/-! ## 4. Bytes -/

/-- A character of ASCII takes one byte. -/
theorem utf8Size_of_toNat {c : Char} (h : c.toNat ≤ 127) : c.utf8Size = 1 := by
  rw [Char.utf8Size_eq_one_iff, UInt32.le_iff_toNat_le]
  exact h

/-- Folding keeps the number of bytes of a character. -/
theorem utf8Size_toLower (c : Char) : c.toLower.utf8Size = c.utf8Size := by
  rcases toLower_cases c with h | ⟨-, hhigh, h⟩
  · rw [h]
  · rw [utf8Size_of_toNat (by omega), utf8Size_of_toNat (by omega)]

theorem byteLength_fold (t : Text) : byteLength (fold t) = byteLength t := by
  induction t with
  | nil => rfl
  | cons c t ih => rw [fold_cons, byteLength_cons, byteLength_cons, ih, utf8Size_toLower]

/-- Texts that differ in case alone have as many bytes. -/
theorem byteLength_eq_of_fold_eq {s t : Text} (h : fold s = fold t) :
    byteLength s = byteLength t := by
  rw [← byteLength_fold s, h, byteLength_fold]

end NestedJoin.Text
