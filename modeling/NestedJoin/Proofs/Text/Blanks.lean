/-
# Blanks at the seam of two texts

What the leading blanks of a text and the text without them become when something is put behind it
or blanks are put in front of it, and how the blanks at its end are found again
(`eq_of_append_blank`).
-/
import NestedJoin.Text.Blank

namespace NestedJoin.Text

/-! ## 1. Characters that are no blanks -/

/-- The visible ASCII characters are no blanks. -/
theorem isBlank_eq_false_of_toNat {c : Char} (hlo : 33 ≤ c.toNat) (hhi : c.toNat ≤ 126) :
    isBlank c = false := by
  simp only [isBlank, Bool.or_eq_false_iff, Bool.and_eq_false_iff, decide_eq_false_iff_not,
    beq_eq_false_iff_ne]
  omega

theorem isBlank_eq_false_of_isDigit {c : Char} (h : c.isDigit = true) : isBlank c = false := by
  have hlow : 48 ≤ c.toNat := (Char.isDigit_iff_toNat.mp h).1
  have hhigh : c.toNat ≤ 57 := (Char.isDigit_iff_toNat.mp h).2
  exact isBlank_eq_false_of_toNat (by omega) (by omega)

theorem all_blank_or_exists_not (s : Text) :
    (∀ c ∈ s, isBlank c = true) ∨ ∃ c ∈ s, isBlank c = false := by
  by_cases h : ∃ c ∈ s, isBlank c = false
  · exact Or.inr h
  · refine Or.inl fun c hc => ?_
    cases hb : isBlank c with
    | true => rfl
    | false => exact absurd ⟨c, hc, hb⟩ h

/-! ## 2. Something behind a text -/

/-- A text of blanks in front belongs to the leading blanks. -/
theorem lead_append_of_blank {w : Text} (hw : ∀ c ∈ w, isBlank c = true) (t : Text) :
    lead (w ++ t) = w ++ lead t := List.takeWhile_append_of_pos hw

theorem trimStart_append_of_blank {w : Text} (hw : ∀ c ∈ w, isBlank c = true) (t : Text) :
    trimStart (w ++ t) = trimStart t := List.dropWhile_append_of_pos hw

theorem lead_cons_of_not_blank {c : Char} (hc : isBlank c = false) (t : Text) :
    lead (c :: t) = [] := by
  simp [lead, hc]

theorem trimStart_cons_of_not_blank {c : Char} (hc : isBlank c = false) (t : Text) :
    trimStart (c :: t) = c :: t := by
  simp [trimStart, hc]

/-- A text that is not blank throughout keeps something when it is trimmed. -/
theorem exists_mem_trimStart {s : Text} (hs : ∃ c ∈ s, isBlank c = false) :
    ∃ c ∈ trimStart s, isBlank c = false := by
  obtain ⟨c, hc, hb⟩ := hs
  rw [← lead_append_trimStart s] at hc
  refine ⟨c, (List.mem_append.mp hc).resolve_left fun hlead => ?_, hb⟩
  rw [isBlank_of_mem_lead hlead] at hb
  exact Bool.noConfusion hb

theorem trimStart_ne_nil {s : Text} (hs : ∃ c ∈ s, isBlank c = false) : trimStart s ≠ [] := by
  obtain ⟨c, hc, -⟩ := exists_mem_trimStart hs
  exact List.ne_nil_of_mem hc

/-- Behind a text that is not blank throughout, nothing changes its leading blanks. -/
theorem trimStart_append {s : Text} (hs : ∃ c ∈ s, isBlank c = false) (t : Text) :
    trimStart (s ++ t) = trimStart s ++ t := by
  have hne : (s.dropWhile isBlank).isEmpty = false :=
    List.isEmpty_eq_false_iff.mpr (trimStart_ne_nil hs)
  rw [trimStart, List.dropWhile_append, hne]
  rfl

theorem lead_append {s : Text} (hs : ∃ c ∈ s, isBlank c = false) (t : Text) :
    lead (s ++ t) = lead s := by
  have h : lead (s ++ t) ++ trimStart (s ++ t) = lead s ++ trimStart (s ++ t) := by
    rw [lead_append_trimStart, trimStart_append hs, ← List.append_assoc, lead_append_trimStart]
  exact List.append_cancel_right h

/-- Behind a text that goes on with no blank, nothing moves when it is trimmed. -/
theorem trimStart_append_cons {c : Char} (hc : isBlank c = false) (s t : Text) :
    trimStart (s ++ c :: t) = trimStart s ++ c :: t := by
  rcases all_blank_or_exists_not s with hblank | hs
  · have hnil : trimStart s = [] := by
      rw [← List.append_nil s, trimStart_append_of_blank hblank]
      rfl
    rw [trimStart_append_of_blank hblank, trimStart_cons_of_not_blank hc, hnil, List.nil_append]
  · exact trimStart_append hs _

/-! ## 3. The blanks at either end -/

/-- What trimming takes from the end of a text is blank. -/
theorem exists_eq_trimEnd_append (t : Text) :
    ∃ w, (∀ c ∈ w, isBlank c = true) ∧ t = trimEnd t ++ w := by
  refine ⟨(t.reverse.takeWhile isBlank).reverse,
    fun c hc => isBlank_of_mem_takeWhile (List.mem_reverse.mp hc), ?_⟩
  rw [trimEnd, ← List.reverse_append, List.takeWhile_append_dropWhile, List.reverse_reverse]

/-- Behind its last character that is no blank, a text has its trailing blanks. -/
theorem trail_append_cons {c : Char} {w : Text} (hc : isBlank c = false)
    (hw : ∀ b ∈ w, isBlank b = true) (s : Text) : trail (s ++ c :: w) = w := by
  have hrev : ∀ b ∈ w.reverse, isBlank b = true := fun b hb => hw b (List.mem_reverse.mp hb)
  have hback : (trimStart s ++ c :: w).reverse = w.reverse ++ c :: (trimStart s).reverse := by simp
  rw [trail, trimStart_append_cons hc, hback, List.takeWhile_append_of_pos hrev,
    List.takeWhile_cons_of_neg (by simp [hc]), List.append_nil, List.reverse_reverse]

theorem exists_eq_append_cons_blank : ∀ {t : Text}, (∃ c ∈ t, isBlank c = false) →
    ∃ front c w, isBlank c = false ∧ (∀ b ∈ w, isBlank b = true) ∧ t = front ++ c :: w
  | [], h => by simp at h
  | d :: t, h => by
    rcases all_blank_or_exists_not t with hblank | ht
    · obtain ⟨c, hc, hb⟩ := h
      rcases List.mem_cons.mp hc with rfl | hc
      · exact ⟨[], c, t, hb, hblank, rfl⟩
      · rw [hblank c hc] at hb
        exact Bool.noConfusion hb
    · obtain ⟨front, c, w, hc, hw, rfl⟩ := exists_eq_append_cons_blank ht
      exact ⟨d :: front, c, w, hc, hw, rfl⟩

/-- In front of a text that is not blank throughout, nothing changes its trailing blanks. -/
theorem trail_append {t : Text} (ht : ∃ c ∈ t, isBlank c = false) (s : Text) :
    trail (s ++ t) = trail t := by
  obtain ⟨front, c, w, hc, hw, rfl⟩ := exists_eq_append_cons_blank ht
  rw [← List.append_assoc, trail_append_cons hc hw, trail_append_cons hc hw]

/-- Blanks behind a text are told by its last character, if that is none. -/
theorem eq_of_append_blank {w w' t t' : Text} {c c' : Char} (hw : ∀ b ∈ w, isBlank b = true)
    (hw' : ∀ b ∈ w', isBlank b = true) (hc : isBlank c = false) (hc' : isBlank c' = false)
    (h : t ++ c :: w = t' ++ c' :: w') : w = w' := by
  have htrail := congrArg trail h
  rwa [trail_append_cons hc hw, trail_append_cons hc' hw'] at htrail

end NestedJoin.Text
