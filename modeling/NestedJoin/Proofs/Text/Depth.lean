/-
# The depth of parentheses along a text

An opening parenthesis adds one to the depth and a closing one takes one away.  A text is well
nested if the depth is zero at its end and negative nowhere.  Two numbers say all that is needed of
a text: the depth at its end, and the least depth along it (`isLeast_leastDepth`).  Of two texts put
together, both can be computed from those of the parts.
-/
import Mathlib.Algebra.Ring.Int.Defs
import Mathlib.Order.Bounds.Basic
import NestedJoin.Text.Blank

namespace NestedJoin.Text

/-! ## 1. The depth at the end, and the least -/

/-- What a character adds to the depth. -/
def depthStep (c : Char) : Int := if c = '(' then 1 else if c = ')' then -1 else 0

/-- The depth at the end of a text that begins at zero. -/
def finalDepth (t : Text) : Int := (t.map depthStep).sum

/-- The least depth along a text that begins at zero. -/
def leastDepth : Text → Int
  | [] => 0
  | c :: t => min 0 (depthStep c + leastDepth t)

/-- A text whose parentheses are well nested. -/
structure WellNested (t : Text) : Prop where
  closed : finalDepth t = 0
  never_below : ∀ p, p <+: t → 0 ≤ finalDepth p

@[simp] theorem finalDepth_nil : finalDepth [] = 0 := rfl

@[simp] theorem finalDepth_cons (c : Char) (t : Text) :
    finalDepth (c :: t) = depthStep c + finalDepth t := by
  simp [finalDepth]

@[simp] theorem finalDepth_append (s t : Text) :
    finalDepth (s ++ t) = finalDepth s + finalDepth t := by
  simp [finalDepth]

theorem leastDepth_nonpos (t : Text) : leastDepth t ≤ 0 := by
  cases t with
  | nil => exact Int.le_refl 0
  | cons c t => exact Int.min_le_left _ _

theorem leastDepth_le_of_prefix : ∀ {p t : Text}, p <+: t → leastDepth t ≤ finalDepth p
  | [], t, _ => leastDepth_nonpos t
  | c :: p, t, h => by
    obtain ⟨rest, rfl⟩ := h
    have ih := leastDepth_le_of_prefix (List.prefix_append p rest)
    simp only [List.cons_append, leastDepth, finalDepth_cons]
    omega

theorem exists_prefix_leastDepth : ∀ t : Text, ∃ p, p <+: t ∧ finalDepth p = leastDepth t
  | [] => ⟨[], List.prefix_refl _, rfl⟩
  | c :: t => by
    obtain ⟨p, hp, hd⟩ := exists_prefix_leastDepth t
    by_cases h : depthStep c + leastDepth t ≤ 0
    · refine ⟨c :: p, List.cons_prefix_cons.mpr ⟨rfl, hp⟩, ?_⟩
      rw [finalDepth_cons, leastDepth, hd, Int.min_eq_right h]
    · refine ⟨[], List.nil_prefix, ?_⟩
      rw [finalDepth_nil, leastDepth, Int.min_eq_left (by omega)]

/-- **The least depth is the least of the depths after the prefixes.** -/
theorem isLeast_leastDepth (t : Text) :
    IsLeast {d | ∃ p, p <+: t ∧ finalDepth p = d} (leastDepth t) := by
  refine ⟨exists_prefix_leastDepth t, ?_⟩
  rintro d ⟨p, hp, rfl⟩
  exact leastDepth_le_of_prefix hp

theorem leastDepth_le_finalDepth (t : Text) : leastDepth t ≤ finalDepth t :=
  leastDepth_le_of_prefix (List.prefix_refl t)

theorem leastDepth_append : ∀ s t : Text,
    leastDepth (s ++ t) = min (leastDepth s) (finalDepth s + leastDepth t)
  | [], t => by
    have h := leastDepth_nonpos t
    simp only [List.nil_append, leastDepth, finalDepth_nil]
    omega
  | c :: s, t => by
    have ih := leastDepth_append s t
    simp only [List.cons_append, leastDepth, finalDepth_cons, ih]
    omega

theorem wellNested_iff {t : Text} : WellNested t ↔ finalDepth t = 0 ∧ leastDepth t = 0 := by
  constructor
  · intro h
    obtain ⟨⟨p, hp, hd⟩, -⟩ := isLeast_leastDepth t
    have hnonneg := h.never_below p hp
    have hnonpos := leastDepth_nonpos t
    exact ⟨h.closed, by omega⟩
  · rintro ⟨hfinal, hleast⟩
    refine ⟨hfinal, fun p hp => ?_⟩
    rw [← hleast]
    exact (isLeast_leastDepth t).2 ⟨p, hp, rfl⟩

/-! ## 2. Texts without parentheses -/

/-- A text without parentheses. -/
def NoParens (t : Text) : Prop := '(' ∉ t ∧ ')' ∉ t

instance (t : Text) : Decidable (NoParens t) := inferInstanceAs (Decidable (_ ∧ _))

theorem NoParens.depths : ∀ {t : Text}, NoParens t → finalDepth t = 0 ∧ leastDepth t = 0
  | [], _ => ⟨rfl, rfl⟩
  | c :: t, h => by
    obtain ⟨hopen, hclose⟩ := h
    rw [List.mem_cons, not_or] at hopen hclose
    obtain ⟨hf, hl⟩ := NoParens.depths ⟨hopen.2, hclose.2⟩
    have hc : depthStep c = 0 := by
      rw [depthStep, if_neg (Ne.symm hopen.1), if_neg (Ne.symm hclose.1)]
    rw [finalDepth_cons, leastDepth, hc, hf, hl]
    exact ⟨rfl, rfl⟩

theorem NoParens.append {s t : Text} (hs : NoParens s) (ht : NoParens t) : NoParens (s ++ t) :=
  ⟨fun h => (List.mem_append.mp h).elim hs.1 ht.1, fun h => (List.mem_append.mp h).elim hs.2 ht.2⟩

theorem noParens_of_blank {w : Text} (hw : ∀ c ∈ w, isBlank c = true) : NoParens w :=
  ⟨fun h => absurd (hw _ h) (by decide), fun h => absurd (hw _ h) (by decide)⟩

theorem noParens_lead (t : Text) : NoParens (lead t) :=
  noParens_of_blank fun _ => isBlank_of_mem_lead

theorem noParens_trail (t : Text) : NoParens (trail t) :=
  noParens_of_blank fun _ => isBlank_of_mem_trail

/-- A decimal number holds no parenthesis. -/
theorem noParens_toDigits (n : Nat) : NoParens (Nat.toDigits 10 n) := by
  have hdigit : ∀ c ∈ Nat.toDigits 10 n, c.isDigit = true := fun c hc =>
    Nat.isDigit_of_mem_toDigits (by decide) (by decide) hc
  exact ⟨fun h => absurd (hdigit _ h) (by decide), fun h => absurd (hdigit _ h) (by decide)⟩

/-- In front of a text, one without parentheses changes neither depth. -/
theorem NoParens.finalDepth_append {s : Text} (hs : NoParens s) (t : Text) :
    finalDepth (s ++ t) = finalDepth t := by
  rw [Text.finalDepth_append, hs.depths.1, Int.zero_add]

theorem NoParens.leastDepth_append {s : Text} (hs : NoParens s) (t : Text) :
    leastDepth (s ++ t) = leastDepth t := by
  have h := leastDepth_nonpos t
  rw [Text.leastDepth_append, hs.depths.1, hs.depths.2, Int.zero_add, Int.min_eq_right h]

/-- Blanks at the ends of a text have no part in its depths. -/
theorem depths_trimStart (t : Text) :
    finalDepth t = finalDepth (trimStart t) ∧ leastDepth t = leastDepth (trimStart t) := by
  have hfinal := (noParens_lead t).finalDepth_append (trimStart t)
  have hleast := (noParens_lead t).leastDepth_append (trimStart t)
  rw [lead_append_trimStart] at hfinal hleast
  exact ⟨hfinal, hleast⟩

theorem depths_trim (t : Text) :
    finalDepth t = finalDepth (trim t) ∧ leastDepth t = leastDepth (trim t) := by
  have hfinal := (noParens_lead t).finalDepth_append (trim t ++ trail t)
  have hleast := (noParens_lead t).leastDepth_append (trim t ++ trail t)
  obtain ⟨htrail1, htrail2⟩ := (noParens_trail t).depths
  have hle := leastDepth_le_finalDepth (trim t)
  rw [lead_append_trim_append_trail, Text.finalDepth_append] at hfinal
  rw [lead_append_trim_append_trail, Text.leastDepth_append] at hleast
  exact ⟨by omega, by omega⟩

/-! ## 3. Opening parentheses in front of a text -/

theorem finalDepth_replicate (n : Nat) : finalDepth (List.replicate n '(') = n := by
  induction n with
  | zero => rfl
  | succ n ih =>
    have hopen : depthStep '(' = 1 := rfl
    rw [List.replicate_succ, finalDepth_cons, ih, hopen]
    omega

theorem leastDepth_replicate (n : Nat) : leastDepth (List.replicate n '(') = 0 := by
  induction n with
  | zero => rfl
  | succ n ih => rw [List.replicate_succ, leastDepth, ih]; rfl

end NestedJoin.Text
