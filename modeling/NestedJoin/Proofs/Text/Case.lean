/-
# Texts that differ in case

The searches compare folded forms.  Here the same comparison is said without folding: two numbers,
of characters or of bytes, go together if they are equal or the two cases of one ASCII letter
(`SameLetter`), and two texts do if they go together letter by letter (`SameText`, and `SameBytes`
for bytes).  A letter beyond ASCII goes with itself alone, also where some other table has it as a
case of an ASCII letter, as the sign for kelvin.

What the searches take for equal is exactly this (`fold_eq_fold_iff`, `map_foldByte_eq_iff`).
-/
import Mathlib.Data.List.Forall2
import NestedJoin.Proofs.Text.Offsets

namespace NestedJoin.Text

/-! ## 1. Letters -/

/-- Two numbers of characters or bytes that are equal, or the two cases of one ASCII letter. -/
def SameLetter (m n : Nat) : Prop :=
  m = n ∨ (65 ≤ m ∧ m ≤ 90 ∧ n = m + 32) ∨ (65 ≤ n ∧ n ≤ 90 ∧ m = n + 32)

instance (m n : Nat) : Decidable (SameLetter m n) := inferInstanceAs (Decidable (_ ∨ _))

/-- The number of the lower case of an ASCII letter; every other number as it is. -/
def lowered (n : Nat) : Nat := if 65 ≤ n ∧ n ≤ 90 then n + 32 else n

theorem lowered_eq_lowered_iff {m n : Nat} : lowered m = lowered n ↔ SameLetter m n := by
  unfold lowered SameLetter
  split <;> split <;> omega

theorem toNat_toLower (c : Char) : c.toLower.toNat = lowered c.toNat := by
  rw [lowered]
  rcases toLower_cases c with h | ⟨hlow, hhigh, h⟩
  · split
    · next hcapital =>
      -- A capital is not its own lower case.
      have hascii : ∀ n < 128, 65 ≤ n → n ≤ 90 → (Char.ofNat n).toLower ≠ Char.ofNat n := by
        decide +kernel
      have hne := hascii c.toNat (by omega) hcapital.1 hcapital.2
      rw [Char.ofNat_toNat] at hne
      exact absurd h hne
    · rw [h]
  · rw [if_pos ⟨hlow, hhigh⟩, h]

theorem toNat_foldByte (b : UInt8) : (foldByte b).toNat = lowered b.toNat := by
  have hbytes : ∀ n < 256, (foldByte (UInt8.ofNat n)).toNat = lowered (UInt8.ofNat n).toNat := by
    decide +kernel
  have hb := hbytes b.toNat b.toNat_lt
  rwa [UInt8.ofNat_toNat] at hb

/-- **Two characters fold alike** exactly if they are the same letter. -/
theorem toLower_eq_toLower_iff {c d : Char} :
    c.toLower = d.toLower ↔ SameLetter c.toNat d.toNat := by
  rw [← Char.toNat_inj, toNat_toLower, toNat_toLower, lowered_eq_lowered_iff]

/-- **Two bytes fold alike** exactly if they are the same letter. -/
theorem foldByte_eq_foldByte_iff {a b : UInt8} :
    foldByte a = foldByte b ↔ SameLetter a.toNat b.toNat := by
  rw [← UInt8.toNat_inj, toNat_foldByte, toNat_foldByte, lowered_eq_lowered_iff]

theorem toLower_toLower (c : Char) : c.toLower.toLower = c.toLower := by
  have hsame : SameLetter c.toLower.toNat c.toNat := by
    rw [toNat_toLower]
    unfold lowered SameLetter
    split <;> omega
  exact toLower_eq_toLower_iff.mpr hsame

/-! ## 2. Texts and bytes -/

/-- The texts are the same letter by letter. -/
def SameText (s t : Text) : Prop := List.Forall₂ (fun c d => SameLetter c.toNat d.toNat) s t

/-- The bytes are the same letter by letter. -/
def SameBytes (as bs : List UInt8) : Prop :=
  List.Forall₂ (fun a b => SameLetter a.toNat b.toNat) as bs

section Maps

variable {α β : Type} {f : α → β} {as bs : List α}

/-- Two lists have the same image exactly if their members have, one by one. -/
theorem map_eq_map_iff_forall₂ :
    as.map f = bs.map f ↔ List.Forall₂ (fun a b => f a = f b) as bs := by
  rw [← List.forall₂_eq_eq_eq, List.forall₂_map_left_iff, List.forall₂_map_right_iff]

end Maps

/-- **Two texts fold alike** exactly if they are the same letter by letter. -/
theorem fold_eq_fold_iff {s t : Text} : fold s = fold t ↔ SameText s t := by
  rw [fold, fold, map_eq_map_iff_forall₂, SameText]
  simp only [toLower_eq_toLower_iff]

theorem map_foldByte_eq_iff {as bs : List UInt8} :
    as.map foldByte = bs.map foldByte ↔ SameBytes as bs := by
  rw [map_eq_map_iff_forall₂, SameBytes]
  simp only [foldByte_eq_foldByte_iff]

@[simp] theorem fold_fold (t : Text) : fold (fold t) = fold t := by
  rw [fold, fold, List.map_map]
  exact List.map_congr_left fun c _ => toLower_toLower c

/-- The sign for kelvin and the long s fold to ASCII letters in other tables, but not here. -/
example : ¬ SameLetter '\u212a'.toNat 'k'.toNat ∧ ¬ SameLetter '\u017f'.toNat 's'.toNat ∧
    SameLetter 'K'.toNat 'k'.toNat := by decide

end NestedJoin.Text
