/-
# The identifiers of a text

An identifier of a text is a run of ASCII letters, digits and underscores that is not a part of a
longer one (`Text.identifiers`).  Every other character parts a text: the identifiers of the whole
are those of what stands before it and of what stands behind it (`identifiers_append_cons`), so one
that stands next to another such character can be put in or left out
(`SameIdentifiers.insert`).

Nesting puts parentheses next to blanks or to the ends of a chain only, and so leaves the identifiers
as they are (`Chain.identifiers_of_nest`).
-/
import NestedJoin.Config
import NestedJoin.Proofs.Chain.NestedForm
import NestedJoin.Proofs.Text.Words

namespace NestedJoin

open Config (continuesIdentifier)

namespace Text

/-! ## 1. Identifiers -/

/-- The identifiers of a text, in order. -/
def identifiers (t : Text) : List Text :=
  (t.splitOnP fun c => !continuesIdentifier c).filter (· ≠ [])

/-- A name is one of the identifiers of a text, if upper and lower case letters are not told
apart. -/
def Names (name t : Text) : Prop := ∃ x ∈ identifiers t, fold x = fold name

instance (name t : Text) : Decidable (Names name t) :=
  inferInstanceAs (Decidable (∃ x ∈ identifiers t, fold x = fold name))

theorem identifiers_nil : identifiers [] = [] := rfl

/-- **A character that is none of an identifier parts the text.** -/
theorem identifiers_append_cons {c : Char} (hc : continuesIdentifier c = false) (s t : Text) :
    identifiers (s ++ c :: t) = identifiers s ++ identifiers t := by
  rw [identifiers, List.splitOnP_append_cons s t (by simp [hc]), List.filter_append]
  rfl

theorem identifiers_cons {c : Char} (hc : continuesIdentifier c = false) (t : Text) :
    identifiers (c :: t) = identifiers t := identifiers_append_cons hc [] t

/-- A text of nothing but letters, digits and underscores is a single identifier. -/
theorem identifiers_eq_singleton {t : Text} (hne : t ≠ [])
    (h : ∀ c ∈ t, continuesIdentifier c = true) : identifiers t = [t] := by
  have hsplit : t.splitOnP (fun c => !continuesIdentifier c) = [t] :=
    List.splitOnP_eq_singleton fun c hc => by rw [h c hc]; rfl
  rw [identifiers, hsplit, List.filter_cons_of_pos (by simpa using hne), List.filter_nil]

section Parting

variable {w : Text} (hw : ∀ c ∈ w, continuesIdentifier c = false)
include hw

theorem identifiers_append_left (t : Text) : identifiers (w ++ t) = identifiers t := by
  induction w with
  | nil => rfl
  | cons c w ih =>
    obtain ⟨hc, hw⟩ := List.forall_mem_cons.mp hw
    rw [List.cons_append, identifiers_cons hc, ih hw]

theorem identifiers_append_right (t : Text) : identifiers (t ++ w) = identifiers t := by
  cases w with
  | nil => rw [List.append_nil]
  | cons c w =>
    obtain ⟨hc, hw⟩ := List.forall_mem_cons.mp hw
    have hnone := identifiers_append_left hw []
    rw [List.append_nil, identifiers_nil] at hnone
    rw [identifiers_append_cons hc, hnone, List.append_nil]

end Parting

/-- The characters of an identifier lie between the blanks of ASCII and its end. -/
theorem toNat_of_continuesIdentifier {c : Char} (h : continuesIdentifier c = true) :
    33 ≤ c.toNat ∧ c.toNat ≤ 126 := by
  rw [continuesIdentifier, Bool.or_eq_true, Char.isAlphanum, Bool.or_eq_true, beq_iff_eq] at h
  rcases h with (h | h) | rfl
  · rcases Bool.or_eq_true_iff.mp h with h | h
    · have hupper : 'A'.val ≤ c.val ∧ c.val ≤ 'Z'.val := of_decide_eq_true h
      exact ⟨Nat.le_trans (by decide) hupper.1, Nat.le_trans hupper.2 (by decide)⟩
    · obtain ⟨hlo, hhi⟩ := Bool.and_eq_true_iff.mp h
      have hlower : 'a'.val ≤ c.val ∧ c.val ≤ 'z'.val :=
        ⟨of_decide_eq_true hlo, of_decide_eq_true hhi⟩
      exact ⟨Nat.le_trans (by decide) hlower.1, Nat.le_trans hlower.2 (by decide)⟩
  · have hdigit := Char.isDigit_iff_toNat.mp h
    exact ⟨Nat.le_trans (by decide) hdigit.1, Nat.le_trans hdigit.2 (by decide)⟩
  · decide

/-- A blank is no part of an identifier. -/
theorem continuesIdentifier_of_isBlank {c : Char} (h : isBlank c = true) :
    continuesIdentifier c = false := by
  rw [← Bool.not_eq_true]
  intro hc
  obtain ⟨hlo, hhi⟩ := toNat_of_continuesIdentifier hc
  rw [isBlank_eq_false_of_toNat hlo hhi] at h
  exact Bool.noConfusion h

theorem identifiers_trimStart (t : Text) : identifiers (trimStart t) = identifiers t := by
  have h := identifiers_append_left
    (fun _ hc => continuesIdentifier_of_isBlank (isBlank_of_mem_lead (t := t) hc)) (trimStart t)
  rw [← h, lead_append_trimStart]

theorem identifiers_trim (t : Text) : identifiers (trim t) = identifiers t := by
  have hlead := identifiers_append_left
    (fun _ hc => continuesIdentifier_of_isBlank (isBlank_of_mem_lead (t := t) hc))
    (trim t ++ trail t)
  have htrail := identifiers_append_right
    (fun _ hc => continuesIdentifier_of_isBlank (isBlank_of_mem_trail (t := t) hc)) (trim t)
  rw [← htrail, ← hlead, lead_append_trim_append_trail]

/-! ## 2. Texts that end alike -/

/-- Whatever stands in front of two texts, the identifiers of the whole are the same. -/
def SameIdentifiers (s t : Text) : Prop :=
  ∀ front, identifiers (front ++ s) = identifiers (front ++ t)

namespace SameIdentifiers

variable {s t : Text}

theorem refl (t : Text) : SameIdentifiers t t := fun _ => rfl

theorem identifiers_eq (h : SameIdentifiers s t) : identifiers s = identifiers t := h []

theorem trans {u : Text} (h : SameIdentifiers s t) (h' : SameIdentifiers t u) :
    SameIdentifiers s u := fun front => (h front).trans (h' front)

theorem prepend (h : SameIdentifiers s t) (u : Text) : SameIdentifiers (u ++ s) (u ++ t) := by
  intro front
  rw [← List.append_assoc, ← List.append_assoc]
  exact h (front ++ u)

/-- **A character that parts the text anyway** can be put in front of another. -/
theorem insert {c d : Char} (hc : continuesIdentifier c = false)
    (hd : continuesIdentifier d = false) (t : Text) : SameIdentifiers (d :: t) (c :: d :: t) := by
  intro front
  rw [identifiers_append_cons hd, identifiers_append_cons hc, identifiers_cons hd]

end SameIdentifiers

end Text

open Text (SameIdentifiers identifiers)

/-! ## 3. Chains -/

namespace Chain

theorem sameIdentifiers_writeTail : ∀ (t : Text) (links : List (Qualifier × Text)),
    SameIdentifiers (JoinList.writeTail [] t links) (JoinList.writeTail [')'] t links)
  | t, [] => .refl _
  | t, (q, u) :: rest => by
    have ih := sameIdentifiers_writeTail u rest
    rw [JoinList.writeTail_cons, JoinList.writeTail_cons, List.nil_append]
    refine .prepend (.trans ((ih.prepend joinMarker).prepend q.suffix) ?_) t
    -- A qualifier begins with a blank, and the parenthesis stands in front of it.
    obtain ⟨word, hword⟩ := q.suffix_eq_blank_cons
    rw [hword]
    exact .insert (by decide) (by decide) _

theorem identifiers_openAfterLead (depth : Nat) (t : Text) :
    identifiers (openAfterLead depth t) = identifiers t := by
  have hopen : ∀ c ∈ Text.lead t ++ List.replicate depth '(', continuesIdentifier c = false := by
    intro c hc
    rcases List.mem_append.mp hc with hc | hc
    · exact Text.continuesIdentifier_of_isBlank (Text.isBlank_of_mem_lead hc)
    · rw [List.eq_of_mem_replicate hc]
      decide
  rw [openAfterLead, ← List.append_assoc, Text.identifiers_append_left hopen,
    Text.identifiers_trimStart]

/-- **Nesting leaves the identifiers of a chain as they are.** -/
theorem identifiers_of_nest {chain out : Text} (h : nest chain = .ok out) :
    identifiers out = identifiers chain := by
  rcases nest_eq_ok_iff.mp h with ⟨-, rfl⟩ | ⟨p, -, rfl, rfl⟩
  · rfl
  · have hclosed : SameIdentifiers p.flat p.closed :=
      ((sameIdentifiers_writeTail p.first p.links).prepend joinMarker).prepend p.head
    rw [identifiers_openAfterLead, hclosed.identifiers_eq]

end Chain

end NestedJoin
