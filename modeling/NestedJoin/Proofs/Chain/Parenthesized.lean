/-
# Nesting puts in parentheses and nothing else

A text is another one with parentheses put in (`Text.Parenthesized`) if it can be read along with
it, character by character, where what has no counterpart is a parenthesis.  The nested form of a
chain is the chain with parentheses put in (`Chain.parenthesized_of_nest`).

What is asked of a nested form elsewhere is read off this relation: the chain is kept in order
(`Chain.sublist_of_nest`), every other character was there before (`Text.Parenthesized.mem`), and a
piece of the nested form without parentheses is a piece of the chain (`Text.Parenthesized.isInfix`).
-/
import NestedJoin.Proofs.Chain.NestedForm

namespace NestedJoin

/-! ## 1. The relation -/

namespace Text

/-- The second text is the first with parentheses put in. -/
inductive Parenthesized : Text → Text → Prop
  | nil : Parenthesized [] []
  | keep (c : Char) {s t : Text} (h : Parenthesized s t) : Parenthesized (c :: s) (c :: t)
  | insert {c : Char} (hc : c = '(' ∨ c = ')') {s t : Text} (h : Parenthesized s t) :
    Parenthesized s (c :: t)

namespace Parenthesized

theorem refl : ∀ t : Text, Parenthesized t t
  | [] => .nil
  | c :: t => .keep c (refl t)

theorem append {s s' t t' : Text} (hs : Parenthesized s s') (ht : Parenthesized t t') :
    Parenthesized (s ++ t) (s' ++ t') := by
  induction hs with
  | nil => exact ht
  | keep c _ ih => exact .keep c ih
  | insert hc _ ih => exact .insert hc ih

theorem trans {s t u : Text} (h : Parenthesized s t) (h' : Parenthesized t u) :
    Parenthesized s u := by
  induction h' generalizing s with
  | nil => exact h
  | keep c _ ih =>
    cases h with
    | keep _ h => exact .keep c (ih h)
    | insert hc h => exact .insert hc (ih h)
  | insert hc _ ih => exact .insert hc (ih h)

/-- Any number of parentheses opened in front. -/
theorem open_replicate (n : Nat) (t : Text) : Parenthesized t (List.replicate n '(' ++ t) := by
  induction n with
  | zero => exact refl t
  | succ n ih => exact .insert (Or.inl rfl) ih

theorem sublist {s t : Text} (h : Parenthesized s t) : s.Sublist t := by
  induction h with
  | nil => exact .slnil
  | keep c _ ih => exact ih.cons_cons c
  | insert _ _ ih => exact ih.cons _

/-- **A character that is new is a parenthesis.** -/
theorem mem {s t : Text} (h : Parenthesized s t) {d : Char} (hd : d ∈ t) :
    d ∈ s ∨ d = '(' ∨ d = ')' := by
  induction h with
  | nil => exact Or.inl hd
  | keep c _ ih =>
    rcases List.mem_cons.mp hd with rfl | hd
    · exact Or.inl List.mem_cons_self
    · exact (ih hd).imp_left (List.mem_cons_of_mem c)
  | insert hc _ ih =>
    rcases List.mem_cons.mp hd with rfl | hd
    · exact Or.inr hc
    · exact ih hd

section Words

variable {s t : Text}

/-- Folding leaves the parentheses. -/
theorem fold (h : Parenthesized s t) : Parenthesized (Text.fold s) (Text.fold t) := by
  induction h with
  | nil => exact .nil
  | keep c _ ih => exact .keep c.toLower ih
  | insert hc _ ih =>
    rw [fold_cons]
    rcases hc with rfl | rfl
    · exact .insert (Or.inl rfl) ih
    · exact .insert (Or.inr rfl) ih

/-- A parenthesis is no letter of a text without parentheses. -/
theorem ne_of_mem {w : Text} (hw : '(' ∉ w ∧ ')' ∉ w) {c d : Char} (hc : c = '(' ∨ c = ')')
    (hd : d ∈ w) : d ≠ c := by
  rintro rfl
  rcases hc with rfl | rfl
  · exact hw.1 hd
  · exact hw.2 hd

/-- What a text begins with, it began with before, parentheses apart. -/
theorem isPrefix (h : Parenthesized s t) {w : Text} (hw : '(' ∉ w ∧ ')' ∉ w)
    (hp : w <+: t) : w <+: s := by
  induction h generalizing w with
  | nil => exact hp
  | keep c _ ih =>
    rcases List.prefix_cons_iff.mp hp with rfl | ⟨w', rfl, htail⟩
    · exact List.nil_prefix
    · have hw' : '(' ∉ w' ∧ ')' ∉ w' :=
        ⟨fun h => hw.1 (List.mem_cons_of_mem _ h), fun h => hw.2 (List.mem_cons_of_mem _ h)⟩
      exact List.cons_prefix_cons.mpr ⟨rfl, ih hw' htail⟩
  | insert hc _ _ =>
    rcases List.prefix_cons_iff.mp hp with rfl | ⟨w', rfl, -⟩
    · exact List.nil_prefix
    · exact absurd rfl (ne_of_mem hw hc List.mem_cons_self)

/-- **A piece without parentheses was a piece before** parentheses were put in. -/
theorem isInfix (h : Parenthesized s t) {w : Text} (hw : '(' ∉ w ∧ ')' ∉ w)
    (hi : w <:+: t) : w <:+: s := by
  induction h with
  | nil => exact hi
  | keep c h ih =>
    rcases List.infix_cons_iff.mp hi with hp | hi
    · exact ((Parenthesized.keep c h).isPrefix hw hp).isInfix
    · exact (ih hi).trans (List.suffix_cons _ _).isInfix
  | insert hc h ih =>
    rcases List.infix_cons_iff.mp hi with hp | hi
    · exact ((Parenthesized.insert hc h).isPrefix hw hp).isInfix
    · exact ih hi

/-- So a word without parentheses that stands in a text stood there before. -/
theorem holds (h : Parenthesized s t) {word : Text}
    (hword : '(' ∉ Text.fold word ∧ ')' ∉ Text.fold word) (ht : Holds word t) : Holds word s :=
  h.fold.isInfix hword ht

end Words

end Parenthesized

end Text

open Text (Parenthesized)

/-! ## 2. Chains -/

namespace Chain

theorem parenthesized_writeTail : ∀ (t : Text) (links : List (Qualifier × Text)),
    Parenthesized (JoinList.writeTail [] t links) (JoinList.writeTail [')'] t links)
  | t, [] => .refl _
  | t, (q, u) :: rest => by
    have ih := parenthesized_writeTail u rest
    rw [JoinList.writeTail_cons, JoinList.writeTail_cons, List.nil_append]
    have hlink := Parenthesized.append (.refl q.suffix) (Parenthesized.append (.refl joinMarker) ih)
    exact Parenthesized.append (.refl t) (.insert (Or.inr rfl) hlink)

theorem parenthesized_openAfterLead (depth : Nat) (t : Text) :
    Parenthesized t (openAfterLead depth t) := by
  have h : Parenthesized (Text.lead t ++ Text.trimStart t) (openAfterLead depth t) :=
    Parenthesized.append (.refl _) (.open_replicate depth _)
  rwa [Text.lead_append_trimStart] at h

/-- **The nested form of a chain is the chain with parentheses put in.** -/
theorem parenthesized_of_nest {chain out : Text} (h : nest chain = .ok out) :
    Parenthesized chain out := by
  rcases nest_eq_ok_iff.mp h with ⟨-, rfl⟩ | ⟨p, -, rfl, rfl⟩
  · exact .refl _
  · have hclosed : Parenthesized p.flat p.closed :=
      Parenthesized.append (.refl p.head)
        (Parenthesized.append (.refl joinMarker) (parenthesized_writeTail p.first p.links))
    exact hclosed.trans (parenthesized_openAfterLead _ _)

/-- **Nesting keeps every character, in order.** -/
theorem sublist_of_nest {chain out : Text} (h : nest chain = .ok out) : chain.Sublist out :=
  (parenthesized_of_nest h).sublist

end Chain

end NestedJoin
