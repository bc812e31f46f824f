/-
# Parsers that read off the front of a text

A parser reads something off the front of a text and leaves the rest, or it refuses.  Four ways to
build one are enough to cut a chain: up to a pattern, the pattern itself, one parser and then
another of which only the first counts, and as often as it goes.  They are taken from a toolkit of
which nothing is known but what is documented (`Toolkit.Documented`).

A repetition is where this can go wrong.  It ends at the first ordinary refusal, gives every other
one on, and refuses on its own if a round reads nothing, as it would never end.

`Toolkit.plain` is a toolkit that keeps to the documentation (`Toolkit.documented_plain`).
-/
import NestedJoin.Text.Blank
import Mathlib.Data.List.Infix

namespace NestedJoin

/-! ## 1. Parsers -/

/-- How a parser refuses. -/
inductive ParseFault where
  /-- What is there does not fit, which may be tried otherwise. -/
  | error
  /-- The same, where nothing else is to be tried. -/
  | failure
  /-- There is not enough to tell. -/
  | incomplete
  deriving DecidableEq, Repr

/-- What reads off the front of a text: it gives the rest and what it has read. -/
structure Parser (α : Type) where
  parse : Text → Except ParseFault (Text × α)
  leaves_rest : ∀ {t rest : Text} {a : α}, parse t = .ok (rest, a) → rest <:+ t

/-- The ways to build a parser. -/
structure Toolkit where
  takeUntil (pattern : Text) : Parser Text
  tag (pattern : Text) : Parser Text
  terminated {α β : Type} (p : Parser α) (q : Parser β) : Parser α
  many {α : Type} (p : Parser α) : Parser (List α)

namespace Toolkit

/-- What a round of a repetition has read, in front of what the rounds behind it have. -/
def andThen {α : Type} (a : α) (more : Text × List α) : Text × List α := (more.1, a :: more.2)

/-- What is documented of a toolkit. -/
structure Documented (kit : Toolkit) : Prop where
  /-- A text is read up to the first place where the pattern stands. -/
  takeUntil_append {pattern before rest : Text} (hrest : pattern <+: rest)
    (hfirst : ∀ front back, front ++ back = before ++ rest → front.length < before.length →
      ¬ pattern <+: back) :
    (kit.takeUntil pattern).parse (before ++ rest) = .ok (rest, before)
  /-- Where the pattern stands nowhere, nothing is read. -/
  takeUntil_of_not_infix {pattern t : Text} (h : ¬ pattern <:+: t) :
    (kit.takeUntil pattern).parse t = .error .error
  /-- The pattern is read where a text begins with it, and nothing else is. -/
  tag_append (pattern rest : Text) : (kit.tag pattern).parse (pattern ++ rest) = .ok (rest, pattern)
  tag_of_not_prefix {pattern t : Text} (h : ¬ pattern <+: t) :
    (kit.tag pattern).parse t = .error .error
  /-- Both parsers read, and what the second has read is dropped. -/
  terminated_eq {α β : Type} (p : Parser α) (q : Parser β) (t : Text) :
    (kit.terminated p q).parse t = do
      let (rest, a) ← p.parse t
      let (rest', _) ← q.parse rest
      return (rest', a)
  /-- A repetition ends where its parser does not fit, gives on every other refusal, and refuses a
  round that reads nothing. -/
  many_eq {α : Type} (p : Parser α) (t : Text) :
    (kit.many p).parse t =
      match p.parse t with
      | .error .error => .ok (t, [])
      | .error r => .error r
      | .ok (rest, a) =>
        if rest = t then .error .error else ((kit.many p).parse rest).map (andThen a)

/-! ## 2. A toolkit that keeps to the documentation -/

/-- The text cut in front of the first place where the pattern stands. -/
def cutBefore? (pattern : Text) : Text → Option (Text × Text)
  | [] => if pattern.isPrefixOf [] then some ([], []) else none
  | c :: t =>
    if pattern.isPrefixOf (c :: t) then some ([], c :: t)
    else (cutBefore? pattern t).map fun (before, rest) => (c :: before, rest)

theorem append_of_cutBefore? {pattern : Text} : ∀ {t before rest : Text},
    cutBefore? pattern t = some (before, rest) → before ++ rest = t ∧ pattern <+: rest
  | [], before, rest, h => by
    rw [cutBefore?] at h
    split at h
    · next hp =>
      obtain ⟨rfl, rfl⟩ := Prod.mk.inj (Option.some.inj h)
      exact ⟨rfl, List.isPrefixOf_iff_prefix.mp hp⟩
    · exact absurd h (by simp)
  | c :: t, before, rest, h => by
    rw [cutBefore?] at h
    split at h
    · next hp =>
      obtain ⟨rfl, rfl⟩ := Prod.mk.inj (Option.some.inj h)
      exact ⟨rfl, List.isPrefixOf_iff_prefix.mp hp⟩
    · obtain ⟨⟨b, r⟩, hcut, hbr⟩ := Option.map_eq_some_iff.mp h
      obtain ⟨rfl, rfl⟩ := Prod.mk.inj hbr
      obtain ⟨rfl, hr⟩ := append_of_cutBefore? hcut
      exact ⟨rfl, hr⟩

theorem cutBefore?_eq_none {pattern : Text} : ∀ {t : Text}, ¬ pattern <:+: t →
    cutBefore? pattern t = none
  | [], h => by
    have hp : pattern.isPrefixOf [] = false :=
      Bool.eq_false_iff.mpr fun hp => h (List.isPrefixOf_iff_prefix.mp hp).isInfix
    rw [cutBefore?, hp]
    rfl
  | c :: t, h => by
    rw [List.infix_cons_iff, not_or] at h
    have hp : pattern.isPrefixOf (c :: t) = false :=
      Bool.eq_false_iff.mpr fun hp => h.1 (List.isPrefixOf_iff_prefix.mp hp)
    rw [cutBefore?, hp, cutBefore?_eq_none h.2]
    rfl

theorem cutBefore?_append {pattern rest : Text} (hrest : pattern <+: rest) : ∀ {before : Text},
    (∀ front back, front ++ back = before ++ rest → front.length < before.length →
      ¬ pattern <+: back) → cutBefore? pattern (before ++ rest) = some (before, rest)
  | [], _ => by
    have hp : pattern.isPrefixOf rest = true := List.isPrefixOf_iff_prefix.mpr hrest
    cases rest with
    | nil => rw [List.append_nil, cutBefore?, if_pos hp]
    | cons c t => rw [List.nil_append, cutBefore?, if_pos hp]
  | c :: before, hfirst => by
    have hp : pattern.isPrefixOf (c :: (before ++ rest)) = false :=
      Bool.eq_false_iff.mpr fun hp =>
        hfirst [] _ rfl (Nat.succ_pos _) (List.isPrefixOf_iff_prefix.mp hp)
    have ih : cutBefore? pattern (before ++ rest) = some (before, rest) := by
      refine cutBefore?_append hrest fun front back hfb hlen => ?_
      exact hfirst (c :: front) back (congrArg (c :: ·) hfb) (Nat.succ_lt_succ hlen)
    rw [List.cons_append, cutBefore?, hp, ih]
    rfl

/-- A parser as often as it goes. -/
def repeated {α : Type} (p : Parser α) (t : Text) : Except ParseFault (Text × List α) :=
  match _hp : p.parse t with
  | .error .error => .ok (t, [])
  | .error r => .error r
  | .ok (rest, a) => if rest = t then .error .error else (repeated p rest).map (andThen a)
termination_by t.length
decreasing_by
  rename_i hrest
  have hsuffix : rest <:+ t := p.leaves_rest _hp
  exact Nat.lt_of_le_of_ne hsuffix.length_le fun hlen => hrest (hsuffix.eq_of_length hlen)

theorem suffix_of_repeated {α : Type} {p : Parser α} {t rest : Text} {as : List α}
    (h : repeated p t = .ok (rest, as)) : rest <:+ t := by
  fun_induction repeated p t generalizing as with
  | case1 t hp =>
    obtain ⟨rfl, -⟩ := Prod.mk.inj (Except.ok.inj h)
    exact List.suffix_refl _
  | case2 t r hp => exact absurd h (by simp)
  | case3 t a hp => exact absurd h (by simp)
  | case4 t rest' a hp hne ih =>
    cases hmore : repeated p rest' with
    | error r =>
      rw [hmore] at h
      exact absurd h (by simp [Except.map])
    | ok more =>
      rw [hmore] at h
      obtain ⟨rfl, -⟩ := Prod.mk.inj (Except.ok.inj h)
      exact (ih hmore).trans (p.leaves_rest hp)

/-- The text up to a pattern. -/
def upTo (pattern : Text) : Parser Text where
  parse t :=
    match cutBefore? pattern t with
    | some (before, rest) => .ok (rest, before)
    | none => .error .error
  leaves_rest := by
    intro t rest before h
    split at h
    · next hcut =>
      obtain ⟨rfl, rfl⟩ := Prod.mk.inj (Except.ok.inj h)
      exact ⟨_, (append_of_cutBefore? hcut).1⟩
    · exact absurd h (by simp)

/-- A pattern. -/
def exactly (pattern : Text) : Parser Text where
  parse t := if pattern.isPrefixOf t then .ok (t.drop pattern.length, pattern) else .error .error
  leaves_rest := by
    intro t rest found h
    split at h
    · obtain ⟨rfl, -⟩ := Prod.mk.inj (Except.ok.inj h)
      exact List.drop_suffix _ _
    · exact absurd h (by simp)

/-- What a parser reads, if another one reads what follows. -/
def followedBy {α β : Type} (p : Parser α) (q : Parser β) : Parser α where
  parse t := do
    let (rest, a) ← p.parse t
    let (rest', _) ← q.parse rest
    return (rest', a)
  leaves_rest := by
    intro t rest' a h
    cases hp : p.parse t with
    | error r =>
      rw [hp] at h
      exact absurd h (by simp [bind, Except.bind])
    | ok read =>
      rw [hp] at h
      change (q.parse read.1 >>= fun more => Except.ok (more.1, read.2)) = _ at h
      cases hq : q.parse read.1 with
      | error r =>
        rw [hq] at h
        exact absurd h (by simp [bind, Except.bind])
      | ok more =>
        rw [hq] at h
        obtain ⟨rfl, -⟩ := Prod.mk.inj (Except.ok.inj h)
        exact (q.leaves_rest hq).trans (p.leaves_rest hp)

/-- A toolkit that is written out. -/
def plain : Toolkit where
  takeUntil := upTo
  tag := exactly
  terminated := followedBy
  many p := ⟨repeated p, suffix_of_repeated⟩

/-- **What is documented can be kept to.** -/
theorem documented_plain : plain.Documented where
  takeUntil_append hrest hfirst := by
    change (upTo _).parse _ = _
    simp only [upTo, cutBefore?_append hrest hfirst]
  takeUntil_of_not_infix h := by
    change (upTo _).parse _ = _
    simp only [upTo, cutBefore?_eq_none h]
  tag_append pattern rest := by
    change (exactly pattern).parse _ = _
    have hp : pattern.isPrefixOf (pattern ++ rest) = true :=
      List.isPrefixOf_iff_prefix.mpr (List.prefix_append pattern rest)
    simp only [exactly, hp, if_true, List.drop_left]
  tag_of_not_prefix h := by
    change (exactly _).parse _ = _
    exact if_neg (mt List.isPrefixOf_iff_prefix.mp h)
  terminated_eq p q t := rfl
  many_eq p t := by
    change repeated p t = _
    rw [repeated]
    split
    · next hp => rw [hp]
    · next r hother hp =>
      rw [hp]
      cases r with
      | error => exact absurd rfl hother
      | failure => rfl
      | incomplete => rfl
    · next rest a hp =>
      rw [hp]
      rfl

end Toolkit

end NestedJoin
