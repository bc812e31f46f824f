/-
# Where the lead of the names stands in a nested form

The lead of the names of derived tables is put into a nested form at fixed places, and everything
else of the nested form is the same under every lead.  So a nested form is a text with gaps
(`Gapped`) that the lead is filled into (`Statement.exists_gapped_of_nest`), and there are gaps
exactly where there are derived tables (`Statement.Derives`).

Two leads of different lengths fill the same gaps differently, since there are as many gaps for the
one as for the other, and two of the same length are compared in the first gap.  So the lead can be
read off a nested form with a derived table, whatever characters it has, and has no part in one
without (`Statement.nest_eq_ok_iff_of_nest`).
-/
import NestedJoin.Proofs.Statement.Additive

namespace NestedJoin

/-! ## 1. Texts with gaps -/

/-- A text in pieces with gaps, to be filled all with the same text. -/
abbrev Gapped := List (Option Text)

namespace Gapped

/-- The text with its gaps filled. -/
def fill (name : Text) (p : Gapped) : Text := p.flatMap fun piece => piece.getD name

@[simp] theorem fill_nil (name : Text) : fill name [] = [] := rfl

@[simp] theorem fill_some (name t : Text) (p : Gapped) :
    fill name (some t :: p) = t ++ fill name p := rfl

@[simp] theorem fill_none (name : Text) (p : Gapped) :
    fill name (none :: p) = name ++ fill name p := rfl

@[simp] theorem fill_append (name : Text) (p q : Gapped) :
    fill name (p ++ q) = fill name p ++ fill name q := List.flatMap_append

/-- What is filled in counts once for each gap. -/
theorem length_fill (name : Text) (p : Gapped) :
    (fill name p).length = (fill [] p).length + p.count none * name.length := by
  induction p with
  | nil => simp
  | cons piece p ih =>
    cases piece with
    | some t =>
      rw [fill_some, fill_some, List.length_append, List.length_append, ih,
        List.count_cons_of_ne (by simp)]
      omega
    | none =>
      rw [fill_none, fill_none, List.length_append, List.length_append, ih, List.count_cons_self,
        Nat.add_mul]
      simp only [List.length_nil]
      omega

/-- Without gaps there is nothing to fill in. -/
theorem fill_of_no_gap {p : Gapped} (hp : none ∉ p) (s t : Text) : fill s p = fill t p := by
  induction p with
  | nil => rfl
  | cons piece p ih =>
    rw [List.mem_cons, not_or] at hp
    cases piece with
    | some u => rw [fill_some, fill_some, ih hp.2]
    | none => exact absurd rfl hp.1

/-- **What was filled in can be read off** where there is a gap. -/
theorem fill_injective {p : Gapped} (hp : none ∈ p) {s t : Text} (h : fill s p = fill t p) :
    s = t := by
  have hlen : s.length = t.length := by
    have hall := congrArg List.length h
    rw [length_fill, length_fill t, Nat.add_left_cancel_iff] at hall
    exact Nat.eq_of_mul_eq_mul_left (List.count_pos_iff.mpr hp) hall
  obtain ⟨front, back, rfl⟩ := List.append_of_mem hp
  rw [fill_append, fill_append, fill_none, fill_none] at h
  have hfront : (fill s front).length = (fill t front).length := by
    rw [length_fill, length_fill t, hlen]
  exact (List.append_inj (List.append_inj h hfront).2 hlen).1

theorem fill_eq_fill_iff {p : Gapped} {s t : Text} :
    fill s p = fill t p ↔ (none ∈ p → s = t) := by
  constructor
  · intro h hp
    exact fill_injective hp h
  · intro h
    by_cases hp : none ∈ p
    · rw [h hp]
    · exact fill_of_no_gap hp s t

end Gapped

/-! ## 2. Groups -/

namespace Group

/-- The result of a group with a gap in place of the lead of the name. -/
def gappedResult (several : Bool) (index : Nat) (nested : Text) : Gapped :=
  if several && Chain.hasJoin nested then
    [some (Text.lead nested ++ "(select * from ".toList ++ Text.trim nested ++ ") as ".toList),
      none, some (Nat.toDigits 10 index ++ Text.trail nested)]
  else [some nested]

theorem result_outcome_eq_fill (nameLead : Text) (several : Bool) (index : Nat)
    (group nested : Text) :
    (outcome nameLead several index group nested).result =
      (gappedResult several index nested).fill nameLead := by
  rw [outcome, gappedResult]
  split
  · simp only [derive, derivedName, Gapped.fill_some, Gapped.fill_none, Gapped.fill_nil,
      List.append_assoc, List.append_nil]
  · simp only [Gapped.fill_some, Gapped.fill_nil, List.append_nil]

theorem none_mem_gappedResult_iff {several : Bool} {index : Nat} {group nested : Text}
    (h : Chain.nest group = .ok nested) :
    none ∈ gappedResult several index nested ↔ several = true ∧ Chain.hasJoin group = true := by
  rw [gappedResult, Chain.hasJoin_of_nest h, ← Bool.and_eq_true]
  split
  · next hj => simp [hj]
  · next hj => simp [hj]

/-- **The results put together are a text with gaps**, one for each derived table. -/
theorem exists_gapped_of_nestAll {nameLead : Text} {several : Bool} :
    ∀ {groups : List Text} {index : Nat} {outcomes : List GroupOutcome},
      nestAll nameLead several index groups = .ok outcomes →
      ∃ p : Gapped, (none ∈ p ↔ several = true ∧ ∃ g ∈ groups, Chain.hasJoin g = true) ∧
        ∀ other, ∃ outcomes', nestAll other several index groups = .ok outcomes' ∧
          joinResults outcomes' = p.fill other
  | [], _, outcomes, _ => ⟨[], by simp, fun other => ⟨[], rfl, rfl⟩⟩
  | [group], index, outcomes, h => by
    obtain ⟨nested, more, hn, -, -⟩ := nestAll_cons_eq_ok_iff.mp h
    refine ⟨gappedResult several index nested, ?_, fun other => ?_⟩
    · simpa using none_mem_gappedResult_iff hn
    · refine ⟨_, nestAll_cons_eq_ok_iff.mpr ⟨nested, [], hn, rfl, rfl⟩, ?_⟩
      rw [← result_outcome_eq_fill other several index group]
      simp [joinResults, join]
  | group :: next :: rest, index, outcomes, h => by
    obtain ⟨nested, more, hn, hr, -⟩ := nestAll_cons_eq_ok_iff.mp h
    obtain ⟨p, hp, hfill⟩ := exists_gapped_of_nestAll hr
    refine ⟨gappedResult several index nested ++ some [','] :: p, ?_, fun other => ?_⟩
    · have hcons : (∃ g ∈ group :: next :: rest, Chain.hasJoin g = true) ↔
          Chain.hasJoin group = true ∨ ∃ g ∈ next :: rest, Chain.hasJoin g = true := by
        simp
      rw [List.mem_append, none_mem_gappedResult_iff hn, List.mem_cons, hp, hcons, and_or_left]
      simp
    · obtain ⟨outcomes', ho, hjoin⟩ := hfill other
      refine ⟨_, nestAll_cons_eq_ok_iff.mpr ⟨nested, outcomes', hn, ho, rfl⟩, ?_⟩
      obtain ⟨nested', more', -, -, rfl⟩ := nestAll_cons_eq_ok_iff.mp ho
      rw [Gapped.fill_append, Gapped.fill_some, ← hjoin,
        ← result_outcome_eq_fill other several index group]
      simp only [joinResults, join, List.map_cons, List.intercalate_cons_cons, List.append_assoc]

end Group

/-! ## 3. Statements -/

namespace Statement

/-- The nested form of the statement has a derived table: its clause has several groups, and one of
them has a join. -/
def Derives (sql : Text) : Prop :=
  ∃ c, clause? sql = some c ∧ 1 < (Group.split c.body).length ∧
    ∃ g ∈ Group.split c.body, Chain.hasJoin g = true

/-- **A nested form is a text with gaps** that the lead of the names is filled into, one for each
derived table. -/
theorem exists_gapped_of_nest {nameLead sql out : Text} (h : nest nameLead sql = .ok out) :
    ∃ p : Gapped, (none ∈ p ↔ Derives sql) ∧ ∀ other, nest other sql = .ok (p.fill other) := by
  cases hc : clause? sql with
  | none =>
    refine ⟨[some sql], ?_, fun other => ?_⟩
    · simp [Derives, hc]
    · rw [nest_of_clause?_eq_none hc]
      simp
  | some c =>
    obtain ⟨outcomes, hb, -⟩ := (nest_eq_ok_iff hc).mp h
    obtain ⟨p, hp, hfill⟩ := Group.exists_gapped_of_nestAll hb
    refine ⟨some c.head :: (p ++ [some c.tail]), ?_, fun other => ?_⟩
    · simp [Derives, hc, hp]
    · obtain ⟨outcomes', hb', hjoin⟩ := hfill other
      refine (nest_eq_ok_iff hc).mpr ⟨outcomes', hb', ?_⟩
      rw [Clause.withBody, hjoin]
      simp

/-- **Which leads give the same nested form**: all of them if it has no derived table, and otherwise
only the one. -/
theorem nest_eq_ok_iff_of_nest {nameLead sql out : Text} (h : nest nameLead sql = .ok out)
    (other : Text) : nest other sql = .ok out ↔ (Derives sql → other = nameLead) := by
  obtain ⟨p, hp, hfill⟩ := exists_gapped_of_nest h
  have hout : out = p.fill nameLead := Except.ok.inj (h.symm.trans (hfill nameLead))
  rw [hfill other, hout, Except.ok.injEq, Gapped.fill_eq_fill_iff, hp]

end Statement

end NestedJoin
