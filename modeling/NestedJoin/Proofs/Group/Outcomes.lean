/-
# The outcomes for a list of groups, group by group

`Group.nestAll` walks the groups from the left with their positions and stops at the first malformed
one.  Its two endings are taken apart here once:

* `nestAll_cons_eq_ok_iff`: what a success says about the first group and the others;
* `nestAll_eq_error_congr`: a failure is the failure of a group, and neither the lead of the names,
  nor the position, nor the number of groups has a part in it.

The outcomes are those of the groups, one by one (`map_given_of_nestAll`).

What a derived table adds to its group is counted in `byteLength_derive`, and what the walk adds to
all groups together in `byteLength_joinResults`.
-/
import Mathlib.Algebra.GroupWithZero.Nat
import NestedJoin.Group
import NestedJoin.Proofs.Chain.NestedForm

namespace NestedJoin.Group

/-! ## 1. Derived tables -/

/-- A derived table holds its group, in order. -/
theorem sublist_derive (group name : Text) : group.Sublist (derive group name) := by
  have h : (Text.lead group ++ (Text.trim group ++ Text.trail group)).Sublist
      (derive group name) := by
    simp only [derive, List.append_assoc]
    refine List.Sublist.append_left ?_ _
    refine List.Sublist.trans ?_ (List.sublist_append_right _ _)
    refine List.Sublist.append_left ?_ _
    exact (List.sublist_append_right _ _).trans (List.sublist_append_right _ _)
  rwa [Text.lead_append_trim_append_trail] at h

/-- The bytes that a derived table at a position adds to its group: twenty for its own words, and
its name. -/
def derivedBytes (nameLead : Text) (index : Nat) : Nat :=
  20 + Text.byteLength nameLead + (Nat.toDigits 10 index).length

/-- A decimal digit takes one byte. -/
theorem byteLength_of_isDigit : ∀ {t : Text}, (∀ c ∈ t, c.isDigit = true) →
    Text.byteLength t = t.length
  | [], _ => rfl
  | c :: t, h => by
    have hle : c.toNat ≤ 57 := (Char.isDigit_iff_toNat.mp (h c (by simp))).2
    have hc : c.utf8Size = 1 := Text.utf8Size_of_toNat (Nat.le_trans hle (by decide))
    have ht := byteLength_of_isDigit (t := t) (fun d hd => h d (List.mem_cons_of_mem _ hd))
    rw [Text.byteLength_cons, hc, ht, List.length_cons, Nat.add_comm]

theorem byteLength_derive (group nameLead : Text) (index : Nat) :
    Text.byteLength (derive group (derivedName nameLead index)) =
      Text.byteLength group + derivedBytes nameLead index := by
  have hdigits : Text.byteLength (Nat.toDigits 10 index) = (Nat.toDigits 10 index).length :=
    byteLength_of_isDigit fun c hc => Nat.isDigit_of_mem_toDigits (by decide) (by decide) hc
  have hopen : Text.byteLength "(select * from ".toList = 15 := by decide +kernel
  have hclose : Text.byteLength ") as ".toList = 5 := by decide +kernel
  have hgroup : Text.byteLength group = Text.byteLength (Text.lead group) +
      (Text.byteLength (Text.trim group) + Text.byteLength (Text.trail group)) := by
    rw [← Text.byteLength_append, ← Text.byteLength_append, Text.lead_append_trim_append_trail]
  simp only [derive, derivedName, derivedBytes, Text.byteLength_append, hdigits, hopen, hclose]
  omega

/-! ## 2. The walk over the groups -/

theorem eq_nil_of_nestAll_nil {nameLead : Text} {several : Bool} {index : Nat}
    {outcomes : List GroupOutcome} (h : nestAll nameLead several index [] = .ok outcomes) :
    outcomes = [] := by
  rw [nestAll] at h
  exact (Except.ok.inj h).symm

/-- **A walk that succeeds** gives each group its nested form, and the first its outcome in front of
those of the others. -/
theorem nestAll_cons_eq_ok_iff {nameLead : Text} {several : Bool} {index : Nat} {group : Text}
    {rest : List Text} {outcomes : List GroupOutcome} :
    nestAll nameLead several index (group :: rest) = .ok outcomes ↔
      ∃ nested more, Chain.nest group = .ok nested ∧
        nestAll nameLead several (index + 1) rest = .ok more ∧
        outcomes = outcome nameLead several index group nested :: more := by
  constructor
  · intro h
    rw [nestAll] at h
    cases hn : Chain.nest group with
    | error m => simp [hn] at h
    | ok nested =>
      cases hr : nestAll nameLead several (index + 1) rest with
      | error m => simp [hn, hr, Except.map] at h
      | ok more =>
        simp only [hn, hr, Except.map, Except.ok.injEq] at h
        exact ⟨nested, more, rfl, rfl, h.symm⟩
  · rintro ⟨nested, more, hn, hr, rfl⟩
    rw [nestAll, hn, hr]
    rfl

/-- A walk that fails does so at the first group or behind it. -/
theorem nestAll_cons_eq_error_iff {nameLead : Text} {several : Bool} {index : Nat} {group : Text}
    {rest : List Text} {m : MalformedChain} :
    nestAll nameLead several index (group :: rest) = .error m ↔
      Chain.nest group = .error m ∨
      ((∃ nested, Chain.nest group = .ok nested) ∧
        nestAll nameLead several (index + 1) rest = .error m) := by
  rw [nestAll]
  cases hn : Chain.nest group with
  | error m' => simp
  | ok nested =>
    cases nestAll nameLead several (index + 1) rest with
    | error m' => simp [Except.map]
    | ok more => simp [Except.map]

/-- **A failure is the failure of a group**: the lead of the names, the position and the number of
groups have no part in it. -/
theorem nestAll_eq_error_congr (nameLead other : Text) (several several' : Bool)
    {m : MalformedChain} : ∀ (groups : List Text) (index index' : Nat),
    nestAll nameLead several index groups = .error m ↔
      nestAll other several' index' groups = .error m
  | [], _, _ => by simp [nestAll]
  | group :: rest, index, index' => by
    rw [nestAll_cons_eq_error_iff, nestAll_cons_eq_error_iff,
      nestAll_eq_error_congr nameLead other several several' rest (index + 1) (index' + 1)]

theorem given_outcome (nameLead : Text) (several : Bool) (index : Nat) (group nested : Text) :
    (outcome nameLead several index group nested).given = group := by
  rw [outcome]
  split <;> rfl

theorem index_outcome (nameLead : Text) (several : Bool) (index : Nat) (group nested : Text) :
    (outcome nameLead several index group nested).index = index := by
  rw [outcome]
  split <;> rfl

/-- A group that becomes a derived table has a join, and is not alone. -/
theorem derived_outcome_iff {nameLead : Text} {several : Bool} {index : Nat} {group nested : Text}
    (h : Chain.nest group = .ok nested) :
    (outcome nameLead several index group nested).derived = true ↔
      several = true ∧ Chain.hasJoin group = true := by
  rw [outcome, ← Chain.hasJoin_of_nest h, ← Bool.and_eq_true]
  split
  · next hj => simp [hj]
  · next hj => simp [hj]

/-- The outcomes are those of the groups, one by one. -/
theorem map_given_of_nestAll {nameLead : Text} {several : Bool} :
    ∀ {groups : List Text} {index : Nat} {outcomes : List GroupOutcome},
      nestAll nameLead several index groups = .ok outcomes → outcomes.map (·.given) = groups
  | [], _, outcomes, h => by
    obtain rfl := eq_nil_of_nestAll_nil h
    rfl
  | group :: rest, index, outcomes, h => by
    obtain ⟨nested, more, -, hr, rfl⟩ := nestAll_cons_eq_ok_iff.mp h
    have ih := map_given_of_nestAll hr
    rw [List.map_cons, ih, given_outcome]

/-- There are as many outcomes as groups. -/
theorem length_nestAll {nameLead : Text} {several : Bool} {groups : List Text} {index : Nat}
    {outcomes : List GroupOutcome} (h : nestAll nameLead several index groups = .ok outcomes) :
    outcomes.length = groups.length := by
  rw [← map_given_of_nestAll h, List.length_map]

/-- **The groups that were given are the body.** -/
theorem join_given_of_nestBody {nameLead body : Text} {outcomes : List GroupOutcome}
    (h : nestBody nameLead body = .ok outcomes) : join (outcomes.map (·.given)) = body := by
  rw [map_given_of_nestAll h, join_split]

/-! ## 3. The bytes of all groups -/

/-- The bytes that the walk adds to a group at a position. -/
def addedBytes (nameLead : Text) (several : Bool) (group : Text) (index : Nat) : Nat :=
  2 * (Chain.markerCount group - 1) +
    if several = true ∧ 1 ≤ Chain.markerCount group then derivedBytes nameLead index else 0

theorem byteLength_result_outcome {nameLead : Text} {several : Bool} {index : Nat}
    {group nested : Text} (h : Chain.nest group = .ok nested) :
    Text.byteLength (outcome nameLead several index group nested).result =
      Text.byteLength group + addedBytes nameLead several group index := by
  have hlen := Chain.byteLength_of_nest h
  have hjoin : (several && Chain.hasJoin nested) = true ↔
      several = true ∧ 1 ≤ Chain.markerCount group := by
    rw [Bool.and_eq_true, Chain.hasJoin_of_nest h, Chain.hasJoin_iff_markerCount]
  rw [Chain.joins_eq_markerCount] at hlen
  rw [outcome, addedBytes]
  by_cases hd : several = true ∧ 1 ≤ Chain.markerCount group
  · rw [if_pos (hjoin.mpr hd), if_pos hd, byteLength_derive, hlen]
    omega
  · rw [if_neg (mt hjoin.mp hd), if_neg hd, hlen]
    omega

theorem byteLength_join_cons (group : Text) (rest : List Text) :
    Text.byteLength (join (group :: rest)) =
      Text.byteLength group + (rest.map fun g => 1 + Text.byteLength g).sum := by
  induction rest generalizing group with
  | nil => simp [join]
  | cons next more ih =>
    have hcomma : Text.byteLength [','] = 1 := rfl
    have ih := ih next
    rw [join] at ih ⊢
    rw [List.intercalate_cons_cons, Text.byteLength_append, Text.byteLength_append, ih, hcomma,
      List.map_cons, List.sum_cons]
    omega

/-- The bytes of the groups behind the first, with their commas. -/
theorem sum_byteLength_results {nameLead : Text} {several : Bool} :
    ∀ {groups : List Text} {index : Nat} {outcomes : List GroupOutcome},
      nestAll nameLead several index groups = .ok outcomes →
      (outcomes.map fun o => 1 + Text.byteLength o.result).sum =
        (groups.map fun g => 1 + Text.byteLength g).sum +
          ((groups.zipIdx index).map fun (g, i) => addedBytes nameLead several g i).sum
  | [], _, outcomes, h => by
    obtain rfl := eq_nil_of_nestAll_nil h
    rfl
  | group :: rest, index, outcomes, h => by
    obtain ⟨nested, more, hn, hr, rfl⟩ := nestAll_cons_eq_ok_iff.mp h
    have ih := sum_byteLength_results hr
    simp only [List.map_cons, List.sum_cons, List.zipIdx_cons, byteLength_result_outcome hn, ih]
    omega

/-- **The bytes of the results** are those of the groups and what is added to each. -/
theorem byteLength_joinResults {nameLead : Text} {several : Bool} {groups : List Text} {index : Nat}
    {outcomes : List GroupOutcome} (hne : groups ≠ [])
    (h : nestAll nameLead several index groups = .ok outcomes) :
    Text.byteLength (joinResults outcomes) = Text.byteLength (join groups) +
      ((groups.zipIdx index).map fun (g, i) => addedBytes nameLead several g i).sum := by
  cases groups with
  | nil => exact absurd rfl hne
  | cons group rest =>
    obtain ⟨nested, more, hn, hr, rfl⟩ := nestAll_cons_eq_ok_iff.mp h
    have hsum := sum_byteLength_results hr
    rw [joinResults, List.map_cons, byteLength_join_cons, byteLength_join_cons, List.map_map,
      byteLength_result_outcome hn, List.zipIdx_cons, List.map_cons, List.sum_cons]
    simp only [Function.comp_def] at hsum ⊢
    omega

end NestedJoin.Group
