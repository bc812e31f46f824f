/-
# The names of derived tables

The name of a derived table is made of the lead of the names and the position of its group, and the
statement it is put into is not looked at.  So the names of a statement differ from each other, but
one of them may be a name that the statement has already
(`Converter.names_not_always_fresh`).  They are fresh exactly if the statement has no identifier of
that form for the position of a group that becomes a derived table
(`Converter.names_fresh_iff`).

* `Group.identifiers_outcome`: a derived table holds the identifiers of its group and of its own
  words, and its name, each of them whole;
* `Statement.tableNames_of_explain`: the names of a statement, by the positions of its groups.
-/
import Mathlib.Data.List.Nodup
import NestedJoin.Proofs.Converter.Uncached
import NestedJoin.Proofs.Group.Results
import NestedJoin.Proofs.Text.Identifiers

namespace NestedJoin

open Text (identifiers Names fold)

/-! ## 1. Names -/

namespace Group

/-- The name of a derived table is a single identifier if the lead is one. -/
theorem identifiers_derivedName {nameLead : Text} (hlead : Config.isIdentifier nameLead = true)
    (index : Nat) : identifiers (derivedName nameLead index) = [derivedName nameLead index] := by
  refine Text.identifiers_eq_singleton (List.append_ne_nil_of_right_ne_nil _ (by simp)) ?_
  intro c hc
  rcases List.mem_append.mp hc with hc | hc
  · exact Config.continuesIdentifier_of_mem hlead hc
  · exact Config.continuesIdentifier_of_isDigit (Nat.isDigit_of_mem_toDigits (by decide) (by decide) hc)

/-- Digits have no case. -/
theorem fold_toDigits (n : Nat) : fold (Nat.toDigits 10 n) = Nat.toDigits 10 n := by
  refine (List.map_congr_left fun c hc => ?_).trans (List.map_id _)
  have hdigit := Nat.isDigit_of_mem_toDigits (by decide) (by decide) hc
  have hhigh : c.toNat ≤ 57 := (Char.isDigit_iff_toNat.mp hdigit).2
  rcases Text.toLower_cases c with h | ⟨hlow, -, -⟩
  · exact h
  · omega

/-- **Different positions give different names**, upper and lower case letters not told apart. -/
theorem eq_of_fold_derivedName {nameLead : Text} {i j : Nat}
    (h : fold (derivedName nameLead i) = fold (derivedName nameLead j)) : i = j := by
  rw [derivedName, derivedName, Text.fold_append, Text.fold_append, fold_toDigits,
    fold_toDigits] at h
  have hdigits : Nat.toDigits 10 i = Nat.toDigits 10 j := List.append_cancel_left h
  have hread := congrArg (fun ds => Nat.ofDigitChars 10 ds 0) hdigits
  simpa only [Nat.ofDigitChars_ten_toDigits] using hread

/-! ## 2. Groups -/

/-- The identifiers of a derived table: its own words around those of its group, and its name. -/
theorem identifiers_derive {name : Text} (hname : identifiers name = [name]) (group : Text) :
    identifiers (derive group name) =
      "select".toList :: "from".toList :: (identifiers group ++ ["as".toList, name]) := by
  have hshape : derive group name =
      Text.lead group ++ '(' :: ("select".toList ++ ' ' :: ("*".toList ++ ' ' :: ("from".toList ++
        ' ' :: (Text.trim group ++ ')' :: ("".toList ++ ' ' :: ("as".toList ++ ' ' ::
          (name ++ Text.trail group))))))) := by
    have hopen : "(select * from ".toList =
        '(' :: ("select".toList ++ ' ' :: ("*".toList ++ ' ' :: ("from".toList ++ [' ']))) := rfl
    have hclose : ") as ".toList = ')' :: ("".toList ++ ' ' :: ("as".toList ++ [' '])) := rfl
    simp only [derive, hopen, hclose, List.append_assoc, List.cons_append, List.nil_append]
  have hlead : identifiers (Text.lead group) = [] := by
    have h := Text.identifiers_append_left (fun _ hc => Text.continuesIdentifier_of_isBlank
      (Text.isBlank_of_mem_lead (t := group) hc)) []
    rwa [List.append_nil] at h
  have htrail : identifiers (name ++ Text.trail group) = identifiers name :=
    Text.identifiers_append_right (fun _ hc => Text.continuesIdentifier_of_isBlank
      (Text.isBlank_of_mem_trail hc)) name
  have hspace : Config.continuesIdentifier ' ' = false := by decide
  rw [hshape, Text.identifiers_append_cons (by decide), Text.identifiers_append_cons hspace,
    Text.identifiers_append_cons hspace, Text.identifiers_append_cons hspace,
    Text.identifiers_append_cons (by decide), Text.identifiers_append_cons hspace,
    Text.identifiers_append_cons hspace, hlead, htrail, hname, Text.identifiers_trim]
  have hwords : identifiers "select".toList = ["select".toList] ∧ identifiers "*".toList = [] ∧
      identifiers "from".toList = ["from".toList] ∧ identifiers "".toList = [] ∧
      identifiers "as".toList = ["as".toList] := by decide +kernel
  obtain ⟨hselect, hstar, hfrom, hnone, has⟩ := hwords
  rw [hselect, hstar, hfrom, hnone, has]
  simp only [List.nil_append, List.cons_append]

/-- **A derived table keeps the identifiers of its group whole**, and its own words and its name are
identifiers besides. -/
theorem identifiers_outcome {nameLead : Text} (hlead : Config.isIdentifier nameLead = true)
    {several : Bool} {index : Nat} {group nested : Text} (h : Chain.nest group = .ok nested)
    (hd : (outcome nameLead several index group nested).derived = true) :
    identifiers (outcome nameLead several index group nested).result =
      "select".toList :: "from".toList ::
        (identifiers group ++ ["as".toList, derivedName nameLead index]) := by
  have hjoin := (derived_outcome_iff h).mp hd
  rw [← Chain.hasJoin_of_nest h, ← Bool.and_eq_true] at hjoin
  rw [outcome, if_pos hjoin, identifiers_derive (identifiers_derivedName hlead index),
    Chain.identifiers_of_nest h]

end Group

/-! ## 3. Statements -/

/-- The name that the result of a group gives to its derived table: the last identifier there. -/
def GroupOutcome.tableName? (o : GroupOutcome) : Option Text :=
  if o.derived then (identifiers o.result).getLast? else none

theorem Group.tableName?_outcome {nameLead : Text} (hlead : Config.isIdentifier nameLead = true)
    {several : Bool} {index : Nat} {group nested : Text} (h : Chain.nest group = .ok nested) :
    (outcome nameLead several index group nested).tableName? =
      if several && Chain.hasJoin group then some (derivedName nameLead index) else none := by
  rw [GroupOutcome.tableName?]
  cases hd : (outcome nameLead several index group nested).derived with
  | true =>
    obtain ⟨hs, hj⟩ := (derived_outcome_iff h).mp hd
    have hlast : ∀ front : List Text, (front ++ ["as".toList, derivedName nameLead index]).getLast? =
        some (derivedName nameLead index) := by
      intro front
      rw [List.getLast?_append_of_ne_nil _ (List.cons_ne_nil _ _)]
      rfl
    rw [if_pos rfl, identifiers_outcome hlead h hd, hs, hj, ← List.cons_append, ← List.cons_append,
      hlast]
    rfl
  | false =>
    have hnot := (derived_outcome_iff h).not.mp (by rw [hd]; exact Bool.false_ne_true)
    rw [← Bool.and_eq_true] at hnot
    rw [if_neg Bool.false_ne_true, if_neg hnot]

/-- The positions of the groups that become derived tables, in a list of groups that begins at a
position: if there are several, those that hold a join. -/
def Group.derivedPlaces (several : Bool) (index : Nat) (groups : List Text) : List Nat :=
  ((groups.zipIdx index).filter fun x => several && Chain.hasJoin x.1).map (·.2)

/-- **The names of the derived tables are made of the positions of their groups.** -/
theorem Group.tableNames_of_nestAll {nameLead : Text}
    (hlead : Config.isIdentifier nameLead = true) {several : Bool} :
    ∀ {groups : List Text} {index : Nat} {outcomes : List GroupOutcome},
      nestAll nameLead several index groups = .ok outcomes →
      outcomes.filterMap (·.tableName?) =
        (derivedPlaces several index groups).map (derivedName nameLead)
  | [], _, outcomes, h => by
    obtain rfl := eq_nil_of_nestAll_nil h
    rfl
  | group :: rest, index, outcomes, h => by
    obtain ⟨nested, more, hn, hr, rfl⟩ := nestAll_cons_eq_ok_iff.mp h
    have ih := tableNames_of_nestAll hlead hr
    rw [derivedPlaces] at ih ⊢
    rw [List.filterMap_cons, tableName?_outcome hlead hn, List.zipIdx_cons, List.filter_cons, ih]
    cases several && Chain.hasJoin group <;> rfl

/-- No position comes up twice. -/
theorem Group.nodup_derivedPlaces (several : Bool) (index : Nat) (groups : List Text) :
    (derivedPlaces several index groups).Nodup := by
  have hsub := (List.filter_sublist (l := groups.zipIdx index)
    (p := fun x => several && Chain.hasJoin x.1)).map (·.2)
  rw [List.zipIdx_map_snd] at hsub
  exact hsub.nodup List.nodup_range'

namespace Statement

/-- The names of derived tables in the steps of a statement. -/
def Explanation.tableNames (e : Explanation) : List Text := e.groups.filterMap (·.tableName?)

/-- The positions of the groups of a statement that become derived tables. -/
def derivedPlaces (sql : Text) : List Nat :=
  (clause? sql).elim [] fun c =>
    Group.derivedPlaces (1 < (Group.split c.body).length) 0 (Group.split c.body)

variable {nameLead sql : Text} {e : Explanation}

/-- The steps of a statement go with its nested form. -/
theorem exists_explain_of_nest {out : Text} (h : nest nameLead sql = .ok out) :
    ∃ e, explain nameLead sql = .ok e ∧ e.result = out := by
  have hresult := map_result_explain nameLead sql
  rw [h] at hresult
  cases he : explain nameLead sql with
  | error m => simp [he, Except.map] at hresult
  | ok e =>
    rw [he] at hresult
    exact ⟨e, rfl, Except.ok.inj hresult⟩

/-- The groups in the steps of a statement are the outcomes for its clause. -/
theorem groups_of_explain (h : explain nameLead sql = .ok e) :
    (clause? sql = none ∧ e.groups = []) ∨
      ∃ c, clause? sql = some c ∧ Group.nestBody nameLead c.body = .ok e.groups := by
  rw [explain] at h
  cases hc : clause? sql with
  | none =>
    simp only [hc] at h
    obtain rfl := Except.ok.inj h
    exact Or.inl ⟨rfl, rfl⟩
  | some c =>
    simp only [hc] at h
    cases hb : Group.nestBody nameLead c.body with
    | error m => simp [hb, Except.map] at h
    | ok outcomes =>
      rw [hb] at h
      obtain rfl := Except.ok.inj h
      exact Or.inr ⟨c, rfl, hb⟩

/-- **The names of a statement, by the positions of its groups.** -/
theorem tableNames_of_explain (hlead : Config.isIdentifier nameLead = true)
    (h : explain nameLead sql = .ok e) :
    e.tableNames = (derivedPlaces sql).map (Group.derivedName nameLead) := by
  rw [Explanation.tableNames, derivedPlaces]
  rcases groups_of_explain h with ⟨hc, hgroups⟩ | ⟨c, hc, hb⟩
  · rw [hc, hgroups]
    rfl
  · rw [hc]
    exact Group.tableNames_of_nestAll hlead hb

/-- **The identifiers of a derived table** are those of its group, of its own words, and its
name. -/
theorem identifiers_of_explain (hlead : Config.isIdentifier nameLead = true)
    (h : explain nameLead sql = .ok e) : ∀ o ∈ e.groups, o.derived = true →
      identifiers o.result = "select".toList :: "from".toList ::
        (identifiers o.given ++ ["as".toList, Group.derivedName nameLead o.index]) := by
  rcases groups_of_explain h with ⟨-, hgroups⟩ | ⟨c, -, hb⟩
  · rw [hgroups]
    simp
  · refine Group.forall_outcome_of_nestAll (P := fun _ => True)
      (fun index group nested hn _ hd => ?_) hb fun _ _ => trivial
    rw [Group.identifiers_outcome hlead hn hd, Group.given_outcome, Group.index_outcome]

theorem nodup_derivedPlaces (sql : Text) : (derivedPlaces sql).Nodup := by
  rw [derivedPlaces]
  cases clause? sql with
  | none => exact List.nodup_nil
  | some c => exact Group.nodup_derivedPlaces _ _ _

end Statement

/-! ## 4. When the names are fresh -/

/-- **The names of derived tables are fresh exactly if the statement has none of their form.**  A
statement has a nested form, under a lead that is an identifier.

* Each derived table has its name as a whole identifier, behind the identifiers of its group and of
  its own words.
* The names are the lead with the positions of the groups that become derived tables, and no two of
  them are the same, upper and lower case letters not told apart.
* None of them is an identifier of the statement, letter case apart again, exactly if the statement
  has no identifier that is the lead with such a position. -/
theorem Converter.names_fresh_iff {nameLead sql out : Text}
    (hlead : Config.isIdentifier nameLead = true) (h : uncached nameLead sql = .ok out) :
    ∃ e, Statement.explain nameLead sql = .ok e ∧ e.result = out ∧
      (∀ o ∈ e.groups, o.derived = true →
        identifiers o.result = "select".toList :: "from".toList ::
          (identifiers o.given ++ ["as".toList, Group.derivedName nameLead o.index])) ∧
      e.tableNames = (Statement.derivedPlaces sql).map (Group.derivedName nameLead) ∧
      (e.tableNames.map fold).Nodup ∧
      ((∀ name ∈ e.tableNames, ¬ Names name sql) ↔
        ∀ x ∈ identifiers sql, ∀ place ∈ Statement.derivedPlaces sql,
          fold x ≠ fold nameLead ++ Nat.toDigits 10 place) := by
  rw [uncached_eq_nest] at h
  obtain ⟨e, he, hresult⟩ := Statement.exists_explain_of_nest h
  have hnames := Statement.tableNames_of_explain hlead he
  refine ⟨e, he, hresult, Statement.identifiers_of_explain hlead he, hnames, ?_, ?_⟩
  · rw [hnames, List.map_map]
    exact (Statement.nodup_derivedPlaces sql).map fun i j hij => Group.eq_of_fold_derivedName hij
  · have hfold : ∀ place, fold (Group.derivedName nameLead place) =
        fold nameLead ++ Nat.toDigits 10 place := by
      intro place
      rw [Group.derivedName, Text.fold_append, Group.fold_toDigits]
    rw [hnames]
    constructor
    · intro hfresh x hx place hplace heq
      exact hfresh _ (List.mem_map_of_mem hplace) ⟨x, hx, heq.trans (hfold place).symm⟩
    · intro hfree name hname
      obtain ⟨place, hplace, rfl⟩ := List.mem_map.mp hname
      rintro ⟨x, hx, heq⟩
      exact hfree x hx place hplace (heq.trans (hfold place))

/-- The one group that holds a join becomes a table of a name that the statement does not have. -/
theorem Converter.names_fresh_of_two_groups :
    ∃ e, Statement.explain Group.defaultNameLead "select*from a join b,c".toList = .ok e ∧
      e.tableNames = ["jetJoinAlias0".toList] ∧
      ∀ name ∈ e.tableNames, ¬ Names name "select*from a join b,c".toList := by
  have hlead : Config.isIdentifier Group.defaultNameLead = true := by decide
  have hout : uncached Group.defaultNameLead "select*from a join b,c".toList =
      .ok "select*from (select * from a join b) as jetJoinAlias0,c".toList := rfl
  obtain ⟨e, he, -, -, hnames, -, hfresh⟩ := names_fresh_iff hlead hout
  exact ⟨e, he, hnames.trans (by decide +kernel), hfresh.mpr (by decide +kernel)⟩

/-- **A name is not always fresh**: a table of the statement may have it. -/
theorem Converter.names_not_always_fresh :
    ¬ ∀ nameLead sql out, Config.isIdentifier nameLead = true →
      uncached nameLead sql = .ok out →
      ∀ e, Statement.explain nameLead sql = .ok e → ∀ name ∈ e.tableNames, ¬ Names name sql := by
  intro hall
  have hlead : Config.isIdentifier Group.defaultNameLead = true := by decide
  have hout : uncached Group.defaultNameLead "select*from a join b,jetJoinAlias0".toList =
      .ok "select*from (select * from a join b) as jetJoinAlias0,jetJoinAlias0".toList := rfl
  obtain ⟨e, he, -⟩ := Statement.exists_explain_of_nest ((uncached_eq_nest _ _).symm.trans hout)
  have hnames : e.tableNames = ["jetJoinAlias0".toList] :=
    (Statement.tableNames_of_explain hlead he).trans (by decide +kernel)
  have hmem : "jetJoinAlias0".toList ∈ e.tableNames := by
    rw [hnames]
    exact List.mem_singleton_self _
  exact hall _ _ _ hlead hout e he _ hmem (by decide +kernel)

end NestedJoin
