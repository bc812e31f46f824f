/-
# A command is a conversion, handed on

A driver looks at the kind of a statement before its converter does, and does not give it what is no
SELECT.  The converter would hand such a statement back as it is, so for the text of the command it
makes no difference: that is in any case what the converter answers, and a failure is the
converter's (`Driver.answer_generate`).  It makes a difference for what is left behind, since a
converter counts what it hands back and a driver that does not ask it counts nothing
(`Driver.left_generate`).

The kind of the command and its parameters go into the command and nowhere else
(`Driver.command_is_conversion`).
-/
import NestedJoin.Proofs.Workspace.Requests

namespace NestedJoin.Driver

section Generate

variable (d : Driver) (cache : Cache) (kind : CommandKind) (sql : Text)
  (parameters : List ParameterType)

/-- **The answer is that of the converter**, made into a command. -/
theorem answer_generate :
    (d.generate cache kind sql parameters).value.answer =
      (d.converter.convert cache sql).value.answer.map fun result => ⟨kind, result, parameters⟩ := by
  cases h : Statement.isSelect sql with
  | true =>
    rw [generate, if_pos h]
    simp only [Logged.value_bind]
    cases (d.converter.convert cache sql).value.answer <;> rfl
  | false =>
    have hnone : Statement.clause? sql = none := Statement.clause?_eq_none_iff.mpr (Or.inl h)
    rw [value_generate_of_not_select d cache kind parameters h,
      Converter.value_convert_of_no_clause hnone]
    rfl

/-- **What is left behind**: by a SELECT what the conversion leaves, by every other statement the
cache and the converter as they were. -/
theorem left_generate :
    ((d.generate cache kind sql parameters).value.cache,
      (d.generate cache kind sql parameters).value.driver.converter) =
      if Statement.isSelect sql = true then
        ((d.converter.convert cache sql).value.cache, (d.converter.convert cache sql).value.converter)
      else (cache, d.converter) := by
  split
  · next h =>
    obtain ⟨hconverter, hcache, -⟩ := generate_of_select d cache kind parameters h
    rw [hconverter, hcache]
  · next h =>
    rw [value_generate_of_not_select d cache kind parameters (Bool.eq_false_iff.mpr h)]
    rfl

end Generate

/-- **A command is a conversion, handed on.**  A driver, with any converter and any cache, is asked
for a command.

* Where its converter would answer the statement, one command is built: it has the kind and the
  parameters that were given, and the text of that answer.  Where the converter would fail, so does
  the driver, in the same way, and builds none.
* A SELECT leaves the cache and the converter as the conversion would.  Any other statement leaves
  them as they were, the count of those passed through included.
* Neither the text nor what is left behind depends on the kind or on the parameters. -/
theorem command_is_conversion (d : Driver) (cache : Cache) (kind : CommandKind) (sql : Text)
    (parameters : List ParameterType) :
    let reply := (d.converter.convert cache sql).value
    let made := (d.generate cache kind sql parameters).value
    (∀ result, reply.answer = .ok result →
      made.answer = .ok ⟨kind, result, parameters⟩ ∧
        made.driver.made = d.made ++ [⟨kind, result, parameters⟩]) ∧
    (∀ m, reply.answer = .error m → made.answer = .error m ∧ made.driver.made = d.made) ∧
    (Statement.isSelect sql = true →
      made.cache = reply.cache ∧ made.driver.converter = reply.converter) ∧
    (Statement.isSelect sql = false → made.cache = cache ∧ made.driver.converter = d.converter) ∧
    ∀ kind' parameters',
      let other := (d.generate cache kind' sql parameters').value
      other.answer.map (·.sql) = made.answer.map (·.sql) ∧ other.cache = made.cache ∧
        other.driver.converter = made.driver.converter := by
  intro reply made
  have hanswer : made.answer = reply.answer.map fun result => ⟨kind, result, parameters⟩ :=
    answer_generate d cache kind sql parameters
  have hmade : made.driver.made = d.made ++ made.answer.toOption.toList :=
    made_generate d cache kind sql parameters
  have hleft := left_generate d cache kind sql parameters
  refine ⟨fun result h => ?_, fun m h => ?_, fun h => ?_, fun h => ?_, fun kind' parameters' => ?_⟩
  · rw [h] at hanswer
    rw [hanswer] at hmade
    exact ⟨hanswer, hmade⟩
  · rw [h] at hanswer
    rw [hanswer] at hmade
    exact ⟨hanswer, hmade.trans (List.append_nil _)⟩
  · rw [if_pos h] at hleft
    exact Prod.mk.inj hleft
  · rw [if_neg (by simp [h])] at hleft
    exact Prod.mk.inj hleft
  · have hother := answer_generate d cache kind' sql parameters'
    have hleft' := left_generate d cache kind' sql parameters'
    intro other
    refine ⟨?_, Prod.mk.inj (hleft'.trans hleft.symm)⟩
    rw [hanswer, hother]
    cases (d.converter.convert cache sql).value.answer <;> rfl

/-- A parameter of a command. -/
def parameter : ParameterType := .ofLength .string 40

/-- A SELECT is nested and counted, a malformed one is counted and builds no command, and what is no
SELECT is handed on and not counted.  As a stored procedure and without the parameter, the first is
the same text and leaves the same behind. -/
theorem command_is_conversion_of_three_statements :
    (({} : Driver).generate {} .text "select*from a join b,c".toList [parameter]).value.driver.made =
      [⟨.text, "select*from (select * from a join b) as jetJoinAlias0,c".toList, [parameter]⟩] ∧
    (({} : Driver).generate {} .text "select*from a join b,c".toList [parameter]).value.cache =
      (({} : Converter).convert {} "select*from a join b,c".toList).value.cache ∧
    (({} : Driver).generate {} .storedProcedure "select*from a join b,c".toList []).value.cache =
      (({} : Driver).generate {} .text "select*from a join b,c".toList [parameter]).value.cache ∧
    (({} : Driver).generate {} .text "select*from a join b join c".toList []).value.answer =
      .error ⟨" a join b join c".toList, " b".toList⟩ ∧
    (({} : Driver).generate {} .text "select*from a join b join c".toList []).value.driver.made = [] ∧
    (({} : Driver).generate {} .tableDirect "a join b".toList []).value.driver.made =
      [⟨.tableDirect, "a join b".toList, []⟩] ∧
    (({} : Driver).generate {} .tableDirect "a join b".toList []).value.driver.converter = {} := by
  obtain ⟨hmade, -, hselect, -, hother⟩ :=
    command_is_conversion {} {} .text "select*from a join b,c".toList [parameter]
  obtain ⟨-, hfailed, -, -, -⟩ :=
    command_is_conversion {} {} .text "select*from a join b join c".toList []
  obtain ⟨hpassed, -, -, hleft, -⟩ := command_is_conversion {} {} .tableDirect "a join b".toList []
  obtain ⟨hanswer, hnone⟩ := hfailed ⟨" a join b join c".toList, " b".toList⟩ rfl
  exact ⟨(hmade "select*from (select * from a join b) as jetJoinAlias0,c".toList rfl).2,
    (hselect (by decide +kernel)).1, (hother .storedProcedure []).2.1, hanswer, hnone,
    (hpassed "a join b".toList rfl).2, (hleft (by decide +kernel)).2⟩

end NestedJoin.Driver
