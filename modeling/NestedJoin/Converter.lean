/-
# Converters

A converter gives statements their nested form with the help of a cache, and counts what it does.
The cache is no part of it: several converters may share one, each with its own lead for the names
of derived tables, and the entry of whichever came first is then the answer for all.

Only statements that take a nested form go through the cache, and only a success is stored.
-/
import NestedJoin.Cache
import NestedJoin.Log.Nesting

namespace NestedJoin

/-- How often a converter nested a clause, passed a statement through, failed on a malformed chain
and found an answer in the cache. -/
structure Counters where
  conversions : Nat := 0
  passed : Nat := 0
  failures : Nat := 0
  cacheHits : Nat := 0
  deriving DecidableEq, Repr

/-- A converter: the lead of its derived names and its counters. -/
structure Converter where
  nameLead : Text := Group.defaultNameLead
  counters : Counters := {}
  deriving DecidableEq, Repr

/-- An answer, with the converter and the cache as they are after it. -/
structure Reply where
  answer : Except MalformedChain Text
  converter : Converter
  cache : Cache

namespace Converter

/-- The converter with a statement counted as passed through. -/
def countPassed (v : Converter) : Converter :=
  { v with counters := { v.counters with passed := v.counters.passed + 1 } }

/-- The converter with an answer from the cache counted. -/
def countCacheHit (v : Converter) : Converter :=
  { v with counters := { v.counters with cacheHits := v.counters.cacheHits + 1 } }

/-- The converter with the nesting of a clause counted. -/
def countConversion (v : Converter) : Converter :=
  { v with counters := { v.counters with conversions := v.counters.conversions + 1 } }

/-- The converter with a failure counted. -/
def countFailure (v : Converter) : Converter :=
  { v with counters := { v.counters with failures := v.counters.failures + 1 } }

/-- A statement handed back as it is. -/
def pass (v : Converter) (cache : Cache) (sql : Text) (reason : Log.PassReason) : Logged Reply :=
  ⟨⟨.ok sql, v.countPassed, cache⟩, [.passedThrough reason]⟩

/-- A clause nested anew and the answer stored, after a lookup that left `cache`. -/
def nestClause (v : Converter) (cache : Cache) (sql : Text) (c : Clause) : Logged Reply := do
  match ← Group.nestBodyLogged v.nameLead c.body with
  | .error m =>
    Logged.tell (.statementFailed sql m)
    pure ⟨.error m, v.countConversion.countFailure, cache⟩
  | .ok outcomes =>
    let result := c.withBody (Group.joinResults outcomes)
    pure ⟨.ok result, v.countConversion, cache.store sql result⟩

/-- The nested form of a statement, from the cache if it is there. -/
def convert (v : Converter) (cache : Cache) (sql : Text) : Logged Reply :=
  if Statement.isSelect sql then
    match Clause.cut? sql with
    | none => v.pass cache sql .noClause
    | some c =>
      match cache.lookup sql with
      | (some answer, cache) => ⟨⟨.ok answer, v.countCacheHit, cache⟩, [.cacheHit sql]⟩
      | (none, cache) => v.nestClause cache sql c
  else v.pass cache sql .notSelect

/-- The steps on the way to the nested form of a statement; neither the cache nor a counter is
touched. -/
def explain (v : Converter) (sql : Text) : Logged (Except MalformedChain Statement.Explanation) :=
  Statement.explainLogged v.nameLead sql

end Converter

/-- The nested form of a single statement, with the default names and no cache. -/
def convertOnce (sql : Text) : Logged (Except MalformedChain Text) :=
  (·.answer) <$> ({} : Converter).convert { enabled := false } sql

end NestedJoin
