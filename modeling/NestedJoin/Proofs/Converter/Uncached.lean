/-
# What a converter answers

A converter goes through its cache, and keeps a log on the way.  Behind both stands the plain nested
form of a statement, `Statement.nest`: it is the answer wherever the cache has none
(`Converter.answer_convert_of_lookup_eq_none`), and so the answer of a converter whose cache is
switched off (`Converter.uncached_eq_nest`).

What a conversion leaves in the cache is one entry at most, and none where there was one already
(`Converter.held?_convert`).
-/
import NestedJoin.Converter
import NestedJoin.Proofs.Statement.Additive

namespace NestedJoin

namespace Cache

/-- The answer a cache holds for a statement. -/
def held? (c : Cache) (sql : Text) : Option Text := Keyed.get? c.entries sql

/-- The cache after it was asked with success. -/
def countHit (c : Cache) : Cache := { c with hits := c.hits + 1 }

/-- The cache after it was asked in vain. -/
def countMiss (c : Cache) : Cache := { c with misses := c.misses + 1 }

theorem lookup_of_entry {c : Cache} {sql answer : Text} (hon : c.enabled = true)
    (h : c.held? sql = some answer) : c.lookup sql = (some answer, c.countHit) := by
  rw [held?] at h
  simp only [lookup, hon, if_true, h, countHit]

theorem lookup_of_no_entry {c : Cache} {sql : Text} (hon : c.enabled = true)
    (h : c.held? sql = none) : c.lookup sql = (none, c.countMiss) := by
  rw [held?] at h
  simp only [lookup, hon, if_true, h, countMiss]

theorem lookup_of_disabled {c : Cache} (hoff : c.enabled = false) (sql : Text) :
    c.lookup sql = (none, c) := by
  simp [lookup, hoff]

theorem exists_lookup_eq_none {c : Cache} {sql : Text}
    (h : c.enabled = false ∨ c.held? sql = none) : ∃ c', c.lookup sql = (none, c') := by
  cases hon : c.enabled with
  | false => exact ⟨c, lookup_of_disabled hon sql⟩
  | true => exact ⟨_, lookup_of_no_entry hon (h.resolve_left (by simp [hon]))⟩

/-- What a cache holds after an answer was stored in it. -/
theorem held?_store {c : Cache} (hon : c.enabled = true) (sql answer other : Text) :
    (c.store sql answer).held? other = if sql = other then some answer else c.held? other := by
  rw [store, if_pos hon]
  split
  · next h =>
    subst h
    exact Keyed.get?_set_self _ _ _
  · next h => exact Keyed.get?_set_of_ne h _ _

theorem enabled_lookup (c : Cache) (sql : Text) : (c.lookup sql).2.enabled = c.enabled := by
  rw [lookup]
  split
  · split <;> rfl
  · rfl

theorem enabled_store (c : Cache) (sql answer : Text) :
    (c.store sql answer).enabled = c.enabled := by
  rw [store]
  split <;> rfl

end Cache

namespace Converter

/-! ## 1. The three ways of a conversion -/

/-- Where no clause takes a nested form, the statement is the answer. -/
theorem value_convert_of_no_clause {sql : Text} (h : Statement.clause? sql = none) (v : Converter)
    (cache : Cache) : (v.convert cache sql).value = ⟨.ok sql, v.countPassed, cache⟩ := by
  rw [convert]
  rcases Statement.clause?_eq_none_iff.mp h with hs | hc
  · rw [if_neg (by simp [hs])]
    rfl
  · split
    · rw [hc]
      rfl
    · rfl

/-- Where the cache has an answer, it is given. -/
theorem value_convert_of_hit {sql answer : Text} {c : Clause} {cache cache' : Cache}
    (h : Statement.clause? sql = some c) (hl : cache.lookup sql = (some answer, cache'))
    (v : Converter) : (v.convert cache sql).value = ⟨.ok answer, v.countCacheHit, cache'⟩ := by
  obtain ⟨hs, hc⟩ := Statement.clause?_eq_some_iff.mp h
  rw [convert, if_pos hs]
  simp only [hc, hl]

/-- Where it has none, the plain nested form is given, and stored. -/
theorem value_convert_of_miss {sql : Text} {c : Clause} {cache cache' : Cache}
    (h : Statement.clause? sql = some c) (hl : cache.lookup sql = (none, cache')) (v : Converter) :
    (v.convert cache sql).value =
      match Statement.nest v.nameLead sql with
      | .error m => ⟨.error m, v.countConversion.countFailure, cache'⟩
      | .ok out => ⟨.ok out, v.countConversion, cache'.store sql out⟩ := by
  obtain ⟨hs, hc⟩ := Statement.clause?_eq_some_iff.mp h
  rw [convert, if_pos hs, Statement.nest, h]
  simp only [hc, hl, nestClause, Logged.value_bind, Group.value_nestBodyLogged]
  cases Group.nestBody v.nameLead c.body <;> rfl

/-! ## 2. Without a cache -/

/-- The answer for a statement where no cache remembers any, by the lead of the derived names. -/
def uncached (nameLead sql : Text) : Except MalformedChain Text :=
  (({ nameLead := nameLead } : Converter).convert { enabled := false } sql).value.answer

/-- **A cache that has no answer has no part in it.** -/
theorem answer_convert_of_lookup_eq_none {sql : Text} {cache cache' : Cache}
    (hl : cache.lookup sql = (none, cache')) (v : Converter) :
    (v.convert cache sql).value.answer = Statement.nest v.nameLead sql := by
  cases h : Statement.clause? sql with
  | none => rw [value_convert_of_no_clause h, Statement.nest_of_clause?_eq_none h]
  | some c =>
    rw [value_convert_of_miss h hl]
    cases Statement.nest v.nameLead sql <;> rfl

/-- **Without a cache the answer is the plain nested form.** -/
theorem uncached_eq_nest (nameLead sql : Text) :
    uncached nameLead sql = Statement.nest nameLead sql :=
  answer_convert_of_lookup_eq_none (Cache.lookup_of_disabled rfl sql) _

/-! ## 3. What a conversion leaves behind -/

/-- What a converter leaves in an empty cache for a statement: the nested form, if the statement
has a clause that takes one and the nesting succeeds. -/
def kept? (nameLead sql : Text) : Option Text :=
  (Statement.clause? sql).bind fun _ => (uncached nameLead sql).toOption

theorem kept?_eq_some_iff {nameLead sql answer : Text} :
    kept? nameLead sql = some answer ↔
      (Statement.clause? sql).isSome = true ∧ uncached nameLead sql = .ok answer := by
  rw [kept?]
  cases Statement.clause? sql with
  | none => simp
  | some c => cases uncached nameLead sql <;> simp [Except.toOption]

/-- **A cache whose entry for a statement is what the converter would leave there has no part in the
answer.** -/
theorem answer_convert_of_own_entry {cache : Cache} {v : Converter} {sql : Text}
    (h : cache.enabled = true → ∀ answer, cache.held? sql = some answer →
      kept? v.nameLead sql = some answer) :
    (v.convert cache sql).value.answer = uncached v.nameLead sql := by
  have hnone : cache.enabled = false ∨ cache.held? sql = none →
      (v.convert cache sql).value.answer = uncached v.nameLead sql := by
    intro hno
    obtain ⟨cache', hl⟩ := Cache.exists_lookup_eq_none hno
    rw [answer_convert_of_lookup_eq_none hl, uncached_eq_nest]
  cases hon : cache.enabled with
  | false => exact hnone (Or.inl hon)
  | true =>
    cases he : cache.held? sql with
    | none => exact hnone (Or.inr he)
    | some answer =>
      obtain ⟨hclause, hok⟩ := kept?_eq_some_iff.mp (h hon answer he)
      obtain ⟨c, hc⟩ := Option.isSome_iff_exists.mp hclause
      rw [value_convert_of_hit hc (Cache.lookup_of_entry hon he), hok]

/-- **An entry that is there stays as it is**; a statement that has none gets the nested form under
the lead of the converter at work, and no other statement gets any. -/
theorem held?_convert {cache : Cache} (hon : cache.enabled = true) (v : Converter)
    (sql other : Text) :
    (v.convert cache sql).value.cache.held? other =
      (cache.held? other).or (if sql = other then kept? v.nameLead other else none) := by
  cases h : Statement.clause? sql with
  | none =>
    have hkept : kept? v.nameLead sql = none := by rw [kept?, h, Option.bind_none]
    rw [value_convert_of_no_clause h]
    split
    · next heq => rw [← heq, hkept, Option.or_none]
    · rw [Option.or_none]
  | some c =>
    cases he : cache.held? sql with
    | some answer =>
      rw [value_convert_of_hit h (Cache.lookup_of_entry hon he)]
      show cache.held? other = _
      split
      · next heq => rw [← heq, he, Option.some_or]
      · rw [Option.or_none]
    | none =>
      have hkept : kept? v.nameLead sql = (Statement.nest v.nameLead sql).toOption := by
        rw [kept?, h, Option.bind_some, uncached_eq_nest]
      rw [value_convert_of_miss h (Cache.lookup_of_no_entry hon he)]
      cases hn : Statement.nest v.nameLead sql with
      | error m =>
        show cache.held? other = _
        split
        · next heq => rw [← heq, hkept, hn, Except.toOption, Option.or_none]
        · rw [Option.or_none]
      | ok out =>
        have hstore := Cache.held?_store (c := cache.countMiss) hon sql out other
        show (cache.countMiss.store sql out).held? other = _
        rw [hstore]
        split
        · next heq => rw [← heq, he, hkept, hn, Except.toOption, Option.none_or]
        · rw [Option.or_none]
          rfl

/-- A conversion does not switch the cache on or off. -/
theorem enabled_convert (cache : Cache) (v : Converter) (sql : Text) :
    (v.convert cache sql).value.cache.enabled = cache.enabled := by
  cases h : Statement.clause? sql with
  | none => rw [value_convert_of_no_clause h]
  | some c =>
    rcases hl : cache.lookup sql with ⟨answer, cache'⟩
    have hsame : cache'.enabled = cache.enabled := by
      rw [← Cache.enabled_lookup cache sql, hl]
    cases answer with
    | some answer =>
      rw [value_convert_of_hit h hl]
      exact hsame
    | none =>
      rw [value_convert_of_miss h hl]
      cases Statement.nest v.nameLead sql with
      | error m => exact hsame
      | ok out => exact (Cache.enabled_store _ _ _).trans hsame

/-- The converter keeps the lead of its names. -/
theorem nameLead_convert (v : Converter) (cache : Cache) (sql : Text) :
    (v.convert cache sql).value.converter.nameLead = v.nameLead := by
  cases h : Statement.clause? sql with
  | none => rw [value_convert_of_no_clause h]; rfl
  | some c =>
    rcases hl : cache.lookup sql with ⟨_ | answer, cache'⟩
    · rw [value_convert_of_miss h hl]
      cases Statement.nest v.nameLead sql <;> rfl
    · rw [value_convert_of_hit h hl]; rfl

end Converter

end NestedJoin
