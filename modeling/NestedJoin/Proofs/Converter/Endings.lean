/-
# How a conversion ends

A converter that is given a statement hands it back as it is, finds its answer in the cache, fails
on a malformed chain, or nests it and stores the answer.  Which of the four happens
(`Converter.ending`) decides alone what is counted, in the converter (`Counters.count`) and in a
cache that is switched on (`CacheStats.count`).

The main statement is what a conversion can do (`Converter.convert_cases`); the figures of the
converter and of its cache are read off it (`Converter.converter_convert`,
`Converter.stats_convert`).
-/
import NestedJoin.HitRate
import NestedJoin.Proofs.Converter.Uncached

namespace NestedJoin

/-! ## 1. Endings and what they count -/

/-- How a conversion ends. -/
inductive Ending where
  /-- The statement takes no nested form and is handed back. -/
  | passed
  /-- The answer was in the cache. -/
  | found
  /-- A chain is malformed. -/
  | failed
  /-- The statement was nested, and the answer stored. -/
  | nested
  deriving DecidableEq, Repr

/-- The counters of a converter after one more conversion. -/
def Counters.count (k : Counters) : Ending → Counters
  | .passed => { k with passed := k.passed + 1 }
  | .found => { k with cacheHits := k.cacheHits + 1 }
  | .failed => { k with conversions := k.conversions + 1, failures := k.failures + 1 }
  | .nested => { k with conversions := k.conversions + 1 }

/-- The figures of a cache after one more conversion; one that passes its statement through does not
ask the cache. -/
def CacheStats.count (s : CacheStats) : Ending → CacheStats
  | .passed => s
  | .found => { s with hits := s.hits + 1 }
  | .failed => { s with misses := s.misses + 1 }
  | .nested => { s with entries := s.entries + 1, misses := s.misses + 1 }

/-! ## 2. Lookups -/

namespace Cache

/-- A cache answers with an entry, if it is switched on. -/
theorem lookup_eq_some_iff {c c' : Cache} {sql answer : Text} :
    c.lookup sql = (some answer, c') ↔
      c.enabled = true ∧ c.held? sql = some answer ∧ c' = c.countHit := by
  cases hon : c.enabled with
  | false => simp [lookup_of_disabled hon]
  | true =>
    cases he : c.held? sql with
    | none => simp [lookup_of_no_entry hon he]
    | some answer => simp [lookup_of_entry hon he, eq_comm]

/-- A cache is asked in vain if it is switched off, and then nothing is counted, or if it has no
entry. -/
theorem lookup_eq_none_iff {c c' : Cache} {sql : Text} :
    c.lookup sql = (none, c') ↔
      (c.enabled = false ∧ c' = c) ∨
        (c.enabled = true ∧ c.held? sql = none ∧ c' = c.countMiss) := by
  cases hon : c.enabled with
  | false => simp [lookup_of_disabled hon, eq_comm]
  | true =>
    cases he : c.held? sql with
    | none => simp [lookup_of_no_entry hon he, eq_comm]
    | some answer => simp [lookup_of_entry hon he]

/-- An answer for a statement that had none is one more entry. -/
theorem size_store {c : Cache} (hon : c.enabled = true) {sql : Text} (h : c.held? sql = none)
    (answer : Text) : (c.store sql answer).size = c.size + 1 := by
  rw [held?] at h
  rw [store, if_pos hon, size, Keyed.length_set, h]
  rfl

end Cache

/-! ## 3. Conversions -/

namespace Converter

/-- How the conversion of a statement ends. -/
def ending (v : Converter) (cache : Cache) (sql : Text) : Ending :=
  match Statement.clause? sql, (cache.lookup sql).1, Statement.nest v.nameLead sql with
  | none, _, _ => .passed
  | some _, some _, _ => .found
  | some _, none, .error _ => .failed
  | some _, none, .ok _ => .nested

/-- **What a conversion can do.** -/
theorem convert_cases (v : Converter) (cache : Cache) (sql : Text) :
    (v.ending cache sql = .passed ∧
      (v.convert cache sql).value = ⟨.ok sql, v.countPassed, cache⟩) ∨
    (∃ answer, v.ending cache sql = .found ∧ cache.enabled = true ∧
      (v.convert cache sql).value = ⟨.ok answer, v.countCacheHit, cache.countHit⟩) ∨
    (∃ m cache', v.ending cache sql = .failed ∧ cache.lookup sql = (none, cache') ∧
      (v.convert cache sql).value = ⟨.error m, v.countConversion.countFailure, cache'⟩) ∨
    (∃ out cache', v.ending cache sql = .nested ∧ cache.lookup sql = (none, cache') ∧
      (v.convert cache sql).value = ⟨.ok out, v.countConversion, cache'.store sql out⟩) := by
  cases hc : Statement.clause? sql with
  | none => exact .inl ⟨by simp only [ending, hc], value_convert_of_no_clause hc v cache⟩
  | some c =>
    right
    rcases hl : cache.lookup sql with ⟨_ | answer, cache'⟩
    · right
      have hvalue := value_convert_of_miss hc hl v
      cases hn : Statement.nest v.nameLead sql with
      | error m =>
        rw [hn] at hvalue
        exact .inl ⟨m, cache', by simp only [ending, hc, hl, hn], rfl, hvalue⟩
      | ok out =>
        rw [hn] at hvalue
        exact .inr ⟨out, cache', by simp only [ending, hc, hl, hn], rfl, hvalue⟩
    · left
      obtain ⟨hon, -, rfl⟩ := Cache.lookup_eq_some_iff.mp hl
      exact ⟨answer, by simp only [ending, hc, hl], hon, value_convert_of_hit hc hl v⟩

/-- **The converter counts the ending** and is otherwise the same. -/
theorem converter_convert (v : Converter) (cache : Cache) (sql : Text) :
    (v.convert cache sql).value.converter =
      { v with counters := v.counters.count (v.ending cache sql) } := by
  rcases convert_cases v cache sql with
    ⟨he, h⟩ | ⟨answer, he, -, h⟩ | ⟨m, cache', he, -, h⟩ | ⟨out, cache', he, -, h⟩ <;>
  · rw [h, he]
    rfl

/-- **A cache that is switched on counts the ending.** -/
theorem stats_convert {cache : Cache} (hon : cache.enabled = true) (v : Converter) (sql : Text) :
    (v.convert cache sql).value.cache.stats = cache.stats.count (v.ending cache sql) := by
  rcases convert_cases v cache sql with
    ⟨he, h⟩ | ⟨answer, he, -, h⟩ | ⟨m, cache', he, hl, h⟩ | ⟨out, cache', he, hl, h⟩
  · rw [h, he]
    rfl
  · rw [h, he]
    rfl
  · rcases Cache.lookup_eq_none_iff.mp hl with ⟨hoff, -⟩ | ⟨-, -, rfl⟩
    · rw [hon] at hoff
      exact Bool.noConfusion hoff
    · rw [h, he]
      rfl
  · rcases Cache.lookup_eq_none_iff.mp hl with ⟨hoff, -⟩ | ⟨-, hnone, rfl⟩
    · rw [hon] at hoff
      exact Bool.noConfusion hoff
    · have hsize := Cache.size_store (c := cache.countMiss) hon hnone out
      rw [h, he, Cache.stats]
      simp only [hsize]
      simp only [Cache.store, hon, Cache.countMiss, if_true]
      rfl

/-- A cache that is switched off is left alone, and has no answer. -/
theorem convert_of_disabled {cache : Cache} (hoff : cache.enabled = false) (v : Converter)
    (sql : Text) :
    (v.convert cache sql).value.cache = cache ∧ v.ending cache sql ≠ .found := by
  rcases convert_cases v cache sql with
    ⟨he, h⟩ | ⟨answer, he, hon, h⟩ | ⟨m, cache', he, hl, h⟩ | ⟨out, cache', he, hl, h⟩
  · exact ⟨by rw [h], by simp [he]⟩
  · rw [hoff] at hon
    exact Bool.noConfusion hon
  · rw [Cache.lookup_of_disabled hoff] at hl
    obtain rfl := congrArg Prod.snd hl
    exact ⟨by rw [h], by simp [he]⟩
  · rw [Cache.lookup_of_disabled hoff] at hl
    obtain rfl := congrArg Prod.snd hl
    refine ⟨?_, by simp [he]⟩
    rw [h]
    simp [Cache.store, hoff]

/-- The answer is a failure exactly in that ending. -/
theorem exists_error_convert_iff (v : Converter) (cache : Cache) (sql : Text) :
    (∃ m, (v.convert cache sql).value.answer = .error m) ↔ v.ending cache sql = .failed := by
  rcases convert_cases v cache sql with
    ⟨he, h⟩ | ⟨answer, he, -, h⟩ | ⟨m, cache', he, -, h⟩ | ⟨out, cache', he, -, h⟩ <;>
  simp [h, he]

end Converter

end NestedJoin
