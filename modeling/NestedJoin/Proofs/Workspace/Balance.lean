/-
# The counters balance

A conversion is counted in two places, by the converter and by its cache, and neither knows the
figures of the other.  Where nothing has been asked before, the figures agree at every point of a
run of requests (`Workspace.counters_balance`): each converter accounts for the statements it was
given, and a cache that is switched on for the converters that share it.

Both go back to the endings of conversions.  Each ending is counted once by the converter
(`Workspace.tally_after`), and what it adds to the figures of the cache it adds to the sums over the
converters (`Workspace.Balanced.step`).
-/
import Mathlib.Algebra.BigOperators.Group.List.Basic
import Mathlib.Data.List.Induction
import NestedJoin.Proofs.Workspace.Requests

namespace NestedJoin

namespace Workspace

/-! ## 1. The moments of a run -/

/-- The steps of a run, each with the workspace it is taken in. -/
def moments (w : Workspace) : List Step → List (Workspace × Step)
  | [] => []
  | s :: rest => (w, s) :: (w.step s).value.2.moments rest

theorem moments_append_singleton (w : Workspace) (steps : List Step) (s : Step) :
    w.moments (steps ++ [s]) = w.moments steps ++ [(w.after steps, s)] := by
  induction steps generalizing w with
  | nil => rfl
  | cons t rest ih => simp only [List.cons_append, moments, ih, after_cons]

/-- A step gives a statement to the converter of a name. -/
def calls (name : Text) (w : Workspace) (s : Step) : Bool :=
  s.name = name && (w.given? s).isSome

/-- A step gives a statement to the converter of a name, and fails. -/
def callsInVain (name : Text) (w : Workspace) (s : Step) : Bool :=
  calls name w s && (w.step s).value.1.isFailed

/-- How often the converter of a name is given a statement in a run. -/
def callCount (w : Workspace) (name : Text) (steps : List Step) : Nat :=
  (w.moments steps).countP fun (w, s) => calls name w s

/-- How often that fails. -/
def failureCount (w : Workspace) (name : Text) (steps : List Step) : Nat :=
  (w.moments steps).countP fun (w, s) => callsInVain name w s

theorem callCount_append_singleton (w : Workspace) (name : Text) (steps : List Step) (s : Step) :
    w.callCount name (steps ++ [s]) =
      w.callCount name steps + if calls name (w.after steps) s then 1 else 0 := by
  rw [callCount, moments_append_singleton, List.countP_append, List.countP_singleton]
  rfl

theorem failureCount_append_singleton (w : Workspace) (name : Text) (steps : List Step)
    (s : Step) :
    w.failureCount name (steps ++ [s]) =
      w.failureCount name steps + if callsInVain name (w.after steps) s then 1 else 0 := by
  rw [failureCount, moments_append_singleton, List.countP_append, List.countP_singleton]
  rfl

/-! ## 2. The tally of a converter -/

/-- Nothing has been asked of a workspace: its caches are empty, and all figures are zero. -/
structure Untouched (w : Workspace) : Prop where
  caches : ∀ c ∈ w.caches, c.entries = [] ∧ c.hits = 0 ∧ c.misses = 0
  converters : ∀ x ∈ w.members, ∀ v, x.2.role.converter? = some v → v.counters = {}

/-- The counters account for so many statements, of which so many have failed. -/
structure Tally (k : Counters) (given failed : Nat) : Prop where
  given : k.conversions + k.passed + k.cacheHits = given
  failed : k.failures = failed
  le : k.failures ≤ k.conversions

theorem Tally.count {k : Counters} {given failed : Nat} (h : Tally k given failed) (e : Ending) :
    Tally (k.count e) (given + 1) (failed + if e = .failed then 1 else 0) := by
  obtain ⟨hgiven, hfailed, hle⟩ := h
  cases e <;> constructor <;> simp [Counters.count] <;> omega

theorem Untouched.counters {w : Workspace} (hw : w.Untouched) {place : Nat} {name : Text}
    {v : Converter} (hv : w.sharer? place name = some v) : v.counters = {} := by
  obtain ⟨m, hm, -, hrole⟩ := sharer?_eq_some_iff.mp hv
  exact hw.converters _ (Keyed.mem_of_get? hm) v hrole

/-- Where a step is a call, it ends in some way; and it fails if it ends so. -/
theorem calls_iff {w : Workspace} {s : Step} (h : s.action.isRequest = true) {place : Nat}
    {v : Converter} (hv : w.sharer? place s.name = some v) :
    match w.ending? place s with
    | none => calls s.name w s = false
    | some e => calls s.name w s = true ∧ (callsInVain s.name w s = true ↔ e = .failed) := by
  rcases step_cases_of_request h w with hspared | ⟨sql, m, u, hconv⟩
  · rw [hspared.ending?_eq_none]
    simp [calls, hspared.1]
  · have hp : m.cacheAt = place := by
      obtain ⟨m', hm', hp, -⟩ := sharer?_eq_some_iff.mp hv
      obtain rfl := Option.some.inj (hconv.member.symm.trans hm')
      exact hp
    have hcalls : calls s.name w s = true := by simp [calls, hconv.given]
    rw [hconv.ending?, if_pos hp]
    refine ⟨hcalls, ?_⟩
    rw [callsInVain, hcalls, Bool.true_and, hconv.failed, Converter.exists_error_convert_iff]

/-- **Each converter accounts for the statements it was given.** -/
theorem tally_after {w : Workspace} (hw : w.Untouched) {steps : List Step}
    (h : ∀ s ∈ steps, s.action.isRequest = true) {place : Nat} {name : Text} {v : Converter}
    (hv : (w.after steps).sharer? place name = some v) :
    Tally v.counters (w.callCount name steps) (w.failureCount name steps) := by
  induction steps using List.reverseRecOn generalizing v with
  | nil =>
    rw [hw.counters hv]
    exact ⟨rfl, rfl, Nat.le_refl 0⟩
  | append_singleton steps s ih =>
    have hs : s.action.isRequest = true := h s (by simp)
    rw [after_append, after_cons, after_nil, sharer?_step hs] at hv
    obtain ⟨u, hu, rfl⟩ := Option.map_eq_some_iff.mp hv
    have ih := ih (fun t ht => h t (by simp [ht])) hu
    rw [callCount_append_singleton, failureCount_append_singleton]
    by_cases hn : s.name = name
    · subst hn
      have hcalls := calls_iff hs hu
      rw [if_pos rfl]
      cases he : (w.after steps).ending? place s with
      | none =>
        rw [he] at hcalls
        simpa [callsInVain, hcalls] using ih
      | some e =>
        rw [he] at hcalls
        simp only [hcalls.1, hcalls.2, if_true]
        exact ih.count e
    · have hcalls : calls name (w.after steps) s = false := by simp [calls, hn]
      simpa [hn, callsInVain, hcalls] using ih

/-! ## 3. The figures of a cache -/

/-- The figures of a cache are those of the converters that share it. -/
structure Balanced (w : Workspace) (place : Nat) (c : Cache) : Prop where
  on : c.enabled = true → c.hits = w.total place (·.cacheHits) ∧
    c.misses = w.total place (·.conversions) ∧
    c.size = w.total place fun k => k.conversions - k.failures
  off : c.enabled = false → c.hits = 0 ∧ c.misses = 0 ∧ c.size = 0 ∧
    ∀ name v, w.sharer? place name = some v → v.counters.cacheHits = 0

theorem Untouched.total {w : Workspace} (hw : w.Untouched) (place : Nat) {figure : Counters → Nat}
    (hzero : figure {} = 0) : w.total place figure = 0 := by
  refine List.sum_eq_zero fun n hn => ?_
  obtain ⟨x, hx, rfl⟩ := List.mem_map.mp hn
  rw [Member.figureAt]
  split
  · cases hv : x.2.role.converter? with
    | none => rfl
    | some v => simp [hw.converters x hx v hv, hzero]
  · rfl

theorem Untouched.balanced {w : Workspace} (hw : w.Untouched) {place : Nat} {c : Cache}
    (hc : w.caches[place]? = some c) : w.Balanced place c := by
  obtain ⟨hentries, hhits, hmisses⟩ := hw.caches c (List.mem_of_getElem? hc)
  have hsize : c.size = 0 := by rw [Cache.size, hentries, List.length_nil]
  refine ⟨fun _ => ?_, fun _ => ⟨hhits, hmisses, hsize, fun name v hv => ?_⟩⟩
  · rw [hw.total place rfl, hw.total place rfl, hw.total place rfl]
    exact ⟨hhits, hmisses, hsize⟩
  · rw [hw.counters hv]

/-- **A request keeps the balance.** -/
theorem Balanced.step {w : Workspace} {place : Nat}
    (hw : ∀ c, w.caches[place]? = some c → w.Balanced place c)
    (hle : ∀ name v, w.sharer? place name = some v → v.counters.failures ≤ v.counters.conversions)
    {s : Step} (h : s.action.isRequest = true) {c' : Cache}
    (hc' : (w.step s).value.2.caches[place]? = some c') : (w.step s).value.2.Balanced place c' := by
  obtain ⟨c, hc, hsame, hon, hoff⟩ := cache_step h hc'
  obtain ⟨hbon, hboff⟩ := hw c hc
  constructor
  · intro hon'
    rw [hsame] at hon'
    obtain ⟨hhits, hmisses, hsize⟩ := hbon hon'
    have hstats := hon hon'
    have hgrowth := growth_step h (hle s.name)
    rw [hgrowth.cacheHits, hgrowth.conversions, hgrowth.entries, ← hhits, ← hmisses, ← hsize]
    have hparts : c'.hits = c'.stats.hits ∧ c'.misses = c'.stats.misses ∧
        c'.size = c'.stats.entries := ⟨rfl, rfl, rfl⟩
    rw [hparts.1, hparts.2.1, hparts.2.2, hstats]
    cases w.ending? place s with
    | none => exact ⟨rfl, rfl, rfl⟩
    | some e => cases e <;> exact ⟨rfl, rfl, rfl⟩
  · intro hoff'
    rw [hsame] at hoff'
    obtain ⟨hhits, hmisses, hsize, hnone⟩ := hboff hoff'
    obtain ⟨rfl, hfound⟩ := hoff hoff'
    refine ⟨hhits, hmisses, hsize, fun name v hv => ?_⟩
    rw [sharer?_step h] at hv
    obtain ⟨u, hu, rfl⟩ := Option.map_eq_some_iff.mp hv
    have hu := hnone name u hu
    split
    · cases he : w.ending? place s with
      | none => exact hu
      | some e =>
        cases e with
        | found => exact absurd he hfound
        | passed | failed | nested => exact hu
    · exact hu

/-- **At every point of a run the figures of a cache are those of its converters.** -/
theorem balanced_after {w : Workspace} (hw : w.Untouched) {steps : List Step}
    (h : ∀ s ∈ steps, s.action.isRequest = true) {place : Nat} {c : Cache}
    (hc : (w.after steps).caches[place]? = some c) : (w.after steps).Balanced place c := by
  induction steps using List.reverseRecOn generalizing c with
  | nil => exact hw.balanced hc
  | append_singleton steps s ih =>
    have hsteps : ∀ t ∈ steps, t.action.isRequest = true := fun t ht => h t (by simp [ht])
    rw [after_append, after_cons, after_nil] at hc ⊢
    exact Balanced.step (fun c hc => ih hsteps hc) (fun name v hv => (tally_after hw hsteps hv).le)
      (h s (by simp)) hc

/-! ## 4. The balance -/

/-- **The counters balance.**  Where nothing has been asked before, at every point of a run of
requests:

* the nestings, the statements passed through and the cache hits of a converter are together the
  statements it was given, by a conversion or with a command for a SELECT; its failures are those of
  them that failed, and all of them were nestings;
* a cache that is switched on has the hits of its converters as hits, their nestings as misses, and
  as many entries as they had nestings that did not fail;
* a cache that is switched off counts nothing and holds nothing, and none of its converters has had
  an answer from it. -/
theorem counters_balance {w : Workspace} (hw : w.Untouched) {steps : List Step}
    (h : ∀ s ∈ steps, s.action.isRequest = true) :
    (∀ place name v, (w.after steps).sharer? place name = some v →
      v.counters.conversions + v.counters.passed + v.counters.cacheHits = w.callCount name steps ∧
      v.counters.failures = w.failureCount name steps ∧
      v.counters.failures ≤ v.counters.conversions) ∧
    ∀ place c, (w.after steps).caches[place]? = some c →
      (c.enabled = true →
        c.hits = (w.after steps).total place (·.cacheHits) ∧
        c.misses = (w.after steps).total place (·.conversions) ∧
        c.size = (w.after steps).total place fun k => k.conversions - k.failures) ∧
      (c.enabled = false →
        c.hits = 0 ∧ c.misses = 0 ∧ c.size = 0 ∧
        ∀ name v, (w.after steps).sharer? place name = some v → v.counters.cacheHits = 0) := by
  constructor
  · intro place name v hv
    have htally := tally_after hw h hv
    exact ⟨htally.given, htally.failed, htally.le⟩
  · intro place c hc
    have hbalanced := balanced_after hw h hc
    exact ⟨hbalanced.on, hbalanced.off⟩

/-- A converter and a driver on one cache, and a converter on a cache that is switched off. -/
def threeUnits : Workspace where
  caches := [{}, { enabled := false }]
  members := [("one".toList, ⟨0, .converter {}⟩), ("two".toList, ⟨0, .driver {} true⟩),
    ("three".toList, ⟨1, .converter {}⟩)]

/-- One statement three times, another statement and a malformed one. -/
def fiveRequests : List Step :=
  [⟨"one".toList, .convert "select*from a join b".toList⟩,
    ⟨"two".toList, .command "select*from a join b".toList .null .null⟩,
    ⟨"two".toList, .command "delete from a".toList .null .null⟩,
    ⟨"one".toList, .convert "select*from a join b join c".toList⟩,
    ⟨"three".toList, .convert "select*from a join b".toList⟩]

/-- The first cache has been asked three times, with one answer and one failure. -/
theorem counters_balance_of_three_units :
    threeUnits.Untouched ∧ (∀ s ∈ fiveRequests, s.action.isRequest = true) ∧
    (threeUnits.after fiveRequests).total 0 (·.cacheHits) = 1 ∧
    (threeUnits.after fiveRequests).total 0 (·.conversions) = 2 ∧
    ((threeUnits.after fiveRequests).total 0 fun k => k.conversions - k.failures) = 1 ∧
    threeUnits.failureCount "one".toList fiveRequests = 1 := by
  have hfresh : threeUnits.Untouched := by
    constructor
    · simp [threeUnits]
    · simp [threeUnits, Role.converter?]
  have hrequests : ∀ s ∈ fiveRequests, s.action.isRequest = true := by
    simp [fiveRequests, Action.isRequest]
  obtain ⟨hconverters, hcaches⟩ := counters_balance hfresh hrequests
  -- The figures of the cache and of the first converter are computed, the others follow.
  have hcache : ∃ c, (threeUnits.after fiveRequests).caches[0]? = some c ∧ c.enabled = true ∧
      c.stats = ⟨1, 1, 2⟩ := ⟨_, rfl, by decide +kernel, by decide +kernel⟩
  obtain ⟨c, hc, hon, hstats⟩ := hcache
  obtain ⟨hhits, hmisses, hsize⟩ := (hcaches 0 c hc).1 hon
  have hone : ∃ v, (threeUnits.after fiveRequests).sharer? 0 "one".toList = some v ∧
      v.counters.failures = 1 := ⟨_, rfl, by decide +kernel⟩
  obtain ⟨v, hv, hfailures⟩ := hone
  refine ⟨hfresh, hrequests, ?_, ?_, ?_, ?_⟩
  · exact hhits.symm.trans (congrArg CacheStats.hits hstats)
  · exact hmisses.symm.trans (congrArg CacheStats.misses hstats)
  · exact hsize.symm.trans (congrArg CacheStats.entries hstats)
  · exact (hconverters 0 _ v hv).2.1.symm.trans hfailures

end Workspace

end NestedJoin
