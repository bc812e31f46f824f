/-
# The order of conversions does not matter

Converters of one lead that share a cache divide the work among themselves.  Who nests a statement
and who finds it in the cache depends on the order of the calls, and so do the counters of each of
them; the answers do not, nor does what the cache holds in the end, nor the sums of the counters
(`Workspace.order_does_not_matter`).

The reason is that all of these can be said without the order (`Workspace.Accounts`), by how a
conversion would end with an empty cache (`Converter.firstEnding`): a statement that is passed
through or fails does so each time, and one that is nested is nested once, however often and
wherever it comes up.
-/
import Mathlib.Data.Finset.Card
import NestedJoin.Proofs.Workspace.Balance
import NestedJoin.Proofs.Workspace.FirstWriter

namespace NestedJoin

/-! ## 1. Conversions with an empty cache -/

namespace Converter

/-- How the conversion of a statement ends where the cache is empty. -/
def firstEnding (nameLead sql : Text) : Ending :=
  ({ nameLead := nameLead } : Converter).ending {} sql

/-- What is nested with an empty cache is what it keeps. -/
theorem firstEnding_eq_nested_iff {nameLead sql : Text} :
    firstEnding nameLead sql = .nested ↔ (kept? nameLead sql).isSome = true := by
  rw [firstEnding, ending, kept?, uncached_eq_nest]
  cases Statement.clause? sql with
  | none => simp
  | some c =>
    cases Statement.nest nameLead sql <;> simp [Cache.lookup, Except.toOption]

theorem firstEnding_ne_found (nameLead sql : Text) : firstEnding nameLead sql ≠ .found := by
  rw [firstEnding, ending]
  cases Statement.clause? sql with
  | none => simp
  | some c => cases Statement.nest nameLead sql <;> simp [Cache.lookup]

/-- **An entry changes how a conversion ends**, and the lack of one does not. -/
theorem ending_eq {cache : Cache} (hon : cache.enabled = true) {v : Converter} {sql : Text}
    (hentry : ∀ answer, cache.held? sql = some answer →
      firstEnding v.nameLead sql = .nested) :
    v.ending cache sql =
      if (cache.held? sql).isSome = true then .found else firstEnding v.nameLead sql := by
  cases he : cache.held? sql with
  | none =>
    rw [ending, firstEnding, ending, Cache.lookup_of_no_entry hon he]
    simp [Cache.lookup]
  | some answer =>
    have hclause : (Statement.clause? sql).isSome = true := by
      have hkept := firstEnding_eq_nested_iff.mp (hentry answer he)
      obtain ⟨out, hout⟩ := Option.isSome_iff_exists.mp hkept
      exact (kept?_eq_some_iff.mp hout).1
    obtain ⟨c, hc⟩ := Option.isSome_iff_exists.mp hclause
    rw [ending, hc, Cache.lookup_of_entry hon he]
    simp

end Converter

namespace Workspace

/-! ## 2. Converters of one lead on one cache -/

/-- Conversions, each given by the name of a converter and a statement. -/
def conversions (calls : List (Text × Text)) : List Step :=
  calls.map fun (name, sql) => ⟨name, .convert sql⟩

theorem conversions_append_singleton (calls : List (Text × Text)) (name sql : Text) :
    conversions (calls ++ [(name, sql)]) = conversions calls ++ [⟨name, .convert sql⟩] :=
  List.map_append

theorem isCall_conversions (calls : List (Text × Text)) :
    ∀ s ∈ conversions calls, s.action.isCall = true := by
  intro s hs
  obtain ⟨x, -, rfl⟩ := List.mem_map.mp hs
  rfl

theorem isRequest_conversions (calls : List (Text × Text)) :
    ∀ s ∈ conversions calls, s.action.isRequest = true := by
  intro s hs
  obtain ⟨x, -, rfl⟩ := List.mem_map.mp hs
  rfl

/-- Nothing has been asked of a workspace yet, it has a cache at the place that is switched on, and
the calls are to converters that share the cache and have the same lead. -/
structure Sharing (w : Workspace) (place : Nat) (nameLead : Text) (calls : List (Text × Text)) :
    Prop where
  untouched : w.Untouched
  cache : w.HasCache place
  lead : ∀ x ∈ calls, w.lead? place x.1 = some nameLead

/-- The different statements of some that are nested. -/
def nestedOnce (nameLead : Text) (asked : List Text) : Finset Text :=
  asked.toFinset.filter fun sql => Converter.firstEnding nameLead sql = .nested

/-- How many of some statements end so with an empty cache. -/
def endingCount (nameLead : Text) (asked : List Text) (e : Ending) : Nat :=
  asked.countP fun sql => Converter.firstEnding nameLead sql = e

theorem endingCount_append_singleton (nameLead : Text) (asked : List Text) (sql : Text)
    (e : Ending) :
    endingCount nameLead (asked ++ [sql]) e = endingCount nameLead asked e +
      if Converter.firstEnding nameLead sql = e then 1 else 0 := by
  simp [endingCount, List.countP_append, List.countP_singleton]

theorem card_nestedOnce_append_singleton (nameLead : Text) (asked : List Text) (sql : Text) :
    (nestedOnce nameLead (asked ++ [sql])).card = (nestedOnce nameLead asked).card +
      if Converter.firstEnding nameLead sql = .nested ∧ sql ∉ asked then 1 else 0 := by
  have hinsert : (asked ++ [sql]).toFinset = insert sql asked.toFinset := by
    ext t
    simp
  rw [nestedOnce, hinsert, Finset.filter_insert]
  by_cases he : Converter.firstEnding nameLead sql = .nested
  · rw [if_pos he, Finset.card_insert_eq_ite]
    by_cases hm : sql ∈ asked <;> simp [nestedOnce, he, hm]
  · simp [nestedOnce, he]

/-- What a workspace holds and has counted after some statements have been asked, whatever the order
in which that happened. -/
structure Accounts (w : Workspace) (place : Nat) (nameLead : Text) (asked : List Text) : Prop where
  held : ∀ sql, w.held? place sql = if sql ∈ asked then Converter.kept? nameLead sql else none
  passed : w.total place (·.passed) = endingCount nameLead asked .passed
  failures : w.total place (·.failures) = endingCount nameLead asked .failed
  conversions : w.total place (·.conversions) =
    endingCount nameLead asked .failed + (nestedOnce nameLead asked).card
  /-- Of the statements that are nested, the first of each kind is no hit. -/
  cacheHits : w.total place (·.cacheHits) + (nestedOnce nameLead asked).card =
    endingCount nameLead asked .nested
  entries : (w.total place fun k => k.conversions - k.failures) = (nestedOnce nameLead asked).card

/-! ## 3. One more conversion -/

theorem Untouched.held? {w : Workspace} (hw : w.Untouched) (place : Nat) (sql : Text) :
    w.held? place sql = none := by
  cases hc : w.caches[place]? with
  | none => rw [Workspace.held?, cacheAt, hc]; rfl
  | some c => exact held?_of_entries_nil hc (hw.caches c (List.mem_of_getElem? hc)).1 sql

theorem Untouched.accounts {w : Workspace} (hw : w.Untouched) (place : Nat) (nameLead : Text) :
    w.Accounts place nameLead [] := by
  constructor
  · intro sql
    simp [hw.held? place sql]
  all_goals simp [hw.total place, endingCount, nestedOnce]

section Step

variable {w : Workspace} {place : Nat} {nameLead name : Text} {asked : List Text} {v : Converter}

/-- The next conversion finds an answer exactly for a statement that has been nested before. -/
theorem Accounts.ending? (hw : w.Accounts place nameLead asked) (hcache : w.HasCache place)
    (hv : w.sharer? place name = some v) (hlead : v.nameLead = nameLead) (sql : Text) :
    w.ending? place ⟨name, .convert sql⟩ =
      some (if Converter.firstEnding nameLead sql = .nested ∧ sql ∈ asked then .found
        else Converter.firstEnding nameLead sql) := by
  obtain ⟨m, hm, -, hrole⟩ := sharer?_eq_some_iff.mp hv
  have hgiven : w.given? ⟨name, .convert sql⟩ = some sql := by
    simp [given?, hm, Role.given?_convert, hrole]
  have hheld := hw.held sql
  have hentry : ∀ answer, (w.cacheAt place).held? sql = some answer →
      Converter.firstEnding v.nameLead sql = .nested := by
    intro answer he
    rw [Workspace.held?, he] at hheld
    split at hheld
    · rw [hlead, Converter.firstEnding_eq_nested_iff, ← hheld]
      rfl
    · exact absurd hheld (by simp)
  have hend : w.ending? place ⟨name, .convert sql⟩ =
      some (v.ending (w.cacheAt place) sql) := by
    simp [Workspace.ending?, hv, hgiven]
  rw [hend, Converter.ending_eq hcache.enabled hentry, hlead]
  rw [Workspace.held?] at hheld
  rw [hheld]
  by_cases hasked : sql ∈ asked
  · simp [hasked, Converter.firstEnding_eq_nested_iff]
  · simp [hasked]

/-- What the cache holds after one more conversion. -/
theorem Accounts.held_step (hw : w.Accounts place nameLead asked) (hcache : w.HasCache place)
    (hv : w.sharer? place name = some v) (hlead : v.nameLead = nameLead) (sql other : Text) :
    (w.step ⟨name, .convert sql⟩).value.2.held? place other =
      if other ∈ asked ++ [sql] then Converter.kept? nameLead other else none := by
  rw [held?_step hcache rfl, hw.held]
  have hoffer : w.offer? place other ⟨name, .convert sql⟩ =
      if sql = other then Converter.kept? nameLead other else none := by
    simp [offer?, lead?, hv, hlead]
  rw [hoffer]
  by_cases hasked : other ∈ asked
  · simp only [hasked, if_true, List.mem_append, true_or]
    split <;> simp
  · by_cases heq : sql = other
    · simp [heq, hasked]
    · have hne : ¬ other = sql := fun h => heq h.symm
      simp [heq, hasked, hne]

/-- **One more conversion** by a converter of the lead. -/
theorem Accounts.step (hw : w.Accounts place nameLead asked) (hcache : w.HasCache place)
    (hv : w.sharer? place name = some v) (hlead : v.nameLead = nameLead)
    (hle : v.counters.failures ≤ v.counters.conversions) (sql : Text) :
    (w.step ⟨name, .convert sql⟩).value.2.Accounts place nameLead (asked ++ [sql]) := by
  have hending := hw.ending? hcache hv hlead sql
  have hnotfound := Converter.firstEnding_ne_found nameLead sql
  have hgrowth := growth_step (s := ⟨name, .convert sql⟩) rfl fun u hu => by
    obtain rfl := Option.some.inj (hv.symm.trans hu)
    exact hle
  rw [hending] at hgrowth
  obtain ⟨hpassed, hfailures, hconversions, hhits, hentries⟩ := hgrowth
  refine ⟨hw.held_step hcache hv hlead sql, ?_, ?_, ?_, ?_, ?_⟩
  -- Only a nested statement counts differently when it comes up again, as a hit then.
  all_goals
    simp only [endingCount_append_singleton, card_nestedOnce_append_singleton, hpassed, hfailures,
      hconversions, hhits, hentries, hw.passed, hw.failures, hw.conversions, hw.entries,
      ← hw.cacheHits]
    by_cases hasked : sql ∈ asked <;>
      cases he : Converter.firstEnding nameLead sql <;>
      simp_all <;> omega

end Step

/-! ## 4. Runs of conversions -/

section Run

variable {w : Workspace} {place : Nat} {nameLead : Text} {calls : List (Text × Text)}

theorem Sharing.of_append {before rest : List (Text × Text)}
    (h : w.Sharing place nameLead (before ++ rest)) : w.Sharing place nameLead before :=
  ⟨h.untouched, h.cache, fun x hx => h.lead x (List.mem_append_left rest hx)⟩

/-- The converter of a call is there when its turn comes, and has the lead. -/
theorem Sharing.exists_sharer {before rest : List (Text × Text)} {name sql : Text}
    (h : w.Sharing place nameLead (before ++ (name, sql) :: rest)) :
    ∃ v, (w.after (conversions before)).sharer? place name = some v ∧ v.nameLead = nameLead := by
  have hlead := h.lead (name, sql) (by simp)
  rw [← lead?_after (isCall_conversions before), lead?,
    Option.map_eq_some_iff] at hlead
  exact hlead

/-- **What a run of conversions leaves behind can be said without the order of the calls.** -/
theorem Sharing.accounts (h : w.Sharing place nameLead calls) :
    (w.after (conversions calls)).Accounts place nameLead (calls.map (·.2)) := by
  induction calls using List.reverseRecOn with
  | nil => exact h.untouched.accounts place nameLead
  | append_singleton calls call ih =>
    obtain ⟨name, sql⟩ := call
    have ih := ih h.of_append
    obtain ⟨v, hv, hlead⟩ := h.exists_sharer
    have htally := tally_after h.untouched (isRequest_conversions calls) hv
    have hcache := h.cache.after (isCall_conversions calls)
    rw [conversions_append_singleton, after_append, after_cons, after_nil, List.map_append]
    exact ih.step hcache hv hlead htally.le sql

/-- **Every call is answered as without a cache.** -/
theorem Sharing.answer {before rest : List (Text × Text)} {name sql : Text}
    (h : w.Sharing place nameLead (before ++ (name, sql) :: rest)) :
    ((w.after (conversions before)).step ⟨name, .convert sql⟩).value.1 =
      .ofAnswer (Converter.uncached nameLead sql) := by
  obtain ⟨v, hv, rfl⟩ := h.exists_sharer
  obtain ⟨m, hm, rfl, hrole⟩ := sharer?_eq_some_iff.mp hv
  have hheld := h.of_append.accounts.held sql
  rw [value_step_convert hm hrole, Converter.answer_convert_of_own_entry]
  rintro - answer he
  rw [Workspace.held?, he] at hheld
  split at hheld
  · exact hheld.symm
  · exact absurd hheld (by simp)

/-- The figures of the cache, said without the order of the calls. -/
theorem Sharing.stats (h : w.Sharing place nameLead calls) :
    let asked := calls.map (·.2)
    ((w.after (conversions calls)).cacheAt place).stats =
      ⟨(nestedOnce nameLead asked).card,
        endingCount nameLead asked .nested - (nestedOnce nameLead asked).card,
        endingCount nameLead asked .failed + (nestedOnce nameLead asked).card⟩ := by
  have hacc := h.accounts
  obtain ⟨c, hc, hon⟩ := h.cache.after (isCall_conversions calls)
  obtain ⟨hhits, hmisses, hsize⟩ :=
    (balanced_after h.untouched (isRequest_conversions calls) hc).on hon
  have hat : (w.after (conversions calls)).cacheAt place = c := by
    rw [cacheAt, hc, Option.getD_some]
  have hsum := hacc.cacheHits
  rw [hat, Cache.stats, hhits, hmisses, hsize, hacc.entries, hacc.conversions]
  simp only [CacheStats.mk.injEq, true_and, and_true]
  omega

/-- The counters of the converters that share the cache at a place, summed up. -/
def totals (w : Workspace) (place : Nat) : Counters where
  conversions := w.total place (·.conversions)
  passed := w.total place (·.passed)
  failures := w.total place (·.failures)
  cacheHits := w.total place (·.cacheHits)

theorem Accounts.totals {asked : List Text} (h : w.Accounts place nameLead asked) :
    w.totals place =
      { conversions := endingCount nameLead asked .failed + (nestedOnce nameLead asked).card
        passed := endingCount nameLead asked .passed
        failures := endingCount nameLead asked .failed
        cacheHits := endingCount nameLead asked .nested - (nestedOnce nameLead asked).card } := by
  have hsum := h.cacheHits
  simp only [Workspace.totals, h.conversions, h.passed, h.failures, Counters.mk.injEq, true_and]
  omega

theorem endingCount_of_perm {asked asked' : List Text} (h : asked.Perm asked') (e : Ending) :
    endingCount nameLead asked e = endingCount nameLead asked' e := h.countP_eq _

theorem nestedOnce_of_perm {asked asked' : List Text} (h : asked.Perm asked') :
    nestedOnce nameLead asked = nestedOnce nameLead asked' := by
  rw [nestedOnce, nestedOnce, List.toFinset_eq_of_perm _ _ h]

end Run

/-- **The order of conversions does not matter.**  Two runs ask for the same statements, each as
often in the one as in the other, but in any order and of any converters that share a cache and have
the lead.  Then a statement is answered in the same way wherever it comes up in either run, the
caches hold the same and have the same figures in the end, and so have the converters of each cache
together. -/
theorem order_does_not_matter {w w' : Workspace} {place place' : Nat} {nameLead : Text}
    {calls calls' : List (Text × Text)} (h : w.Sharing place nameLead calls)
    (h' : w'.Sharing place' nameLead calls')
    (hperm : (calls.map (·.2)).Perm (calls'.map (·.2))) :
    (∀ before name rest before' name' rest' sql,
      calls = before ++ (name, sql) :: rest → calls' = before' ++ (name', sql) :: rest' →
      ((w.after (conversions before)).step ⟨name, .convert sql⟩).value.1 =
        ((w'.after (conversions before')).step ⟨name', .convert sql⟩).value.1) ∧
    (∀ sql, (w.after (conversions calls)).held? place sql =
      (w'.after (conversions calls')).held? place' sql) ∧
    ((w.after (conversions calls)).cacheAt place).stats =
      ((w'.after (conversions calls')).cacheAt place').stats ∧
    (w.after (conversions calls)).totals place = (w'.after (conversions calls')).totals place' := by
  have hacc := h.accounts
  have hacc' := h'.accounts
  refine ⟨?_, fun sql => ?_, ?_, ?_⟩
  · rintro before name rest before' name' rest' sql rfl rfl
    rw [h.answer, h'.answer]
  · rw [hacc.held, hacc'.held]
    simp only [hperm.mem_iff]
  · rw [h.stats, h'.stats]
    simp only [endingCount_of_perm hperm, nestedOnce_of_perm hperm]
  · rw [hacc.totals, hacc'.totals]
    simp only [endingCount_of_perm hperm, nestedOnce_of_perm hperm]

/-- Two converters of one lead on one cache. -/
def twoSharing : Workspace where
  caches := [{}]
  members := [("one".toList, ⟨0, .converter {}⟩), ("two".toList, ⟨0, .converter {}⟩)]

/-- The one nests a statement, and the other finds it and fails on a second. -/
def oneFirst : List (Text × Text) :=
  [("one".toList, "select*from a join b".toList), ("two".toList, "select*from a join b".toList),
    ("two".toList, "select*from a join b join".toList)]

/-- The same statements in another order, and given to the converters in another way. -/
def twoFirst : List (Text × Text) :=
  [("two".toList, "select*from a join b".toList), ("one".toList, "select*from a join b join".toList),
    ("one".toList, "select*from a join b".toList)]

theorem sharing_of_two {calls : List (Text × Text)}
    (h : ∀ x ∈ calls, x.1 = "one".toList ∨ x.1 = "two".toList) :
    twoSharing.Sharing 0 Group.defaultNameLead calls := by
  refine ⟨⟨?_, ?_⟩, ⟨{}, rfl, rfl⟩, fun x hx => ?_⟩
  · simp [twoSharing]
  · simp [twoSharing, Role.converter?]
  · rcases h x hx with h | h <;> rw [h] <;> decide +kernel

/-- Each order has one hit, of the second and of the third call. -/
theorem order_does_not_matter_of_two_sharing :
    twoSharing.Sharing 0 Group.defaultNameLead oneFirst ∧
    twoSharing.Sharing 0 Group.defaultNameLead twoFirst ∧
    (oneFirst.map (·.2)).Perm (twoFirst.map (·.2)) ∧
    ((twoSharing.after (conversions twoFirst)).cacheAt 0).stats = ⟨1, 1, 2⟩ ∧
    (twoSharing.after (conversions twoFirst)).totals 0 =
      { conversions := 2, passed := 0, failures := 1, cacheHits := 1 } := by
  have hone : twoSharing.Sharing 0 Group.defaultNameLead oneFirst :=
    sharing_of_two (by simp [oneFirst])
  have htwo : twoSharing.Sharing 0 Group.defaultNameLead twoFirst :=
    sharing_of_two (by simp [twoFirst])
  have hperm : (oneFirst.map (·.2)).Perm (twoFirst.map (·.2)) := by decide +kernel
  obtain ⟨-, -, hstats, htotals⟩ := order_does_not_matter hone htwo hperm
  -- The figures of the one order are computed, and the other has the same.
  have hfigures : ((twoSharing.after (conversions oneFirst)).cacheAt 0).stats = ⟨1, 1, 2⟩ := by
    decide +kernel
  have hsums : (twoSharing.after (conversions oneFirst)).totals 0 =
      { conversions := 2, passed := 0, failures := 1, cacheHits := 1 } := by
    decide +kernel
  exact ⟨hone, htwo, hperm, hstats.symm.trans hfigures, htotals.symm.trans hsums⟩

end Workspace

end NestedJoin
