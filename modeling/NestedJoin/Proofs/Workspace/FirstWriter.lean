/-
# The first answer is kept

Converters that share a cache differ in the lead of their names, and so in the nested forms they
give.  In the cache there is room for one form of a statement: that of the converter which came
first, and from then on it is the answer of all.

The invariant is an equation (`Workspace.held?_after`): what the cache holds for a statement after
a sequence of calls is what it held before, or else the first of what the calls have to offer.  What
a call has to offer (`Workspace.offer?`) does not depend on what happened before it: leads never
change, and whether a statement has a nested form does not depend on the lead.
-/
import NestedJoin.Proofs.Workspace.Run

namespace NestedJoin

namespace Workspace

/-! ## 1. The entries of a shared cache -/

/-- The answer that the cache at a place holds for a statement. -/
def held? (w : Workspace) (place : Nat) (sql : Text) : Option Text :=
  (w.cacheAt place).held? sql

/-- There is a cache at the place, and it is switched on. -/
def HasCache (w : Workspace) (place : Nat) : Prop :=
  ∃ c, w.caches[place]? = some c ∧ c.enabled = true

theorem HasCache.enabled {w : Workspace} {place : Nat} (h : w.HasCache place) :
    (w.cacheAt place).enabled = true := by
  obtain ⟨c, hc, hon⟩ := h
  rw [cacheAt, hc]
  exact hon

theorem HasCache.lt {w : Workspace} {place : Nat} (h : w.HasCache place) :
    place < w.caches.length := by
  obtain ⟨c, hc, -⟩ := h
  exact (List.getElem?_eq_some_iff.mp hc).1

/-- A cache without entries holds nothing. -/
theorem held?_of_entries_nil {w : Workspace} {place : Nat} {c : Cache}
    (hc : w.caches[place]? = some c) (hempty : c.entries = []) (sql : Text) :
    w.held? place sql = none := by
  rw [held?, cacheAt, hc, Option.getD_some, Cache.held?, hempty, Keyed.get?_nil]

theorem getElem?_caches_afterReply {w : Workspace} {place : Nat} (h : place < w.caches.length)
    (name : Text) (m : Member) (reply : Reply) :
    (w.afterReply name m reply).caches[place]? =
      if m.cacheAt = place then some reply.cache else w.caches[place]? := by
  rw [caches_afterReply, List.getElem?_set]
  split
  · next heq => rw [if_pos (heq ▸ h)]
  · rfl

/-- What a call has to offer for a statement: the nested form under the lead of its converter, if
it asks for that and the converter shares the cache. -/
def offer? (w : Workspace) (place : Nat) (sql : Text) (s : Step) : Option Text :=
  match s.action with
  | .convert asked =>
    if asked = sql then (w.lead? place s.name).bind fun lead => Converter.kept? lead sql else none
  | _ => none

theorem offer?_eq_some_iff {w : Workspace} {place : Nat} {sql answer : Text} {s : Step} :
    w.offer? place sql s = some answer ↔
      s.action = .convert sql ∧
        ∃ v, w.sharer? place s.name = some v ∧ Converter.kept? v.nameLead sql = some answer := by
  obtain ⟨name, action⟩ := s
  cases action with
  | convert asked =>
    by_cases h : asked = sql
    · cases hv : w.sharer? place name <;> simp [offer?, h, lead?, hv]
    · simp [offer?, h]
  | _ => simp [offer?]

theorem offer?_step {s : Step} (h : s.action.isCall = true) (w : Workspace) (place : Nat)
    (sql : Text) : (w.step s).value.2.offer? place sql = w.offer? place sql := by
  funext t
  simp only [offer?, lead?_step h]

theorem offer?_after {steps : List Step} (h : ∀ s ∈ steps, s.action.isCall = true) (w : Workspace)
    (place : Nat) (sql : Text) : (w.after steps).offer? place sql = w.offer? place sql := by
  funext t
  simp only [offer?, lead?_after h]

/-- A call does not switch a cache on or off. -/
theorem exists_cache_step {w : Workspace} {place : Nat} {c : Cache}
    (hc : w.caches[place]? = some c) {s : Step} (h : s.action.isCall = true) :
    ∃ c', (w.step s).value.2.caches[place]? = some c' ∧ c'.enabled = c.enabled := by
  rcases step_cases_of_call h w with ⟨hsame, -⟩ | ⟨sql, m, v, hs, hm, hv⟩
  · exact ⟨c, by rw [hsame, hc], rfl⟩
  · have hlt : place < w.caches.length := (List.getElem?_eq_some_iff.mp hc).1
    rw [hs, value_step_convert hm hv, getElem?_caches_afterReply hlt]
    split
    · next heq =>
      subst heq
      have hat : w.cacheAt m.cacheAt = c := by rw [cacheAt, hc, Option.getD_some]
      exact ⟨_, rfl, (Converter.enabled_convert _ v sql).trans (by rw [hat])⟩
    · exact ⟨c, hc, rfl⟩

/-- **Calls do not switch a cache on or off.** -/
theorem exists_cache_after {w : Workspace} {place : Nat} {c : Cache}
    (hc : w.caches[place]? = some c) {steps : List Step}
    (h : ∀ s ∈ steps, s.action.isCall = true) :
    ∃ c', (w.after steps).caches[place]? = some c' ∧ c'.enabled = c.enabled := by
  induction steps generalizing w c with
  | nil => exact ⟨c, hc, rfl⟩
  | cons s rest ih =>
    obtain ⟨c', hc', hsame⟩ := exists_cache_step hc (h s (.head rest))
    obtain ⟨c'', hc'', hsame'⟩ := ih hc' fun t ht => h t (.tail s ht)
    exact ⟨c'', hc'', hsame'.trans hsame⟩

theorem HasCache.step {w : Workspace} {place : Nat} (hw : w.HasCache place) {s : Step}
    (h : s.action.isCall = true) : (w.step s).value.2.HasCache place := by
  obtain ⟨c, hc, hon⟩ := hw
  obtain ⟨c', hc', hsame⟩ := exists_cache_step hc h
  exact ⟨c', hc', hsame.trans hon⟩

theorem HasCache.after {w : Workspace} {place : Nat} (hw : w.HasCache place) {steps : List Step}
    (h : ∀ s ∈ steps, s.action.isCall = true) : (w.after steps).HasCache place := by
  obtain ⟨c, hc, hon⟩ := hw
  obtain ⟨c', hc', hsame⟩ := exists_cache_after hc h
  exact ⟨c', hc', hsame.trans hon⟩

/-- **One call**: an entry stays, and where there is none the offer of the call becomes one. -/
theorem held?_step {w : Workspace} {place : Nat} (hw : w.HasCache place) {s : Step}
    (h : s.action.isCall = true) (sql : Text) :
    (w.step s).value.2.held? place sql = (w.held? place sql).or (w.offer? place sql s) := by
  rcases step_cases_of_call h w with ⟨hsame, hnone⟩ | ⟨asked, m, v, hs, hm, hv⟩
  · have hoffer : w.offer? place sql s = none := by
      rw [Option.eq_none_iff_forall_not_mem]
      intro answer ho
      obtain ⟨ha, v, hv, -⟩ := offer?_eq_some_iff.mp ho
      rw [hnone sql ha place] at hv
      exact absurd hv (by simp)
    rw [hsame, hoffer, Option.or_none]
  · rw [hs, value_step_convert hm hv, held?, cacheAt, getElem?_caches_afterReply hw.lt]
    by_cases hp : m.cacheAt = place
    · -- The converter shares the cache, and its reply has what the cache holds next.
      subst hp
      have hshare : w.sharer? m.cacheAt s.name = some v :=
        sharer?_eq_some_iff.mpr ⟨m, hm, rfl, hv⟩
      rw [if_pos rfl, Option.getD_some, Converter.held?_convert hw.enabled]
      simp only [held?, offer?, lead?, hshare, Option.map_some, Option.bind_some]
    · have hshare : w.sharer? place s.name = none := by simp [sharer?, hm, hp]
      rw [if_neg hp]
      simp [held?, cacheAt, offer?, lead?, hshare]

/-- **Any sequence of calls**: an entry stays, and where there is none the first offer becomes
one. -/
theorem held?_after {w : Workspace} {place : Nat} (hw : w.HasCache place) {steps : List Step}
    (h : ∀ s ∈ steps, s.action.isCall = true) (sql : Text) :
    (w.after steps).held? place sql =
      (w.held? place sql).or (steps.findSome? (w.offer? place sql)) := by
  induction steps generalizing w with
  | nil => simp
  | cons s rest ih =>
    have hs := h s (.head rest)
    rw [after_cons, ih (hw.step hs) fun t ht => h t (.tail s ht), held?_step hw hs,
      offer?_step hs, Option.or_assoc, List.findSome?_cons]
    cases w.offer? place sql s <;> simp

/-! ## 2. Calls that answer -/

/-- The step asks a converter that shares the cache at the place for the nested form of the
statement, and is given one. -/
def Answers (w : Workspace) (place : Nat) (sql : Text) (s : Step) : Prop :=
  s.action = .convert sql ∧ (w.sharer? place s.name).isSome = true ∧
    ∃ out, (w.step s).value.1 = .text out

/-- One of the steps answers the statement. -/
def Answered (w : Workspace) (place : Nat) (sql : Text) (steps : List Step) : Prop :=
  ∃ before s rest, steps = before ++ s :: rest ∧ (w.after before).Answers place sql s

/-- A converter that shares the cache, as it is at the first step that answers the statement. -/
def FirstAnsweredBy (w : Workspace) (place : Nat) (sql : Text) (steps : List Step)
    (v : Converter) : Prop :=
  ∃ before s rest, steps = before ++ s :: rest ∧ ¬ w.Answered place sql before ∧
    (w.after before).Answers place sql s ∧ (w.after before).sharer? place s.name = some v

/-- Every entry is the nested form of its statement, under some lead. -/
def Sound (w : Workspace) (place : Nat) : Prop :=
  ∀ sql answer, w.held? place sql = some answer →
    ∃ nameLead, Converter.kept? nameLead sql = some answer

theorem Sound.after {w : Workspace} {place : Nat} (hsound : w.Sound place)
    (hw : w.HasCache place) {steps : List Step} (h : ∀ s ∈ steps, s.action.isCall = true) :
    (w.after steps).Sound place := by
  intro sql answer he
  rw [held?_after hw h, Option.or_eq_some_iff] at he
  rcases he with he | ⟨-, ho⟩
  · exact hsound sql answer he
  · obtain ⟨s, -, hs⟩ := List.exists_of_findSome?_eq_some ho
    obtain ⟨-, v, -, hkept⟩ := offer?_eq_some_iff.mp hs
    exact ⟨v.nameLead, hkept⟩

/-- A converter succeeds with a sound cache where it does without one. -/
theorem exists_answer_convert_iff {w : Workspace} {place : Nat} (hw : w.HasCache place)
    (hsound : w.Sound place) (v : Converter) {sql : Text} {c : Clause}
    (hc : Statement.clause? sql = some c) :
    (∃ out, (v.convert (w.cacheAt place) sql).value.answer = .ok out) ↔
      ∃ out, Converter.uncached v.nameLead sql = .ok out := by
  cases he : w.held? place sql with
  | none =>
    rw [Converter.answer_convert_of_lookup_eq_none (Cache.lookup_of_no_entry hw.enabled he),
      Converter.uncached_eq_nest]
  | some answer =>
    obtain ⟨nameLead, hkept⟩ := hsound sql answer he
    have hok := (Converter.kept?_eq_some_iff.mp hkept).2
    rw [Converter.value_convert_of_hit hc (Cache.lookup_of_entry hw.enabled he)]
    rw [Converter.uncached_eq_nest] at hok ⊢
    exact ⟨fun _ => (Statement.exists_nest_eq_ok_congr nameLead _ sql).mp ⟨answer, hok⟩,
      fun _ => ⟨answer, rfl⟩⟩

/-- **A call that answers a statement with a clause has something to offer**, and the other way
round. -/
theorem answers_iff {w : Workspace} {place : Nat} (hw : w.HasCache place)
    (hsound : w.Sound place) {sql : Text} {c : Clause} (hc : Statement.clause? sql = some c)
    (s : Step) : w.Answers place sql s ↔ (w.offer? place sql s).isSome = true := by
  obtain ⟨name, action⟩ := s
  rw [Option.isSome_iff_exists]
  simp only [offer?_eq_some_iff, Answers]
  rw [exists_and_left]
  refine and_congr_right fun ha => ?_
  subst ha
  cases hv : w.sharer? place name with
  | none => simp
  | some v =>
    obtain ⟨m, hm, rfl, hrole⟩ := sharer?_eq_some_iff.mp hv
    simp only [value_step_convert hm hrole, StepResult.ofAnswer_eq_text_iff,
      exists_answer_convert_iff hw hsound v hc, Converter.kept?_eq_some_iff, hc]
    simp

/-- A statement with a clause is answered in the course of the calls if one of them has something
to offer. -/
theorem answered_iff {w : Workspace} {place : Nat} (hw : w.HasCache place)
    (hsound : w.Sound place) {sql : Text} {c : Clause} (hc : Statement.clause? sql = some c)
    {steps : List Step} (h : ∀ s ∈ steps, s.action.isCall = true) :
    w.Answered place sql steps ↔ (steps.findSome? (w.offer? place sql)).isSome = true := by
  have hstep : ∀ before s rest, steps = before ++ s :: rest →
      ((w.after before).Answers place sql s ↔ (w.offer? place sql s).isSome = true) := by
    intro before s rest heq
    have hb : ∀ t ∈ before, t.action.isCall = true :=
      fun t ht => h t (heq ▸ List.mem_append_left _ ht)
    rw [answers_iff (hw.after hb) (hsound.after hw hb) hc, offer?_after hb]
  rw [List.findSome?_isSome_iff]
  constructor
  · rintro ⟨before, s, rest, heq, ha⟩
    exact ⟨s, heq ▸ List.mem_append_right _ (.head rest), (hstep before s rest heq).mp ha⟩
  · rintro ⟨s, hs, ho⟩
    obtain ⟨before, rest, heq⟩ := List.append_of_mem hs
    exact ⟨before, s, rest, heq, (hstep before s rest heq).mpr ho⟩

/-- An entry answers every converter that shares the cache, and is counted as a hit of that
converter and as nothing else. -/
theorem step_of_entry {w : Workspace} {place : Nat} (hw : w.HasCache place) {sql answer : Text}
    {c : Clause} (hc : Statement.clause? sql = some c) (he : w.held? place sql = some answer)
    {name : Text} {v : Converter} (hv : w.sharer? place name = some v) :
    (w.step ⟨name, .convert sql⟩).value.1 = .text answer ∧
      (w.step ⟨name, .convert sql⟩).value.2.sharer? place name = some v.countCacheHit := by
  obtain ⟨m, hm, rfl, hrole⟩ := sharer?_eq_some_iff.mp hv
  have hreply := Converter.value_convert_of_hit hc (Cache.lookup_of_entry hw.enabled he) v
  rw [value_step_convert hm hrole, hreply]
  exact ⟨rfl, sharer?_afterReply_self hrole w name _⟩

/-- A cache that is switched off or has no entry for the statement has no part in the answer. -/
theorem answer_of_no_entry {w : Workspace} {place : Nat} {sql name : Text} {v : Converter}
    (hv : w.sharer? place name = some v)
    (h : (w.cacheAt place).enabled = false ∨ w.held? place sql = none) :
    (w.step ⟨name, .convert sql⟩).value.1 = .ofAnswer (Converter.uncached v.nameLead sql) := by
  obtain ⟨m, hm, rfl, hrole⟩ := sharer?_eq_some_iff.mp hv
  obtain ⟨cache', hl⟩ := Cache.exists_lookup_eq_none h
  rw [value_step_convert hm hrole, Converter.answer_convert_of_lookup_eq_none hl,
    Converter.uncached_eq_nest]

/-! ## 3. A cache that begins empty -/

section FromEmpty

variable {w : Workspace} {place : Nat} {sql : Text} {steps : List Step}

theorem Sound.of_empty (hempty : ∀ sql, w.held? place sql = none) : w.Sound place :=
  fun sql _ he => absurd (he.symm.trans (hempty sql)) (by simp)

theorem held?_after_of_empty (hw : w.HasCache place) (hempty : ∀ sql, w.held? place sql = none)
    (h : ∀ s ∈ steps, s.action.isCall = true) :
    (w.after steps).held? place sql = steps.findSome? (w.offer? place sql) := by
  rw [held?_after hw h, hempty, Option.none_or]

/-- What is in the cache has a clause. -/
theorem exists_clause_of_entry (hw : w.HasCache place)
    (hempty : ∀ sql, w.held? place sql = none) (h : ∀ s ∈ steps, s.action.isCall = true)
    {answer : Text} (he : (w.after steps).held? place sql = some answer) :
    ∃ c, Statement.clause? sql = some c := by
  obtain ⟨nameLead, hkept⟩ := (Sound.of_empty hempty).after hw h sql answer he
  exact Option.isSome_iff_exists.mp (Converter.kept?_eq_some_iff.mp hkept).1

/-- There is an entry for a statement that has a clause and was answered, and for no other. -/
theorem isSome_held?_after_iff (hw : w.HasCache place)
    (hempty : ∀ sql, w.held? place sql = none) (h : ∀ s ∈ steps, s.action.isCall = true) :
    ((w.after steps).held? place sql).isSome = true ↔
      (∃ c, Statement.clause? sql = some c) ∧ w.Answered place sql steps := by
  constructor
  · intro hsome
    obtain ⟨answer, he⟩ := Option.isSome_iff_exists.mp hsome
    obtain ⟨c, hc⟩ := exists_clause_of_entry hw hempty h he
    rw [held?_after_of_empty hw hempty h] at hsome
    exact ⟨⟨c, hc⟩, (answered_iff hw (.of_empty hempty) hc h).mpr hsome⟩
  · rintro ⟨⟨c, hc⟩, ha⟩
    rw [held?_after_of_empty hw hempty h]
    exact (answered_iff hw (.of_empty hempty) hc h).mp ha

/-- An entry is due to the first step that answers its statement. -/
theorem exists_first_answer (hw : w.HasCache place) (hempty : ∀ sql, w.held? place sql = none)
    (h : ∀ s ∈ steps, s.action.isCall = true) {answer : Text}
    (he : (w.after steps).held? place sql = some answer) :
    ∃ v, w.FirstAnsweredBy place sql steps v ∧ Converter.uncached v.nameLead sql = .ok answer := by
  have hsound := Sound.of_empty hempty
  obtain ⟨c, hc⟩ := exists_clause_of_entry hw hempty h he
  rw [held?_after_of_empty hw hempty h, List.findSome?_eq_some_iff] at he
  obtain ⟨before, s, rest, rfl, ho, hnone⟩ := he
  have hb : ∀ t ∈ before, t.action.isCall = true := fun t ht => h t (List.mem_append_left _ ht)
  -- The offer is the same where the calls before it have been made.
  rw [← offer?_after hb] at ho
  obtain ⟨-, v, hv, hkept⟩ := offer?_eq_some_iff.mp ho
  have hfirst : ¬ w.Answered place sql before := by
    rw [answered_iff hw hsound hc hb, List.findSome?_eq_none_iff.mpr hnone]
    simp
  have hanswers : (w.after before).Answers place sql s := by
    rw [answers_iff (hw.after hb) (hsound.after hw hb) hc, ho]
    rfl
  exact ⟨v, ⟨before, s, rest, rfl, hfirst, hanswers, hv⟩,
    (Converter.kept?_eq_some_iff.mp hkept).2⟩

end FromEmpty

/-- **The first answer is kept.**  In a cache that begins empty and is switched on, a statement has
an entry after a sequence of calls exactly if it is a SELECT with a FROM clause and one of the calls
on the converters that share the cache has answered it.  The entry is the nested form under the lead
of the converter that did so first; no later call changes it, and whoever asks for it later is given
it, which counts as a hit and as nothing else. -/
theorem first_answer_is_kept {w : Workspace} {place : Nat} {c : Cache} {steps : List Step}
    (hc : w.caches[place]? = some c) (hon : c.enabled = true) (hempty : c.entries = [])
    (h : ∀ s ∈ steps, s.action.isCall = true) (sql : Text) :
    (((w.after steps).held? place sql).isSome = true ↔
      (Statement.isSelect sql = true ∧ (Clause.cut? sql).isSome = true) ∧
        w.Answered place sql steps) ∧
    ∀ answer, (w.after steps).held? place sql = some answer →
      (∃ v, w.FirstAnsweredBy place sql steps v ∧
        Converter.uncached v.nameLead sql = .ok answer) ∧
      ∀ more : List Step, (∀ s ∈ more, s.action.isCall = true) →
        (w.after (steps ++ more)).held? place sql = some answer ∧
        ∀ name v, (w.after (steps ++ more)).sharer? place name = some v →
          ((w.after (steps ++ more)).step ⟨name, .convert sql⟩).value.1 = .text answer ∧
          ((w.after (steps ++ more)).step ⟨name, .convert sql⟩).value.2.sharer? place name =
            some { v with counters := { v.counters with cacheHits := v.counters.cacheHits + 1 } } := by
  have hw : w.HasCache place := ⟨c, hc, hon⟩
  have hnone : ∀ sql, w.held? place sql = none := by
    intro sql
    rw [held?, cacheAt, hc, Option.getD_some, Cache.held?, hempty, Keyed.get?_nil]
  have hclause : (∃ c, Statement.clause? sql = some c) ↔
      Statement.isSelect sql = true ∧ (Clause.cut? sql).isSome = true := by
    simp only [Statement.clause?_eq_some_iff, exists_and_left, Option.isSome_iff_exists]
  refine ⟨by rw [isSome_held?_after_iff hw hnone h, hclause], fun answer he => ⟨?_, ?_⟩⟩
  · exact exists_first_answer hw hnone h he
  · intro more hmore
    have hafter := hw.after h
    have hstays : (w.after (steps ++ more)).held? place sql = some answer := by
      rw [after_append, held?_after hafter hmore, he, Option.some_or]
    obtain ⟨c, hc⟩ := exists_clause_of_entry hw hnone h he
    refine ⟨hstays, fun name v hv => ?_⟩
    exact step_of_entry (after_append w steps more ▸ hafter.after hmore) hc hstays hv

/-- Two converters, each with a lead of its own, on one empty cache. -/
def twoLeads : Workspace where
  caches := [{}]
  members := [("first".toList, ⟨0, .converter { nameLead := "p".toList }⟩),
    ("second".toList, ⟨0, .converter { nameLead := "q".toList }⟩)]

/-- The first converter explains a statement, the second converts it. -/
def secondConverts (sql : Text) : List Step :=
  [⟨"first".toList, .explain sql⟩, ⟨"second".toList, .convert sql⟩]

/-- The first converter is then given the form of the second. -/
theorem first_answer_is_kept_of_second :
    ((twoLeads.after (secondConverts "select*from a join b,c".toList)).step
        ⟨"first".toList, .convert "select*from a join b,c".toList⟩).value.1 =
      .text "select*from (select * from a join b) as q0,c".toList := by
  have hcache : twoLeads.caches[0]? = some ({} : Cache) := rfl
  have hcalls : ∀ s ∈ secondConverts "select*from a join b,c".toList, s.action.isCall = true := by
    simp [secondConverts, Action.isCall]
  have hkept := (first_answer_is_kept hcache rfl rfl hcalls "select*from a join b,c".toList).2
    "select*from (select * from a join b) as q0,c".toList (by decide +kernel)
  have hnow := (hkept.2 [] (by simp)).2 "first".toList { nameLead := "p".toList }
    (by decide +kernel)
  exact hnow.1

end Workspace

end NestedJoin
