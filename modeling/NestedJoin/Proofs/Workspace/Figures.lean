/-
# Figures are not looked at

Caches and converters count what they do, and nothing they answer goes back to a count.  A workspace
that has lost its figures (`Workspace.eraseFigures`) takes every step as it would have with them, up
to the figures it gathers anew (`Workspace.erased_step`), and so answers every run as before
(`Workspace.answers_eraseFigures`).

Two workspaces that differ in their figures only can therefore stand for each other in a run
(`Workspace.answers_congr`).
-/
import NestedJoin.Proofs.Workspace.Requests

namespace NestedJoin

/-! ## 1. Values by name -/

namespace Keyed

variable {α β : Type}

/-- The list with every value changed, under the name it had. -/
def mapValues (f : α → β) (l : Keyed α) : Keyed β := l.map fun x => (x.1, f x.2)

theorem get?_mapValues (f : α → β) (key : Text) :
    ∀ l : Keyed α, get? (mapValues f l) key = (get? l key).map f
  | [] => rfl
  | (name, v) :: rest => by
    have ih := get?_mapValues f key rest
    simp only [mapValues, List.map_cons, get?] at ih ⊢
    split
    · rfl
    · exact ih

theorem mapValues_set (f : α → β) (key : Text) (v : α) :
    ∀ l : Keyed α, mapValues f (set l key v) = set (mapValues f l) key (f v)
  | [] => rfl
  | (name, old) :: rest => by
    have ih := mapValues_set f key v rest
    simp only [mapValues, List.map_cons, set] at ih ⊢
    split
    · rfl
    · rw [List.map_cons, ih]

/-- To set the value that is there already changes nothing. -/
theorem set_of_get? {key : Text} {v : α} : ∀ {l : Keyed α}, get? l key = some v → set l key v = l
  | [], h => by simp at h
  | (name, old) :: rest, h => by
    rw [get?] at h
    split at h
    · next hn =>
      obtain rfl := Option.some.inj h
      rw [set, if_pos hn]
    · next hn => rw [set, if_neg hn, set_of_get? h]

end Keyed

/-! ## 2. Caches and converters -/

namespace Cache

/-- The cache with its figures at zero. -/
def eraseFigures (c : Cache) : Cache := { c with hits := 0, misses := 0 }

@[simp] theorem eraseFigures_eraseFigures (c : Cache) :
    c.eraseFigures.eraseFigures = c.eraseFigures := rfl

/-- A lookup changes figures only, and finds what it finds whatever they are. -/
theorem eraseFigures_lookup (c : Cache) (sql : Text) :
    (c.lookup sql).2.eraseFigures = c.eraseFigures := by
  rw [lookup]
  split
  · split <;> rfl
  · rfl

theorem lookup_eraseFigures (c : Cache) (sql : Text) :
    (c.eraseFigures.lookup sql).1 = (c.lookup sql).1 := by
  cases c with
  | mk enabled entries hits misses =>
    cases enabled with
    | false => rfl
    | true =>
      simp only [eraseFigures, lookup, if_true]
      cases Keyed.get? entries sql <;> rfl

theorem eraseFigures_store (c : Cache) (sql answer : Text) :
    (c.store sql answer).eraseFigures = c.eraseFigures.store sql answer := by
  cases c with
  | mk enabled entries hits misses => cases enabled <;> rfl

end Cache

namespace Converter

/-- The converter with its counters at zero. -/
def eraseFigures (v : Converter) : Converter := { v with counters := {} }

@[simp] theorem eraseFigures_eraseFigures (v : Converter) :
    v.eraseFigures.eraseFigures = v.eraseFigures := rfl

/-- Of a converter, a conversion changes the counters only. -/
theorem eraseFigures_convert (v : Converter) (cache : Cache) (sql : Text) :
    (v.convert cache sql).value.converter.eraseFigures = v.eraseFigures := by
  rw [eraseFigures, eraseFigures, nameLead_convert]

/-- **A conversion answers, and stores, whatever the figures are.** -/
theorem convert_eraseFigures (v : Converter) (cache : Cache) (sql : Text) :
    (v.eraseFigures.convert cache.eraseFigures sql).value.answer =
        (v.convert cache sql).value.answer ∧
      (v.eraseFigures.convert cache.eraseFigures sql).value.cache.eraseFigures =
        (v.convert cache sql).value.cache.eraseFigures := by
  cases hc : Statement.clause? sql with
  | none =>
    rw [value_convert_of_no_clause hc, value_convert_of_no_clause hc]
    exact ⟨rfl, rfl⟩
  | some c =>
    have hfound := cache.lookup_eraseFigures sql
    have hleft := cache.eraseFigures_lookup sql
    have hleft' := cache.eraseFigures.eraseFigures_lookup sql
    rcases hl : cache.lookup sql with ⟨found, left⟩
    rcases hl' : cache.eraseFigures.lookup sql with ⟨found', left'⟩
    rw [hl] at hfound hleft
    rw [hl'] at hfound hleft'
    have hsame : left'.eraseFigures = left.eraseFigures := hleft'.trans hleft.symm
    obtain rfl : found' = found := hfound
    cases found' with
    | some answer =>
      rw [value_convert_of_hit hc hl, value_convert_of_hit hc hl']
      exact ⟨rfl, hsame⟩
    | none =>
      have hlead : v.eraseFigures.nameLead = v.nameLead := rfl
      rw [value_convert_of_miss hc hl, value_convert_of_miss hc hl', hlead]
      cases Statement.nest v.nameLead sql with
      | error m => exact ⟨rfl, hsame⟩
      | ok out =>
        refine ⟨rfl, ?_⟩
        show (left'.store sql out).eraseFigures = (left.store sql out).eraseFigures
        rw [Cache.eraseFigures_store, Cache.eraseFigures_store, hsame]

end Converter

namespace Driver

/-- The driver with the counters of its converter at zero; the commands it has built stay. -/
def eraseFigures (d : Driver) : Driver := { d with converter := d.converter.eraseFigures }

/-- **A command is built whatever the figures are.** -/
theorem generate_eraseFigures (d : Driver) (cache : Cache) (kind : CommandKind) (sql : Text)
    (parameters : List ParameterType) :
    let reply := (d.generate cache kind sql parameters).value
    let reply' := (d.eraseFigures.generate cache.eraseFigures kind sql parameters).value
    reply'.answer = reply.answer ∧ reply'.cache.eraseFigures = reply.cache.eraseFigures ∧
      reply'.driver.eraseFigures = reply.driver.eraseFigures := by
  cases hs : Statement.isSelect sql with
  | false =>
    rw [value_generate_of_not_select _ _ _ _ hs, value_generate_of_not_select _ _ _ _ hs]
    exact ⟨rfl, rfl, rfl⟩
  | true =>
    obtain ⟨hanswer, hcache⟩ := d.converter.convert_eraseFigures cache sql
    have hkept := d.converter.eraseFigures_convert cache sql
    have hkept' := d.converter.eraseFigures.eraseFigures_convert cache.eraseFigures sql
    have hconverter : d.eraseFigures.converter = d.converter.eraseFigures := rfl
    simp only [generate, if_pos hs, Logged.value_bind, hconverter, hanswer]
    cases (d.converter.convert cache sql).value.answer with
    | error m =>
      refine ⟨rfl, hcache, ?_⟩
      simp only [Logged.value_pure, eraseFigures, hkept, hkept',
        Converter.eraseFigures_eraseFigures]
    | ok result =>
      refine ⟨rfl, hcache, ?_⟩
      simp only [Logged.value_pure, build, eraseFigures, hkept, hkept',
        Converter.eraseFigures_eraseFigures]

end Driver

/-! ## 3. Units and workspaces -/

namespace Role

/-- The unit with the counters of its converter at zero. -/
def eraseFigures : Role → Role
  | .cache => .cache
  | .converter v => .converter v.eraseFigures
  | .driver d counting => .driver d.eraseFigures counting

@[simp] theorem eraseFigures_eraseFigures (role : Role) :
    role.eraseFigures.eraseFigures = role.eraseFigures := by
  cases role <;> rfl

theorem converter?_eraseFigures (role : Role) :
    role.eraseFigures.converter? = role.converter?.map Converter.eraseFigures := by
  cases role <;> rfl

theorem eraseFigures_setConverter (role : Role) (v : Converter) :
    (role.setConverter v).eraseFigures = role.eraseFigures.setConverter v.eraseFigures := by
  cases role <;> rfl

end Role

/-- The unit with the counters of its converter at zero. -/
def Member.eraseFigures (m : Member) : Member := { m with role := m.role.eraseFigures }

@[simp] theorem Member.eraseFigures_eraseFigures (m : Member) :
    m.eraseFigures.eraseFigures = m.eraseFigures := by
  rw [eraseFigures, eraseFigures, Role.eraseFigures_eraseFigures]

namespace Workspace

/-- The workspace with all figures at zero. -/
def eraseFigures (w : Workspace) : Workspace :=
  ⟨w.caches.map Cache.eraseFigures, Keyed.mapValues Member.eraseFigures w.members⟩

@[simp] theorem eraseFigures_eraseFigures (w : Workspace) :
    w.eraseFigures.eraseFigures = w.eraseFigures := by
  have hcache : Cache.eraseFigures ∘ Cache.eraseFigures = Cache.eraseFigures := rfl
  have hmember : ∀ x : Text × Member,
      (x.1, x.2.eraseFigures.eraseFigures) = (x.1, x.2.eraseFigures) := by simp
  simp only [eraseFigures, Keyed.mapValues, List.map_map, hcache, Function.comp_def, hmember]

theorem member?_eraseFigures (w : Workspace) (name : Text) :
    w.eraseFigures.member? name = (w.member? name).map Member.eraseFigures :=
  Keyed.get?_mapValues _ _ _

theorem cacheAt_eraseFigures (w : Workspace) (place : Nat) :
    w.eraseFigures.cacheAt place = (w.cacheAt place).eraseFigures := by
  rw [cacheAt, cacheAt, eraseFigures, List.getElem?_map]
  cases w.caches[place]? <;> rfl

theorem eraseFigures_setCache (w : Workspace) (place : Nat) (cache : Cache) :
    (w.setCache place cache).eraseFigures = w.eraseFigures.setCache place cache.eraseFigures := by
  simp only [eraseFigures, setCache, List.map_set]

theorem eraseFigures_setMember (w : Workspace) (name : Text) (m : Member) :
    (w.setMember name m).eraseFigures = w.eraseFigures.setMember name m.eraseFigures := by
  simp only [eraseFigures, setMember, Keyed.mapValues_set]

/-! ## 4. Steps and runs -/

/-- What a step answers, and what it leaves up to the figures. -/
def erased (x : StepResult × Workspace) : StepResult × Workspace := (x.1, x.2.eraseFigures)

/-- A new cache has no figures yet. -/
theorem addCache_eraseFigures (w : Workspace) (enabled : Bool) :
    w.eraseFigures.addCache { enabled := enabled } =
      ((w.addCache { enabled := enabled }).1.eraseFigures, w.caches.length) := by
  simp only [addCache, eraseFigures, List.map_append, List.map_cons, List.map_nil, List.length_map]
  rfl

theorem settle_eraseFigures (w : Workspace) (basis : Basis) :
    w.eraseFigures.settle basis = (w.settle basis).map fun x => (x.1.eraseFigures, x.2) := by
  cases basis with
  | document t =>
    cases hc : Config.ofDocument t with
    | error fault => simp only [settle, hc, Except.map]
    | ok config =>
      simp only [settle, hc, addCache_eraseFigures, Except.map]
      rfl
  | shared other =>
    rw [settle, settle, member?_eraseFigures]
    cases w.member? other <;> rfl
  | fresh enabled =>
    simp only [settle, addCache_eraseFigures, Except.map]
    rfl

theorem erased_make (w : Workspace) (name : Text) (basis : Basis) (role : Text → Role) :
    erased (w.eraseFigures.make name basis role) = erased (w.make name basis role) := by
  rw [make, make, settle_eraseFigures]
  cases w.settle basis with
  | error result => simp [erased, Except.map]
  | ok x => simp [erased, Except.map, eraseFigures_setMember]

theorem erased_convert (w : Workspace) (name : Text) (m : Member) (sql : Text) :
    erased (w.eraseFigures.convert name m.eraseFigures sql).value =
      erased (w.convert name m sql).value := by
  have hrole : m.eraseFigures.role.converter? = _ := m.role.converter?_eraseFigures
  cases hv : m.role.converter? with
  | none =>
    rw [hv] at hrole
    rw [value_convert_of_none hv, value_convert_of_none hrole]
    simp [erased]
  | some v =>
    rw [hv] at hrole
    obtain ⟨hanswer, hcache⟩ := v.convert_eraseFigures (w.cacheAt m.cacheAt) sql
    have hat : w.eraseFigures.cacheAt m.eraseFigures.cacheAt = (w.cacheAt m.cacheAt).eraseFigures :=
      w.cacheAt_eraseFigures m.cacheAt
    rw [value_convert hv, value_convert hrole, hat, erased, erased, hanswer, afterReply, afterReply]
    simp only [eraseFigures_setMember, eraseFigures_setCache, hcache, Member.eraseFigures,
      Role.eraseFigures_setConverter, Converter.eraseFigures_convert, eraseFigures_eraseFigures,
      Role.eraseFigures_eraseFigures, Converter.eraseFigures_eraseFigures]

theorem erased_explain (w : Workspace) (m : Member) (sql : Text) :
    erased (w.eraseFigures.explain m.eraseFigures sql).value = erased (w.explain m sql).value := by
  have hrole : m.eraseFigures.role.converter? = _ := m.role.converter?_eraseFigures
  cases hv : m.role.converter? with
  | none =>
    rw [hv] at hrole
    simp only [explain, hv, hrole]
    simp [erased]
  | some v =>
    rw [hv] at hrole
    simp only [explain, hv, hrole, Option.map_some, Converter.explain, Logged.value_bind]
    have hlead : v.eraseFigures.nameLead = v.nameLead := rfl
    rw [hlead]
    cases (Statement.explainLogged v.nameLead sql).value <;> simp [erased]

theorem erased_command (w : Workspace) (name : Text) (m : Member) (sql : Text)
    (kind parameters : Json) :
    erased (w.eraseFigures.command name m.eraseFigures sql kind parameters).value =
      erased (w.command name m sql kind parameters).value := by
  obtain ⟨place, role⟩ := m
  cases role with
  | cache => simp [Member.eraseFigures, Role.eraseFigures, command, erased]
  | converter v => simp [Member.eraseFigures, Role.eraseFigures, command, erased]
  | driver d counting =>
    cases hk : CommandKind.ofJson? kind with
    | none => simp [Member.eraseFigures, Role.eraseFigures, command, hk, erased]
    | some k =>
      cases hps : ParameterType.listOfJson? parameters with
      | none => simp [Member.eraseFigures, Role.eraseFigures, command, hk, hps, erased]
      | some ps =>
        obtain ⟨hanswer, hcache, hdriver⟩ := d.generate_eraseFigures (w.cacheAt place) k sql ps
        simp only [Member.eraseFigures, Role.eraseFigures]
        rw [value_command hk hps, value_command hk hps, cacheAt_eraseFigures, erased, erased, hanswer,
          renew, renew]
        simp only [eraseFigures_setMember, eraseFigures_setCache, hcache, hdriver,
          Member.eraseFigures, Role.eraseFigures, eraseFigures_eraseFigures]

theorem erased_act (w : Workspace) (name : Text) (m : Member) (action : Action) :
    erased (w.eraseFigures.act name m.eraseFigures action).value =
      erased (w.act name m action).value := by
  have hat : w.eraseFigures.cacheAt m.eraseFigures.cacheAt = (w.cacheAt m.cacheAt).eraseFigures :=
    w.cacheAt_eraseFigures m.cacheAt
  cases action with
  | convert sql => exact erased_convert w name m sql
  | explain sql => exact erased_explain w m sql
  | command sql kind parameters => exact erased_command w name m sql kind parameters
  | lookup sql =>
    simp only [act, hat, Cache.lookup_eraseFigures, Logged.value_pure, erased, eraseFigures_setCache,
      Cache.eraseFigures_lookup, eraseFigures_eraseFigures, Cache.eraseFigures_eraseFigures]
    rfl
  | store sql answer =>
    simp only [act, hat, Logged.value_pure, erased, eraseFigures_setCache, Cache.eraseFigures_store,
      eraseFigures_eraseFigures, Cache.eraseFigures_eraseFigures]
    rfl
  | _ => simp [act, erased]

/-- **A step is the same whatever the figures are**, up to the figures that it leaves. -/
theorem erased_step (w : Workspace) (s : Step) :
    erased (w.eraseFigures.step s).value = erased (w.step s).value := by
  obtain ⟨name, action⟩ := s
  have hmember := w.member?_eraseFigures name
  cases action with
  | makeCache basis => exact erased_make w name basis _
  | makeConverter basis given => exact erased_make w name basis _
  | makeDriver basis given => exact erased_make w name basis _
  | _ =>
    cases hm : w.member? name with
    | none =>
      rw [hm] at hmember
      simp [step, hm, hmember, erased]
    | some m =>
      rw [hm] at hmember
      rw [step, step]
      simp only [hm, hmember, Option.map_some]
      exact erased_act w name m _

/-- The answers to a sequence of steps. -/
def answers (w : Workspace) (steps : List Step) : List StepResult :=
  (w.run steps).value.map (·.1)

theorem answers_cons (w : Workspace) (s : Step) (rest : List Step) :
    w.answers (s :: rest) = (w.step s).value.1 :: (w.step s).value.2.answers rest := by
  rw [answers, run, Logged.value_bind, Logged.value_map, List.map_cons]
  rfl

theorem length_answers (w : Workspace) (steps : List Step) :
    (w.answers steps).length = steps.length := by
  induction steps generalizing w with
  | nil => rfl
  | cons s rest ih => rw [answers_cons, List.length_cons, ih, List.length_cons]

theorem answers_append (w : Workspace) (steps more : List Step) :
    w.answers (steps ++ more) = w.answers steps ++ (w.after steps).answers more := by
  induction steps generalizing w with
  | nil => rfl
  | cons s rest ih =>
    rw [List.cons_append, answers_cons, answers_cons, after_cons, ih, List.cons_append]

/-- **The answers of a run are the same whatever the figures are at its beginning.** -/
theorem answers_eraseFigures (w : Workspace) (steps : List Step) :
    w.eraseFigures.answers steps = w.answers steps := by
  induction steps generalizing w with
  | nil => rfl
  | cons s rest ih =>
    obtain ⟨hanswer, hleft⟩ := Prod.mk.inj (erased_step w s)
    -- The figures that the step gathers are lost once more before the rest of the run.
    rw [answers_cons, answers_cons, hanswer, ← ih, hleft, ih]

/-- Workspaces that differ in their figures only answer every run in the same way. -/
theorem answers_congr {w w' : Workspace} (h : w.eraseFigures = w'.eraseFigures)
    (steps : List Step) : w.answers steps = w'.answers steps := by
  rw [← answers_eraseFigures, h, answers_eraseFigures]

end Workspace

end NestedJoin
