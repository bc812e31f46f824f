/-
# Requests to a workspace

A unit is asked to convert a statement, to explain one, or to build a command.  Of these only some
set a converter to work (`Workspace.given?`): an explanation goes past the counters, and a driver
takes only a SELECT to its converter.

The main statement is what one request can do (`Workspace.step_cases_of_request`): it leaves every
converter and every cache as it is, or the converter of the unit converts the statement it is given,
with the cache of the unit.  How such a conversion ends (`Workspace.ending?`) is what is counted:

* `sharer?_step`: by the converter, and by no other;
* `cache_step`: by the cache, if it is switched on;
* `total_step`: and so in the sum over the converters that share a cache.
-/
import NestedJoin.Proofs.Converter.Endings
import NestedJoin.Proofs.Workspace.Run

namespace NestedJoin

/-! ## 1. Values by name -/

namespace Keyed

variable {α : Type}

theorem mem_of_get? {l : Keyed α} {name : Text} {v : α} (h : get? l name = some v) :
    (name, v) ∈ l := by
  induction l with
  | nil => exact absurd h (by simp)
  | cons x rest ih =>
    obtain ⟨other, v'⟩ := x
    rw [get?] at h
    split at h
    · next heq =>
      obtain rfl := Option.some.inj h
      subst heq
      exact List.mem_cons_self
    · exact List.mem_cons_of_mem _ (ih h)

/-- In a sum over all values, a new value takes the place of the old one. -/
theorem sum_map_set (f : α → Nat) {key : Text} {old : α} (v : α) :
    ∀ {l : Keyed α}, get? l key = some old →
      ((set l key v).map fun x => f x.2).sum + f old = (l.map fun x => f x.2).sum + f v
  | [], h => by simp at h
  | (name, other) :: rest, h => by
    by_cases hn : name = key
    · rw [get?, if_pos hn] at h
      obtain rfl := Option.some.inj h
      simp only [set, if_pos hn, List.map_cons, List.sum_cons]
      omega
    · rw [get?, if_neg hn] at h
      have ih := sum_map_set f v h
      simp only [set, if_neg hn, List.map_cons, List.sum_cons]
      omega

end Keyed

/-! ## 2. Commands -/

namespace Driver

variable (d : Driver) (cache : Cache) (kind : CommandKind) (parameters : List ParameterType)

/-- The command for a SELECT comes of a conversion. -/
theorem generate_of_select {sql : Text} (h : Statement.isSelect sql = true) :
    (d.generate cache kind sql parameters).value.driver.converter =
        (d.converter.convert cache sql).value.converter ∧
      (d.generate cache kind sql parameters).value.cache =
        (d.converter.convert cache sql).value.cache ∧
      ∀ m, (d.generate cache kind sql parameters).value.answer = .error m ↔
        (d.converter.convert cache sql).value.answer = .error m := by
  rw [generate, if_pos h]
  simp only [Logged.value_bind]
  cases (d.converter.convert cache sql).value.answer with
  | error m => exact ⟨rfl, rfl, fun _ => by simp⟩
  | ok result => exact ⟨rfl, rfl, fun _ => by simp [build]⟩

/-- Every other command takes its statement as it is. -/
theorem value_generate_of_not_select {sql : Text} (h : Statement.isSelect sql = false) :
    (d.generate cache kind sql parameters).value = d.build cache ⟨kind, sql, parameters⟩ := by
  rw [generate, if_neg (by simp [h])]
  rfl

end Driver

namespace StepResult

/-- The step failed on a malformed chain, or in another of the ways a unit can fail. -/
def isFailed : StepResult → Bool
  | .failed _ => true
  | _ => false

/-- What a step answers where a driver gave this answer. -/
def ofCommand : Except MalformedChain Command → StepResult
  | .error chain => .failed (.malformedChain chain)
  | .ok c => .command c

theorem isFailed_ofAnswer {answer : Except MalformedChain Text} :
    (ofAnswer answer).isFailed = true ↔ ∃ m, answer = .error m := by
  cases answer <;> simp [ofAnswer, isFailed]

theorem isFailed_ofCommand {answer : Except MalformedChain Command} :
    (ofCommand answer).isFailed = true ↔ ∃ m, answer = .error m := by
  cases answer <;> simp [ofCommand, isFailed]

end StepResult

/-! ## 3. What a request gives to a converter -/

/-- The step asks a unit to convert a statement, to explain one, or to build a command. -/
def Action.isRequest : Action → Bool
  | .convert _ | .explain _ | .command .. => true
  | _ => false

/-- The statement that the converter of a unit is given when the unit is asked for something.  Of a
command it is given a SELECT only, and nothing if the descriptors cannot be read. -/
def Role.given? : Role → Action → Option Text
  | .converter _, .convert sql => some sql
  | .driver _ _, .convert sql => some sql
  | .driver _ _, .command sql kind parameters =>
    if Statement.isSelect sql = true ∧ (CommandKind.ofJson? kind).isSome = true ∧
        (ParameterType.listOfJson? parameters).isSome = true then some sql
    else none
  | _, _ => none

/-- To convert a statement is to give it to the converter, if there is one. -/
theorem Role.given?_convert (role : Role) (sql : Text) :
    role.given? (.convert sql) = role.converter?.map fun _ => sql := by
  cases role <;> rfl

/-- An explanation gives nothing to the converter. -/
theorem Role.given?_explain (role : Role) (sql : Text) : role.given? (.explain sql) = none := by
  cases role <;> rfl

/-- A figure of the converter of a unit, if it shares the cache at a place. -/
def Member.figureAt (m : Member) (place : Nat) (figure : Counters → Nat) : Nat :=
  if m.cacheAt = place then (m.role.converter?.map fun v => figure v.counters).getD 0 else 0

namespace Workspace

/-- The statement that a step gives to the converter of its unit. -/
def given? (w : Workspace) (s : Step) : Option Text :=
  (w.member? s.name).bind fun m => m.role.given? s.action

/-! ## 4. What a unit leaves behind -/

/-- The workspace after a unit has been at work: the unit's part and its cache are those given. -/
def renew (w : Workspace) (name : Text) (m : Member) (role : Role) (cache : Cache) : Workspace :=
  (w.setCache m.cacheAt cache).setMember name { m with role := role }

/-- A figure of the converters that share the cache at a place, summed up. -/
def total (w : Workspace) (place : Nat) (figure : Counters → Nat) : Nat :=
  (w.members.map fun x => x.2.figureAt place figure).sum

theorem member?_renew (w : Workspace) (name : Text) (m : Member) (role : Role) (cache : Cache)
    (other : Text) :
    (w.renew name m role cache).member? other =
      if name = other then some { m with role := role } else w.member? other := by
  split
  · next h => exact h ▸ member?_setMember_self _ _ _
  · next h => exact member?_setMember_of_ne _ h _

theorem caches_renew (w : Workspace) (name : Text) (m : Member) (role : Role) (cache : Cache) :
    (w.renew name m role cache).caches = w.caches.set m.cacheAt cache := rfl

/-- The converters of a workspace after one unit has been at work. -/
theorem sharer?_renew {w : Workspace} {name : Text} {m : Member} (hm : w.member? name = some m)
    (role : Role) (cache : Cache) (place : Nat) (other : Text) :
    (w.renew name m role cache).sharer? place other =
      if name = other ∧ m.cacheAt = place then role.converter? else w.sharer? place other := by
  rw [sharer?, member?_renew]
  by_cases hn : name = other
  · subst hn
    by_cases hp : m.cacheAt = place <;> simp [sharer?, hm, hp]
  · simp [sharer?, hn]

/-- A sum over the converters after one unit has been at work. -/
theorem total_renew {w : Workspace} {name : Text} {m : Member} (hm : w.member? name = some m)
    (role : Role) (cache : Cache) (place : Nat) (figure : Counters → Nat) :
    (w.renew name m role cache).total place figure + m.figureAt place figure =
      w.total place figure + ({ m with role := role } : Member).figureAt place figure :=
  Keyed.sum_map_set (fun m : Member => m.figureAt place figure) { m with role := role } hm

/-- Two workspaces with the same caches, the same converters and the same sums. -/
structure Alike (w w' : Workspace) : Prop where
  caches : w'.caches = w.caches
  sharer : ∀ place name, w'.sharer? place name = w.sharer? place name
  total : ∀ place figure, w'.total place figure = w.total place figure

theorem Alike.refl (w : Workspace) : w.Alike w := ⟨rfl, fun _ _ => rfl, fun _ _ => rfl⟩

theorem set_cacheAt (w : Workspace) (place : Nat) :
    w.caches.set place (w.cacheAt place) = w.caches := by
  refine List.ext_getElem? fun i => ?_
  rw [List.getElem?_set, cacheAt]
  split
  · next h =>
    subst h
    split
    · next hlt => simp [List.getElem?_eq_getElem hlt]
    · next hlt => rw [List.getElem?_eq_none (Nat.le_of_not_lt hlt)]
  · rfl

/-- A unit that keeps its converter and its cache. -/
theorem alike_renew {w : Workspace} {name : Text} {m : Member} (hm : w.member? name = some m)
    {role : Role} (hrole : role.converter? = m.role.converter?) :
    w.Alike (w.renew name m role (w.cacheAt m.cacheAt)) := by
  refine ⟨set_cacheAt w m.cacheAt, fun place other => ?_, fun place figure => ?_⟩
  · rw [sharer?_renew hm]
    split
    · next h =>
      obtain ⟨rfl, rfl⟩ := h
      simp [sharer?, hm, hrole]
    · rfl
  · have h := total_renew hm role (w.cacheAt m.cacheAt) place figure
    have hsame : ({ m with role := role } : Member).figureAt place figure =
        m.figureAt place figure := by
      simp only [Member.figureAt, hrole]
    rw [hsame] at h
    exact Nat.add_right_cancel h

/-! ## 5. Requests -/

theorem value_command {kind parameters : Json} {k : CommandKind} {ps : List ParameterType}
    (hk : CommandKind.ofJson? kind = some k)
    (hps : ParameterType.listOfJson? parameters = some ps) (w : Workspace) (name : Text)
    (place : Nat) (d : Driver) (counting : Bool) (sql : Text) :
    (w.command name ⟨place, .driver d counting⟩ sql kind parameters).value =
      (.ofCommand (d.generate (w.cacheAt place) k sql ps).value.answer,
        w.renew name ⟨place, .driver d counting⟩
          (.driver (d.generate (w.cacheAt place) k sql ps).value.driver counting)
          (d.generate (w.cacheAt place) k sql ps).value.cache) := by
  rw [command]
  simp only [hk, hps, Logged.value_bind]
  cases (d.generate (w.cacheAt place) k sql ps).value.answer <;> rfl

theorem value_step_command {w : Workspace} {name : Text} {m : Member}
    (hm : w.member? name = some m) (sql : Text) (kind parameters : Json) :
    (w.step ⟨name, .command sql kind parameters⟩).value =
      (w.command name m sql kind parameters).value := by
  rw [step]
  simp only [hm, act]

/-- The step has given a statement to the converter of a unit, which has converted it with the cache
of the unit. -/
structure Converted (w : Workspace) (s : Step) (sql : Text) (m : Member) (v : Converter) : Prop where
  given : w.given? s = some sql
  member : w.member? s.name = some m
  converter : m.role.converter? = some v
  /-- The unit has the converter of the reply, its cache is that of the reply, and nothing else has
  changed. -/
  left : ∃ role, role.converter? = some (v.convert (w.cacheAt m.cacheAt) sql).value.converter ∧
    (w.step s).value.2 = w.renew s.name m role (v.convert (w.cacheAt m.cacheAt) sql).value.cache
  failed : (w.step s).value.1.isFailed = true ↔
    ∃ e, (v.convert (w.cacheAt m.cacheAt) sql).value.answer = .error e

/-- What is left of a step that is no conversion. -/
def Spared (w : Workspace) (s : Step) : Prop := w.given? s = none ∧ w.Alike (w.step s).value.2

theorem Spared.of_value {w : Workspace} {s : Step} (result : StepResult)
    (hgiven : w.given? s = none) (h : (w.step s).value = (result, w)) : w.Spared s :=
  ⟨hgiven, by rw [h]; exact .refl w⟩

section Cases

variable {w : Workspace} {name : Text}

/-- A statement that a unit is asked to convert. -/
theorem step_cases_of_convert {m : Member} (hm : w.member? name = some m) (sql : Text) :
    w.Spared ⟨name, .convert sql⟩ ∨ ∃ v, w.Converted ⟨name, .convert sql⟩ sql m v := by
  cases hv : m.role.converter? with
  | none =>
    refine .inl (.of_value (.refused .notConverter) ?_ ?_)
    · simp [given?, hm, Role.given?_convert, hv]
    · rw [step]
      simp only [hm, act, value_convert_of_none hv]
  | some v =>
    have hstep := value_step_convert hm hv sql
    refine .inr ⟨v, ?_, hm, hv, ⟨_, Role.converter?_setConverter hv _, ?_⟩, ?_⟩
    · simp [given?, hm, Role.given?_convert, hv]
    · rw [hstep]
      rfl
    · rw [hstep, StepResult.isFailed_ofAnswer]

/-- A command that a unit is asked to build. -/
theorem step_cases_of_command {m : Member} (hm : w.member? name = some m) (sql : Text)
    (kind parameters : Json) :
    w.Spared ⟨name, .command sql kind parameters⟩ ∨
      ∃ v, w.Converted ⟨name, .command sql kind parameters⟩ sql m v := by
  have hstep := value_step_command hm sql kind parameters
  obtain ⟨place, role⟩ := m
  cases role with
  | cache =>
    exact .inl (.of_value _ (by simp [given?, hm, Role.given?]) (hstep.trans rfl))
  | converter v =>
    exact .inl (.of_value _ (by simp [given?, hm, Role.given?]) (hstep.trans rfl))
  | driver d counting =>
    cases hk : CommandKind.ofJson? kind with
    | none =>
      refine .inl (.of_value .badDescriptor (by simp [given?, hm, Role.given?, hk]) ?_)
      rw [hstep, command]
      simp only [hk]
      rfl
    | some k =>
      cases hps : ParameterType.listOfJson? parameters with
      | none =>
        refine .inl (.of_value .badDescriptor
          (by simp [given?, hm, Role.given?, hps]) ?_)
        rw [hstep, command]
        simp only [hk, hps]
        rfl
      | some ps =>
        rw [value_command hk hps] at hstep
        cases hs : Statement.isSelect sql with
        | false =>
          left
          rw [Driver.value_generate_of_not_select d _ k ps hs] at hstep
          refine ⟨by simp [given?, hm, Role.given?, hs], ?_⟩
          rw [hstep]
          exact alike_renew hm rfl
        | true =>
          right
          obtain ⟨hv, hcache, hanswer⟩ := d.generate_of_select (w.cacheAt place) k ps hs
          refine ⟨d.converter, ?_, hm, rfl,
            ⟨.driver (d.generate (w.cacheAt place) k sql ps).value.driver counting,
              congrArg some hv, ?_⟩, ?_⟩
          · simp [given?, hm, Role.given?, hk, hps, hs]
          · rw [hstep, hcache]
          · rw [hstep, StepResult.isFailed_ofCommand]
            exact exists_congr hanswer

end Cases

/-- **What a request can do**: leave every converter and every cache as it is, or have the converter
of its unit convert the statement it is given. -/
theorem step_cases_of_request {s : Step} (h : s.action.isRequest = true) (w : Workspace) :
    w.Spared s ∨ ∃ sql m v, w.Converted s sql m v := by
  obtain ⟨name, action⟩ := s
  cases hm : w.member? name with
  | none =>
    refine .inl (.of_value (.refused .noSuchUnit) (by simp [given?, hm]) ?_)
    cases action with
    | convert _ | explain _ | command _ _ _ =>
      rw [step]
      simp only [hm]
      rfl
    | _ => exact absurd h (by simp [Action.isRequest])
  | some m =>
    cases action with
    | convert sql =>
      refine (step_cases_of_convert hm sql).imp_right ?_
      rintro ⟨v, hc⟩
      exact ⟨sql, m, v, hc⟩
    | explain sql =>
      left
      refine ⟨by simp [given?, hm, Role.given?_explain], ?_⟩
      rw [step]
      simp only [hm, act, value_explain]
      exact .refl w
    | command sql kind parameters =>
      refine (step_cases_of_command hm sql kind parameters).imp_right ?_
      rintro ⟨v, hc⟩
      exact ⟨sql, m, v, hc⟩
    | _ => exact absurd h (by simp [Action.isRequest])

/-! ## 6. What is counted -/

/-- How the conversion of a step ends, if the step is one, by a converter that shares the cache at
the place. -/
def ending? (w : Workspace) (place : Nat) (s : Step) : Option Ending :=
  (w.sharer? place s.name).bind fun v => (w.given? s).map fun sql => v.ending (w.cacheAt place) sql

theorem Spared.ending?_eq_none {w : Workspace} {s : Step} (h : w.Spared s) (place : Nat) :
    w.ending? place s = none := by
  simp [ending?, h.1]

theorem Converted.ending? {w : Workspace} {s : Step} {sql : Text} {m : Member} {v : Converter}
    (h : w.Converted s sql m v) (place : Nat) :
    w.ending? place s =
      if m.cacheAt = place then some (v.ending (w.cacheAt m.cacheAt) sql) else none := by
  split
  · next hp =>
    subst hp
    have hshare : w.sharer? m.cacheAt s.name = some v :=
      sharer?_eq_some_iff.mpr ⟨m, h.member, rfl, h.converter⟩
    simp [Workspace.ending?, hshare, h.given]
  · next hp => simp [Workspace.ending?, sharer?, h.member, hp]

section Counting

variable {w : Workspace} {s : Step}

/-- **The converter of the unit counts the ending**, and no other converter does. -/
theorem sharer?_step (h : s.action.isRequest = true) (place : Nat) (name : Text) :
    (w.step s).value.2.sharer? place name =
      (w.sharer? place name).map fun v =>
        if s.name = name then
          { v with counters := (w.ending? place s).elim v.counters v.counters.count }
        else v := by
  rcases step_cases_of_request h w with hspared | ⟨sql, m, v, hconv⟩
  · rw [hspared.2.sharer, hspared.ending?_eq_none]
    simp
  · obtain ⟨role, hrole, hleft⟩ := hconv.left
    rw [hleft, sharer?_renew hconv.member, hconv.ending?]
    by_cases hn : s.name = name
    · subst hn
      by_cases hp : m.cacheAt = place
      · have hshare : w.sharer? place s.name = some v :=
          sharer?_eq_some_iff.mpr ⟨m, hconv.member, hp, hconv.converter⟩
        rw [if_pos ⟨rfl, hp⟩, if_pos hp, hrole, hshare, Converter.converter_convert]
        simp
      · have hshare : w.sharer? place s.name = none := by simp [sharer?, hconv.member, hp]
        simp [hp, hshare]
    · simp [hn]

/-- **The cache counts the ending**, if it is switched on; it is not switched on or off. -/
theorem cache_step (h : s.action.isRequest = true) {place : Nat} {c' : Cache}
    (hc' : (w.step s).value.2.caches[place]? = some c') :
    ∃ c, w.caches[place]? = some c ∧ c'.enabled = c.enabled ∧
      (c.enabled = true → c'.stats = (w.ending? place s).elim c.stats c.stats.count) ∧
      (c.enabled = false → c' = c ∧ w.ending? place s ≠ some .found) := by
  rcases step_cases_of_request h w with hspared | ⟨sql, m, v, hconv⟩
  · rw [hspared.2.caches] at hc'
    rw [hspared.ending?_eq_none]
    exact ⟨c', hc', rfl, fun _ => rfl, fun _ => ⟨rfl, by simp⟩⟩
  · obtain ⟨role, -, hleft⟩ := hconv.left
    rw [hleft, caches_renew, List.getElem?_set] at hc'
    rw [hconv.ending?]
    by_cases hp : m.cacheAt = place
    · subst hp
      rw [if_pos rfl] at hc'
      split at hc'
      · next hlt =>
        obtain rfl := Option.some.inj hc'
        have hat : w.caches[m.cacheAt]? = some (w.cacheAt m.cacheAt) := by
          rw [cacheAt, List.getElem?_eq_getElem hlt, Option.getD_some]
        rw [if_pos rfl]
        refine ⟨_, hat, Converter.enabled_convert _ v sql, fun hon => ?_, fun hoff => ?_⟩
        · exact Converter.stats_convert hon v sql
        · obtain ⟨hsame, hne⟩ := Converter.convert_of_disabled hoff v sql
          exact ⟨hsame, by simpa using hne⟩
      · exact absurd hc' (by simp)
    · rw [if_neg hp] at hc'
      rw [if_neg hp]
      exact ⟨c', hc', rfl, fun _ => rfl, fun _ => ⟨rfl, by simp⟩⟩

/-- **A sum over the converters grows by what the ending adds to the one at work.** -/
theorem total_step (h : s.action.isRequest = true) {place : Nat} (figure : Counters → Nat)
    (gain : Ending → Nat)
    (hgain : ∀ v e, w.sharer? place s.name = some v →
      figure (v.counters.count e) = figure v.counters + gain e) :
    (w.step s).value.2.total place figure =
      w.total place figure + (w.ending? place s).elim 0 gain := by
  rcases step_cases_of_request h w with hspared | ⟨sql, m, v, hconv⟩
  · rw [hspared.2.total, hspared.ending?_eq_none]
    rfl
  · obtain ⟨role, hrole, hleft⟩ := hconv.left
    have htotal := total_renew hconv.member role
      (v.convert (w.cacheAt m.cacheAt) sql).value.cache place figure
    rw [hleft, hconv.ending?]
    by_cases hp : m.cacheAt = place
    · have hshare : w.sharer? place s.name = some v :=
        sharer?_eq_some_iff.mpr ⟨m, hconv.member, hp, hconv.converter⟩
      have hstep := hgain v (v.ending (w.cacheAt m.cacheAt) sql) hshare
      simp only [Member.figureAt, if_pos hp, hconv.converter, hrole, Option.map_some,
        Option.getD_some, Converter.converter_convert, hstep] at htotal
      rw [if_pos hp, Option.elim_some]
      omega
    · simp only [Member.figureAt, if_neg hp] at htotal
      rw [if_neg hp, Option.elim_none]
      exact htotal

/-- The sums over the converters that share a cache, before and after a request that ends so for one
of them, or for none. -/
structure Growth (w w' : Workspace) (place : Nat) (e : Option Ending) : Prop where
  passed : w'.total place (·.passed) =
    w.total place (·.passed) + if e = some .passed then 1 else 0
  failures : w'.total place (·.failures) =
    w.total place (·.failures) + if e = some .failed then 1 else 0
  conversions : w'.total place (·.conversions) =
    w.total place (·.conversions) + if e = some .failed ∨ e = some .nested then 1 else 0
  cacheHits : w'.total place (·.cacheHits) =
    w.total place (·.cacheHits) + if e = some .found then 1 else 0
  entries : (w'.total place fun k => k.conversions - k.failures) =
    (w.total place fun k => k.conversions - k.failures) + if e = some .nested then 1 else 0

/-- **What a request adds to the sums**, where no converter has failed more often than nested. -/
theorem growth_step (h : s.action.isRequest = true) {place : Nat}
    (hle : ∀ v, w.sharer? place s.name = some v → v.counters.failures ≤ v.counters.conversions) :
    w.Growth (w.step s).value.2 place (w.ending? place s) := by
  constructor
  · rw [total_step h _ (fun e => if e = .passed then 1 else 0) fun v e _ => by cases e <;> rfl]
    cases w.ending? place s <;> simp
  · rw [total_step h _ (fun e => if e = .failed then 1 else 0) fun v e _ => by cases e <;> rfl]
    cases w.ending? place s <;> simp
  · rw [total_step h _ (fun e => if e = .failed ∨ e = .nested then 1 else 0)
      fun v e _ => by cases e <;> rfl]
    cases w.ending? place s <;> simp
  · rw [total_step h _ (fun e => if e = .found then 1 else 0) fun v e _ => by cases e <;> rfl]
    cases w.ending? place s <;> simp
  · -- Here a failure counts as one less, so it must not go below zero.
    rw [total_step h _ (fun e => if e = .nested then 1 else 0) fun v e hv => by
      have hv := hle v hv
      cases e <;> simp [Counters.count]
      omega]
    cases w.ending? place s <;> simp

end Counting

end Workspace

end NestedJoin
