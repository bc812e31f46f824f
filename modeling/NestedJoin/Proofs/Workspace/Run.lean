/-
# Calls on a workspace

A call asks a unit to convert a statement or to explain one.  Of all that a workspace holds, a call
changes at most one unit and the cache of that unit, and of the unit only the counters: every
converter keeps its cache and the lead of its names (`Workspace.lead?_after`).

The main statement is what one call can do (`Workspace.step_cases_of_call`); what is proved of a
sequence of calls here and in the modules that build on this one goes back to it, by induction over
the sequence.
-/
import NestedJoin.Workspace
import NestedJoin.Proofs.Converter.Uncached

namespace NestedJoin

/-! ## 1. What a sequence of steps leaves behind -/

namespace Workspace

/-- The workspace that a sequence of steps leaves behind. -/
def after (w : Workspace) (steps : List Step) : Workspace :=
  steps.foldl (fun w s => (w.step s).value.2) w

@[simp] theorem after_nil (w : Workspace) : w.after [] = w := rfl

@[simp] theorem after_cons (w : Workspace) (s : Step) (rest : List Step) :
    w.after (s :: rest) = (w.step s).value.2.after rest := rfl

theorem after_append (w : Workspace) (steps more : List Step) :
    w.after (steps ++ more) = (w.after steps).after more := List.foldl_append

/-- It is the workspace beside the last answer of the run. -/
theorem after_eq_run (w : Workspace) (steps : List Step) :
    w.after steps = (((w.run steps).value.getLast?).map (·.2)).getD w := by
  induction steps generalizing w with
  | nil => rfl
  | cons s rest ih =>
    rw [after_cons, ih, run, Logged.value_bind, Logged.value_map, List.getLast?_cons]
    cases ((w.step s).value.2.run rest).value.getLast? <;> rfl

end Workspace

/-! ## 2. Converters and their caches -/

theorem Role.converter?_setConverter {role : Role} {v : Converter}
    (h : role.converter? = some v) (v' : Converter) :
    (role.setConverter v').converter? = some v' := by
  cases role with
  | cache => exact absurd h (by simp [Role.converter?])
  | converter _ => rfl
  | driver d counting => rfl

namespace Workspace

/-- The converter of a name, if it has its cache at the place. -/
def sharer? (w : Workspace) (place : Nat) (name : Text) : Option Converter :=
  (w.member? name).bind fun m => if m.cacheAt = place then m.role.converter? else none

/-- The lead of the names of the converter of a name, if it has its cache at the place. -/
def lead? (w : Workspace) (place : Nat) (name : Text) : Option Text :=
  (w.sharer? place name).map (·.nameLead)

theorem sharer?_eq_some_iff {w : Workspace} {place : Nat} {name : Text} {v : Converter} :
    w.sharer? place name = some v ↔
      ∃ m, w.member? name = some m ∧ m.cacheAt = place ∧ m.role.converter? = some v := by
  simp [sharer?, Option.bind_eq_some_iff]

/-- The workspace after a converter has converted a statement: its cache and its counters are
those of the reply. -/
def afterReply (w : Workspace) (name : Text) (m : Member) (reply : Reply) : Workspace :=
  (w.setCache m.cacheAt reply.cache).setMember name
    { m with role := m.role.setConverter reply.converter }

theorem caches_afterReply (w : Workspace) (name : Text) (m : Member) (reply : Reply) :
    (w.afterReply name m reply).caches = w.caches.set m.cacheAt reply.cache := rfl

theorem member?_afterReply_self (w : Workspace) (name : Text) (m : Member) (reply : Reply) :
    (w.afterReply name m reply).member? name =
      some { m with role := m.role.setConverter reply.converter } :=
  member?_setMember_self _ _ _

theorem member?_afterReply_of_ne (w : Workspace) {name other : Text} (h : name ≠ other)
    (m : Member) (reply : Reply) : (w.afterReply name m reply).member? other = w.member? other :=
  member?_setMember_of_ne _ h _

/-- The converter at work is the one of the reply afterwards. -/
theorem sharer?_afterReply_self {m : Member} {v : Converter} (hv : m.role.converter? = some v)
    (w : Workspace) (name : Text) (reply : Reply) :
    (w.afterReply name m reply).sharer? m.cacheAt name = some reply.converter :=
  sharer?_eq_some_iff.mpr ⟨_, member?_afterReply_self w name m reply, rfl,
    Role.converter?_setConverter hv _⟩

/-- A reply that keeps the lead of the names changes no lead in the workspace. -/
theorem lead?_afterReply {w : Workspace} {name : Text} {m : Member} {v : Converter}
    (hm : w.member? name = some m) (hv : m.role.converter? = some v) {reply : Reply}
    (hlead : reply.converter.nameLead = v.nameLead) (place : Nat) (other : Text) :
    (w.afterReply name m reply).lead? place other = w.lead? place other := by
  by_cases h : name = other
  · subst h
    rw [lead?, lead?, sharer?, sharer?, member?_afterReply_self, hm]
    simp only [Option.bind_some]
    split
    · rw [Role.converter?_setConverter hv, hv, Option.map_some, Option.map_some, hlead]
    · rfl
  · rw [lead?, lead?, sharer?, sharer?, member?_afterReply_of_ne w h]

end Workspace

/-! ## 3. Calls -/

/-- The step asks for the nested form of a statement, or for the steps on the way to it. -/
def Action.isCall : Action → Bool
  | .convert _ | .explain _ => true
  | _ => false

/-- What a step answers where a converter gave this answer. -/
def StepResult.ofAnswer : Except MalformedChain Text → StepResult
  | .error chain => .failed (.malformedChain chain)
  | .ok result => .text result

theorem StepResult.ofAnswer_eq_text_iff {answer : Except MalformedChain Text} {t : Text} :
    ofAnswer answer = .text t ↔ answer = .ok t := by
  cases answer <;> simp [ofAnswer]

namespace Workspace

theorem value_convert_of_none {m : Member} (hv : m.role.converter? = none) (w : Workspace)
    (name sql : Text) : (w.convert name m sql).value = (.refused .notConverter, w) := by
  rw [convert, hv]
  rfl

theorem value_convert {m : Member} {v : Converter} (hv : m.role.converter? = some v)
    (w : Workspace) (name sql : Text) :
    (w.convert name m sql).value =
      (.ofAnswer (v.convert (w.cacheAt m.cacheAt) sql).value.answer,
        w.afterReply name m (v.convert (w.cacheAt m.cacheAt) sql).value) := by
  rw [convert, hv]
  simp only [Logged.value_bind]
  cases (v.convert (w.cacheAt m.cacheAt) sql).value.answer <;> rfl

theorem value_explain (w : Workspace) (m : Member) (sql : Text) :
    (w.explain m sql).value.2 = w := by
  rw [explain]
  cases m.role.converter? with
  | none => rfl
  | some v =>
    simp only [Logged.value_bind]
    cases (v.explain sql).value <;> rfl

/-- A unit's converter at work on a statement. -/
theorem value_step_convert {w : Workspace} {name : Text} {m : Member} {v : Converter}
    (hm : w.member? name = some m) (hv : m.role.converter? = some v) (sql : Text) :
    (w.step ⟨name, .convert sql⟩).value =
      (.ofAnswer (v.convert (w.cacheAt m.cacheAt) sql).value.answer,
        w.afterReply name m (v.convert (w.cacheAt m.cacheAt) sql).value) := by
  rw [step]
  simp only [hm, act, value_convert hv]

/-- **What a call can do**: nothing to the workspace, where the unit has no converter or only the
steps are asked for; or else what the unit's converter does. -/
theorem step_cases_of_call {s : Step} (h : s.action.isCall = true) (w : Workspace) :
    ((w.step s).value.2 = w ∧
      ∀ sql, s.action = .convert sql → ∀ place, w.sharer? place s.name = none) ∨
    ∃ sql m v, s = ⟨s.name, .convert sql⟩ ∧ w.member? s.name = some m ∧
      m.role.converter? = some v := by
  obtain ⟨name, action⟩ := s
  cases action with
  | convert sql =>
    cases hm : w.member? name with
    | none =>
      left
      rw [step]
      simp [hm, sharer?]
    | some m =>
      cases hv : m.role.converter? with
      | none =>
        left
        rw [step]
        simp [hm, act, value_convert_of_none hv, sharer?, hv]
      | some v => exact .inr ⟨sql, m, v, rfl, rfl, hv⟩
  | explain sql =>
    left
    rw [step]
    cases hm : w.member? name with
    | none => simp
    | some m => simp [act, value_explain]
  | _ => exact absurd h (by simp [Action.isCall])

/-- A call changes no lead. -/
theorem lead?_step {s : Step} (h : s.action.isCall = true) (w : Workspace) (place : Nat)
    (other : Text) : (w.step s).value.2.lead? place other = w.lead? place other := by
  rcases step_cases_of_call h w with ⟨hw, -⟩ | ⟨sql, m, v, hs, hm, hv⟩
  · rw [hw]
  · rw [hs, value_step_convert hm hv]
    exact lead?_afterReply hm hv (Converter.nameLead_convert _ _ _) place other

/-- **Calls change no lead.** -/
theorem lead?_after {steps : List Step} (h : ∀ s ∈ steps, s.action.isCall = true) (w : Workspace)
    (place : Nat) (other : Text) : (w.after steps).lead? place other = w.lead? place other := by
  induction steps generalizing w with
  | nil => rfl
  | cons s rest ih =>
    rw [after_cons, ih fun t ht => h t (.tail s ht)]
    exact lead?_step (h s (.head rest)) w place other

end Workspace

end NestedJoin
