/-
# Workspaces

A workspace holds named units: caches, converters and drivers.  Converters and drivers refer to
their cache by its place, so that several units may share one; a cache keeps its place and is
never dropped.

A step works on one unit, or makes one; making a unit under a name that is taken replaces it, and
a step that fails to make one changes nothing.

The main statements: a unit that was put under a name is found there
(`member?_setMember_self`) and the units of other names stay (`member?_setMember_of_ne`).
-/
import NestedJoin.Config
import NestedJoin.Driver
import NestedJoin.HitRate
import NestedJoin.Keyed

namespace NestedJoin

/-! ## 1. Units -/

/-- What a unit does. -/
inductive Role where
  /-- Nothing but give its cache a name. -/
  | cache
  | converter (v : Converter)
  /-- A driver, and whether it shows how many commands it has built. -/
  | driver (d : Driver) (counting : Bool)
  deriving DecidableEq, Repr

namespace Role

/-- The converter of a unit. -/
def converter? : Role → Option Converter
  | .cache => none
  | .converter v => some v
  | .driver d _ => some d.converter

/-- The unit with another converter. -/
def setConverter (v : Converter) : Role → Role
  | .cache => .cache
  | .converter _ => .converter v
  | .driver d counting => .driver { d with converter := v } counting

end Role

/-- A unit: the place of its cache, and what it does. -/
structure Member where
  cacheAt : Nat
  role : Role
  deriving DecidableEq, Repr

/-- A workspace: its caches by place, and its units by name. -/
structure Workspace where
  caches : List Cache := []
  members : Keyed Member := []
  deriving DecidableEq, Repr

namespace Workspace

/-- The unit of a name. -/
def member? (w : Workspace) (name : Text) : Option Member := Keyed.get? w.members name

/-- The cache at a place. -/
def cacheAt (w : Workspace) (place : Nat) : Cache := w.caches[place]?.getD {}

/-- The workspace with another cache at a place. -/
def setCache (w : Workspace) (place : Nat) (cache : Cache) : Workspace :=
  { w with caches := w.caches.set place cache }

/-- The workspace with a unit under a name, in place of an earlier one. -/
def setMember (w : Workspace) (name : Text) (m : Member) : Workspace :=
  { w with members := Keyed.set w.members name m }

theorem member?_setMember_self (w : Workspace) (name : Text) (m : Member) :
    (w.setMember name m).member? name = some m := Keyed.get?_set_self _ _ _

theorem member?_setMember_of_ne (w : Workspace) {name other : Text} (h : name ≠ other)
    (m : Member) : (w.setMember name m).member? other = w.member? other :=
  Keyed.get?_set_of_ne h _ _

/-- A new cache, and its place. -/
def addCache (w : Workspace) (cache : Cache) : Workspace × Nat :=
  ({ w with caches := w.caches ++ [cache] }, w.caches.length)

end Workspace

/-! ## 2. Steps -/

/-- Where a new unit has its cache and its settings from. -/
inductive Basis where
  /-- A TOML document. -/
  | document (t : Text)
  /-- The cache of another unit, and the default settings. -/
  | shared (name : Text)
  /-- A new cache, switched on or off, and the default settings. -/
  | fresh (enabled : Bool)
  deriving DecidableEq, Repr

/-- What a step does. -/
inductive Action where
  | makeCache (basis : Basis)
  /-- A new converter, with another lead of its derived names if one is given. -/
  | makeConverter (basis : Basis) (nameLead : Option Text)
  /-- A new driver, with another lead of its derived names if one is given. -/
  | makeDriver (basis : Basis) (nameLead : Option Text)
  | lookup (sql : Text)
  | store (sql answer : Text)
  /-- Nothing; the state of the unit is asked for. -/
  | look
  | convert (sql : Text)
  | explain (sql : Text)
  | command (sql : Text) (kind parameters : Json)
  /-- Something that no unit can do. -/
  | unknown
  deriving Repr

/-- A step: the name of a unit and what to do. -/
structure Step where
  name : Text
  action : Action
  deriving Repr

/-- Why a step is refused. -/
inductive Refusal where
  | noSuchUnit
  | unknownStep
  | notDriver
  | notConverter
  deriving DecidableEq, Repr

/-- The wording of a refusal. -/
def Refusal.message : Refusal → Text
  | .noSuchUnit => "no such unit".toList
  | .unknownStep => "unknown step".toList
  | .notDriver => "not a driver".toList
  | .notConverter => "not a translator".toList

/-- What a step answers. -/
inductive StepResult where
  | done
  | text (t : Text)
  | absent
  | explanation (e : Statement.Explanation)
  | command (c : Command)
  /-- A descriptor that cannot be read. -/
  | badDescriptor
  | failed (e : Error)
  | refused (r : Refusal)
  deriving Repr

namespace Workspace

/-- The place of the cache and the lead of derived names that a basis gives, and the workspace
with that cache. -/
def settle (w : Workspace) : Basis → Except StepResult (Workspace × Nat × Text)
  | .document t =>
    match Config.ofDocument t with
    | .error fault => .error (.failed (.config fault))
    | .ok config =>
      let (w, place) := w.addCache { enabled := config.cacheEnabled }
      .ok (w, place, config.nameLead)
  | .shared name =>
    match w.member? name with
    | none => .error (.refused .noSuchUnit)
    | some m => .ok (w, m.cacheAt, Group.defaultNameLead)
  | .fresh enabled =>
    let (w, place) := w.addCache { enabled := enabled }
    .ok (w, place, Group.defaultNameLead)

/-- A new unit under a name, by a basis and the lead of derived names. -/
def make (w : Workspace) (name : Text) (basis : Basis) (role : Text → Role) :
    StepResult × Workspace :=
  match w.settle basis with
  | .error result => (result, w)
  | .ok (w', place, nameLead) => (.done, w'.setMember name ⟨place, role nameLead⟩)

/-- A driver from a document keeps the document's lead, and shows no count; neither does one for
which nothing was given. -/
def driverRole (basis : Basis) (given : Option Text) (nameLead : Text) : Role :=
  match basis, given with
  | .document _, _ => .driver { converter := { nameLead := nameLead } } false
  | .fresh _, none => .driver { converter := { nameLead := nameLead } } false
  | _, given => .driver { converter := { nameLead := given.getD nameLead } } true

/-- A statement converted by a unit. -/
def convert (w : Workspace) (name : Text) (m : Member) (sql : Text) :
    Logged (StepResult × Workspace) :=
  match m.role.converter? with
  | none => pure (.refused .notConverter, w)
  | some v => do
    let reply ← v.convert (w.cacheAt m.cacheAt) sql
    let w := (w.setCache m.cacheAt reply.cache).setMember name
      { m with role := m.role.setConverter reply.converter }
    match reply.answer with
    | .error chain => pure (.failed (.malformedChain chain), w)
    | .ok result => pure (.text result, w)

/-- A statement explained by a unit. -/
def explain (w : Workspace) (m : Member) (sql : Text) : Logged (StepResult × Workspace) :=
  match m.role.converter? with
  | none => pure (.refused .notConverter, w)
  | some v => do
    match ← v.explain sql with
    | .error chain => pure (.failed (.malformedChain chain), w)
    | .ok e => pure (.explanation e, w)

/-- A command built by a unit. -/
def command (w : Workspace) (name : Text) (m : Member) (sql : Text) (kind parameters : Json) :
    Logged (StepResult × Workspace) :=
  match m.role with
  | .cache => pure (.refused .notDriver, w)
  | .converter _ => pure (.refused .notDriver, w)
  | .driver d counting =>
    match CommandKind.ofJson? kind, ParameterType.listOfJson? parameters with
    | some kind, some parameters => do
      let reply ← d.generate (w.cacheAt m.cacheAt) kind sql parameters
      let w := (w.setCache m.cacheAt reply.cache).setMember name
        { m with role := .driver reply.driver counting }
      match reply.answer with
      | .error chain => pure (.failed (.malformedChain chain), w)
      | .ok c => pure (.command c, w)
    | _, _ => pure (.badDescriptor, w)

/-- A step on a unit that is there. -/
def act (w : Workspace) (name : Text) (m : Member) : Action → Logged (StepResult × Workspace)
  | .lookup sql =>
    let (answer, cache) := (w.cacheAt m.cacheAt).lookup sql
    pure ((answer.map .text).getD .absent, w.setCache m.cacheAt cache)
  | .store sql answer =>
    pure (.done, w.setCache m.cacheAt ((w.cacheAt m.cacheAt).store sql answer))
  | .look => pure (.done, w)
  | .convert sql => w.convert name m sql
  | .explain sql => w.explain m sql
  | .command sql kind parameters => w.command name m sql kind parameters
  | _ => pure (.refused .unknownStep, w)

/-- A step. -/
def step (w : Workspace) (s : Step) : Logged (StepResult × Workspace) :=
  match s.action with
  | .makeCache basis => pure (w.make s.name basis fun _ => .cache)
  | .makeConverter basis given =>
    pure (w.make s.name basis fun nameLead => .converter { nameLead := given.getD nameLead })
  | .makeDriver basis given => pure (w.make s.name basis (driverRole basis given))
  | action =>
    match w.member? s.name with
    | none => pure (.refused .noSuchUnit, w)
    | some m => w.act s.name m action

/-- The answers of a sequence of steps, each with the workspace after it. -/
def run (w : Workspace) : List Step → Logged (List (StepResult × Workspace))
  | [] => pure []
  | s :: rest => do
    let answer ← w.step s
    (answer :: ·) <$> run answer.2 rest

end Workspace

end NestedJoin
