/-
# Configuration

Two settings: whether the cache is switched on, and the lead of the names of derived tables.  They
come from a TOML document in which everything else is ignored.  The document is taken from a path
that was given, or else from the first of the usual places where there is something; where there
is nothing, the defaults hold.  A place that was chosen is final: a fault there is the answer, and
no other place is tried.

The main statement: a document is accepted only with an identifier as the lead
(`isIdentifier_of_ofDocument`).
-/
import NestedJoin.Error
import NestedJoin.FileSystem
import NestedJoin.Group
import NestedJoin.Log.Logged
import NestedJoin.Toml.Document

namespace NestedJoin

/-- The settings. -/
structure Config where
  cacheEnabled : Bool := true
  nameLead : Text := Group.defaultNameLead
  deriving DecidableEq, Repr

namespace Config

/-! ## 1. Settings in a document -/

open Toml

/-- The value of the only setting of the section that was found.  A section is a table, or an array
that lists its settings in order; a date in its place is a section without settings. -/
def setting? (found : Option Node) (name : Text) : Except ConfigFault (Option Node) :=
  match found with
  | none => .ok none
  | some (.table _ entries) => .ok (Keyed.get? entries name)
  | some (.array items) => .ok items.head?
  | some (.tables items) => .ok (items.head?.map (.table .header))
  | some .dateTime => .ok none
  | some _ => .error .document

/-- Whether the cache is switched on. -/
def readEnabled (document : Entries) : Except ConfigFault Bool := do
  match ← setting? (Keyed.get? document "cache".toList) "enabled".toList with
  | none => .ok true
  | some (.boolean b) => .ok b
  | some _ => .error .document

/-- The lead of derived names. -/
def readNameLead (document : Entries) : Except ConfigFault Text := do
  match ← setting? (Keyed.get? document "translate".toList) "alias_prefix".toList with
  | none => .ok Group.defaultNameLead
  | some (.string t) => .ok t
  | some _ => .error .document

/-! ## 2. Identifiers -/

/-- The characters an identifier may begin with. -/
def beginsIdentifier (c : Char) : Bool := c.isAlpha || c == '_'

/-- The characters of an identifier. -/
def continuesIdentifier (c : Char) : Bool := c.isAlphanum || c == '_'

/-- An ASCII letter or an underscore, and then any of these and digits. -/
def isIdentifier : Text → Bool
  | [] => false
  | c :: rest => beginsIdentifier c && rest.all continuesIdentifier

/-! ## 3. Documents -/

/-- The settings of a TOML document. -/
def ofDocument (t : Text) : Except ConfigFault Config :=
  match Document.read? t with
  | none => .error .document
  | some document => do
    let enabled ← readEnabled document
    let nameLead ← readNameLead document
    if isIdentifier nameLead then .ok ⟨enabled, nameLead⟩ else .error (.notIdentifier nameLead)

/-- **An accepted lead is an identifier.** -/
theorem isIdentifier_of_ofDocument {t : Text} {config : Config}
    (h : ofDocument t = .ok config) : isIdentifier config.nameLead = true := by
  unfold ofDocument at h
  split at h
  · simp at h
  · rename_i document _
    cases he : readEnabled document with
    | error f => simp [he, bind, Except.bind] at h
    | ok enabled =>
      cases hn : readNameLead document with
      | error f => simp [he, hn, bind, Except.bind] at h
      | ok nameLead =>
        simp only [he, hn, bind, Except.bind] at h
        split at h
        · rename_i hi
          obtain rfl := Except.ok.inj h
          exact hi
        · simp at h

example : ofDocument "[translate]\nalias_prefix = 't' # as short as can be\n".toList =
    .ok { nameLead := "t".toList } := rfl

example : ofDocument "cache = [false]\ntranslate = \x7b alias_prefix = '1' \x7d".toList =
    .error (.notIdentifier "1".toList) := rfl

/-! ## 4. Places -/

/-- The name of the file in each of the usual places. -/
def fileName : Text := "jetjoin.toml".toList

/-- The usual places: the working directory, then the directory of the user's configurations. -/
def places (userDirectory : Option Text) : List Text :=
  fileName :: (userDirectory.map fun d => d ++ "/jetjoin/".toList ++ fileName).toList

/-- The settings in what is at a place. -/
def ofEntry : Entry → Except Error Config
  | .directory => .error (.read .directory)
  | .unreadable reason => .error (.read (.stated reason))
  | .file content =>
    match Text.ofBytes? content with
    | none => .error (.read .notUtf8)
    | some t => (ofDocument t).mapError .config

/-- The settings found at a place. -/
def loadFrom (path : Text) (entry : Entry) : Logged (Except Error Config) :=
  ⟨ofEntry entry, [.configurationFound path]⟩

/-- The first of some places where there is something. -/
def firstPlace (files : FileSystem) : List Text → Option (Text × Entry)
  | [] => none
  | path :: rest =>
    match files path with
    | some entry => some (path, entry)
    | none => firstPlace files rest

/-- The settings from the path that was given, or else from the usual places. -/
def load (files : FileSystem) (userDirectory path : Option Text) : Logged (Except Error Config) :=
  match path with
  | some path =>
    match files path with
    | none => pure (.error (.config (.notFound path)))
    | some entry => loadFrom path entry
  | none =>
    match firstPlace files (places userDirectory) with
    | none => ⟨.ok {}, [.defaultsUsed]⟩
    | some (path, entry) => loadFrom path entry

end Config

end NestedJoin
