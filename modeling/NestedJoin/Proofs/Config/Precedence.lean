/-
# The chosen place is final

A configuration is looked for in one place after another.  The search comes to a place if there is
nothing at the ones before it (`Reaches`), and the place where it ends decides alone: neither what
is at the other places nor the defaults can make up for a fault there.  A path that is given is the
only place there is, and where it leads nowhere that is a fault of its own.

* `firstPlace_eq_some_iff`, `firstPlace_eq_none_iff`, `firstPlace_congr`: where the search ends, and
  what it looks at on the way;
* `gives_iff`: what comes of an entry, one case for every way in which it can be wrong;
* `chosen_place_is_final`: both together.
-/
import NestedJoin.Proofs.Config.AcceptedLeads
import NestedJoin.Proofs.Config.Identifiers
import NestedJoin.Proofs.Text.Lines

namespace NestedJoin.Config

/-! ## 1. The search for a place -/

/-- The search comes to the place: there is nothing at those before it. -/
def Reaches (files : FileSystem) (candidates : List Text) (place : Text) : Prop :=
  ∃ before after, candidates = before ++ place :: after ∧ ∀ p ∈ before, files p = none

section Search

variable {files files' : FileSystem} {candidates : List Text} {place : Text}

theorem reaches_head (rest : List Text) : Reaches files (place :: rest) place :=
  ⟨[], rest, rfl, by simp⟩

/-- The search goes on past a place where there is nothing. -/
theorem Reaches.cons {p : Text} (hp : files p = none) (h : Reaches files candidates place) :
    Reaches files (p :: candidates) place := by
  obtain ⟨before, after, rfl, hbefore⟩ := h
  exact ⟨p :: before, after, rfl, List.forall_mem_cons.mpr ⟨hp, hbefore⟩⟩

/-- **Where the search ends**: at the first place where there is something. -/
theorem firstPlace_eq_some_iff {entry : Entry} :
    firstPlace files candidates = some (place, entry) ↔
      Reaches files candidates place ∧ files place = some entry := by
  constructor
  · intro h
    induction candidates with
    | nil => exact absurd h (by simp [firstPlace])
    | cons p rest ih =>
      rw [firstPlace] at h
      split at h
      · next found hp =>
        obtain ⟨rfl, rfl⟩ := Prod.mk.inj (Option.some.inj h)
        exact ⟨reaches_head rest, hp⟩
      · next hp =>
        obtain ⟨hreaches, hentry⟩ := ih h
        exact ⟨hreaches.cons hp, hentry⟩
  · rintro ⟨⟨before, after, rfl, hbefore⟩, hentry⟩
    induction before with
    | nil => simp only [List.nil_append, firstPlace, hentry]
    | cons p before ih =>
      obtain ⟨hp, hbefore⟩ := List.forall_mem_cons.mp hbefore
      rw [List.cons_append, firstPlace, hp]
      exact ih hbefore

theorem firstPlace_eq_none_iff :
    firstPlace files candidates = none ↔ ∀ p ∈ candidates, files p = none := by
  induction candidates with
  | nil => simp [firstPlace]
  | cons p rest ih =>
    rw [firstPlace, List.forall_mem_cons]
    cases hp : files p with
    | some entry => simp
    | none => simpa using ih

/-- **The search looks at no place but those it comes to.** -/
theorem firstPlace_congr
    (h : ∀ place, Reaches files candidates place → files' place = files place) :
    firstPlace files' candidates = firstPlace files candidates := by
  induction candidates with
  | nil => rfl
  | cons p rest ih =>
    rw [firstPlace, firstPlace, h p (reaches_head rest)]
    cases hp : files p with
    | some entry => rfl
    | none => exact ih fun place hplace => h place (hplace.cons hp)

end Search

/-! ## 2. What comes of an entry -/

/-- The result that an entry gives: each way in which it can be wrong has an error of its own. -/
inductive Gives : Entry → Except Error Config → Prop
  | directory : Gives .directory (.error (.read .directory))
  | unreadable (reason : Text) : Gives (.unreadable reason) (.error (.read (.stated reason)))
  | notUtf8 {content : List UInt8} (h : ∀ t, content ≠ Text.bytes t) :
      Gives (.file content) (.error (.read .notUtf8))
  | notDocument {t : Text} (h : ∀ config, readSettings t ≠ .ok config) :
      Gives (.file (Text.bytes t)) (.error (.config .document))
  | notIdentifier {t : Text} {config : Config} (h : readSettings t = .ok config)
      (hlead : config.nameLead ∉ identifierPattern.matches') :
      Gives (.file (Text.bytes t)) (.error (.config (.notIdentifier config.nameLead)))
  | accepted {t : Text} {config : Config} (h : readSettings t = .ok config)
      (hlead : config.nameLead ∈ identifierPattern.matches') :
      Gives (.file (Text.bytes t)) (.ok config)

/-- Reading has no fault but one of the document. -/
def FaultsInDocument {α : Type} (reading : Except ConfigFault α) : Prop :=
  ∀ fault, reading = .error fault → fault = .document

namespace FaultsInDocument

variable {α β : Type}

theorem ok (a : α) : FaultsInDocument (.ok a) := fun _ h => absurd h (by simp)

theorem document : FaultsInDocument (.error .document : Except ConfigFault α) :=
  fun _ h => (Except.error.inj h).symm

/-- Reading one thing after another brings no other faults. -/
theorem bind {reading : Except ConfigFault α} {next : α → Except ConfigFault β}
    (h : FaultsInDocument reading) (hnext : ∀ a, FaultsInDocument (next a)) :
    FaultsInDocument (reading >>= next) := by
  cases reading with
  | error fault =>
    obtain rfl := h fault rfl
    exact document
  | ok a => exact hnext a

end FaultsInDocument

theorem faultsInDocument_setting? (found : Option Toml.Node) (name : Text) :
    FaultsInDocument (setting? found name) := by
  unfold setting?
  split
  case h_6 => exact .document
  all_goals exact .ok _

theorem faultsInDocument_readEnabled (document : Toml.Entries) :
    FaultsInDocument (readEnabled document) := by
  unfold readEnabled
  refine (faultsInDocument_setting? _ _).bind fun found => ?_
  split
  case h_3 => exact .document
  all_goals exact .ok _

theorem faultsInDocument_readNameLead (document : Toml.Entries) :
    FaultsInDocument (readNameLead document) := by
  unfold readNameLead
  refine (faultsInDocument_setting? _ _).bind fun found => ?_
  split
  case h_3 => exact .document
  all_goals exact .ok _

theorem faultsInDocument_readSettings (t : Text) : FaultsInDocument (readSettings t) := by
  unfold readSettings
  split
  · exact .document
  · next document _ =>
    refine (faultsInDocument_readEnabled document).bind fun enabled => ?_
    refine (faultsInDocument_readNameLead document).bind fun nameLead => ?_
    exact .ok (⟨enabled, nameLead⟩ : Config)

/-- **What cannot be read is refused as no document.** -/
theorem readSettings_eq_error {t : Text} (h : ∀ config, readSettings t ≠ .ok config) :
    readSettings t = .error .document := by
  cases hread : readSettings t with
  | ok config => exact absurd hread (h config)
  | error fault => rw [faultsInDocument_readSettings t fault hread]

theorem ofEntry_file_bytes (t : Text) :
    ofEntry (.file (Text.bytes t)) = (ofDocument t).mapError .config := by
  rw [ofEntry, Text.ofBytes?_eq_some_iff.mpr rfl]

theorem gives_ofEntry (entry : Entry) : Gives entry (ofEntry entry) := by
  cases entry with
  | directory => exact .directory
  | unreadable reason => exact .unreadable reason
  | file content =>
    by_cases htext : ∃ t, content = Text.bytes t
    · obtain ⟨t, rfl⟩ := htext
      rw [ofEntry_file_bytes]
      by_cases hread : ∃ config, readSettings t = .ok config
      · obtain ⟨config, hread⟩ := hread
        by_cases hlead : config.nameLead ∈ identifierPattern.matches'
        · rw [ofDocument_eq_ok_iff.mpr ⟨hread, hlead⟩]
          exact .accepted hread hlead
        · rw [ofDocument_eq_error_of_readSettings hread hlead]
          exact .notIdentifier hread hlead
      · have hnone : ∀ config, readSettings t ≠ .ok config := not_exists.mp hread
        rw [ofDocument_eq, readSettings_eq_error hnone]
        exact .notDocument hnone
    · have hnone : ∀ t, content ≠ Text.bytes t := not_exists.mp htext
      rw [ofEntry, Text.ofBytes?_eq_none_iff.mpr hnone]
      exact .notUtf8 hnone

/-- **What comes of an entry.** -/
theorem gives_iff {entry : Entry} {result : Except Error Config} :
    ofEntry entry = result ↔ Gives entry result := by
  constructor
  · rintro rfl
    exact gives_ofEntry entry
  · intro h
    cases h with
    | directory | unreadable => rfl
    | notUtf8 h => rw [ofEntry, Text.ofBytes?_eq_none_iff.mpr h]
    | notDocument h =>
      rw [ofEntry_file_bytes, ofDocument_eq, readSettings_eq_error h]
      rfl
    | notIdentifier h hlead =>
      rw [ofEntry_file_bytes, ofDocument_eq_error_of_readSettings h hlead]
      rfl
    | accepted h hlead =>
      rw [ofEntry_file_bytes, ofDocument_eq_ok_iff.mpr ⟨h, hlead⟩]
      rfl

/-! ## 3. Loading -/

/-- The places where a configuration is looked for: the path that was given and no other, or else
`jetjoin.toml` in the working directory, and then in `jetjoin` in the directory of the user's
configurations, if there is one. -/
def candidates (userDirectory path : Option Text) : List Text :=
  match path, userDirectory with
  | some path, _ => [path]
  | none, none => ["jetjoin.toml".toList]
  | none, some directory =>
    ["jetjoin.toml".toList, directory ++ "/jetjoin/jetjoin.toml".toList]

/-- **The usual places** are those where a configuration is looked for without a path. -/
theorem places_eq_candidates (userDirectory : Option Text) :
    places userDirectory = candidates userDirectory none := by
  cases userDirectory with
  | none => rfl
  | some directory =>
    have hfile : "/jetjoin/jetjoin.toml".toList = "/jetjoin/".toList ++ fileName := rfl
    rw [places, candidates, hfile, ← List.append_assoc]
    rfl

/-- The answer where there is nothing at any place. -/
def loadNothing (path : Option Text) : Logged (Except Error Config) :=
  match path with
  | some path => pure (.error (.config (.notFound path)))
  | none => ⟨.ok {}, [.defaultsUsed]⟩

/-- The answer where the search has ended. -/
def loadPlace (path : Option Text) (found : Option (Text × Entry)) :
    Logged (Except Error Config) :=
  match found with
  | some (place, entry) => loadFrom place entry
  | none => loadNothing path

theorem load_eq (files : FileSystem) (userDirectory path : Option Text) :
    load files userDirectory path =
      loadPlace path (firstPlace files (candidates userDirectory path)) := by
  cases path with
  | none =>
    rw [load, ← places_eq_candidates]
    cases firstPlace files (places userDirectory) <;> rfl
  | some path =>
    rw [load, candidates, firstPlace]
    cases files path <;> rfl

/-- **The chosen place is final.**

* A path that was given and leads nowhere is refused under its name.
* Without one, the defaults hold where there is nothing in the working directory, nor in that of the
  user's configurations.
* Otherwise the first place where there is something decides: the result is what comes of it, and
  that is a fault if it is a directory, cannot be read, is not UTF-8, is no document, or has a lead
  that is no identifier.
* A file system that is the same at the places the search comes to has the same answer, with the
  same log.
* What is loaded has an identifier as its lead. -/
theorem chosen_place_is_final (files : FileSystem) (userDirectory path : Option Text) :
    (∀ given, path = some given → files given = none →
      (load files userDirectory path).value = .error (.config (.notFound given)) ∧
      (Error.config (.notFound given)).message =
        "Configuration error: ".toList ++ given ++ " not found".toList) ∧
    (path = none → files "jetjoin.toml".toList = none →
      (∀ directory, userDirectory = some directory →
        files (directory ++ "/jetjoin/jetjoin.toml".toList) = none) →
      (load files userDirectory path).value = .ok ⟨true, "jetJoinAlias".toList⟩) ∧
    (∀ place entry, Reaches files (candidates userDirectory path) place →
      files place = some entry →
      ∀ result, (load files userDirectory path).value = result ↔ Gives entry result) ∧
    (∀ files', (∀ place, Reaches files (candidates userDirectory path) place →
        files' place = files place) →
      load files' userDirectory path = load files userDirectory path) ∧
    ∀ config, (load files userDirectory path).value = .ok config →
      config.nameLead ∈ identifierPattern.matches' := by
  refine ⟨?_, ?_, fun place entry hreaches hentry result => ?_, fun files' h => ?_,
    fun config h => ?_⟩
  · rintro given rfl hnone
    rw [load, hnone]
    exact ⟨rfl, (List.append_assoc _ _ _).symm⟩
  · rintro rfl hworking huser
    have hnone : ∀ place ∈ candidates userDirectory none, files place = none := by
      cases userDirectory with
      | none => exact List.forall_mem_singleton.mpr hworking
      | some directory =>
        exact List.forall_mem_cons.mpr
          ⟨hworking, List.forall_mem_singleton.mpr (huser directory rfl)⟩
    rw [load_eq, firstPlace_eq_none_iff.mpr hnone]
    rfl
  · rw [load_eq, firstPlace_eq_some_iff.mpr ⟨hreaches, hentry⟩]
    exact gives_iff
  · rw [load_eq, load_eq, firstPlace_congr h]
  · exact isIdentifier_iff.mp (isIdentifier_of_load h)

/-- The file of a user, with a lead of its own. -/
def ofUser : Entry := .file (Text.bytes "translate.alias_prefix = 'u'".toList)

/-- A working directory that holds the directory of a user's configurations, and in it that file. -/
def userOnly : Tree := ⟨[(["xdg".toList, "jetjoin".toList, "jetjoin.toml".toList], ofUser)]⟩

/-- A working directory with a directory in the place of the file. -/
def blocked : Tree := ⟨[(["jetjoin.toml".toList], .directory)]⟩

/-- Both together. -/
def shadowed : Tree := ⟨blocked.places ++ userOnly.places⟩

/-- The file of the user counts where there is nothing in the working directory, but not where there
is a directory in the place of the file; it makes no difference then whether there is one.  It counts
too if its path is given, and a path that leads nowhere does not fall back on it. -/
theorem chosen_place_is_final_of_shadowed :
    (load userOnly.resolve (some "xdg".toList) none).value = .ok ⟨true, "u".toList⟩ ∧
    (load userOnly.resolve (some "home".toList) none).value = .ok ⟨true, "jetJoinAlias".toList⟩ ∧
    (load shadowed.resolve (some "xdg".toList) none).value = .error (.read .directory) ∧
    load blocked.resolve (some "xdg".toList) none = load shadowed.resolve (some "xdg".toList) none ∧
    (load shadowed.resolve none (some "xdg/jetjoin/jetjoin.toml".toList)).value =
      .ok ⟨true, "u".toList⟩ ∧
    (load shadowed.resolve (some "xdg".toList) (some "absent".toList)).value =
      .error (.config (.notFound "absent".toList)) := by
  have hnowhere : userOnly.resolve "jetjoin.toml".toList = none := by decide +kernel
  have hdirectory : shadowed.resolve "jetjoin.toml".toList = some .directory := by decide +kernel
  have huser : userOnly.resolve ("xdg".toList ++ "/jetjoin/jetjoin.toml".toList) = some ofUser := by
    decide +kernel
  have hgiven : shadowed.resolve "xdg/jetjoin/jetjoin.toml".toList = some ofUser := by
    decide +kernel
  have hread : readSettings "translate.alias_prefix = 'u'".toList = .ok ⟨true, "u".toList⟩ := by
    decide +kernel
  have hgives : Gives ofUser (.ok ⟨true, "u".toList⟩) :=
    .accepted hread (isIdentifier_iff.mp (by decide))
  obtain ⟨-, -, hsecond, -, -⟩ := chosen_place_is_final userOnly.resolve (some "xdg".toList) none
  obtain ⟨-, hdefaults, -, -, -⟩ := chosen_place_is_final userOnly.resolve (some "home".toList) none
  obtain ⟨-, -, hfirst, hsame, -⟩ := chosen_place_is_final shadowed.resolve (some "xdg".toList) none
  obtain ⟨-, -, hpath, -, -⟩ :=
    chosen_place_is_final shadowed.resolve none (some "xdg/jetjoin/jetjoin.toml".toList)
  obtain ⟨habsent, -, -, -, -⟩ :=
    chosen_place_is_final shadowed.resolve (some "xdg".toList) (some "absent".toList)
  refine ⟨(hsecond _ _ ((reaches_head []).cons hnowhere) huser _).mpr hgives,
    hdefaults rfl hnowhere fun directory hdir => ?_,
    (hfirst _ _ (reaches_head _) hdirectory _).mpr .directory, hsame blocked.resolve ?_,
    (hpath _ _ (reaches_head []) hgiven _).mpr hgives, (habsent _ rfl (by decide +kernel)).1⟩
  · obtain rfl := Option.some.inj hdir
    decide +kernel
  -- The search comes to no place behind the first.
  · rintro place ⟨before, after, hplaces, hbefore⟩
    cases before with
    | nil =>
      obtain ⟨rfl, -⟩ := List.cons.inj hplaces
      rw [hdirectory]
      decide +kernel
    | cons p before =>
      obtain ⟨rfl, -⟩ := List.cons.inj hplaces
      rw [hbefore _ List.mem_cons_self] at hdirectory
      exact absurd hdirectory (by simp)

end NestedJoin.Config
