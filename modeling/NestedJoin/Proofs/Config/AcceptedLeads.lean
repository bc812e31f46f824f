/-
# What an accepted lead guarantees of the names

A configuration is accepted exactly if its document can be read and the lead of the names in it is
an identifier (`Config.ofDocument_eq_ok_iff`): an ASCII letter or an underscore, and then any of
these and digits.  As a regular expression this is `Config.identifierPattern`, and what the check
accepts is its language (`Config.isIdentifier_iff`).

Behind such a lead any position makes an identifier again, and different positions make different
ones (`Config.names_usable_of_accepted`).
-/
import Mathlib.Computability.RegularExpressions
import NestedJoin.CommandLine.Program
import NestedJoin.Proofs.Statement.Fresh

namespace NestedJoin

open Text (fold)

/-! ## 1. Identifiers as a regular expression -/

namespace Config

/-- One of some characters. -/
def oneOf : List Char → RegularExpression Char
  | [] => 0
  | c :: rest => .char c + oneOf rest

/-- The characters an identifier may begin with, one by one. -/
def firstCharacters : List Char :=
  "ABCDEFGHIJKLMNOPQRSTUVWXYZabcdefghijklmnopqrstuvwxyz_".toList

/-- The characters of an identifier, one by one. -/
def laterCharacters : List Char := firstCharacters ++ "0123456789".toList

/-- A letter or an underscore, and then any number of these and digits. -/
def identifierPattern : RegularExpression Char :=
  oneOf firstCharacters * (oneOf laterCharacters).star

theorem mem_oneOf_iff {t : Text} : ∀ {cs : List Char},
    t ∈ (oneOf cs).matches' ↔ ∃ c ∈ cs, t = [c]
  | [] => by
    rw [oneOf, RegularExpression.matches'_zero]
    simp [Language.notMem_zero]
  | c :: rest => by
    have ih : t ∈ (oneOf rest).matches' ↔ ∃ d ∈ rest, t = [d] := mem_oneOf_iff
    rw [oneOf, RegularExpression.matches'_add, RegularExpression.matches'_char, Language.mem_add,
      ih, List.exists_mem_cons_iff]
    rfl

theorem mem_star_oneOf_iff {t : Text} {cs : List Char} :
    t ∈ (oneOf cs).star.matches' ↔ ∀ c ∈ t, c ∈ cs := by
  rw [RegularExpression.matches'_star, Language.mem_kstar]
  constructor
  · rintro ⟨pieces, rfl, hpieces⟩ c hc
    obtain ⟨piece, hpiece, hc⟩ := List.mem_flatten.mp hc
    obtain ⟨d, hd, rfl⟩ := mem_oneOf_iff.mp (hpieces piece hpiece)
    rwa [List.mem_singleton.mp hc]
  · intro h
    refine ⟨t.map fun c => [c], ?_, ?_⟩
    · rw [← List.flatMap_def, List.flatMap_singleton']
    · exact List.forall_mem_map.mpr fun c hc => mem_oneOf_iff.mpr ⟨c, h c hc, rfl⟩

/-- What the pattern matches: a first character, and then later ones. -/
theorem mem_identifierPattern_iff {t : Text} : t ∈ identifierPattern.matches' ↔
    ∃ c rest, t = c :: rest ∧ c ∈ firstCharacters ∧ ∀ d ∈ rest, d ∈ laterCharacters := by
  rw [identifierPattern, RegularExpression.matches'_mul, Language.mem_mul]
  constructor
  · rintro ⟨first, hfirst, rest, hrest, rfl⟩
    obtain ⟨c, hc, rfl⟩ := mem_oneOf_iff.mp hfirst
    exact ⟨c, rest, rfl, hc, mem_star_oneOf_iff.mp hrest⟩
  · rintro ⟨c, rest, rfl, hc, hrest⟩
    exact ⟨[c], mem_oneOf_iff.mpr ⟨c, hc, rfl⟩, rest, mem_star_oneOf_iff.mpr hrest, rfl⟩

/-- A class of characters of identifiers is known by its members within ASCII. -/
theorem mem_iff_of_ascii {p : Char → Bool} {cs : List Char}
    (hp : ∀ c, p c = true → continuesIdentifier c = true)
    (hascii : ∀ n < 127, p (Char.ofNat n) = true → Char.ofNat n ∈ cs)
    (hcs : cs.all p = true) (c : Char) : p c = true ↔ c ∈ cs := by
  refine ⟨fun h => ?_, List.all_eq_true.mp hcs c⟩
  have hlow : c.toNat < 127 := Nat.lt_succ_of_le (Text.toNat_of_continuesIdentifier (hp c h)).2
  have hc := hascii c.toNat hlow
  rw [Char.ofNat_toNat] at hc
  exact hc h

theorem beginsIdentifier_iff (c : Char) : beginsIdentifier c = true ↔ c ∈ firstCharacters :=
  mem_iff_of_ascii (fun _ => continuesIdentifier_of_beginsIdentifier) (by decide +kernel)
    (by decide +kernel) c

theorem continuesIdentifier_iff (c : Char) : continuesIdentifier c = true ↔ c ∈ laterCharacters :=
  mem_iff_of_ascii (fun _ => id) (by decide +kernel) (by decide +kernel) c

/-- **What is taken for an identifier is the language of the pattern.** -/
theorem isIdentifier_iff {t : Text} : isIdentifier t = true ↔ t ∈ identifierPattern.matches' := by
  rw [mem_identifierPattern_iff]
  cases t with
  | nil => simp [isIdentifier]
  | cons c rest =>
    rw [isIdentifier, Bool.and_eq_true, beginsIdentifier_iff, List.all_eq_true]
    simp only [continuesIdentifier_iff]
    constructor
    · rintro ⟨hc, hrest⟩
      exact ⟨c, rest, rfl, hc, hrest⟩
    · rintro ⟨d, rest', heq, hc, hrest⟩
      obtain ⟨rfl, rfl⟩ := List.cons.inj heq
      exact ⟨hc, hrest⟩

/-! ## 2. Documents -/

/-- The settings of a TOML document, before the lead is looked at. -/
def readSettings (t : Text) : Except ConfigFault Config :=
  match Toml.Document.read? t with
  | none => .error .document
  | some document => do
    let enabled ← readEnabled document
    let nameLead ← readNameLead document
    return ⟨enabled, nameLead⟩

/-- Settings whose lead has been looked at. -/
def checkLead (config : Config) : Except ConfigFault Config :=
  if isIdentifier config.nameLead then .ok config else .error (.notIdentifier config.nameLead)

/-- **A document is read, and then the lead in it is looked at.** -/
theorem ofDocument_eq (t : Text) : ofDocument t = readSettings t >>= checkLead := by
  rw [ofDocument, readSettings]
  cases Toml.Document.read? t with
  | none => rfl
  | some document =>
    dsimp only
    cases readEnabled document with
    | error f => rfl
    | ok enabled => cases readNameLead document <;> rfl

variable {t : Text} {config : Config}

/-- **Which documents are accepted.** -/
theorem ofDocument_eq_ok_iff : ofDocument t = .ok config ↔
    readSettings t = .ok config ∧ config.nameLead ∈ identifierPattern.matches' := by
  rw [ofDocument_eq, ← isIdentifier_iff]
  cases readSettings t with
  | error f => simp [bind, Except.bind]
  | ok found =>
    simp only [bind, Except.bind, checkLead, Except.ok.injEq]
    split
    · next h =>
      rw [Except.ok.injEq]
      refine ⟨?_, And.left⟩
      rintro rfl
      exact ⟨rfl, h⟩
    · next h =>
      refine iff_of_false (by simp) ?_
      rintro ⟨rfl, hlead⟩
      exact h hlead

theorem ofDocument_eq_error_of_readSettings (h : readSettings t = .ok config)
    (hlead : config.nameLead ∉ identifierPattern.matches') :
    ofDocument t = .error (.notIdentifier config.nameLead) := by
  rw [← isIdentifier_iff] at hlead
  rw [ofDocument_eq, h]
  simp only [bind, Except.bind, checkLead, if_neg hlead]

end Config

/-! ## 3. Names -/

namespace Group

/-- **The name of a derived table is an identifier** if the lead of the names is one. -/
theorem isIdentifier_derivedName {nameLead : Text} (h : Config.isIdentifier nameLead = true)
    (index : Nat) : Config.isIdentifier (derivedName nameLead index) = true := by
  cases nameLead with
  | nil => exact absurd h (by decide)
  | cons c rest =>
    rw [Config.isIdentifier, Bool.and_eq_true, List.all_eq_true] at h
    rw [derivedName, List.cons_append, Config.isIdentifier, Bool.and_eq_true, List.all_eq_true]
    refine ⟨h.1, fun d hd => ?_⟩
    rcases List.mem_append.mp hd with hd | hd
    · exact h.2 d hd
    · exact Config.continuesIdentifier_of_isDigit
        (Nat.isDigit_of_mem_toDigits (by decide) (by decide) hd)

/-- What parts the pieces of a statement is no part of an identifier. -/
theorem notMem_of_isIdentifier {name : Text} (h : Config.isIdentifier name = true) {c : Char}
    (hc : c ∈ name) : c ∉ ",'\"()".toList ∧ Text.isBlank c = false := by
  have hcontinues := Config.continuesIdentifier_of_mem h hc
  constructor
  · intro hmem
    have hnone : (",'\"()".toList.all fun d => !Config.continuesIdentifier d) = true := by
      decide +kernel
    have hnot := List.all_eq_true.mp hnone c hmem
    rw [hcontinues] at hnot
    exact Bool.noConfusion hnot
  · obtain ⟨hlow, hhigh⟩ := Text.toNat_of_continuesIdentifier hcontinues
    exact Text.isBlank_eq_false_of_toNat hlow hhigh

/-- **No two derived tables of a clause have the same name**, upper and lower case letters not told
apart. -/
theorem nodup_fold_tableNames {nameLead : Text} (hlead : Config.isIdentifier nameLead = true)
    {body : Text} {outcomes : List GroupOutcome} (h : nestBody nameLead body = .ok outcomes) :
    ((outcomes.filterMap (·.tableName?)).map fold).Nodup := by
  rw [tableNames_of_nestAll hlead h, List.map_map]
  exact (nodup_derivedPlaces _ _ _).map fun i j hij => eq_of_fold_derivedName hij

end Group

/-! ## 4. What a configuration guarantees -/

namespace CommandLine

/-- A machine keeps the lead of its names, whatever it converts. -/
theorem nameLead_convertLine (s : Settings) (m : Machine) (sql : Text) :
    (convertLine s m sql).1.converter.nameLead = m.converter.nameLead := by
  rw [convertLine, ← Converter.nameLead_convert m.converter m.cache sql]
  split <;> rfl

theorem nameLead_convertLines (s : Settings) (m : Machine) (lines : List Text) :
    (convertLines s m lines).1.converter.nameLead = m.converter.nameLead := by
  induction lines generalizing m with
  | nil => rfl
  | cons sql rest ih =>
    rw [convertLines]
    split
    · exact ih m
    · exact (ih _).trans (nameLead_convertLine s m sql)

end CommandLine

namespace Config

/-- The lead of the defaults is an identifier, as every accepted one is. -/
theorem isIdentifier_of_accepted {config : Config}
    (h : config = {} ∨ ∃ t, ofDocument t = .ok config) : isIdentifier config.nameLead = true := by
  rcases h with rfl | ⟨t, h⟩
  · decide
  · exact isIdentifier_of_ofDocument h

/-- **The names under an accepted configuration can be used.**

* A document is accepted exactly if it can be read and the lead in it matches the pattern of an
  identifier from end to end, and then with the settings that it has.  A document that can be read
  and has any other lead is refused for its lead.
* A machine has an accepted configuration, or the defaults, and has converted any lines before.  A
  derived table is its group with a name that is the lead with the position of the group.  The name
  stands in the result as a whole identifier, matches the pattern itself, and so holds no comma,
  quote, parenthesis or blank.
* No two derived tables of a clause have the same name, upper and lower case letters not told
  apart. -/
theorem names_usable_of_accepted :
    (∀ t config, ofDocument t = .ok config ↔
      readSettings t = .ok config ∧ config.nameLead ∈ identifierPattern.matches') ∧
    (∀ t config, readSettings t = .ok config → config.nameLead ∉ identifierPattern.matches' →
      ofDocument t = .error (.notIdentifier config.nameLead)) ∧
    (∀ config : Config, (config = {} ∨ ∃ t, ofDocument t = .ok config) →
      ∀ s lines body outcomes,
        Group.nestBody (CommandLine.convertLines s (.ofConfig config) lines).1.converter.nameLead
          body = .ok outcomes →
        (∀ o ∈ outcomes, o.derived = true → ∃ nested name, Chain.nest o.given = .ok nested ∧
          o.result = Group.derive nested name ∧ o.tableName? = some name ∧
          name = config.nameLead ++ Nat.toDigits 10 o.index ∧
          name ∈ identifierPattern.matches' ∧
          ∀ c ∈ name, c ∉ ",'\"()".toList ∧ Text.isBlank c = false) ∧
        ((outcomes.filterMap (·.tableName?)).map fold).Nodup) := by
  refine ⟨fun _ _ => ofDocument_eq_ok_iff, fun _ _ => ofDocument_eq_error_of_readSettings, ?_⟩
  intro config haccepted s lines body outcomes hbody
  have hlead := isIdentifier_of_accepted haccepted
  rw [CommandLine.nameLead_convertLines] at hbody
  change Group.nestBody config.nameLead body = .ok outcomes at hbody
  refine ⟨?_, Group.nodup_fold_tableNames hlead hbody⟩
  refine Group.forall_outcome_of_nestAll (P := fun _ => True)
    (fun index group nested hn _ hd => ?_) hbody fun _ _ => trivial
  obtain ⟨hseveral, hjoin⟩ := (Group.derived_outcome_iff hn).mp hd
  have hname := Group.isIdentifier_derivedName hlead index
  refine ⟨nested, Group.derivedName config.nameLead index, ?_, ?_, ?_, ?_, isIdentifier_iff.mp hname,
    fun c => Group.notMem_of_isIdentifier hname⟩
  · rwa [Group.given_outcome]
  · rw [Group.outcome, Chain.hasJoin_of_nest hn, hseveral, hjoin, Bool.and_true, if_pos rfl]
  · rw [Group.tableName?_outcome hlead hn, hseveral, hjoin, Bool.and_true, if_pos rfl]
  · rw [Group.index_outcome, Group.derivedName]

/-- A lead that ends in a digit is accepted, and its names differ: the twelfth group has a longer one
than the second.  A lead with a letter beyond ASCII is refused. -/
theorem names_usable_of_lead_with_digit :
    ofDocument "[translate]\nalias_prefix = 't1'\n".toList = .ok { nameLead := "t1".toList } ∧
    ofDocument "translate.alias_prefix = \"t\u00e9\"".toList =
      .error (.notIdentifier "t\u00e9".toList) ∧
    ∃ outcomes, Group.nestBody "t1".toList "c,a join b,d,e,f,g,h,i,j,k,l,a join m".toList =
        .ok outcomes ∧
      outcomes.filterMap (·.tableName?) = ["t11".toList, "t111".toList] ∧
      ((outcomes.filterMap (·.tableName?)).map fold).Nodup ∧
      ∀ o ∈ outcomes, o.derived = true →
        ∃ name ∈ o.tableName?, name ∈ identifierPattern.matches' := by
  obtain ⟨haccepted, hrefused, hnames⟩ := names_usable_of_accepted
  have hlead : "t1".toList ∈ identifierPattern.matches' := isIdentifier_iff.mp (by decide)
  have hdocument : ofDocument "[translate]\nalias_prefix = 't1'\n".toList =
      .ok { nameLead := "t1".toList } := (haccepted _ _).mpr ⟨by decide +kernel, hlead⟩
  have hletter : "t\u00e9".toList ∉ identifierPattern.matches' := by
    rw [← isIdentifier_iff]
    decide
  obtain ⟨outcomes, hbody⟩ : ∃ outcomes, Group.nestBody "t1".toList
      "c,a join b,d,e,f,g,h,i,j,k,l,a join m".toList = .ok outcomes := ⟨_, rfl⟩
  obtain ⟨husable, hdistinct⟩ := hnames { nameLead := "t1".toList } (Or.inr ⟨_, hdocument⟩)
    ⟨.text, false, ⟨[]⟩⟩ [] _ _ hbody
  refine ⟨hdocument, hrefused _ { nameLead := "t\u00e9".toList } (by decide +kernel) hletter,
    outcomes, hbody, ?_, hdistinct, ?_⟩
  · exact (Group.tableNames_of_nestAll (by decide) hbody).trans (by decide +kernel)
  · intro o ho hd
    obtain ⟨-, name, -, -, hname, -, hpattern, -⟩ := husable o ho hd
    exact ⟨name, hname, hpattern⟩

end Config

end NestedJoin
