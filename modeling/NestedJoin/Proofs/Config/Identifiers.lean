/-
# Identifiers

An identifier begins with an ASCII letter or an underscore and goes on with any of these and digits.
So whatever stands in it may stand anywhere but at its beginning
(`Config.continuesIdentifier_of_mem`), and none of that is a comma.

A configuration that has been loaded has an identifier as the lead of the names, whichever place it
comes from (`Config.isIdentifier_of_load`): a document is looked at before it is accepted, and the
lead that holds where there is no document is an identifier.
-/
import NestedJoin.Config

namespace NestedJoin.Config

/-! ## 1. The characters of identifiers -/

theorem continuesIdentifier_of_isDigit {c : Char} (h : c.isDigit = true) :
    continuesIdentifier c = true := by
  rw [continuesIdentifier, Char.isAlphanum, h, Bool.or_true, Bool.true_or]

theorem continuesIdentifier_of_beginsIdentifier {c : Char} (h : beginsIdentifier c = true) :
    continuesIdentifier c = true := by
  rw [beginsIdentifier, Bool.or_eq_true] at h
  rw [continuesIdentifier, Bool.or_eq_true]
  refine h.imp_left fun halpha => ?_
  rw [Char.isAlphanum, halpha, Bool.true_or]

theorem continuesIdentifier_of_mem {t : Text} (h : isIdentifier t = true) {c : Char}
    (hc : c ∈ t) : continuesIdentifier c = true := by
  cases t with
  | nil => exact absurd hc (by simp)
  | cons d rest =>
    rw [isIdentifier, Bool.and_eq_true] at h
    obtain ⟨hfirst, hrest⟩ := h
    rcases List.mem_cons.mp hc with rfl | hc
    · exact continuesIdentifier_of_beginsIdentifier hfirst
    · exact List.all_eq_true.mp hrest c hc

/-- An identifier holds no comma. -/
theorem comma_notMem_of_isIdentifier {t : Text} (h : isIdentifier t = true) : ',' ∉ t := by
  intro hc
  exact absurd (continuesIdentifier_of_mem h hc) (by decide)

/-! ## 2. The lead of a configuration -/

theorem isIdentifier_of_ofEntry {entry : Entry} {config : Config}
    (h : ofEntry entry = .ok config) : isIdentifier config.nameLead = true := by
  cases entry with
  | directory | unreadable _ => exact absurd h (by simp [ofEntry])
  | file content =>
    rw [ofEntry] at h
    split at h
    · cases h
    · next t _ =>
      cases hd : ofDocument t with
      | error fault =>
        rw [hd] at h
        cases h
      | ok loaded =>
        rw [hd] at h
        obtain rfl := Except.ok.inj h
        exact isIdentifier_of_ofDocument hd

/-- **A configuration that is loaded has an identifier as its lead.** -/
theorem isIdentifier_of_load {files : FileSystem} {userDirectory path : Option Text}
    {config : Config} (h : (load files userDirectory path).value = .ok config) :
    isIdentifier config.nameLead = true := by
  cases path with
  | some path =>
    rw [load] at h
    cases hf : files path with
    | none => simp [hf, pure] at h
    | some entry =>
      simp only [hf] at h
      exact isIdentifier_of_ofEntry h
  | none =>
    rw [load] at h
    rcases hf : firstPlace files (places userDirectory) with _ | ⟨path, entry⟩
    · simp only [hf] at h
      obtain rfl := Except.ok.inj h
      decide
    · simp only [hf] at h
      exact isIdentifier_of_ofEntry h

end NestedJoin.Config
