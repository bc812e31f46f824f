/-
# The byte offsets of a clause are found exactly

A clause is found by two searches over the bytes of a statement (`Span.locate`), and what is read
between its offsets is cut out of the bytes again.  The searches know nothing of characters, but
FROM and WHERE are words of ASCII, so every offset they find lies between two characters, and no
cut goes wrong (`Clause.found_exactly`).

WHERE is looked for from behind FROM on.  It makes no difference to look for it from FROM on, since
no letter of FROM is the first one of WHERE (`Span.not_standsAt_within_from`).

The offsets are those of the pieces that a statement is cut into character by character
(`Span.locate_eq`), and what is said of the pieces goes back to where those are cut.
-/
import NestedJoin.Proofs.Clause.Pieces
import NestedJoin.Proofs.Text.Offsets

namespace NestedJoin

theorem isAscii_fromWord : Text.IsAscii fromWord := by decide

theorem isAscii_whereWord : Text.IsAscii whereWord := by decide

/-! ## 1. The two searches -/

namespace Span

/-- The offsets of the clause of a statement: of its first FROM, and of the first WHERE behind it or
the end of the statement. -/
def locate (sql : Text) : Except Fault (Option Span) := do
  match ← Text.find sql fromWord 0 with
  | none => return none
  | some first =>
    let stop ← Text.find sql whereWord (first + Text.byteLength fromWord)
    return some ⟨first, stop.getD (Text.byteLength sql)⟩

/-- **The offsets are those of the pieces** that the statement is cut into. -/
theorem locate_eq (sql : Text) : locate sql = .ok ((Clause.cut? sql).map (·.span)) := by
  have hfrom := Text.find_eq_breakAt isAscii_fromWord opensOnce_fromWord.ne_nil [] sql
  simp only [List.nil_append, Text.byteLength_nil] at hfrom
  rw [locate, hfrom]
  cases hc : Clause.cut? sql with
  | none =>
    have hnone : Text.breakAt fromWord sql = none :=
      Text.breakAt_eq_none_iff.mpr (Clause.cut?_eq_none_iff.mp hc)
    rw [hnone]
    rfl
  | some c =>
    obtain ⟨hwell, rfl⟩ := Clause.cut?_eq_some_iff.mp hc
    have hcut : Text.breakAt fromWord (c.withBody c.body) =
        some (c.before, c.word ++ (c.body ++ c.tail)) := by
      rw [Clause.withBody, Clause.head, List.append_assoc]
      exact Text.breakAt_append opensOnce_fromWord (hwell.beginsWith_word _) hwell.before
    have hstart : Text.byteLength c.before + Text.byteLength fromWord = Text.byteLength c.head :=
      hwell.bodyStart_span
    have hwhere := Text.find_eq_breakAt isAscii_whereWord opensOnce_whereWord.ne_nil c.head
      (c.body ++ c.tail)
    rw [← hstart] at hwhere
    rw [hcut]
    change (do
      let stop ← Text.find (c.head ++ (c.body ++ c.tail)) whereWord
        (Text.byteLength c.before + Text.byteLength fromWord)
      return some (⟨Text.byteLength c.before,
        stop.getD (Text.byteLength (c.head ++ (c.body ++ c.tail)))⟩ : Span)) = _
    rw [hwhere]
    rcases hwell.tail with htail | htail
    · have hnone : Text.breakAt whereWord (c.body ++ c.tail) = none := by
        rw [htail, List.append_nil]
        exact Text.breakAt_eq_none_iff.mpr hwell.body
      rw [hnone, htail, List.append_nil]
      rfl
    · rw [Text.breakAt_append opensOnce_whereWord htail hwell.body]
      rfl

/-- Within FROM no WHERE begins. -/
theorem not_standsAt_within_from {sql : Text} {first k : Nat}
    (h : Text.StandsAt fromWord sql first) (hk : k < 4) :
    ¬ Text.StandsAt whereWord sql (first + k) := by
  rw [Text.StandsAt, Text.beginsWithBytes_iff] at h ⊢
  obtain ⟨rest, hrest⟩ := h
  rw [← List.drop_drop, List.map_drop, ← hrest]
  have hfrom : (Text.bytes fromWord).map Text.foldByte = [102, 114, 111, 109] := by decide
  have hwhere : (Text.bytes whereWord).map Text.foldByte = [119, 104, 101, 114, 101] := by decide
  rw [hfrom, hwhere]
  -- Behind the offset stands an f, an r, an o or an m.
  obtain rfl | rfl | rfl | rfl : k = 0 ∨ k = 1 ∨ k = 2 ∨ k = 3 := by omega
  all_goals
    simp only [List.cons_append, List.nil_append, List.drop_zero, List.drop_succ_cons]
    exact fun h => absurd (List.cons_prefix_cons.mp h).1 (by decide)

/-- A search for WHERE from FROM on passes over FROM. -/
theorem standsAt_where_iff {sql : Text} {first : Nat} (h : Text.StandsAt fromWord sql first)
    (o : Nat) :
    (first + Text.byteLength fromWord ≤ o ∧ Text.StandsAt whereWord sql o) ↔
      (first ≤ o ∧ Text.StandsAt whereWord sql o) := by
  have hlen : Text.byteLength fromWord = 4 := by decide
  rw [hlen]
  refine and_congr_left fun hwhere => ⟨fun ho => by omega, fun ho => Nat.le_of_not_lt fun hlt => ?_⟩
  have hnot := not_standsAt_within_from h (k := o - first) (by omega)
  rw [Nat.add_sub_cancel' ho] at hnot
  exact hnot hwhere

/-- The offset at which a body ends that begins with the FROM at `first`: of the first WHERE from
there on, or the end of the statement if there is none. -/
def IsEnd (sql : Text) (first stop : Nat) : Prop :=
  IsLeast {o | first ≤ o ∧ Text.StandsAt whereWord sql o} stop ∨
    ((∀ o, first ≤ o → ¬ Text.StandsAt whereWord sql o) ∧ stop = Text.byteLength sql)

theorem IsEnd.unique {sql : Text} {first stop stop' : Nat} (h : IsEnd sql first stop)
    (h' : IsEnd sql first stop') : stop = stop' := by
  rcases h with h | ⟨hnone, rfl⟩
  · rcases h' with h' | ⟨hnone', -⟩
    · exact h.unique h'
    · exact absurd h.1.2 (hnone' stop h.1.1)
  · rcases h' with h' | ⟨-, rfl⟩
    · exact absurd h'.1.2 (hnone stop' h'.1.1)
    · rfl

/-- What the second search finds is where the body ends. -/
theorem isEnd_of_find {sql : Text} {first : Nat} {stop : Option Nat}
    (hfirst : Text.StandsAt fromWord sql first)
    (h : Text.find sql whereWord (first + Text.byteLength fromWord) = .ok stop) :
    IsEnd sql first (stop.getD (Text.byteLength sql)) := by
  have hne := opensOnce_whereWord.ne_nil
  cases stop with
  | none =>
    refine Or.inr ⟨fun o ho hwhere => ?_, rfl⟩
    obtain ⟨hbehind, -⟩ := (standsAt_where_iff hfirst o).mpr ⟨ho, hwhere⟩
    exact (Text.find_eq_none_iff hne).mp h o hbehind hwhere
  | some stop =>
    have hleast := (Text.find_eq_some_iff hne).mp h
    simp only [standsAt_where_iff hfirst] at hleast
    exact Or.inl hleast

/-- The two endings of the search. -/
theorem locate_cases (sql : Text) :
    (Text.find sql fromWord 0 = .ok none ∧ locate sql = .ok none) ∨
      ∃ first stop, Text.find sql fromWord 0 = .ok (some first) ∧ IsEnd sql first stop ∧
        locate sql = .ok (some ⟨first, stop⟩) := by
  obtain ⟨found, hfrom⟩ : ∃ found, Text.find sql fromWord 0 = .ok found :=
    ⟨_, Text.find_eq opensOnce_fromWord.ne_nil sql 0⟩
  cases found with
  | none =>
    refine Or.inl ⟨hfrom, ?_⟩
    rw [locate, hfrom]
    rfl
  | some first =>
    obtain ⟨stop, hwhere⟩ :
        ∃ stop, Text.find sql whereWord (first + Text.byteLength fromWord) = .ok stop :=
      ⟨_, Text.find_eq opensOnce_whereWord.ne_nil sql _⟩
    have hfirst : Text.StandsAt fromWord sql first :=
      ((Text.find_eq_some_iff opensOnce_fromWord.ne_nil).mp hfrom).1.2
    refine Or.inr ⟨first, _, hfrom, isEnd_of_find hfirst hwhere, ?_⟩
    rw [locate, hfrom]
    change (do
      let stop ← Text.find sql whereWord (first + Text.byteLength fromWord)
      return some (⟨first, stop.getD (Text.byteLength sql)⟩ : Span)) = _
    rw [hwhere]
    rfl

/-- **Nothing is found** exactly if FROM stands nowhere. -/
theorem locate_eq_none_iff {sql : Text} :
    locate sql = .ok none ↔ ∀ o, ¬ Text.StandsAt fromWord sql o := by
  have hfind : Text.find sql fromWord 0 = .ok none ↔ ∀ o, ¬ Text.StandsAt fromWord sql o := by
    rw [Text.find_eq_none_iff opensOnce_fromWord.ne_nil]
    simp only [Nat.zero_le, forall_const]
  rw [← hfind]
  rcases locate_cases sql with ⟨hfrom, h⟩ | ⟨first, stop, hfrom, -, h⟩ <;> simp [hfrom, h]

/-- **What is found otherwise** are the first FROM and the end of the body behind it. -/
theorem locate_eq_some_iff {sql : Text} {s : Span} :
    locate sql = .ok (some s) ↔
      IsLeast {o | Text.StandsAt fromWord sql o} s.first ∧ IsEnd sql s.first s.stop := by
  have hfind : ∀ {first}, Text.find sql fromWord 0 = .ok (some first) ↔
      IsLeast {o | Text.StandsAt fromWord sql o} first := by
    intro first
    rw [Text.find_eq_some_iff opensOnce_fromWord.ne_nil]
    simp only [Nat.zero_le, true_and]
  constructor
  · intro hs
    rcases locate_cases sql with ⟨-, h⟩ | ⟨first, stop, hfrom, hend, h⟩
    · rw [h] at hs
      exact absurd hs (by simp)
    · rw [h] at hs
      obtain rfl := Option.some.inj (Except.ok.inj hs)
      exact ⟨hfind.mp hfrom, hend⟩
  · rintro ⟨hleast, hend⟩
    rcases locate_cases sql with ⟨hnone, -⟩ | ⟨first, stop, hfrom, hend', h⟩
    · rw [hfind.mpr hleast] at hnone
      exact absurd hnone (by simp)
    · obtain rfl : first = s.first := (hfind.mp hfrom).unique hleast
      rw [h, hend'.unique hend]

end Span

/-! ## 2. What is found -/

namespace Clause

/-- In the piece up to and with FROM, FROM stands at the end and nowhere else. -/
theorem WellCut.standsAt_head_iff {c : Clause} (h : c.WellCut) (o : Nat) :
    Text.StandsAt fromWord c.head o ↔ o + 4 = Text.byteLength c.head := by
  have hword : Text.beginsWith fromWord c.word = true := by
    have hall := h.beginsWith_word []
    rwa [List.append_nil] at hall
  have hlen : Text.byteLength c.before + 4 = Text.byteLength c.head := h.bodyStart_span
  have hstands := Text.standsAt_iff isAscii_fromWord opensOnce_fromWord.ne_nil (t := c.head) (o := o)
  constructor
  · intro ho
    have hle : o + 4 ≤ Text.byteLength c.head :=
      ho.add_le isAscii_fromWord opensOnce_fromWord.ne_nil
    obtain ⟨b, r, hbr, rfl, hr⟩ := hstands.mp ho
    have hcut : Text.breakAt fromWord c.head = some (c.before, c.word) :=
      Text.breakAt_append opensOnce_fromWord hword h.before
    obtain ⟨more, rfl⟩ := Text.prefix_of_breakAt hcut hbr hr
    simp only [Text.byteLength_append] at hle ⊢
    omega
  · intro ho
    exact hstands.mpr ⟨c.before, c.word, rfl, by omega, hword⟩

/-- **The offsets of a clause are found exactly**, and every cut they stand for can be made.

* The search never fails.  What it finds is the clause that the statement is cut at.
* It finds nothing exactly if FROM stands nowhere in the statement.  What it finds otherwise is the
  offset of the first FROM, and that of the first WHERE from there on or the end.
* The body begins where FROM ends, and ends behind it and within the statement; all three offsets
  lie between two characters.  The three pieces that they cut out make up the statement: the first
  ends with the only FROM it holds, the second holds no WHERE, and the third is empty or begins with
  one. -/
theorem found_exactly (sql : Text) :
    Span.locate sql = .ok ((cut? sql).map (·.span)) ∧
    (Span.locate sql = .ok none ↔ ∀ o, ¬ Text.StandsAt fromWord sql o) ∧
    (∀ s, Span.locate sql = .ok (some s) ↔
      IsLeast {o | Text.StandsAt fromWord sql o} s.first ∧ Span.IsEnd sql s.first s.stop) ∧
    ∀ s, Span.locate sql = .ok (some s) →
      s.first + 4 ≤ s.stop ∧ s.stop ≤ Text.byteLength sql ∧
      Text.IsCut sql s.first ∧ Text.IsCut sql (s.first + 4) ∧ Text.IsCut sql s.stop ∧
      ∃ head body tail, s.head sql = .ok head ∧ s.body sql = .ok body ∧ s.tail sql = .ok tail ∧
        head ++ body ++ tail = sql ∧
        (∀ o, Text.StandsAt fromWord head o ↔ o + 4 = Text.byteLength head) ∧
        (∀ o, ¬ Text.StandsAt whereWord body o) ∧
        (tail = [] ∨ Text.StandsAt whereWord tail 0) := by
  refine ⟨Span.locate_eq sql, Span.locate_eq_none_iff, fun s => Span.locate_eq_some_iff, ?_⟩
  intro s hs
  rw [Span.locate_eq, Except.ok.injEq, Option.map_eq_some_iff] at hs
  obtain ⟨c, hc, rfl⟩ := hs
  obtain ⟨hhead, hbody, htail⟩ := slices_of_cut? hc
  obtain ⟨hwell, rfl⟩ := cut?_eq_some_iff.mp hc
  have hstart : c.span.first + 4 = Text.byteLength c.head := hwell.bodyStart_span
  have hlen : Text.byteLength (c.withBody c.body) =
      Text.byteLength c.head + Text.byteLength c.body + Text.byteLength c.tail := by
    rw [withBody, Text.byteLength_append, Text.byteLength_append, Nat.add_assoc]
  have hstop : c.span.stop = Text.byteLength c.head + Text.byteLength c.body :=
    Text.byteLength_append _ _
  refine ⟨by omega, by omega, ⟨c.before, c.word ++ (c.body ++ c.tail), ?_, rfl⟩,
    ⟨c.head, c.body ++ c.tail, rfl, hstart.symm⟩, ⟨c.head ++ c.body, c.tail, ?_, rfl⟩,
    c.head, c.body, c.tail, hhead, hbody, htail, ?_, ?_, ?_, ?_⟩
  · rw [withBody, head, List.append_assoc]
  · rw [withBody, List.append_assoc]
  · rw [withBody, List.append_assoc]
  · exact hwell.standsAt_head_iff
  · intro o ho
    exact hwell.body ((Text.exists_standsAt_iff isAscii_whereWord
      opensOnce_whereWord.ne_nil).mp ⟨o, ho⟩)
  · refine hwell.tail.imp_right fun htail => ?_
    exact (Text.standsAt_iff isAscii_whereWord opensOnce_whereWord.ne_nil).mpr
      ⟨[], c.tail, rfl, rfl, htail⟩

/-- The first FROM is within a longer word, and so is the first WHERE behind it; the WHERE in front
of it does not count.  The pieces are cut at bytes, which are more than the characters.  Where there
is a WHERE only, nothing is found. -/
theorem found_exactly_within_words :
    Span.locate "é somewhere fRomage ü nowHere é".toList = .ok (some ⟨13, 26⟩) ∧
    IsLeast {o | Text.StandsAt fromWord "é somewhere fRomage ü nowHere é".toList o} 13 ∧
    Text.IsCut "é somewhere fRomage ü nowHere é".toList 17 ∧
    (⟨13, 26⟩ : Span).body "é somewhere fRomage ü nowHere é".toList = .ok "age ü no".toList ∧
    (∀ o, ¬ Text.StandsAt whereWord "age ü no".toList o) ∧
    ∀ o, ¬ Text.StandsAt fromWord "é somewhere".toList o := by
  have hlocate : Span.locate "é somewhere fRomage ü nowHere é".toList = .ok (some ⟨13, 26⟩) := by
    decide +kernel
  have hslice : (⟨13, 26⟩ : Span).body "é somewhere fRomage ü nowHere é".toList =
      .ok "age ü no".toList := by decide +kernel
  obtain ⟨-, -, hsome, hcuts⟩ := found_exactly "é somewhere fRomage ü nowHere é".toList
  obtain ⟨-, hnone, -, -⟩ := found_exactly "é somewhere".toList
  obtain ⟨-, -, -, hbody, -, head, body, tail, -, hcut, -, -, -, hwhere, -⟩ := hcuts _ hlocate
  obtain rfl := Except.ok.inj (hcut.symm.trans hslice)
  exact ⟨hlocate, ((hsome _).mp hlocate).1, hbody, hslice, hwhere, hnone.mp (by decide +kernel)⟩

end Clause

end NestedJoin
