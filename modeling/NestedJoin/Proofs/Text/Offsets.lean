/-
# Where a word stands, by bytes

A search over bytes compares a word with what stands at each byte offset, in the middle of a
character too.  Here its answer is described by the offsets at which the word stands
(`StandsAt`): it is the least of them that is not before the start (`find_eq_some_iff`,
`find_eq_none_iff`).

A word of ASCII never stands in the middle of a character, since the bytes of the longer characters
all have their highest bit set.  So where it stands the text can be cut in two, and the second part
begins with it (`standsAt_iff`).  This is what makes the search over bytes and the cut
character by character one and the same (`find_eq_breakAt`).
-/
import Mathlib.Order.Bounds.Basic
import NestedJoin.Proofs.Text.Lines
import NestedJoin.Proofs.Text.Words

namespace NestedJoin.Text

/-! ## 1. The first offset -/

theorem beginsWithBytes_iff {needle bs : List UInt8} :
    beginsWithBytes needle bs = true ↔ needle.map foldByte <+: bs.map foldByte := by
  have htake : (bs.take needle.length).map foldByte =
      (bs.map foldByte).take (needle.map foldByte).length := by
    rw [List.map_take, List.length_map]
  rw [beginsWithBytes, beq_iff_eq, htake, List.prefix_iff_eq_take, eq_comm]

/-- Nothing is found exactly if the needle stands nowhere. -/
theorem firstOffset_eq_none_iff {needle bs : List UInt8} :
    firstOffset needle bs = none ↔ ∀ o, beginsWithBytes needle (bs.drop o) = false := by
  induction bs with
  | nil => cases h : beginsWithBytes needle [] <;> simp [firstOffset, h]
  | cons b bs ih =>
    rw [firstOffset]
    constructor
    · intro h o
      split at h
      · exact absurd h (by simp)
      · next hb =>
        cases o with
        | zero => simpa using hb
        | succ o => exact ih.mp (Option.map_eq_none_iff.mp h) o
    · intro h
      have hb : beginsWithBytes needle (b :: bs) = false := h 0
      rw [hb, if_neg Bool.false_ne_true, Option.map_eq_none_iff, ih]
      exact fun o => h (o + 1)

/-- **What is found is the least offset** at which the needle stands. -/
theorem firstOffset_eq_some_iff {needle bs : List UInt8} {o : Nat} :
    firstOffset needle bs = some o ↔
      IsLeast {o | beginsWithBytes needle (bs.drop o) = true} o := by
  have hleast : ∀ {bs : List UInt8} {o : Nat}, firstOffset needle bs = some o →
      IsLeast {o | beginsWithBytes needle (bs.drop o) = true} o := by
    intro bs
    induction bs with
    | nil =>
      intro o h
      rw [firstOffset] at h
      split at h
      · next hnil =>
        obtain rfl := Option.some.inj h
        exact ⟨hnil, fun _ _ => Nat.zero_le _⟩
      · exact absurd h (by simp)
    | cons b bs ih =>
      intro o h
      rw [firstOffset] at h
      split at h
      · next hb =>
        obtain rfl := Option.some.inj h
        exact ⟨hb, fun _ _ => Nat.zero_le _⟩
      · next hb =>
        obtain ⟨o, ho, rfl⟩ := Option.map_eq_some_iff.mp h
        obtain ⟨hat, hmin⟩ := ih ho
        refine ⟨hat, fun k hk => ?_⟩
        cases k with
        | zero => exact absurd hk hb
        | succ k => exact Nat.succ_le_succ (hmin hk)
  refine ⟨hleast, fun h => ?_⟩
  cases hfound : firstOffset needle bs with
  | none => exact absurd h.1 (by simp [firstOffset_eq_none_iff.mp hfound o])
  | some k => rw [(hleast hfound).unique h]

/-! ## 2. The search -/

/-- The word stands in the text at a byte offset, in whatever case: the bytes there are those of the
word, up to ASCII case. -/
def StandsAt (word t : Text) (o : Nat) : Prop :=
  beginsWithBytes (bytes word) ((bytes t).drop o) = true

instance (word t : Text) (o : Nat) : Decidable (StandsAt word t o) :=
  inferInstanceAs (Decidable (_ = true))

section Find

variable {word : Text} (hword : word ≠ [])
include hword

/-- At or past the end of a text nothing stands but the empty word. -/
theorem firstOffset_bytes_nil : firstOffset (bytes word) [] = none := by
  rw [firstOffset, if_neg]
  rw [beginsWithBytes_iff, List.map_nil, List.prefix_nil, List.map_eq_nil_iff]
  exact bytes_ne_nil hword

theorem find_eq (t : Text) (start : Nat) :
    find t word start =
      .ok ((firstOffset (bytes word) ((bytes t).drop start)).map (· + start)) := by
  have hne : word.isEmpty = false := List.isEmpty_eq_false_iff.mpr hword
  simp only [find, hne, Bool.false_eq_true, if_false]
  split
  · next hpast =>
    rw [List.drop_eq_nil_of_le (Nat.le_of_lt hpast), firstOffset_bytes_nil hword]
    rfl
  · rfl

/-- **Nothing is found** exactly if the word stands nowhere from the start on. -/
theorem find_eq_none_iff {t : Text} {start : Nat} :
    find t word start = .ok none ↔ ∀ o, start ≤ o → ¬ StandsAt word t o := by
  rw [find_eq hword, Except.ok.injEq, Option.map_eq_none_iff, firstOffset_eq_none_iff]
  simp only [List.drop_drop, StandsAt, Bool.not_eq_true]
  constructor
  · intro h o ho
    have hat := h (o - start)
    rwa [Nat.add_sub_cancel' ho] at hat
  · exact fun h o => h (start + o) (Nat.le_add_right start o)

/-- **What is found is the least offset** from the start on at which the word stands. -/
theorem find_eq_some_iff {t : Text} {start o : Nat} :
    find t word start = .ok (some o) ↔ IsLeast {o | start ≤ o ∧ StandsAt word t o} o := by
  rw [find_eq hword, Except.ok.injEq, Option.map_eq_some_iff]
  simp only [firstOffset_eq_some_iff, List.drop_drop]
  constructor
  · rintro ⟨k, ⟨hat, hmin⟩, rfl⟩
    refine ⟨⟨Nat.le_add_left start k, ?_⟩, ?_⟩
    · rw [Nat.add_comm]
      exact hat
    · rintro l ⟨hl, hstands⟩
      have hk : k ≤ l - start := hmin (by
        change beginsWithBytes _ _ = true
        rwa [Nat.add_sub_cancel' hl])
      omega
  · rintro ⟨⟨ho, hat⟩, hmin⟩
    refine ⟨o - start, ⟨?_, fun k hk => ?_⟩, Nat.sub_add_cancel ho⟩
    · change beginsWithBytes _ _ = true
      rwa [Nat.add_sub_cancel' ho]
    · have hle : o ≤ start + k := hmin ⟨Nat.le_add_right start k, hk⟩
      omega

end Find

/-! ## 3. Words of ASCII -/

/-- All characters of the text are of ASCII. -/
def IsAscii (t : Text) : Prop := ∀ c ∈ t, c.toNat < 128

instance (t : Text) : Decidable (IsAscii t) :=
  List.decidableBAll (fun c : Char => c.toNat < 128) t

theorem IsAscii.tail {c : Char} {t : Text} (h : IsAscii (c :: t)) : IsAscii t :=
  fun d hd => h d (List.mem_cons_of_mem c hd)

theorem toNat_toLower_lt {c : Char} (h : c.toNat < 128) : c.toLower.toNat < 128 := by
  rcases toLower_cases c with hc | ⟨-, hhigh, hc⟩
  · rwa [hc]
  · omega

theorem IsAscii.fold {t : Text} (h : IsAscii t) : IsAscii (fold t) := by
  intro d hd
  obtain ⟨c, hc, rfl⟩ := mem_fold_iff.mp hd
  exact toNat_toLower_lt (h c hc)

/-- Folding a byte of a longer character leaves it alone. -/
theorem foldByte_of_le {b : UInt8} (h : 128 ≤ b.toNat) : foldByte b = b := by
  rw [foldByte, if_neg]
  simp only [Bool.and_eq_true, decide_eq_true_eq, UInt8.le_iff_toNat_le]
  rintro ⟨-, hhigh⟩
  exact absurd h (Nat.not_le_of_lt (Nat.lt_of_le_of_lt hhigh (by decide)))

/-- Folding a character folds its bytes. -/
theorem map_foldByte_utf8EncodeChar (c : Char) :
    (String.utf8EncodeChar c).map foldByte = String.utf8EncodeChar c.toLower := by
  by_cases hc : c.toNat < 128
  · have hascii : ∀ n < 128, foldByte (UInt8.ofNat n) = UInt8.ofNat (Char.ofNat n).toLower.toNat := by
      decide +kernel
    have hbyte := hascii c.toNat hc
    rw [Char.ofNat_toNat] at hbyte
    rw [utf8EncodeChar_of_lt hc, utf8EncodeChar_of_lt (toNat_toLower_lt hc), List.map_singleton,
      hbyte]
  · have hle : 128 ≤ c.toNat := Nat.le_of_not_lt hc
    have hlower : c.toLower = c := by
      rcases toLower_cases c with h | ⟨-, hhigh, -⟩
      · exact h
      · omega
    rw [hlower]
    refine (List.map_congr_left fun b hb => ?_).trans (List.map_id _)
    exact foldByte_of_le (le_of_mem_utf8EncodeChar hle b hb)

/-- **Folding a text folds its bytes.** -/
theorem map_foldByte_bytes (t : Text) : (bytes t).map foldByte = bytes (fold t) := by
  rw [bytes, bytes, List.map_flatMap, fold, List.flatMap_map]
  exact List.flatMap_congr fun c _ => map_foldByte_utf8EncodeChar c

@[simp] theorem bytes_nil : bytes [] = [] := rfl

theorem bytes_cons (c : Char) (t : Text) : bytes (c :: t) = String.utf8EncodeChar c ++ bytes t :=
  List.flatMap_cons

theorem bytes_cons_of_lt {c : Char} (hc : c.toNat < 128) (t : Text) :
    bytes (c :: t) = UInt8.ofNat c.toNat :: bytes t := by
  rw [bytes_cons, utf8EncodeChar_of_lt hc, List.singleton_append]

theorem utf8EncodeChar_ne_nil (c : Char) : String.utf8EncodeChar c ≠ [] := by
  rw [← List.length_pos_iff, String.length_utf8EncodeChar]
  exact c.utf8Size_pos

/-- A character of ASCII does not stand where a byte of a longer one does. -/
theorem not_prefix_of_le {a : Char} (ha : a.toNat < 128) {b : UInt8} (hb : 128 ≤ b.toNat)
    {u : Text} {bs : List UInt8} : ¬ bytes (a :: u) <+: b :: bs := by
  rw [bytes_cons_of_lt ha, List.cons_prefix_cons]
  rintro ⟨rfl, -⟩
  rw [toNat_ofNat_of_lt ha] at hb
  exact absurd ha (Nat.not_lt_of_le hb)

/-- **A text begins with a word of ASCII where its bytes do.** -/
theorem bytes_prefix_iff : ∀ {u v : Text}, IsAscii u → (bytes u <+: bytes v ↔ u <+: v)
  | [], v, _ => by simp
  | a :: u, [], h => by
    rw [bytes_nil, List.prefix_nil, List.prefix_nil]
    exact iff_of_false (bytes_ne_nil (List.cons_ne_nil a u)) (List.cons_ne_nil a u)
  | a :: u, c :: v, h => by
    have ha : a.toNat < 128 := h a List.mem_cons_self
    by_cases hc : c.toNat < 128
    · have hsame : UInt8.ofNat a.toNat = UInt8.ofNat c.toNat ↔ a = c := by
        refine ⟨fun hbyte => ?_, fun hac => by rw [hac]⟩
        have hnat := congrArg UInt8.toNat hbyte
        rw [toNat_ofNat_of_lt ha, toNat_ofNat_of_lt hc] at hnat
        exact Char.toNat_inj.mp hnat
      rw [bytes_cons_of_lt ha, bytes_cons_of_lt hc, List.cons_prefix_cons, List.cons_prefix_cons,
        hsame, bytes_prefix_iff h.tail]
    · have hle : 128 ≤ c.toNat := Nat.le_of_not_lt hc
      have hne : a ≠ c := by
        rintro rfl
        exact hc ha
      obtain ⟨b, bs, hbytes⟩ := List.exists_cons_of_ne_nil (utf8EncodeChar_ne_nil c)
      have hb : 128 ≤ b.toNat :=
        le_of_mem_utf8EncodeChar hle b (hbytes ▸ List.mem_cons_self)
      refine iff_of_false ?_ fun hp => hne (List.cons_prefix_cons.mp hp).1
      rw [bytes_cons c, hbytes]
      exact not_prefix_of_le ha hb

/-- A word of ASCII does not stand in the middle of a character. -/
theorem not_prefix_drop_utf8EncodeChar {u : Text} (hu : IsAscii u) (hne : u ≠ []) {c : Char}
    {o : Nat} (hpos : o ≠ 0) (hlt : o < c.utf8Size) (bs : List UInt8) :
    ¬ bytes u <+: (String.utf8EncodeChar c).drop o ++ bs := by
  obtain ⟨a, u, rfl⟩ := List.exists_cons_of_ne_nil hne
  have hlong : 128 ≤ c.toNat := by
    refine Nat.le_of_not_lt fun hc => ?_
    rw [utf8Size_of_toNat (Nat.le_of_lt_succ hc)] at hlt
    omega
  have hsome : (String.utf8EncodeChar c).drop o ≠ [] := by
    rw [Ne, List.drop_eq_nil_iff, String.length_utf8EncodeChar]
    omega
  obtain ⟨b, more, hmore⟩ := List.exists_cons_of_ne_nil hsome
  have hb : b ∈ String.utf8EncodeChar c := List.mem_of_mem_drop (hmore ▸ List.mem_cons_self)
  rw [hmore, List.cons_append]
  exact not_prefix_of_le (hu a List.mem_cons_self) (le_of_mem_utf8EncodeChar hlong b hb)

/-- **Where a word of ASCII stands, the text can be cut.** -/
theorem bytes_prefix_drop_iff {u : Text} (hu : IsAscii u) (hne : u ≠ []) : ∀ {v : Text} {o : Nat},
    bytes u <+: (bytes v).drop o ↔
      ∃ before rest, before ++ rest = v ∧ byteLength before = o ∧ u <+: rest
  | [], o => by
    rw [bytes_nil, List.drop_nil, List.prefix_nil]
    refine iff_of_false (bytes_ne_nil hne) ?_
    rintro ⟨before, rest, hv, -, hp⟩
    rw [(List.append_eq_nil_iff.mp hv).2, List.prefix_nil] at hp
    exact hne hp
  | c :: v, o => by
    have hsize : (String.utf8EncodeChar c).length = c.utf8Size := String.length_utf8EncodeChar c
    rcases Nat.lt_or_ge o c.utf8Size with hlt | hge
    · by_cases hzero : o = 0
      · subst hzero
        rw [List.drop_zero, bytes_prefix_iff hu]
        constructor
        · intro h
          exact ⟨[], c :: v, rfl, rfl, h⟩
        · rintro ⟨before, rest, hv, hlen, hp⟩
          cases before with
          | nil => rwa [← hv]
          | cons d before =>
            have hpos := d.utf8Size_pos
            rw [byteLength_cons] at hlen
            omega
      · rw [bytes_cons, List.drop_append_of_le_length (by omega)]
        refine iff_of_false (not_prefix_drop_utf8EncodeChar hu hne hzero hlt _) ?_
        rintro ⟨before, rest, hv, hlen, -⟩
        cases before with
        | nil => exact hzero hlen.symm
        | cons d before =>
          obtain ⟨rfl, -⟩ := List.cons.inj hv
          rw [byteLength_cons] at hlen
          omega
    · have hpast : (String.utf8EncodeChar c).drop o = [] :=
        List.drop_eq_nil_of_le (hsize.trans_le hge)
      rw [bytes_cons, List.drop_append, hpast, List.nil_append, hsize,
        bytes_prefix_drop_iff hu hne]
      constructor
      · rintro ⟨before, rest, rfl, hlen, hp⟩
        exact ⟨c :: before, rest, rfl, by rw [byteLength_cons]; omega, hp⟩
      · rintro ⟨before, rest, hv, hlen, hp⟩
        cases before with
        | nil =>
          have hpos := c.utf8Size_pos
          rw [byteLength_nil] at hlen
          omega
        | cons d before =>
          obtain ⟨rfl, rfl⟩ := List.cons.inj hv
          exact ⟨before, rest, rfl, by rw [byteLength_cons] at hlen; omega, hp⟩

/-- In front of a cut the word begins nowhere. -/
theorem prefix_of_breakAt {word : Text} : ∀ {t b r : Text} {cut : Text × Text},
    breakAt word t = some cut → b ++ r = t → beginsWith word r = true → cut.1 <+: b
  | [], b, r, cut, h, _, _ => by
    obtain ⟨hcut, -⟩ := append_of_breakAt h
    rw [(List.append_eq_nil_iff.mp hcut).1]
    exact List.nil_prefix
  | c :: t, b, r, cut, h, ht, hr => by
    rw [breakAt] at h
    split at h
    · obtain rfl := Option.some.inj h
      exact List.nil_prefix
    · next hc =>
      obtain ⟨cut', hcut', rfl⟩ := Option.map_eq_some_iff.mp h
      cases b with
      | nil =>
        obtain rfl : r = c :: t := ht
        exact absurd hr hc
      | cons d b =>
        obtain ⟨rfl, hback⟩ := List.cons.inj ht
        exact List.cons_prefix_cons.mpr ⟨rfl, prefix_of_breakAt hcut' hback hr⟩

/-- The byte offset lies between two characters of the text or at one of its ends. -/
def IsCut (t : Text) (o : Nat) : Prop := ∃ before rest, before ++ rest = t ∧ byteLength before = o

theorem isCut_iff {t : Text} {o : Nat} : IsCut t o ↔ (splitAtByte t o).isSome = true := by
  constructor
  · rintro ⟨before, rest, rfl, rfl⟩
    rw [splitAtByte_append]
    rfl
  · intro h
    obtain ⟨⟨before, rest⟩, hsplit⟩ := Option.isSome_iff_exists.mp h
    exact ⟨before, rest, append_of_splitAtByte hsplit⟩

instance (t : Text) (o : Nat) : Decidable (IsCut t o) := decidable_of_iff' _ isCut_iff

section Ascii

variable {word : Text} (hascii : IsAscii word) (hword : word ≠ [])
include hascii hword

/-- **Where a word of ASCII stands, the text can be cut**, and the second part begins with it. -/
theorem standsAt_iff {t : Text} {o : Nat} :
    StandsAt word t o ↔
      ∃ before rest, before ++ rest = t ∧ byteLength before = o ∧ beginsWith word rest = true := by
  rw [StandsAt, beginsWithBytes_iff, List.map_drop, map_foldByte_bytes, map_foldByte_bytes,
    bytes_prefix_drop_iff hascii.fold (mt fold_eq_nil_iff.mp hword)]
  simp only [beginsWith_iff]
  constructor
  · rintro ⟨before, rest, ht, hlen, hp⟩
    obtain ⟨b, r, rfl, rfl, rfl⟩ := List.map_eq_append_iff.mp ht.symm
    exact ⟨b, r, rfl, by rw [← hlen]; exact (byteLength_fold b).symm, hp⟩
  · rintro ⟨before, rest, rfl, hlen, hp⟩
    exact ⟨fold before, fold rest, (fold_append _ _).symm, by rw [byteLength_fold, hlen], hp⟩

/-- A word stands in a text with all its bytes. -/
theorem StandsAt.add_le {t : Text} {o : Nat} (h : StandsAt word t o) :
    o + byteLength word ≤ byteLength t := by
  obtain ⟨before, rest, rfl, rfl, hrest⟩ := (standsAt_iff hascii hword).mp h
  obtain ⟨more, hmore⟩ := beginsWith_iff.mp hrest
  have hlen := congrArg byteLength hmore
  rw [byteLength_append, byteLength_fold, byteLength_fold] at hlen
  rw [byteLength_append]
  omega

/-- A word of ASCII stands somewhere in a text exactly if the text holds it. -/
theorem exists_standsAt_iff {t : Text} : (∃ o, StandsAt word t o) ↔ Holds word t := by
  constructor
  · rintro ⟨o, h⟩
    obtain ⟨before, rest, rfl, -, hrest⟩ := (standsAt_iff hascii hword).mp h
    have hprefix : Holds word rest := (beginsWith_iff.mp hrest).isInfix
    exact hprefix.mono (List.suffix_append before rest).isInfix
  · intro h
    cases hb : breakAt word t with
    | none => exact absurd h (breakAt_eq_none_iff.mp hb)
    | some cut =>
      obtain ⟨ht, hrest⟩ := append_of_breakAt hb
      exact ⟨_, (standsAt_iff hascii hword).mpr ⟨cut.1, cut.2, ht, rfl, hrest⟩⟩

/-- The first offset at which a word of ASCII stands is that of the cut in front of it. -/
theorem firstOffset_bytes (t : Text) :
    firstOffset (bytes word) (bytes t) = (breakAt word t).map fun cut => byteLength cut.1 := by
  cases hb : breakAt word t with
  | none =>
    rw [Option.map_none, firstOffset_eq_none_iff]
    intro o
    refine Bool.eq_false_iff.mpr fun h => ?_
    exact breakAt_eq_none_iff.mp hb ((exists_standsAt_iff hascii hword).mp ⟨o, h⟩)
  | some cut =>
    obtain ⟨ht, hrest⟩ := append_of_breakAt hb
    rw [Option.map_some, firstOffset_eq_some_iff]
    refine ⟨(standsAt_iff hascii hword).mpr ⟨cut.1, cut.2, ht, rfl, hrest⟩, ?_⟩
    intro o h
    obtain ⟨b, r, hbr, rfl, hr⟩ := (standsAt_iff hascii hword).mp h
    obtain ⟨more, rfl⟩ := prefix_of_breakAt hb hbr hr
    rw [byteLength_append]
    exact Nat.le_add_right _ _

/-- **The search over bytes finds the place where the text is cut**, in whatever stands behind the
start. -/
theorem find_eq_breakAt (front t : Text) :
    find (front ++ t) word (byteLength front) =
      .ok ((breakAt word t).map fun cut => byteLength (front ++ cut.1)) := by
  have hdrop : (bytes (front ++ t)).drop (byteLength front) = bytes t := by
    rw [bytes_append, ← length_bytes, List.drop_left]
  rw [find_eq hword, hdrop, firstOffset_bytes hascii hword, Option.map_map]
  simp only [Function.comp_def, byteLength_append, Nat.add_comm]

end Ascii

end NestedJoin.Text
