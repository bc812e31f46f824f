/-
# The strings of a TOML document

Four ways to write a string: basic in double quotes, with escapes, literal in single quotes,
without; and each of them over several lines between three quotes.  A string over several lines
drops a line break right after its opening, keeps every other one as a single line feed, and may
hold one or two of its quotes in a row, also at its end.

Each reader takes the text after the opening quotes and gives the string and what follows its
closing quotes.
-/
import NestedJoin.Text.Scalar

namespace NestedJoin.Toml

/-! ## 1. Characters -/

/-- The blanks within a line. -/
def isSpace (c : Char) : Bool := c == ' ' || c == '\t'

/-- The characters a comment or a string may hold as they are, quotes and backslashes apart. -/
def isPlain (c : Char) : Bool :=
  c == '\t' || (0x20 ≤ c.toNat && c.toNat ≤ 0x7E) || 0x80 ≤ c.toNat

/-- What follows a line break, if the text begins with one. -/
def newline? : Text → Option Text
  | '\n' :: rest => some rest
  | '\r' :: '\n' :: rest => some rest
  | _ => none

/-- A text without a line break at its beginning. -/
def skipNewline (t : Text) : Text := (newline? t).getD t

/-- The text after blanks and line breaks. -/
def skipWhite : Text → Text
  | '\n' :: rest => skipWhite rest
  | '\r' :: '\n' :: rest => skipWhite rest
  | c :: rest => if isSpace c then skipWhite rest else c :: rest
  | [] => []

theorem length_skipWhite_le (t : Text) : (skipWhite t).length ≤ t.length := by
  fun_induction skipWhite t <;> simp only [List.length_cons, Nat.le_refl] at * <;> omega

/-! ## 2. Escapes -/

/-- The character that an escape stands for, and what follows it; the text begins after the
backslash. -/
def escape? : Text → Option (Char × Text)
  | 'b' :: rest => some ('\x08', rest)
  | 't' :: rest => some ('\t', rest)
  | 'n' :: rest => some ('\n', rest)
  | 'f' :: rest => some ('\x0c', rest)
  | 'r' :: rest => some ('\r', rest)
  | '"' :: rest => some ('"', rest)
  | '\\' :: rest => some ('\\', rest)
  | 'u' :: rest =>
    if rest.length < 4 then none else (Text.scalar? (rest.take 4)).map fun c => (c, rest.drop 4)
  | 'U' :: rest =>
    if rest.length < 8 then none else (Text.scalar? (rest.take 8)).map fun c => (c, rest.drop 8)
  | _ => none

theorem length_lt_of_map_drop {o : Option Char} {n : Nat} {t rest : Text}
    {c r : Char} (h : (if t.length < n then none else o.map fun d => (d, t.drop n))
      = some (r, rest)) : rest.length < (c :: t).length := by
  split at h
  · simp at h
  · obtain ⟨d, -, hd⟩ := Option.map_eq_some_iff.mp h
    simp only [Prod.mk.injEq] at hd
    rw [← hd.2, List.length_drop, List.length_cons]
    omega

theorem length_lt_of_escape? {t rest : Text} {c : Char} (h : escape? t = some (c, rest)) :
    rest.length < t.length := by
  unfold escape? at h
  split at h
  case h_8 => exact length_lt_of_map_drop h
  case h_9 => exact length_lt_of_map_drop h
  case h_10 => simp at h
  all_goals
    simp only [Option.some.injEq, Prod.mk.injEq] at h
    obtain ⟨-, rfl⟩ := h
    simp

/-! ## 3. On one line -/

/-- A character in front of what a reader gives. -/
def push (c : Char) (read : Option (Text × Text)) : Option (Text × Text) :=
  read.map fun (t, rest) => (c :: t, rest)

/-- A basic string. -/
def basicString (t : Text) : Option (Text × Text) :=
  match t with
  | [] => none
  | '"' :: rest => some ([], rest)
  | '\\' :: rest =>
    match h : escape? rest with
    | none => none
    | some (c, after) =>
      have : after.length < rest.length := length_lt_of_escape? h
      push c (basicString after)
  | c :: rest => if isPlain c then push c (basicString rest) else none
termination_by t.length
decreasing_by all_goals simp only [List.length_cons]; omega

/-- A literal string. -/
def literalString : Text → Option (Text × Text)
  | [] => none
  | '\'' :: rest => some ([], rest)
  | c :: rest => if isPlain c then push c (literalString rest) else none

/-! ## 4. Over several lines -/

/-- A basic string over several lines.  A backslash at the end of a line swallows the blanks and
line breaks after it. -/
def basicLines (t : Text) : Option (Text × Text) :=
  match t with
  | [] => none
  | '"' :: '"' :: '"' :: '"' :: '"' :: rest => some (['"', '"'], rest)
  | '"' :: '"' :: '"' :: '"' :: rest => some (['"'], rest)
  | '"' :: '"' :: '"' :: rest => some ([], rest)
  | '"' :: rest => push '"' (basicLines rest)
  | '\\' :: rest =>
    if (newline? (rest.dropWhile isSpace)).isSome then
      have : (skipWhite rest).length ≤ rest.length := length_skipWhite_le rest
      basicLines (skipWhite rest)
    else
      match h : escape? rest with
      | none => none
      | some (c, after) =>
        have : after.length < rest.length := length_lt_of_escape? h
        push c (basicLines after)
  | '\r' :: '\n' :: rest => push '\n' (basicLines rest)
  | '\n' :: rest => push '\n' (basicLines rest)
  | c :: rest => if isPlain c then push c (basicLines rest) else none
termination_by t.length
decreasing_by all_goals simp only [List.length_cons]; omega

/-- A literal string over several lines. -/
def literalLines : Text → Option (Text × Text)
  | [] => none
  | '\'' :: '\'' :: '\'' :: '\'' :: '\'' :: rest => some (['\'', '\''], rest)
  | '\'' :: '\'' :: '\'' :: '\'' :: rest => some (['\''], rest)
  | '\'' :: '\'' :: '\'' :: rest => some ([], rest)
  | '\'' :: rest => push '\'' (literalLines rest)
  | '\r' :: '\n' :: rest => push '\n' (literalLines rest)
  | '\n' :: rest => push '\n' (literalLines rest)
  | c :: rest => if isPlain c then push c (literalLines rest) else none

/-- A string of any of the four kinds, with its opening quotes. -/
def string? : Text → Option (Text × Text)
  | '"' :: '"' :: '"' :: rest => basicLines (skipNewline rest)
  | '"' :: rest => basicString rest
  | '\'' :: '\'' :: '\'' :: rest => literalLines (skipNewline rest)
  | '\'' :: rest => literalString rest
  | _ => none

end NestedJoin.Toml
