/-
# Patterns

A directive may ask for the value of a field by a pattern, a regular expression over Unicode text.
The events of this library are told outside of spans, where no value is ever compared; so all that
a filter has to know of a text is whether it is a pattern at all.

    a  \n  \.  \x41        a character, as it is or escaped
    .  ^  $  \A  \z        any character; the ends of lines and of the text
    [a-z]  [^a&&b]         one of some characters, with operators between two sets of them
    [[:alpha:]]            a named set
    (a)  (?:a)  (?<n>a)    a group, which may have a name
    (?i)  (?i-u:a)         settings for the rest of a group, or for one of their own
    a|b  a*  a+?           alternatives and repetitions

There are no tables of characters behind a pattern.  What needs one is refused: sets by a property
(`\pL`), digits, blanks and words (`\d`, `\s`, `\w`), the boundaries of words, and any character
when case does not matter.  Where the setting `u` is switched off these mean ASCII; but there all
that could match a part of a character beyond ASCII is refused, such as `.` and every set that is
the complement of another.

A repetition with a count ends in a closing brace, and so does a property of more than a letter.
The text of a field's value ends before the first of these, so an opening brace is refused
outside of brackets.
-/
import NestedJoin.Text.Letters
import NestedJoin.Text.Scalar

namespace NestedJoin.Log.Pattern

/-! ## 1. Settings -/

/-- How the characters of a pattern are read. -/
structure Mode where
  /-- Blanks and comments between the parts do not count. -/
  spaced : Bool := false
  /-- Case does not matter. -/
  caseless : Bool := false
  /-- Sets of characters are those of Unicode. -/
  wide : Bool := true
  deriving DecidableEq, Repr

/-- The text after blanks and comments. -/
def skipSpace (inComment : Bool) : Text → Text
  | [] => []
  | c :: rest =>
    if inComment then skipSpace (c != '\n') rest
    else if Text.isBlank c then skipSpace false rest
    else if c == '#' then skipSpace true rest
    else c :: rest

namespace Mode

/-- The text from the next character on that counts. -/
def skip (m : Mode) (t : Text) : Text := if m.spaced then skipSpace false t else t

/-- The mode with the setting of a letter switched on or off.  The other letters are about what a
pattern matches, not about how it is read. -/
def switch (m : Mode) (on : Bool) (letter : Char) : Mode :=
  match letter with
  | 'x' => { m with spaced := on }
  | 'i' => { m with caseless := on }
  | 'u' => { m with wide := on }
  | _ => m

/-- A character may stand by itself, or else in brackets. -/
def admits (m : Mode) (inBrackets : Bool) (c : Char) : Bool :=
  if m.wide then !m.caseless else c.toNat < 0x80 || !(inBrackets || m.caseless)

/-- A named set, or its complement, may stand in brackets. -/
def admitsNamed (m : Mode) (complement : Bool) : Bool :=
  if m.wide then !m.caseless else !complement

end Mode

/-- The letters of settings. -/
def settingLetters : List Char := "imsRUux".toList

/-- The mode that settings give, whether they are for the rest of the group, and the text after
them: they end in a closing parenthesis or, in front of a group of their own, in a colon.  No letter
and no hyphen is there twice, and a letter follows the hyphen. -/
def settings? (seen : List Char) (off dangling : Bool) (m : Mode) :
    Text → Option (Mode × Bool × Text)
  | [] => none
  | c :: rest =>
    if c == ')' then if dangling || seen.isEmpty then none else some (m, true, rest)
    else if c == ':' then if dangling then none else some (m, false, rest)
    else if c == '-' then if off then none else settings? seen true true m rest
    else if settingLetters.contains c && !seen.contains c then
      settings? (c :: seen) off false (m.switch (!off) c) rest
    else none

/-! ## 2. Characters and escapes -/

/-- What stands for one place of a matched text. -/
inductive Atom where
  | char (c : Char)
  /-- One of some characters. -/
  | oneOf
  /-- No character, but the place between two. -/
  | between
  deriving DecidableEq, Repr

/-- So many hexadecimal digits, and what follows them. -/
def digits? (m : Mode) : Nat → Text → Option (Text × Text)
  | 0, t => some ([], t)
  | n + 1, t =>
    match m.skip t with
    | [] => none
    | c :: rest => (digits? m n rest).map fun (digits, rest) => (c :: digits, rest)

/-- The character that so many hexadecimal digits give, and what follows them. -/
def numbered? (m : Mode) (count : Nat) (t : Text) : Option (Char × Text) := do
  let (digits, rest) ← digits? m count t
  let c ← Text.scalar? digits
  some (c, rest)

/-- What an escape stands for, and what follows it; the text begins after the backslash. -/
def escape? (m : Mode) : Text → Option (Atom × Text)
  | [] => none
  | c :: rest =>
    match c with
    | 'x' =>
      match numbered? m 2 rest with
      | some (c, rest) => if m.wide || c.toNat < 0x80 then some (.char c, rest) else none
      | none => none
    | 'u' => (numbered? m 4 rest).map fun (c, rest) => (.char c, rest)
    | 'U' => (numbered? m 8 rest).map fun (c, rest) => (.char c, rest)
    | 'd' | 's' | 'w' => if m.wide then none else some (.oneOf, rest)
    | 'b' | 'B' | '<' | '>' => if m.wide then none else some (.between, rest)
    | 'A' | 'z' => some (.between, rest)
    | 'a' => some (.char '\x07', rest)
    | 't' => some (.char '\t', rest)
    | 'n' => some (.char '\n', rest)
    | 'v' => some (.char '\x0b', rest)
    | 'f' => some (.char '\x0c', rest)
    | 'r' => some (.char '\r', rest)
    | c => if c.toNat < 0x80 && !c.isAlphanum then some (.char c, rest) else none

/-! ## 3. Brackets

The depth of a part of a pattern is that of a tree: a character has none, and every group,
repetition, pair of brackets, operator and sequence of two or more is one deeper than what is in
it. -/

/-- The depth of a sequence of parts. -/
def joined : List Nat → Nat
  | [] => 0
  | [depth] => depth
  | depths => 1 + depths.foldl max 0

/-- Open brackets: the depths of what was read since the last operator, the depth of what stands
before that operator, and whether hyphens and a closing bracket are still taken as they are. -/
structure Bracket where
  items : List Nat := []
  left : Option Nat := none
  fresh : Bool := true
  deriving DecidableEq, Repr

namespace Bracket

/-- The depth of what is in the brackets. -/
def depth (b : Bracket) : Nat :=
  match b.left with
  | none => joined b.items
  | some left => 1 + max left (joined b.items)

/-- The brackets with one more item. -/
def add (b : Bracket) (depth : Nat) : Bracket :=
  { b with items := depth :: b.items, fresh := false }

/-- The brackets after an operator; all operators bind alike, from the left. -/
def operator (b : Bracket) : Bracket := { left := some b.depth, fresh := false }

end Bracket

/-- The text after an opening bracket and a circumflex, which takes the complement. -/
def opened? (m : Mode) (t : Text) : Option Text :=
  match m.skip t with
  | '^' :: rest => if m.wide then some rest else none
  | t => some t

/-- The names of sets. -/
def setNames : List Text :=
  ["alnum", "alpha", "ascii", "blank", "cntrl", "digit", "graph", "lower", "print", "punct",
    "space", "upper", "word", "xdigit"].map String.toList

/-- Whether a named set is a complement, and what follows it; the text begins after its opening
bracket. -/
def namedSet? : Text → Option (Bool × Text)
  | ':' :: t =>
    let complement := t.head? == some '^'
    let (name, rest) := (if complement then t.drop 1 else t).span (· != ':')
    match rest with
    | ':' :: ']' :: rest => if setNames.contains name then some (complement, rest) else none
    | _ => none
  | _ => none

/-- The character that decides what a hyphen before the text is: the first that is no blank, of a
comment the first of its text. -/
def deciding? (m : Mode) (t : Text) : Option Char :=
  if m.spaced then
    match t.dropWhile Text.isBlank with
    | '#' :: rest => (rest.dropWhile Text.isBlank).head?
    | rest => rest.head?
  else t.head?

/-- What stands in brackets for one character or more, and what follows it. -/
def unit? (m : Mode) : Text → Option (Atom × Text)
  | [] => none
  | '\\' :: rest => escape? m rest
  | c :: rest => some (.char c, rest)

/-- The text after a character, a set or a range; the ends of a range are characters in order. -/
def item? (m : Mode) (t : Text) : Option Text :=
  match unit? m t with
  | none => none
  | some (first, rest) =>
    let single := match first with
      | .char c => m.admits true c
      | .oneOf => true
      | .between => false
    match m.skip rest with
    | '-' :: after =>
      if deciding? m after == some ']' || deciding? m after == some '-' then
        if single then some ('-' :: after) else none
      else
        match first, unit? m (m.skip after) with
        | .char lo, some (.char hi, rest) =>
          if lo ≤ hi && m.admits true lo && m.admits true hi then some rest else none
        | _, _ => none
    | rest => if single then some rest else none

/-- The depth of brackets and the text after them, in which `outer` are open around `b`.  What is
read gets shorter with every item. -/
def brackets? (m : Mode) (outer : List Bracket) (b : Bracket) (t : Text) : Option (Nat × Text) :=
  match m.skip t with
  | [] => none
  | c :: rest =>
    let next (outer : List Bracket) (b : Bracket) (rest : Text) : Option (Nat × Text) :=
      if _ : rest.length < t.length then brackets? m outer b rest else none
    if b.fresh && (c == '-' || c == ']' && b.items.isEmpty) then
      if m.admits true c then next outer { b.add 0 with fresh := c == '-' } rest else none
    else if c == '[' then
      match namedSet? rest with
      | some (complement, rest) =>
        if m.admitsNamed complement then next outer (b.add 0) rest else none
      | none => (opened? m rest).bind (next (b :: outer) {})
    else if c == ']' then
      match outer with
      | [] => some (1 + b.depth, rest)
      | around :: outer => next outer (around.add (1 + b.depth)) rest
    else if ['&', '-', '~'].contains c && rest.head? == some c then
      next outer b.operator (rest.drop 1)
    else (item? m (c :: rest)).bind (next outer (b.add 0))
termination_by t.length

/-! ## 4. Groups -/

/-- A part of a sequence. -/
inductive Part where
  /-- Settings for the rest of the group, which cannot be repeated. -/
  | settings
  | item (depth : Nat)
  deriving DecidableEq, Repr

/-- The depth of a part. -/
def Part.depth : Part → Nat
  | .settings => 0
  | .item depth => depth

/-- An open group: how it is read on, the depths of its alternatives so far, and the parts of the
present one, the last one first. -/
structure Level where
  mode : Mode := {}
  branches : List Nat := []
  parts : List Part := []
  deriving DecidableEq, Repr

namespace Level

/-- The depth of the present alternative. -/
def branch (l : Level) : Nat := joined (l.parts.map Part.depth)

/-- The depth of what is in the group. -/
def depth (l : Level) : Nat := joined (l.branch :: l.branches)

/-- The group with one more part. -/
def add (l : Level) (part : Part) : Level := { l with parts := part :: l.parts }

/-- The group after a bar. -/
def alternative (l : Level) : Level := { l with branches := l.branch :: l.branches, parts := [] }

/-- The group with its last part repeated, if it has one. -/
def repeated? (l : Level) : Option Level :=
  match l.parts with
  | .item depth :: parts => some { l with parts := .item (1 + depth) :: parts }
  | _ => none

end Level

/-- How far a pattern has been read: the open groups, from the inside, and the names given. -/
structure Progress where
  level : Level := {}
  outer : List Level := []
  names : List Text := []
  deriving DecidableEq, Repr

/-- A name of a group and what follows its closing bracket. -/
def groupName? (t : Text) : Option (Text × Text) :=
  let isFirst (c : Char) := c == '_' || Text.isLetter c
  let isLater (c : Char) := ['_', '.', '[', ']'].contains c || Text.isLetterOrNumeral c
  match t.span (· != '>') with
  | (c :: name, _ :: rest) => if isFirst c && name.all isLater then some (c :: name, rest) else none
  | _ => none

namespace Progress

/-- The pattern with one more part. -/
def add (p : Progress) (part : Part) : Progress := { p with level := p.level.add part }

/-- A group is opened. -/
def enter (p : Progress) (m : Mode) : Progress :=
  { p with level := { mode := m }, outer := p.level :: p.outer }

/-- The group is closed, and is a part of the one around it. -/
def leave? (p : Progress) : Option Progress :=
  match p.outer with
  | [] => none
  | around :: outer =>
    some { p with level := around.add (.item (1 + p.level.depth)), outer := outer }

/-- A group with a name that was not given before is opened. -/
def enterNamed? (p : Progress) (t : Text) : Option (Progress × Text) :=
  match groupName? t with
  | none => none
  | some (name, rest) =>
    if p.names.contains name then none
    else some ({ p.enter p.level.mode with names := name :: p.names }, rest)

/-- What an opening parenthesis begins, up to its first part. -/
def open? (p : Progress) (t : Text) : Option (Progress × Text) :=
  match p.level.mode.skip t with
  | '?' :: 'P' :: '<' :: rest => p.enterNamed? rest
  | '?' :: '<' :: rest => p.enterNamed? rest
  | '?' :: rest =>
    (settings? [] false false p.level.mode rest).map fun (m, forRest, rest) =>
      if forRest then ({ p with level := { p.level.add .settings with mode := m } }, rest)
      else (p.enter m, rest)
  | t => some (p.enter p.level.mode, t)

/-- A part that is a character or stands for one. -/
def addAtom? (p : Progress) : Atom → Option Progress
  | .char c => if p.level.mode.admits false c then some (p.add (.item 0)) else none
  | .oneOf => some (p.add (.item 0))
  | .between => some (p.add (.item 0))

/-- The next part, from its first character on. -/
def step? (p : Progress) (c : Char) (rest : Text) : Option (Progress × Text) :=
  let m := p.level.mode
  match c with
  | '(' => p.open? rest
  | ')' => p.leave?.map fun p => (p, rest)
  | '|' => some ({ p with level := p.level.alternative }, rest)
  | '[' =>
    ((opened? m rest).bind (brackets? m [] {})).map fun (depth, rest) => (p.add (.item depth), rest)
  | '*' | '+' | '?' =>
    p.level.repeated?.map fun level =>
      ({ p with level := level }, if rest.head? == some '?' then rest.drop 1 else rest)
  | '\x7b' => none
  | '\\' => (escape? m rest).bind fun (a, rest) => (p.addAtom? a).map fun p => (p, rest)
  | '.' => if m.wide then some (p.add (.item 0), rest) else none
  | '^' | '$' => some (p.add (.item 0), rest)
  | c => (p.addAtom? (.char c)).map fun p => (p, rest)

/-- The whole pattern.  What is read gets shorter with every part. -/
def run? (p : Progress) (t : Text) : Option Progress :=
  match p.level.mode.skip t with
  | [] => some p
  | c :: rest =>
    match p.step? c rest with
    | none => none
    | some (p, rest) => if _ : rest.length < t.length then p.run? rest else none
termination_by t.length

end Progress

/-- How deep the parts of a pattern may nest. -/
def depthLimit : Nat := 250

/-- **The text is a pattern**: it can be read to its end, all groups are closed, and its parts nest
within the limit. -/
def isPattern (t : Text) : Bool :=
  match Progress.run? {} t with
  | none => false
  | some p => p.outer.isEmpty && p.level.depth ≤ depthLimit

/-- Patterns that need no table of characters. -/
example : ["", "a|b", "^(a+?)$", "[]a-z&&[^b]]", "[[:alpha:]]", "\\x41\\.", "(?x) a # b",
    "(?-u)\\w", "(?<n>a)", "[[:foo:]]"].all (fun s => isPattern s.toList) = true := by
  decide +kernel

/-- What is not closed, repeats nothing, is out of order or needs a table is no pattern. -/
example : ["a)", "[", "(a", "|*", "[b-a]", "[a-\\d]", "\\x4", "\\q", "\\w", "(?i)a", "(?-u).",
    "(?)", "(?<n>a)(?<n>b)", "a\x7b2"].any (fun s => isPattern s.toList) = false := by
  decide +kernel

end NestedJoin.Log.Pattern
