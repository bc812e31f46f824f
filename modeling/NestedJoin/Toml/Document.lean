/-
# TOML documents

A document is a sequence of lines: blank ones, headers, and keys with values.  Reading a line needs
nothing of the lines before it; whether it may stand after them is decided when the lines are put
together into the tables of the document.  `Document.read?` answers with nothing where the text is
no document.
-/
import NestedJoin.Toml.Numbers

namespace NestedJoin.Toml

/-! ## 1. What stands between -/

/-- The text after blanks within the line. -/
def skipSpaces (t : Text) : Text := t.dropWhile isSpace

/-- The text after a comment, up to the end of its line. -/
def skipComment : Text → Text
  | '#' :: rest => rest.dropWhile isPlain
  | t => t

/-- What follows the rest of a line that holds nothing but blanks and a comment. -/
def lineEnd? (t : Text) : Option Text :=
  match skipComment (skipSpaces t) with
  | [] => some []
  | t => newline? t

/-- The text after blanks, line breaks and whole comments. -/
def skipGap (inComment : Bool) : Text → Text
  | [] => []
  | '\n' :: rest => skipGap false rest
  | '\r' :: '\n' :: rest => skipGap false rest
  | c :: rest =>
    if inComment then
      if isPlain c then skipGap true rest else c :: rest
    else if isSpace c then skipGap false rest
    else if c == '#' then skipGap true rest
    else c :: rest

/-! ## 2. Keys -/

/-- The characters of a key without quotes. -/
def isBare (c : Char) : Bool :=
  ('a' ≤ c && c ≤ 'z') || ('A' ≤ c && c ≤ 'Z') || ('0' ≤ c && c ≤ '9') || c == '-' || c == '_'

/-- One part of a key. -/
def keyPart? : Text → Option (Text × Text)
  | '"' :: rest => basicString rest
  | '\'' :: rest => literalString rest
  | t =>
    match t.span isBare with
    | ([], _) => none
    | (part, rest) => some (part, rest)

/-- The parts of a key, with blanks around each; `fuel` bounds their number. -/
def keyParts? : Nat → Text → Option (List Text × Text)
  | 0, _ => none
  | fuel + 1, t =>
    match keyPart? (skipSpaces t) with
    | none => none
    | some (part, rest) =>
      match skipSpaces rest with
      | '.' :: rest => (keyParts? fuel rest).map fun (parts, rest) => (part :: parts, rest)
      | rest => some ([part], rest)

/-- How deep arrays and tables may nest, and how many parts a key may have, is less than this. -/
def depthLimit : Nat := 80

/-- A key. -/
def key? (t : Text) : Option (List Text × Text) := keyParts? (depthLimit - 1) t

/-! ## 3. Values -/

/-- A reader of values. -/
abbrev ValueReader := Text → Option (Node × Text)

/-- The items of an array up to its closing bracket; `fuel` bounds their number. -/
def items? (value? : ValueReader) : Nat → Text → Option (List Node × Text)
  | 0, _ => none
  | fuel + 1, t =>
    match skipGap false t with
    | ']' :: rest => some ([], rest)
    | t =>
      match value? t with
      | none => none
      | some (v, rest) =>
        match skipGap false rest with
        | ']' :: rest => some ([v], rest)
        | ',' :: rest => (items? value? fuel rest).map fun (vs, rest) => (v :: vs, rest)
        | _ => none

/-- A key, an equals sign and a value. -/
def pair? (value? : ValueReader) (t : Text) : Option ((List Text × Node) × Text) :=
  match key? t with
  | some (key, '=' :: rest) => (value? (skipSpaces rest)).map fun (v, rest) => ((key, v), rest)
  | _ => none

/-- The pairs of a literal table, one at least, up to its closing brace; `fuel` bounds their
number. -/
def pairs? (value? : ValueReader) : Nat → Text → Option (List (List Text × Node) × Text)
  | 0, _ => none
  | fuel + 1, t =>
    match pair? value? t with
    | none => none
    | some (pair, rest) =>
      match skipSpaces rest with
      | '\x7d' :: rest => some ([pair], rest)
      | ',' :: rest => (pairs? value? fuel rest).map fun (more, rest) => (pair :: more, rest)
      | _ => none

/-- An array after its opening bracket. -/
def array? (value? : ValueReader) (t : Text) : Option (Node × Text) :=
  (items? value? (t.length + 1) t).map fun (vs, rest) => (.array vs, rest)

/-- A literal table after its opening brace. -/
def literalTable? (value? : ValueReader) (t : Text) : Option (Node × Text) :=
  match skipSpaces t with
  | '\x7d' :: rest => some (.table .literal [], rest)
  | t =>
    match pairs? value? (t.length + 1) t with
    | none => none
    | some (pairs, rest) => (Entries.ofPairs pairs).map fun es => (.table .literal es, rest)

/-- A value that holds no other. -/
def scalar : Text → Option (Node × Text)
  | 't' :: 'r' :: 'u' :: 'e' :: rest => some (.boolean true, rest)
  | 'f' :: 'a' :: 'l' :: 's' :: 'e' :: rest => some (.boolean false, rest)
  | t =>
    match string? t with
    | some (s, rest) => some (.string s, rest)
    | none =>
      match dateTime? t with
      | some rest => some (.dateTime, rest)
      | none => number? t

/-- A value; arrays and tables nest no deeper than `depth`. -/
def value? : Nat → ValueReader
  | 0, t => scalar t
  | depth + 1, '[' :: rest => array? (value? depth) rest
  | depth + 1, '\x7b' :: rest => literalTable? (value? depth) rest
  | _ + 1, t => scalar t

/-! ## 4. Lines -/

/-- A line that says something. -/
inductive Line where
  /-- The header of a table. -/
  | table (path : List Text)
  /-- The header of one more table of a list. -/
  | item (path : List Text)
  /-- A key with its value. -/
  | pair (key : List Text) (v : Node)
  deriving Repr

/-- A header or a pair, and what follows its line. -/
def line? : Text → Option (Line × Text)
  | '[' :: '[' :: rest =>
    match key? rest with
    | some (path, ']' :: ']' :: rest) => (lineEnd? rest).map fun rest => (.item path, rest)
    | _ => none
  | '[' :: rest =>
    match key? rest with
    | some (path, ']' :: rest) => (lineEnd? rest).map fun rest => (.table path, rest)
    | _ => none
  | t =>
    match pair? (value? (depthLimit - 1)) t with
    | none => none
    | some ((key, v), rest) => (lineEnd? rest).map fun rest => (.pair key v, rest)

/-- The lines of a document that say something; `fuel` bounds the number of all its lines. -/
def lines? : Nat → Text → Option (List Line)
  | 0, _ => none
  | fuel + 1, t =>
    match lineEnd? t with
    | some [] => some []
    | some rest => lines? fuel rest
    | none =>
      match line? (skipSpaces t) with
      | none => none
      | some (line, rest) => (lines? fuel rest).map (line :: ·)

/-! ## 5. Documents -/

/-- The tables built so far, and the path of the table whose keys come next. -/
structure Building where
  root : Entries := []
  path : List Text := []

/-- The tables after one more line. -/
def Building.add (b : Building) : Line → Option Building
  | .table path => (Entries.through Entries.beginTable path b.root).map fun root => ⟨root, path⟩
  | .item path => (Entries.through Entries.beginItem path b.root).map fun root => ⟨root, path⟩
  | .pair key v =>
    if b.path.isEmpty then (Entries.define v key b.root).map fun root => { b with root := root }
    else
      (Entries.through (Entries.inside (Entries.define v key)) b.path b.root).map fun root =>
        { b with root := root }

/-- The entries of the document that a text is; a byte order mark in front does not count. -/
def Document.read? (t : Text) : Option Entries :=
  let t := match t with
    | '\ufeff' :: rest => rest
    | t => t
  match lines? (t.length + 1) t with
  | none => none
  | some lines => (lines.foldlM Building.add {}).map (·.root)

end NestedJoin.Toml
