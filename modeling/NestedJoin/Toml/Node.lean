/-
# The tables of a TOML document

A document is a tree of tables.  A table can come about in four ways, and the way decides what may
be added to it later: a literal table in braces is closed; a table with a header of its own may not
get another header, nor keys by a dotted key from outside; a table that only a longer header
implies may still get its header; a table that dotted keys have opened takes more dotted keys and
no header.  Numbers with a fraction and dates are checked when they are read and not kept.

Every operation here answers with nothing where the document would define something twice or
extend what is closed.
-/
import NestedJoin.Keyed

namespace NestedJoin.Toml

/-- How a table came about. -/
inductive Origin where
  /-- Written in braces. -/
  | literal
  /-- Given by its own header. -/
  | header
  /-- Implied by the header of a table inside it. -/
  | implied
  /-- Opened by a dotted key. -/
  | dotted
  deriving DecidableEq, Repr

/-- A value of a document. -/
inductive Node where
  | string (t : Text)
  | integer (n : Int)
  | float
  | boolean (b : Bool)
  | dateTime
  | array (items : List Node)
  | table (origin : Origin) (entries : List (Text × Node))
  /-- The tables that headers in double brackets list, the latest last. -/
  | tables (items : List (List (Text × Node)))
  deriving Repr, Inhabited

/-- The entries of a table, in the order in which they were defined. -/
abbrev Entries := Keyed Node

namespace Entries

/-! ## 1. Keys -/

/-- A change to the last of a list of tables. -/
def changeLast (change : Entries → Option Entries) : List Entries → Option (List Entries)
  | [] => none
  | [last] => (change last).map ([·])
  | first :: rest => (changeLast change rest).map (first :: ·)

/-- A dotted key may go through a table, or may end in it as its last stop before the name. -/
def takesDotted (isLast : Bool) : Origin → Bool
  | .dotted => true
  | .implied => !isLast
  | .header => false
  | .literal => false

/-- The entries with a value under a dotted key. -/
def define (v : Node) : List Text → Entries → Option Entries
  | [], _ => none
  | [name], entries =>
    match Keyed.get? entries name with
    | none => some (Keyed.set entries name v)
    | some _ => none
  | key :: rest, entries =>
    match Keyed.get? entries key with
    | none => (define v rest []).map fun inner => Keyed.set entries key (.table .dotted inner)
    | some (.table origin inner) =>
      if takesDotted (rest.length == 1) origin then
        (define v rest inner).map fun inner => Keyed.set entries key (.table origin inner)
      else none
    | some (.tables items) =>
      if rest.length == 1 then none
      else (changeLast (define v rest) items).map fun items => Keyed.set entries key (.tables items)
    | some _ => none

/-- The entries of a literal table. -/
def ofPairs (pairs : List (List Text × Node)) : Option Entries :=
  pairs.foldlM (fun entries (key, v) => define v key entries) []

/-! ## 2. Headers -/

/-- A change at the end of a header's path, through tables and the last of each list of tables;
tables that are not there yet are implied. -/
def through (change : Text → Entries → Option Entries) : List Text → Entries → Option Entries
  | [], _ => none
  | [name], entries => change name entries
  | key :: rest, entries =>
    match Keyed.get? entries key with
    | none => (through change rest []).map fun inner => Keyed.set entries key (.table .implied inner)
    | some (.table .literal _) => none
    | some (.table origin inner) =>
      (through change rest inner).map fun inner => Keyed.set entries key (.table origin inner)
    | some (.tables items) =>
      (changeLast (through change rest) items).map fun items => Keyed.set entries key (.tables items)
    | some _ => none

/-- A table begun by its header. -/
def beginTable (name : Text) (entries : Entries) : Option Entries :=
  match Keyed.get? entries name with
  | none => some (Keyed.set entries name (.table .header []))
  | some (.table .implied inner) => some (Keyed.set entries name (.table .header inner))
  | some _ => none

/-- One more table of a list begun by its header. -/
def beginItem (name : Text) (entries : Entries) : Option Entries :=
  match Keyed.get? entries name with
  | none => some (Keyed.set entries name (.tables [[]]))
  | some (.tables items) => some (Keyed.set entries name (.tables (items ++ [[]])))
  | some _ => none

/-- A change inside the table that a header has begun. -/
def inside (change : Entries → Option Entries) (name : Text) (entries : Entries) :
    Option Entries :=
  match Keyed.get? entries name with
  | some (.table origin inner) =>
    (change inner).map fun inner => Keyed.set entries name (.table origin inner)
  | some (.tables items) =>
    (changeLast change items).map fun items => Keyed.set entries name (.tables items)
  | _ => none

end Entries

end NestedJoin.Toml
