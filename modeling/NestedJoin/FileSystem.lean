/-
# Files and directories

A file system answers what is at a path.  A `Tree` is one of them: a working directory with the
files and directories in it, whose paths are followed step by step, so that `.` stays, `..` goes
up and a step from a file leads nowhere.  Of what is outside of the working directory only so much
is known: that there are directories all the way up, and the few places that every system has.
-/
import NestedJoin.Text.Utf8

namespace NestedJoin

/-! ## 1. What is at a path -/

/-- What a path leads to. -/
inductive Entry where
  | directory
  | file (content : List UInt8)
  /-- Something that cannot be read, with the reason. -/
  | unreadable (reason : Text)
  deriving DecidableEq, Repr

/-- What is at each path, if anything is. -/
abbrev FileSystem := Text → Option Entry

/-! ## 2. A working directory -/

/-- A working directory: its files and directories by the names on the way to them. -/
structure Tree where
  places : List (List Text × Entry) := []
  deriving Repr

namespace Tree

/-- The steps of a path. -/
def steps (path : Text) : List Text := path.splitOn '/'

/-- The names on the way to a place. -/
def names (path : Text) : List Text :=
  (steps path).filter fun step => !(step == [] || step == ['.'])

/-- The tree with one more place; a name that ends in a slash is a directory. -/
def add (tree : Tree) (path : Text) (content : List UInt8) : Tree :=
  let entry := if path.getLast? == some '/' then .directory else .file content
  ⟨tree.places ++ [(names path, entry)]⟩

/-- What is at a place: an entry of the tree, or a directory on the way to one. -/
def entry? (tree : Tree) (place : List Text) : Option Entry :=
  match tree.places.find? fun (names, _) => names == place with
  | some (_, entry) => some entry
  | none =>
    if place.isEmpty || tree.places.any fun (names, _) => place.isPrefixOf names then
      some .directory
    else none

/-- What every system has, by the names on the way from the root of all files; the empty device
reads as an empty file. -/
def system : Tree :=
  let directories := ["bin", "dev", "etc", "proc", "sys", "tmp", "usr", "var"]
  ⟨(["dev", "null"].map String.toList, .file []) ::
    directories.map fun name => ([name.toList], .directory)⟩

/-- Where a path has led so far. -/
inductive Position where
  /-- A place in the tree. -/
  | inside (place : List Text)
  /-- A directory above the tree. -/
  | above
  /-- A place from the root of all files. -/
  | rooted (place : List Text)
  deriving DecidableEq, Repr

/-- What is at a position. -/
def at? (tree : Tree) : Position → Option Entry
  | .inside place => tree.entry? place
  | .above => some .directory
  | .rooted place => system.entry? place

/-- The position one level up. -/
def Position.up : Position → Position
  | .inside [] => .above
  | .inside place => .inside place.dropLast
  | .above => .above
  | .rooted place => .rooted place.dropLast

/-- The position one name further down; above the tree no name is known. -/
def Position.down? (name : Text) : Position → Option Position
  | .inside place => some (.inside (place ++ [name]))
  | .above => none
  | .rooted place => some (.rooted (place ++ [name]))

/-- The position one step further, which has to be taken from a directory. -/
def step? (tree : Tree) (position : Position) (step : Text) : Option Position :=
  if tree.at? position = some .directory then
    if step == [] || step == ['.'] then some position
    else if step == ['.', '.'] then some position.up
    else position.down? step
  else none

/-- What is at a path, which begins at the working directory or, with a slash, at the root of all
files; the empty path leads nowhere. -/
def resolve (tree : Tree) : FileSystem := fun path =>
  if path.isEmpty then none
  else
    let start := if path.head? == some '/' then Position.rooted [] else .inside []
    ((steps path).foldlM tree.step? start).bind tree.at?

/-- The same, where paths under `root` lead into the working directory too. -/
def mounted (tree : Tree) (root : Text) : FileSystem := fun path =>
  let root := root ++ ['/']
  if root.isPrefixOf path then tree.resolve (path.drop root.length) else tree.resolve path

end Tree

end NestedJoin
