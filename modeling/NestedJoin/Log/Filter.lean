/-
# Log filters

A filter is a list of directives, parted by commas.  A directive names the events it is about, by
the beginning of their target and by a field they must have, and the lightest level of them that is
let through:

    debug               every event
    part::chain=trace   the events whose target begins so
    part[{sql}]=debug   the events whose target begins so, with that field

The most specific directive about an event decides: the one with the longest target, then the one
that asks for a field; of two about the same events the later.  A directive about spans, or about
the value of a field, lets no event through by itself, but it has to be well-formed: a text with one
directive that cannot be read writes no filter.
-/
import NestedJoin.Log.Event
import NestedJoin.Log.Pattern
import NestedJoin.Text.Utf8

namespace NestedJoin.Log

/-! ## 1. Directives -/

/-- What a directive asks of an event: a field, perhaps with a value. -/
structure FieldTest where
  name : Text
  value : Option Text := none
  deriving DecidableEq, Repr

/-- A directive: the beginning of the targets and the field it asks for, the span it is about, and
the rank of the lightest level it lets through, zero for none. -/
structure Directive where
  target : Option Text := none
  spanName : Option Text := none
  field : Option FieldTest := none
  rank : Nat := Level.trace.rank
  deriving DecidableEq, Repr

namespace Directive

/-- The directive can decide about an event by itself. -/
def isStatic (d : Directive) : Bool := d.spanName.isNone && d.field.all fun f => f.value.isNone

/-- The directive is about an event: the target begins as asked, and the field is there. -/
def concerns (d : Directive) (e : Event) : Bool :=
  (d.target.getD []).isPrefixOf e.target &&
    d.field.all fun f => f.name == "message".toList || e.fields.any fun (name, _) => f.name == name

/-- The directive is no less specific than another about the same event. -/
def atLeast (d other : Directive) : Bool :=
  let length (d : Directive) := (d.target.map fun t => Text.byteLength t + 1).getD 0
  if length d != length other then length other < length d
  else
    match d.field, other.field with
    | _, none => true
    | none, some _ => false
    | some f, some g => !(decide (f.name < g.name))

end Directive

/-! ## 2. Fields -/

/-- A number without a sign: digits with at most one point among or beside them, and perhaps an
exponent. -/
def isUnsigned (t : Text) : Bool :=
  let (whole, rest) := t.span Char.isDigit
  let (part, rest) := match rest with
    | '.' :: rest => rest.span Char.isDigit
    | rest => ([], rest)
  let exponent : Bool := match rest with
    | [] => true
    | e :: rest =>
      let digits := match rest with
        | '+' :: rest => rest
        | '-' :: rest => rest
        | rest => rest
      e.toLower == 'e' && !digits.isEmpty && digits.all Char.isDigit
  !(whole.isEmpty && part.isEmpty) && exponent

/-- A number, finite or not. -/
def isNumber (t : Text) : Bool :=
  let t := match t with
    | '+' :: rest => rest
    | '-' :: rest => rest
    | t => t
  isUnsigned t ||
    (["inf", "infinity", "nan"].map String.toList).contains (t.map Char.toLower)

/-- What the text between braces asks for.  After the first equals sign stands the value, which is
a number or a pattern; what follows a second one does not count. -/
def fieldTest? (t : Text) : Option FieldTest :=
  match t.splitOn '=' with
  | name :: value :: _ =>
    if isNumber value || Pattern.isPattern value then some ⟨name, some value⟩ else none
  | _ => if t.isEmpty then none else some ⟨t, none⟩

/-! ## 3. Reading a directive -/

/-- The rank a word stands for: the name of a level in either case, or its number. -/
def rankOf? (word : Text) : Option Nat :=
  let digits := match word with
    | '+' :: rest => rest
    | _ => word
  if !digits.isEmpty && digits.all Char.isDigit then
    let n := digits.foldl (fun n c => 10 * n + (c.toNat - '0'.toNat)) 0
    if n ≤ Level.trace.rank then some n else none
  else
    let word := word.map Char.toLower
    if word == "off".toList then some 0
    else
      ([Level.error, .warn, .info, .debug, .trace].find? fun l =>
        l.name.map Char.toLower == word).map Level.rank

/-- Where the reading of a directive stands; a number is where the piece being read begins. -/
inductive Stage where
  | start
  | word (first : Nat)
  | span (first : Nat)
  | field (first : Nat)
  | fieldEnd
  | spanEnd
  | level (first : Nat)
  deriving DecidableEq, Repr

/-- The characters a directive may begin with, brackets apart. -/
def beginsDirective (c : Char) : Bool :=
  c == '-' || c == ':' || c == '_' || Text.isLetterOrNumeral c

/-- One character more: the next stage and the directive so far.  The pieces are cut by `piece`,
from one position up to another. -/
def Stage.next (piece : Nat → Nat → Text) (d : Directive) (i : Nat) (c : Char) :
    Stage → Option (Stage × Directive)
  | .start =>
    if c == '[' then some (.span (i + 1), d)
    else if beginsDirective c then some (.word i, d)
    else none
  | .word first =>
    if c == '=' then some (.level (i + 1), { d with target := some (piece first i) })
    else if c == '[' then some (.span (i + 1), { d with target := some (piece first i) })
    else some (.word first, d)
  | .span first =>
    if c == ']' then some (.spanEnd, { d with spanName := some (piece first i) })
    else if c == '\x7b' then
      let name := piece first i
      some (.field (i + 1), { d with spanName := if name.isEmpty then none else some name })
    else some (.span first, d)
  | .field first =>
    if c == '\x7d' then
      (fieldTest? (piece first i)).map fun test => (.fieldEnd, { d with field := some test })
    else some (.field first, d)
  | .fieldEnd => if c == ']' then some (.spanEnd, d) else none
  | .spanEnd => if c == '=' then some (.level (i + 1), d) else none
  | .level first => some (.level first, d)

/-- The directive that is left at the end; `rest` gives the text from a position on. -/
def Stage.finish (rest : Nat → Text) (d : Directive) : Stage → Option Directive
  | .word first =>
    match rankOf? (rest first) with
    | some rank => some { d with rank := rank }
    | none => some { d with target := some (rest first) }
  | .level first =>
    if (rest first).isEmpty then some d
    else (rankOf? (rest first)).map fun rank => { d with rank := rank }
  | .spanEnd => some d
  | _ => none

/-- The reading of a directive from a stage and a position on. -/
def readDirective (whole : Text) (d : Directive) (stage : Stage) :
    Nat → Text → Option Directive
  | _, [] => stage.finish (fun first => whole.drop first) d
  | i, c :: rest =>
    match stage.next (fun first stop => (whole.drop first).take (stop - first)) d i c with
    | none => none
    | some (stage, d) => readDirective whole d stage (i + 1) rest

/-- A directive.  Its characters are scanned without the blanks at either end, its pieces are cut
at the scanned positions from the text as it was given. -/
def directive? (t : Text) : Option Directive := readDirective t {} .start 0 (Text.trim t)

/-! ## 4. Filters -/

/-- A filter: its directives, as they were given. -/
structure Filter where
  directives : List Directive
  deriving Repr

namespace Filter

/-- The filter a text writes, if each of its directives can be read; it may have none. -/
def read? (t : Text) : Option Filter :=
  (((t.splitOn ',').filter fun part => !part.isEmpty).mapM directive?).map Filter.mk

/-- The more specific of two directives, the later of two alike. -/
def better (best : Option Directive) (d : Directive) : Option Directive :=
  match best with
  | none => some d
  | some b => if d.atLeast b then some d else some b

/-- The filter lets an event through. -/
def allows (f : Filter) (e : Event) : Bool :=
  match ((f.directives.filter fun d => d.isStatic && d.concerns e).foldl better none) with
  | none => false
  | some d => e.level.rank ≤ d.rank

/-- The first of some texts that writes a filter, or else the given one. -/
def firstOf (texts : List Text) (default : Filter) : Filter :=
  (texts.findSome? read?).getD default

end Filter

end NestedJoin.Log
