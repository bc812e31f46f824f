/-
# Log events

Everything the library tells its log, one constructor for each thing that can happen.  The level,
the target, the message and the named fields of an event follow from what happened.
-/
import NestedJoin.Chain

namespace NestedJoin.Log

/-! ## 1. Levels -/

/-- How weighty an event is, from the weightiest on. -/
inductive Level where
  | error
  | warn
  | info
  | debug
  | trace
  deriving DecidableEq, Repr

namespace Level

/-- The level as a number that grows as events get lighter. -/
def rank : Level → Nat
  | .error => 1
  | .warn => 2
  | .info => 3
  | .debug => 4
  | .trace => 5

/-- The name of a level, as it is written. -/
def name : Level → Text
  | .error => "ERROR".toList
  | .warn => "WARN".toList
  | .info => "INFO".toList
  | .debug => "DEBUG".toList
  | .trace => "TRACE".toList

end Level

/-! ## 2. Events -/

/-- Why a statement was passed through. -/
inductive PassReason where
  | notSelect
  | noClause
  deriving DecidableEq, Repr

/-- The wording of a reason. -/
def PassReason.text : PassReason → Text
  | .notSelect => "not a SELECT statement".toList
  | .noClause => "no FROM clause".toList

/-- What happened. -/
inductive Event where
  /-- A group took its nested form, which opened `depth` parentheses. -/
  | chainNested (group result : Text) (depth : Nat)
  /-- A group has no nested form. -/
  | chainMalformed (chain : MalformedChain)
  /-- A statement was passed through. -/
  | passedThrough (reason : PassReason)
  /-- The answer for a statement was in the cache. -/
  | cacheHit (sql : Text)
  /-- A statement has no nested form. -/
  | statementFailed (sql : Text) (chain : MalformedChain)
  /-- No configuration file was found. -/
  | defaultsUsed
  /-- The configuration file at a path is about to be read. -/
  | configurationFound (path : Text)
  deriving DecidableEq, Repr

/-- The value of a named field: a text that is written in quotes, a text that is written as it is,
or a number. -/
inductive FieldValue where
  | quoted (text : Text)
  | plain (text : Text)
  | count (n : Nat)
  deriving DecidableEq, Repr

namespace Event

/-- The level of an event. -/
def level : Event → Level
  | .chainNested .. => .trace
  | .chainMalformed .. => .error
  | .passedThrough .. => .debug
  | .cacheHit .. => .debug
  | .statementFailed .. => .error
  | .defaultsUsed => .debug
  | .configurationFound .. => .debug

/-- The part of the library an event comes from. -/
def target : Event → Text
  | .chainNested .. => "jetjoin::join".toList
  | .chainMalformed .. => "jetjoin::join".toList
  | .passedThrough .. => "jetjoin::translator".toList
  | .cacheHit .. => "jetjoin::translator".toList
  | .statementFailed .. => "jetjoin::translator".toList
  | .defaultsUsed => "jetjoin::config".toList
  | .configurationFound .. => "jetjoin::config".toList

/-- The sentence of an event. -/
def message : Event → Text
  | .chainNested .. => "parenthesized join chain".toList
  | .chainMalformed .. =>
    "Invalid join syntax. Could not parenthesize the join block properly.".toList
  | .passedThrough .. => "statement passed through untranslated".toList
  | .cacheHit .. => "translation cache hit".toList
  | .statementFailed .. => "statement translation failed".toList
  | .defaultsUsed => "no jetjoin.toml found, using defaults".toList
  | .configurationFound .. => "loading configuration".toList

/-- The named fields of an event, in the order in which they are written. -/
def fields : Event → List (Text × FieldValue)
  | .chainNested group result depth =>
    [("group".toList, .quoted group), ("rewritten".toList, .plain result),
      ("nesting".toList, .count depth)]
  | .chainMalformed chain =>
    [("group".toList, .quoted chain.group), ("segment".toList, .quoted chain.segment)]
  | .passedThrough reason => [("reason".toList, .quoted reason.text)]
  | .cacheHit sql => [("sql".toList, .quoted sql)]
  | .statementFailed sql chain =>
    [("sql".toList, .quoted sql), ("error".toList, .plain chain.message)]
  | .defaultsUsed => []
  | .configurationFound path => [("path".toList, .plain path)]

end Event

end NestedJoin.Log
