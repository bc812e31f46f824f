/-
# Errors

Each error is the cause of a failure; its wording is in `message` alone.
-/
import NestedJoin.Chain

namespace NestedJoin

/-- Why a configuration cannot be used. -/
inductive ConfigFault where
  /-- There is nothing at the path that was given. -/
  | notFound (path : Text)
  /-- The document has a fault of form, or a setting is of the wrong type. -/
  | document
  /-- The lead of derived names is no identifier. -/
  | notIdentifier (nameLead : Text)
  /-- A reason in words. -/
  | stated (reason : Text)
  deriving DecidableEq, Repr

/-- Why something could not be read. -/
inductive ReadFault where
  /-- There is a directory in place of a file. -/
  | directory
  /-- The bytes are not the UTF-8 form of a text. -/
  | notUtf8
  /-- A reason in words. -/
  | stated (reason : Text)
  deriving DecidableEq, Repr

/-- Everything that can fail. -/
inductive Error where
  | malformedChain (chain : MalformedChain)
  | config (fault : ConfigFault)
  | read (fault : ReadFault)
  deriving DecidableEq, Repr

/-- The wording of a configuration fault. -/
def ConfigFault.message : ConfigFault → Text
  | .notFound path => path ++ " not found".toList
  | .document => "TOML parse error".toList
  | .notIdentifier nameLead =>
    "alias_prefix '".toList ++ nameLead ++ "' is not a valid identifier".toList
  | .stated reason => reason

/-- The wording of a read fault. -/
def ReadFault.message : ReadFault → Text
  | .directory => "Is a directory (os error 21)".toList
  | .notUtf8 => "stream did not contain valid UTF-8".toList
  | .stated reason => reason

namespace Error

/-- The wording of an error. -/
def message : Error → Text
  | .malformedChain chain => chain.message
  | .config fault => "Configuration error: ".toList ++ fault.message
  | .read fault => "IO error: ".toList ++ fault.message

/-- The error is a malformed chain. -/
def isMalformedChain : Error → Bool
  | .malformedChain _ => true
  | .config _ => false
  | .read _ => false

end Error

end NestedJoin
