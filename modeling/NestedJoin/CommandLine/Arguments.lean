/-
# The arguments of the command line

    [OPTIONS] [SQL]
    [OPTIONS] explain SQL

The arguments are read from the left, and the first that asks for help or for the version, or that
is at fault, decides.  An option stands in one argument with its value or in front of it; letters
may be put together; each option may be given once.  After `--` every argument is taken as it is.
-/
import NestedJoin.Text.Blank

namespace NestedJoin.CommandLine

/-! ## 1. What the arguments ask for -/

/-- The form of the output. -/
inductive Format where
  | text
  | json
  deriving DecidableEq, Repr

/-- What is to be done: convert one statement, or those on standard input; or explain one. -/
inductive Task where
  | convert (sql : Option Text)
  | explain (sql : Text)
  deriving DecidableEq, Repr

/-- An accepted command line. -/
structure Invocation where
  configPath : Option Text
  format : Format
  verbose : Bool
  task : Task
  deriving DecidableEq, Repr

/-- Why a command line is refused. -/
inductive UsageFault where
  /-- An argument that is no option, or one too many. -/
  | unexpected (argument : Text)
  /-- An option for the second time. -/
  | repeated (option : Text)
  /-- An option without its value. -/
  | valueMissing (option : Text)
  /-- An option with a value it cannot take. -/
  | badValue (option value : Text)
  /-- No statement to explain. -/
  | statementMissing
  deriving DecidableEq, Repr

/-- The wording of a usage fault. -/
def UsageFault.message : UsageFault → Text
  | .unexpected argument => "unexpected argument '".toList ++ argument ++ "'".toList
  | .repeated option => "'".toList ++ option ++ "' cannot be used multiple times".toList
  | .valueMissing option => "a value is required for '".toList ++ option ++ "'".toList
  | .badValue option value =>
    "invalid value '".toList ++ value ++ "' for '".toList ++ option ++ "'".toList
  | .statementMissing => "the statement to explain is missing".toList

/-- Why no task comes of the arguments. -/
inductive Halt where
  | help
  | version
  | refused (fault : UsageFault)
  deriving DecidableEq, Repr

/-! ## 2. Options -/

/-- The options that take a value. -/
inductive Valued where
  | config
  | format
  deriving DecidableEq, Repr

/-- The name of an option that takes a value. -/
def Valued.name : Valued → Text
  | .config => "--config".toList
  | .format => "--format".toList

/-- What has been read so far. -/
structure Reading where
  configPath : Option Text := none
  format : Option Format := none
  verbose : Bool := false
  sql : Option Text := none
  /-- The option whose value comes next. -/
  waiting : Option Valued := none
  /-- Every further argument is taken as it is. -/
  verbatim : Bool := false
  deriving DecidableEq, Repr

namespace Reading

/-- An option with its value. -/
def setValue (r : Reading) (option : Valued) (value : Text) : Except Halt Reading :=
  match option with
  | .config =>
    if r.configPath.isSome then .error (.refused (.repeated option.name))
    else if value.isEmpty then .error (.refused (.badValue option.name value))
    else .ok { r with configPath := some value, waiting := none }
  | .format =>
    if r.format.isSome then .error (.refused (.repeated option.name))
    else if value == "text".toList then .ok { r with format := some .text, waiting := none }
    else if value == "json".toList then .ok { r with format := some .json, waiting := none }
    else .error (.refused (.badValue option.name value))

/-- The option for more output. -/
def setVerbose (r : Reading) : Except Halt Reading :=
  if r.verbose then .error (.refused (.repeated "--verbose".toList))
  else .ok { r with verbose := true }

/-- An argument that is no option: the value that is waited for, or the statement. -/
def takePlain (r : Reading) (argument : Text) : Except Halt Reading :=
  match r.waiting with
  | some option => r.setValue option argument
  | none =>
    if r.sql.isSome then .error (.refused (.unexpected argument))
    else .ok { r with sql := some argument }

/-- An option by its long name, after the two dashes. -/
def takeLong (r : Reading) (t : Text) : Except Halt Reading :=
  let (name, attached) := match t.span (· != '=') with
    | (name, '=' :: value) => (name, some value)
    | (name, _) => (name, none)
  let valued (option : Valued) : Except Halt Reading :=
    match attached with
    | some value => r.setValue option value
    | none => .ok { r with waiting := some option }
  if name == "config".toList then valued .config
  else if name == "format".toList then valued .format
  else if attached.isSome then .error (.refused (.unexpected ("--".toList ++ t)))
  else if name == "verbose".toList then r.setVerbose
  else if name == "help".toList then .error .help
  else if name == "version".toList then .error .version
  else .error (.refused (.unexpected ("--".toList ++ t)))

/-- The value of an option by its letter: the rest of the argument, where an equals sign in front
does not count, or the next argument. -/
def takeRest (r : Reading) (option : Valued) : Text → Except Halt Reading
  | [] => .ok { r with waiting := some option }
  | '=' :: value => r.setValue option value
  | value => r.setValue option value

/-- Options by their letters, after the dash. -/
def takeLetters (r : Reading) : Text → Except Halt Reading
  | [] => .ok r
  | 'v' :: rest =>
    match r.setVerbose with
    | .error halt => .error halt
    | .ok r => r.takeLetters rest
  | 'h' :: _ => .error .help
  | 'V' :: _ => .error .version
  | 'c' :: rest => r.takeRest .config rest
  | 'f' :: rest => r.takeRest .format rest
  | c :: _ => .error (.refused (.unexpected ['-', c]))

/-- An argument that may be an option; one with a dash in front is no value. -/
def takeArgument (r : Reading) (argument : Text) : Except Halt Reading :=
  let option (take : Except Halt Reading) : Except Halt Reading :=
    match r.waiting with
    | some option => .error (.refused (.valueMissing option.name))
    | none => take
  match argument with
  | ['-', '-'] => option (.ok { r with verbatim := true })
  | '-' :: '-' :: rest => option (r.takeLong rest)
  | '-' :: c :: rest => option (r.takeLetters (c :: rest))
  | _ => r.takePlain argument

end Reading

/-! ## 3. Command lines -/

/-- The statement to explain, from the arguments after `explain`. -/
def readExplain (sql : Option Text) (verbatim : Bool) : List Text → Except Halt Text
  | [] =>
    match sql with
    | some sql => .ok sql
    | none => .error (.refused .statementMissing)
  | argument :: rest =>
    let plain : Except Halt Text :=
      if sql.isSome then .error (.refused (.unexpected argument))
      else readExplain (some argument) verbatim rest
    if verbatim then plain
    else
      match argument with
      | ['-', '-'] => readExplain sql true rest
      | '-' :: 'h' :: _ => .error .help
      | '-' :: _ :: _ =>
        if argument == "--help".toList then .error .help
        else .error (.refused (.unexpected argument))
      | _ => plain

/-- What the arguments after `help` ask for: help, on a command that exists. -/
def readHelp : List Text → Halt
  | [] => .help
  | [command] =>
    if command == "explain".toList || command == "help".toList then .help
    else .refused (.unexpected command)
  | _ :: command :: _ => .refused (.unexpected command)

/-- The invocation that has been read, with what stands for a path that was not given. -/
def Reading.finish (r : Reading) (usualPath : Option Text) (task : Task) :
    Except Halt Invocation :=
  match r.waiting with
  | some option => .error (.refused (.valueMissing option.name))
  | none =>
    let configPath := r.configPath.or usualPath
    if configPath == some [] then .error (.refused (.badValue Valued.config.name []))
    else .ok ⟨configPath, r.format.getD .text, r.verbose, task⟩

/-- The command line from a state of reading on. -/
def readFrom (usualPath : Option Text) (r : Reading) : List Text → Except Halt Invocation
  | [] => r.finish usualPath (.convert r.sql)
  | argument :: rest =>
    if r.verbatim then
      match r.takePlain argument with
      | .error halt => .error halt
      | .ok r => readFrom usualPath r rest
    else if r.waiting.isNone && argument == "explain".toList then
      match readExplain none false rest with
      | .error halt => .error halt
      | .ok sql => r.finish usualPath (.explain sql)
    else if r.waiting.isNone && argument == "help".toList then .error (readHelp rest)
    else
      match r.takeArgument argument with
      | .error halt => .error halt
      | .ok r => readFrom usualPath r rest

/-- The command line; `usualPath` is the path of the configuration where none is given. -/
def read (usualPath : Option Text) (arguments : List Text) : Except Halt Invocation :=
  readFrom usualPath {} arguments

end NestedJoin.CommandLine
