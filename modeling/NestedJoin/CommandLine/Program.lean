/-
# The program of the command line

The program as a function: from its arguments and what it finds around it to its exit status and
what it writes.  With a statement among the arguments it converts that; without one it converts
the lines of standard input, and goes on after a line that fails.
-/
import NestedJoin.CommandLine.Report
import NestedJoin.Config
import NestedJoin.Log.Filter
import NestedJoin.Log.Line
import NestedJoin.Text.Lines

namespace NestedJoin.CommandLine

/-! ## 1. What the program finds and what it writes -/

/-- What the program finds around it. -/
structure Surroundings where
  files : FileSystem
  /-- The directory of the user's configurations. -/
  userDirectory : Option Text := none
  /-- The path of the configuration where the arguments give none. -/
  usualPath : Option Text := none
  input : List UInt8 := []
  /-- Styles are shown. -/
  color : Bool := false
  /-- The texts that may write the log filter; the first that does holds. -/
  logFilters : List Text := []

/-- What the program writes: to standard output and to standard error. -/
structure Output where
  out : Text := []
  err : Text := []
  deriving DecidableEq, Repr

/-- How the program ends. -/
structure Outcome where
  status : Nat
  output : Output
  deriving DecidableEq, Repr

/-- One output after another. -/
def Output.append (a b : Output) : Output := ⟨a.out ++ b.out, a.err ++ b.err⟩

instance : Append Output := ⟨Output.append⟩

/-- What a run of the program goes by. -/
structure Settings where
  format : Format
  color : Bool
  filter : Log.Filter

/-- The events that the filter lets through, each on its line. -/
def Settings.log (s : Settings) (events : List Log.Event) : Output :=
  { err := (events.filter s.filter.allows).flatMap fun e => line e.render }

/-- An error on standard error. -/
def Settings.error (s : Settings) (message : Text) : Output :=
  { err := renderError s.color message }

/-! ## 2. Converting -/

/-- A converter and its cache, between two statements. -/
structure Machine where
  converter : Converter
  cache : Cache
  deriving DecidableEq, Repr

/-- A converter with a cache of its own, by a configuration. -/
def Machine.ofConfig (config : Config) : Machine :=
  ⟨{ nameLead := config.nameLead }, { enabled := config.cacheEnabled }⟩

/-- One statement converted: the machine after it, whether it failed, and what is written. -/
def convertLine (s : Settings) (m : Machine) (sql : Text) : Machine × Bool × Output :=
  let reply := m.converter.convert m.cache sql
  let next : Machine := ⟨reply.value.converter, reply.value.cache⟩
  match reply.value.answer with
  | .ok result => (next, false, s.log reply.log ++ { out := renderResult s.format sql result })
  | .error chain => (next, true, s.log reply.log ++ s.error chain.message)

/-- Some lines converted one by one, blank ones skipped: the machine after them, how many failed,
and what is written. -/
def convertLines (s : Settings) (m : Machine) : List Text → Machine × Nat × Output
  | [] => (m, 0, {})
  | sql :: rest =>
    if Text.isBlankLine sql then convertLines s m rest
    else
      let (m, failed, output) := convertLine s m sql
      let (m, count, more) := convertLines s m rest
      (m, if failed then count + 1 else count, output ++ more)

/-- What is written after the last line: the figures, where they are asked for, and the number of
statements that failed, unless it is zero. -/
def closing (s : Settings) (verbose : Bool) (m : Machine) (failed : Nat) : Output :=
  (if verbose then { err := renderFigures s.color m.converter m.cache } else {}) ++
    (if failed = 0 then {}
    else s.error (decimal failed ++ " statement(s) could not be translated".toList))

/-- The lines of an input converted; a line that is no text ends it. -/
def convertInput (s : Settings) (verbose : Bool) (m : Machine) (input : List UInt8) : Outcome :=
  let (lines, whole) := Text.readLines (Text.byteLines input)
  let (m, failed, output) := convertLines s m lines
  if whole then ⟨if failed = 0 then 0 else 1, output ++ closing s verbose m failed⟩
  else ⟨1, output ++ s.error ReadFault.notUtf8.message⟩

/-- A single statement, converted. -/
def convertSingle (s : Settings) (m : Machine) (sql : Text) : Outcome :=
  let (_, failed, output) := convertLine s m sql
  ⟨if failed then 1 else 0, output⟩

/-- A single statement, explained. -/
def explainSingle (s : Settings) (m : Machine) (sql : Text) : Outcome :=
  let steps := m.converter.explain sql
  match steps.value with
  | .ok e => ⟨0, s.log steps.log ++ { out := renderExplanation s.color s.format sql e }⟩
  | .error chain => ⟨1, s.log steps.log ++ s.error chain.message⟩

/-! ## 3. The program -/

/-- The filter that holds where none is given. -/
def usualFilter (verbose : Bool) : Log.Filter :=
  ⟨[{ target := some "jetjoin".toList,
      rank := if verbose then Log.Level.debug.rank else Log.Level.warn.rank }]⟩

/-- An accepted command line, carried out. -/
def perform (world : Surroundings) (invocation : Invocation) : Outcome :=
  let s : Settings :=
    ⟨invocation.format, world.color,
      Log.Filter.firstOf world.logFilters (usualFilter invocation.verbose)⟩
  let config := Config.load world.files world.userDirectory invocation.configPath
  match config.value with
  | .error e => ⟨1, s.log config.log ++ s.error e.message⟩
  | .ok settings =>
    let machine := Machine.ofConfig settings
    let outcome :=
      match invocation.task with
      | .convert (some sql) => convertSingle s machine sql
      | .convert none => convertInput s invocation.verbose machine world.input
      | .explain sql => explainSingle s machine sql
    ⟨outcome.status, s.log config.log ++ outcome.output⟩

/-- The line that tells the version. -/
def versionLine : Text := "jetjoin 0.1.0\n".toList

/-- A short account of the arguments. -/
def helpText : Text :=
  ("Put the joins of SELECT statements into the Jet engine's parenthesized grammar\n\n" ++
    "Usage: jetjoin [OPTIONS] [SQL]\n" ++
    "       jetjoin [OPTIONS] explain <SQL>\n\n" ++
    "Options:\n" ++
    "  -c, --config <CONFIG>  Path to a jetjoin.toml configuration file\n" ++
    "  -f, --format <FORMAT>  Output format: text or json\n" ++
    "  -v, --verbose          Verbose output\n" ++
    "  -h, --help             Print help\n" ++
    "  -V, --version          Print version\n").toList

/-- The program. -/
def run (world : Surroundings) (arguments : List Text) : Outcome :=
  match read world.usualPath arguments with
  | .error .help => ⟨0, { out := helpText }⟩
  | .error .version => ⟨0, { out := versionLine }⟩
  | .error (.refused fault) => ⟨2, { err := line ("error: ".toList ++ fault.message) }⟩
  | .ok invocation => perform world invocation

end NestedJoin.CommandLine
