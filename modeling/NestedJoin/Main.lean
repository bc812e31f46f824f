/-
# The program

Gathers what the program finds around it, runs `CommandLine.run`, and writes what that answers.
Nothing is decided here but where to look.
-/
import NestedJoin.CommandLine.Program

namespace NestedJoin.Host

/-- What is at a path of the machine. -/
def probe (path : Text) : IO (Option Entry) := do
  try
    let content ← IO.FS.readBinFile (String.ofList path)
    return some (.file content.toList)
  catch e =>
    match e with
    | .noFileOrDirectory .. => return none
    | .inappropriateType .. => return some .directory
    | e => return some (.unreadable (toString e).toList)

/-- All bytes of a stream. -/
partial def readAll (stream : IO.FS.Stream) (before : ByteArray) : IO ByteArray := do
  let part ← stream.read 65536
  if part.isEmpty then return before else readAll stream (before ++ part)

/-- The value of an environment variable. -/
def lookUp? (name : String) : IO (Option Text) := return (← IO.getEnv name).map String.toList

/-- The directory of the user's configurations. -/
def userDirectory : IO (Option Text) := do
  match ← lookUp? "XDG_CONFIG_HOME" with
  | some ('/' :: rest) => return some ('/' :: rest)
  | _ => return (← lookUp? "HOME").map (· ++ "/.config".toList)

/-- Styles are shown: where that is forced, or else on a terminal unless it is declined. -/
def showsColor : IO Bool := do
  let forced := (← lookUp? "CLICOLOR_FORCE").any (· != ['0'])
  let declined := (← lookUp? "NO_COLOR").isSome || (← lookUp? "CLICOLOR") == some ['0']
  if forced then return true
  else if declined then return false
  else (← IO.getStdout).isTty

end NestedJoin.Host

open NestedJoin

/-- The program. -/
def main (arguments : List String) : IO UInt32 := do
  let arguments := arguments.map String.toList
  let usualPath ← Host.lookUp? "JETJOIN_CONFIG"
  let user ← Host.userDirectory
  let invocation := (CommandLine.read usualPath arguments).toOption
  let paths := (invocation.bind (·.configPath)).toList ++ Config.places user
  let found ← paths.mapM fun path => return (path, ← Host.probe path)
  let task : Option CommandLine.Task := invocation.map (·.task)
  let input ← if task == some (.convert none) then Host.readAll (← IO.getStdin) .empty
    else pure .empty
  let world : CommandLine.Surroundings :=
    { files := fun path => (found.find? fun (p, _) => p == path).bind (·.2)
      userDirectory := user
      usualPath := usualPath
      input := input.toList
      color := ← Host.showsColor
      logFilters := [← Host.lookUp? "JETJOIN_LOG", ← Host.lookUp? "RUST_LOG"].filterMap id }
  let outcome := CommandLine.run world arguments
  (← IO.getStdout).putStr (String.ofList outcome.output.out)
  (← IO.getStderr).putStr (String.ofList outcome.output.err)
  return outcome.status.toUInt32
