/-
# Drivers

A driver stands between what makes statements and what executes them.  It builds commands: a SELECT
goes through its converter, every other statement is taken as it is and leaves the converter
alone.  A statement that fails builds no command.  The parameters are handed on as they came.

The main statement: a failure leaves the commands built so far alone, and a success adds the one
that is answered (`made_generate`).
-/
import NestedJoin.Command
import NestedJoin.Converter

namespace NestedJoin

/-- A driver: its converter, and the commands it has built, the latest last. -/
structure Driver where
  converter : Converter := {}
  made : List Command := []
  deriving DecidableEq, Repr

/-- The answer of a driver, with the driver and the cache as they are after it. -/
structure DriverReply where
  answer : Except MalformedChain Command
  driver : Driver
  cache : Cache

namespace Driver

/-- The command for a statement, built and kept. -/
def build (d : Driver) (cache : Cache) (command : Command) : DriverReply :=
  ⟨.ok command, { d with made := d.made ++ [command] }, cache⟩

/-- The command for a statement of some kind with some parameters. -/
def generate (d : Driver) (cache : Cache) (kind : CommandKind) (sql : Text)
    (parameters : List ParameterType) : Logged DriverReply :=
  if Statement.isSelect sql then do
    let reply ← d.converter.convert cache sql
    let d := { d with converter := reply.converter }
    match reply.answer with
    | .error m => pure ⟨.error m, d, reply.cache⟩
    | .ok result => pure (d.build reply.cache ⟨kind, result, parameters⟩)
  else pure (d.build cache ⟨kind, sql, parameters⟩)

/-- **A command is built exactly on success**, and it is the one that is answered. -/
theorem made_generate (d : Driver) (cache : Cache) (kind : CommandKind) (sql : Text)
    (parameters : List ParameterType) :
    (d.generate cache kind sql parameters).value.driver.made =
      d.made ++ (d.generate cache kind sql parameters).value.answer.toOption.toList := by
  unfold generate
  split
  · simp only [Logged.value_bind]
    split <;> simp [build, Except.toOption]
  · simp [build, Except.toOption]

end Driver

end NestedJoin
