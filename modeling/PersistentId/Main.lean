import PersistentId.CommandLine.Run

/-!
# PersistentId.Main

The program `handle-util`.

It runs on a database of its own, which is empty. Only the variables that name a setting
are read from the environment.
-/

namespace PersistentId

namespace CommandLine

/-- The names under which a setting can stand in the environment. -/
def variableNames : List String :=
  (Settings.allNames.flatMap Settings.Names.all).flatMap fun name =>
    [name.map Char.toLower, name.map Char.toUpper]

/-- The variables of the environment that name a setting. -/
def readEnvironment : IO (List (String × String)) := do
  let mut found := []
  for name in variableNames do
    if let some value ← IO.getEnv name then
      found := found ++ [(name, value)]
  return found

/-- The lines that describe a failed run. -/
def RunError.lines : RunError → List String
  | settings problems => problems.map fun p => p.name ++ ": " ++ p.kind.message
  | store e => [e.label]
  | setting e => [e.message]

end CommandLine

end PersistentId

/-- Carries out the arguments of the command line. -/
def main (arguments : List String) : IO UInt32 := do
  let environment ← PersistentId.CommandLine.readEnvironment
  let outcome := PersistentId.CommandLine.run .empty environment arguments
  for entry in PersistentId.Event.logs outcome.events do
    if entry.level = .error then
      IO.eprintln (entry.level.label ++ ": " ++ entry.text)
  match outcome.result with
  | .ok report =>
    IO.print report.stdout
    IO.eprint report.stderr
    return report.exit.toUInt32
  | .error failure =>
    for line in failure.lines do
      IO.eprintln line
    return 1
