import InstallStatus.CommandLine.Run

/-!
The program: it reads its arguments and the environment, and hands on what the run leaves behind.
-/

namespace InstallStatus

/-- The values of these variables, as far as they are set. -/
def readVariables (names : List String) : IO Variables := do
  let values ← names.filterMapM fun name => do
    return (← IO.getEnv name).map fun value => (name, value)
  return fun name => values.lookup name

/-- Writes the log and the output of a run, and gives its code. -/
def CommandLine.Run.finish (run : CommandLine.Run) : IO UInt32 := do
  for event in run.events do
    IO.println (event.line.encode none).compact
  for line in run.output do
    IO.println line
  for line in run.errors do
    IO.eprintln line
  return run.code.toUInt32

end InstallStatus

def main (args : List String) : IO UInt32 := do
  let vars ← InstallStatus.readVariables InstallStatus.CommandLine.variableNames
  (InstallStatus.CommandLine.run args vars).finish
