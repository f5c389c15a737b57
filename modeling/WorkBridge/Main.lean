import WorkBridge.Program.Run

/-!
The command line.

The program opens no sockets of its own: on this side of `WorkBridge.Program.run` nobody
listens, so a run that gets as far as the node reports that it was refused.
-/

namespace WorkBridge.Program

/-- The variables of the environment that a run looks at. -/
def variableNames : List String :=
  "RUST_LOG" :: Options.Name.inOrder.filterMap fun n => match n with
    | .flag f => f.envName?
    | .setting s => some s.envName
    | _ => none

/-- The surroundings on the command line, by the values of variables. -/
def onCommandLine (values : List (String × Option String)) : Surroundings where
  environment := fun name => (values.lookup name).join
  node := { port := 13110, listening := false }

end WorkBridge.Program

def main (args : List String) : IO UInt32 := do
  let values ← WorkBridge.Program.variableNames.mapM fun name => do pure (name, ← IO.getEnv name)
  let outcome := WorkBridge.Program.run (WorkBridge.Program.onCommandLine values) args
  for line in outcome.output do
    IO.println line
  unless outcome.complaint.isEmpty do
    IO.eprintln outcome.complaint
  pure outcome.exitCode.toUInt32
