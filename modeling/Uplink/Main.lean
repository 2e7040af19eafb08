import Uplink.Application

/-!
The program: it looks at its surroundings, starts the application, and runs a simulation at the pace
of the wall clock until it is interrupted.
-/

namespace Uplink.Program

/-- The variables that the program looks at. -/
def consultedVariables : List String :=
  ["LOG_LEVEL", "LOG_FORMAT", "RUST_LOG", "CLOUDLINK_CONFIG"]

/-- What there is under a path. -/
def readContents (path : String) : IO FileContents := do
  try
    return .ok (← IO.FS.readBinFile path)
  catch
    | .noFileOrDirectory .. => return .error .missing
    | .inappropriateType .. => return .error .directory
    | _ => return .error .blocked

/-- The variables, and the files that a configuration may be in. -/
def lookAround (args : List String) : IO Application.Surroundings := do
  let found ← consultedVariables.filterMapM fun key => do
    return (← IO.getEnv key).map (key, ·)
  let given := match CommandLine.parse (found.lookup "CLOUDLINK_CONFIG") args with
    | .ok invocation => invocation.path.toList
    | .error _ => []
  let files ← (given ++ Application.usualPaths).mapM fun path => do
    return (path, ← readContents path)
  return {
    setting? := (found.lookup ·)
    file := fun path => (files.lookup path).getD (.error .missing) }

/-- Write a piece of output. -/
def write (surroundings : Application.Surroundings) (output : Application.Output) : IO Unit :=
  match output with
  | .line text => IO.println text
  | .entry entry => IO.println (entry.render surroundings.layout Application.name)

/-- How often a simulation catches up with the wall clock, in milliseconds. -/
def pace : UInt32 := 50

/-- Run a session at the pace of the wall clock and write its entries. -/
partial def follow (surroundings : Application.Surroundings) (began : Nat) (session : Session) : IO Unit := do
  let session := session.runUntil ((← IO.monoMsNow) - began)
  let (entries, telemetry) := session.connection.telemetry.takeEntries
  for entry in entries do
    if Application.isWritten surroundings (.entry entry) then write surroundings (.entry entry)
  (← IO.getStdout).flush
  IO.sleep pace
  follow surroundings began (session.mapConnection fun connection => { connection with telemetry })

/-- Start the program, and run the simulation if one was asked for. -/
def run (args : List String) : IO UInt32 := do
  let surroundings ← lookAround args
  let opening := Application.start surroundings args
  opening.complaints.forM (IO.eprintln ·)
  opening.output.forM (write surroundings)
  match opening.next with
  | .exit status => return status.toUInt32
  | .simulate simulation =>
    follow surroundings (← IO.monoMsNow) simulation.begin.session
    return 0

end Uplink.Program

/-- The program. -/
def main (args : List String) : IO UInt32 :=
  Uplink.Program.run args
