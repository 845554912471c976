import IntegrationFlow.CommandLine.Session

/-!
# The program

Reads what a session can see, runs the session and does what it ends with.
-/

open IntegrationFlow CommandLine

/-- The cause of a failure to read or write a file. -/
def failureCause : IO.Error → String
  | .noFileOrDirectory .. => "No such file or directory (os error 2)"
  | .permissionDenied .. => "Permission denied (os error 13)"
  | .inappropriateType .. => "Is a directory (os error 21)"
  | e => toString e

/-- The variables of the environment that a session looks at. -/
def environmentVariables : List String :=
  ["FLOWBRIDGE_MAX_DOCUMENT_BYTES", "FLOWBRIDGE_COLUMN_WIDTH", "FLOWBRIDGE_ROW_HEIGHT"]

/-- The bytes of a file, or why it cannot be read. -/
def readFileBytes (path : String) : IO (Except String (List UInt8)) := do
  try
    return .ok (← IO.FS.readBinFile path).toList
  catch e =>
    return .error (failureCause e)

/-- Looks at everything that a conversion may need. -/
def lookAround (a : Arguments) : IO Surroundings := do
  let env ← environmentVariables.mapM fun name => do return (name, ← IO.getEnv name)
  let paths := a.files ++ a.config.toList ++ a.mappingTable.toList
  let files ← paths.mapM fun path => do return (path, ← readFileBytes path)
  return {
    env := fun name => ((env.find? fun e => e.1 == name).map (·.2)).join
    read := fun path => ((files.find? fun f => f.1 == path).map (·.2)).getD (.error "not read") }

/-- Does what a session ends with, and gives the code that the program ends with. -/
def conclude : Ending → IO UInt32
  | .failed => return 1
  | .print document => do
    IO.print document
    return 0
  | .write path document note => do
    try
      IO.FS.writeFile path document
      IO.eprintln note
      return 0
    catch e =>
      IO.eprintln (writeFailure path (failureCause e))
      return 1

/-- Runs the program. -/
def main (args : List String) : IO UInt32 := do
  match parse args with
  | .error e =>
    IO.eprintln ("error: " ++ e.message ++ "\n\n" ++ usage)
    return 2
  | .ok .help =>
    IO.println helpText
    return 0
  | .ok .version =>
    IO.println versionText
    return 0
  | .ok (.convert a) =>
    let session := a.run (← lookAround a)
    for message in session.messages do
      IO.eprintln message
    conclude session.ending
