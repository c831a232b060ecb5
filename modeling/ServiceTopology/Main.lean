import ServiceTopology.CommandLine.Run
import ServiceTopology.Settings.Sources

/-!
# The program

Collect arguments, environment and files, run the command line and print what it writes, each text to its stream.
Log entries for consoles are laid out as one JSON object a line, without timestamps.
-/

namespace ServiceTopology

/-- Variables that settings may come from. -/
def variableNames : List String :=
  ["APP_NAME", "APP_VERSION", "ENVIRONMENT", "LOG_LEVEL", "LOG_JSON", "UNKNOWN_LABEL", "USER_CODE",
   "NONE_APPLICATION_ID", "INVALID_APPLICATION_ID", "ALARM_PROBE_PAGE_SIZE",
   "ALARM_COUNT_PAGE_SIZE", "SYNTHETIC_NODE_SLA", "SYNTHETIC_NODE_APDEX"].map ("SVCMAP_" ++ ·)

/-- Read the variables that are set. -/
def readEnvironment : IO (List Settings.Variable) :=
  variableNames.filterMapM fun name => do
    return (← IO.getEnv name).map fun value => (name, value)

/-- Find out what is at a path. -/
def readPath (path : String) : IO FileState := do
  if path.toList.contains '\x00' then return .error .nullInPath
  try
    let bytes ← IO.FS.readBinFile path
    return .ok bytes.toList
  catch
    | .inappropriateType _ 21 _ => return .error (.refused .isDirectory)
    | .inappropriateType .. => return .error (.refused .notDirectory)
    | .invalidArgument .. => return .error (.refused .nameTooLong)
    | _ => return .error (.refused .missing)

/-- Read the file of assignments in the current directory. -/
def readAssignments : IO (List Char) := do
  match ← readPath ".env" with
  | .ok bytes => return (Text.decodeUtf8 bytes).toOption.getD []
  | .error _ => return []

/-- Paths among the arguments, with what is found there. -/
def readPaths (arguments : List String) : IO (List (String × FileState)) :=
  arguments.mapM fun argument => do
    let path := PathName.normalize argument
    return (path, ← readPath path)

/-- Depth that a reader of JSON may follow containers to. -/
def readerDepth : Nat := 985

/-- Layout of log entries on consoles. -/
def rendering : LogRendering where
  timestamp _ := ""
  console members := (Json.obj members).compact

/-- Write a text to a stream. -/
def writeTo (stream : Stream) (text : List Char) : IO Unit :=
  match stream with
  | .output => IO.print (String.ofList text)
  | .error => IO.eprint (String.ofList text)

/-- Print the outcome of a run. -/
def report (outcome : CommandLine.Outcome) : IO UInt32 := do
  for (stream, text) in outcome.written do
    writeTo stream text
  match outcome.ending with
  | .exit status => return status.toUInt32
  | .failed failure =>
    IO.eprintln failure.message
    return 1

end ServiceTopology

open ServiceTopology in
/-- Run the program. -/
def main (arguments : List String) : IO UInt32 := do
  let environment ← readEnvironment
  match (Settings.ofSources [] environment (← readAssignments)).toExcept with
  | .error issues =>
    IO.eprintln (String.ofList (Json.arr (issues.map Issue.toJson)).compact)
    return 1
  | .ok settings =>
    let paths ← readPaths arguments
    let lookup path := (paths.lookup (PathName.normalize path)).getD (.error (.refused .missing))
    let environmentLevel ← IO.getEnv "SVCMAP_LOG_LEVEL"
    match CommandLine.run ⟨settings, environmentLevel, lookup, readerDepth, rendering⟩ arguments with
    | .error _ =>
      IO.eprintln "Usage: [--log-level LEVEL] build [--format table|json] SNAPSHOT | status"
      return 2
    | .ok outcome => report outcome
