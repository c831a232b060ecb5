import ServiceTopology.CommandLine.Arguments
import ServiceTopology.Logging
import ServiceTopology.Report.TopologyDocument
import ServiceTopology.Report.TopologyTables
import ServiceTopology.Snapshot.Load

/-!
# Running a command

Run what a command line asks for and tell what the program writes and how it ends. A snapshot problem ends
it with status one and a message; a command line that cannot be understood ends it with status two. Any
other failure is passed on with what was written before it.

The result is computed from the settings, the files and the arguments alone. The lines of the log are written
before anything else, since the commands print their results when all else is done.
-/

namespace ServiceTopology.CommandLine

/-- Failures that a command passes on. -/
inductive RunFailure where
  | load (failure : LoadFailure)
  | print (fault : PrintFault)
  | unknownLevel (label : String)
  deriving DecidableEq

/-- Wording of a failure. -/
def RunFailure.message : RunFailure → String
  | load failure => failure.message
  | print fault => fault.message
  | unknownLevel label => Text.quoted label

/-- How the program ends. -/
inductive Ending where
  | exit (status : Nat)
  | failed (failure : RunFailure)
  deriving DecidableEq

/-- What the program writes to its streams, and how it ends. -/
structure Outcome where
  written : Written
  ending : Ending

/-- Text that the program leaves on one of its streams. -/
def Outcome.textOn (outcome : Outcome) (stream : Stream) : String :=
  String.ofList (outcome.written.on stream)

/-- What the program needs from its surroundings; `depth` tells how deep its stack lets containers be followed into
each other. -/
structure Surroundings where
  settings : Settings
  environmentLevel : Option String
  lookup : String → FileState
  depth : Nat
  rendering : LogRendering

/-- End with printed text. -/
def Outcome.ofPrinted (written : Written) (printed : Printed) : Outcome :=
  let ending :=
    match printed.stop with
    | none => .exit 0
    | some fault => .failed (.print fault)
  ⟨written ++ [(.output, printed.text)], ending⟩

/-- Print a topology in a layout. -/
def printAs : Format → Topology → Printed
  | .table, topology => printTopology topology
  | .json, topology => printDocument topology

/-- Build the topology of a snapshot file and print it. -/
def runBuild (surroundings : Surroundings) (log : LogConfig) (path : String) (format : Format) : Outcome :=
  let logLines (events : List Event) : Written :=
    log.write surroundings.rendering (events.map LogEntry.ofEvent)
  let loaded := Snapshot.load surroundings.depth surroundings.lookup path
  match loaded.value with
  | .error (.snapshot error) =>
    let line := Text.echo ("Error: " ++ error.problem.detail).toList
    ⟨logLines loaded.events ++ [(.error, line)], .exit 1⟩
  | .error failure => ⟨logLines loaded.events, .failed (.load failure)⟩
  | .ok snapshot =>
    let built := (snapshot.build surroundings.settings).attempt
    let written := logLines (loaded.events ++ built.events)
    match built.value with
    | .ok topology => .ofPrinted written (printAs format topology)
    | .error fault => ⟨written, .failed (.print fault)⟩

/-- Join the parts of a line. -/
def line (parts : List WideText) : List CodePoint := parts.flatMap (·.codePoints)

/-- Lines that show the settings. -/
def statusLines (settings : Settings) : List (List CodePoint) :=
  [line [settings.appName, " v", settings.appVersion],
   line ["Environment: ", settings.environment],
   line ["User node id: ", Text.decimal settings.noneApplicationId],
   line ["Invalid application id: ", Text.decimal settings.invalidApplicationId],
   line ["Unknown label: ", settings.unknownLabel]]

/-- Line that shows the version. -/
def versionLine (settings : Settings) : List CodePoint :=
  line [settings.appName, ", version ", settings.appVersion]

/-- Refuse the path of a directory. -/
def checkPath (surroundings : Surroundings) : Request → Except UsageError Request
  | .build level path format =>
    if path != "" && (surroundings.lookup path).isDirectory then .error (.pathIsDirectory path)
    else .ok (.build level path format)
  | request => .ok request

/-- Configure the log and run a command with it. -/
def withLog (surroundings : Surroundings) (level : String) (command : LogConfig → Outcome) : Outcome :=
  match LogConfig.ofLevel level surroundings.settings.logJson with
  | .ok log => command log
  | .error label => ⟨[], .failed (.unknownLevel label)⟩

/-- Carry out a request. The help texts belong to the caller. -/
def carryOut (surroundings : Surroundings) : Request → Outcome
  | .help => ⟨[], .exit 0⟩
  | .version => .ofPrinted [] (.ofLine (versionLine surroundings.settings))
  | .status level =>
    withLog surroundings level fun _ => .ofPrinted [] (.ofLines (statusLines surroundings.settings))
  | .build level path format => withLog surroundings level fun log => runBuild surroundings log path format

/-- Run the program on its arguments. -/
def run (surroundings : Surroundings) (arguments : List String) : Except UsageError Outcome := do
  let request ← read surroundings.settings.logLevel.lossy surroundings.environmentLevel arguments
  let checked ← checkPath surroundings request
  return carryOut surroundings checked

end ServiceTopology.CommandLine
