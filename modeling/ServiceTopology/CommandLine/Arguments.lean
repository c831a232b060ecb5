/-!
# Command lines

Read the arguments of the program: options of the program itself, a command, and the options and
arguments of that command. An option takes its value from the next argument or after an equals sign; the
last one of several counts, and two hyphens end the options.

A request for the version is answered before the values of other options are looked at. The wording of
usage messages is not treated here.
-/

namespace ServiceTopology.CommandLine

/-- Layouts of a topology. -/
inductive Format where
  | table
  | json
  deriving DecidableEq

/-- Find a layout by its exact name. -/
def Format.ofName? (text : String) : Option Format :=
  if text = "table" then some .table else if text = "json" then some .json else none

/-- What the program is asked to do. -/
inductive Request where
  | help
  | version
  | build (level : String) (path : String) (format : Format)
  | status (level : String)
  deriving DecidableEq

/-- A command line that cannot be understood. -/
inductive UsageError where
  | unknownOption (option : String)
  | missingValue (option : String)
  | unexpectedValue (option : String)
  | missingCommand
  | unknownCommand (command : String)
  | missingArgument
  | extraArgument
  | unknownFormat (text : String)
  | unknownLevel (text : String)
  | pathIsDirectory (path : String)
  deriving DecidableEq

/-- What is known of an option: its name and whether it takes a value. -/
abbrev OptionTable := List (String × Bool)

/-- Options that were given, each with its value, and the arguments that are none. -/
structure Parsed where
  options : List (String × String)
  arguments : List String

/-- Test whether an argument looks like an option. -/
def looksLikeOption (argument : String) : Bool :=
  argument.toList.head? == some '-' && 1 < argument.length

/-- Split an option at its first equals sign. -/
def splitOption (argument : String) : String × Option String :=
  let text := argument.toList
  let name := text.takeWhile (· != '=')
  match text.drop name.length with
  | _ :: value => (String.ofList name, some (String.ofList value))
  | [] => (argument, none)

/-- Separate options from arguments. When arguments end the options, everything after the first argument
is an argument too. -/
def parse (known : OptionTable) (argumentsEndOptions : Bool) :
    List String → Except UsageError Parsed
  | [] => .ok ⟨[], []⟩
  | argument :: rest =>
    if argument = "--" then .ok ⟨[], rest⟩
    else if looksLikeOption argument then
      let (name, value) := splitOption argument
      match known.lookup name, value with
      | none, _ => .error (.unknownOption name)
      | some false, some _ => .error (.unexpectedValue name)
      | some false, none => do
        let parsed ← parse known argumentsEndOptions rest
        return { parsed with options := (name, "") :: parsed.options }
      | some true, some text => do
        let parsed ← parse known argumentsEndOptions rest
        return { parsed with options := (name, text) :: parsed.options }
      | some true, none =>
        match rest with
        | [] => .error (.missingValue name)
        | text :: others => do
          let parsed ← parse known argumentsEndOptions others
          return { parsed with options := (name, text) :: parsed.options }
    else if argumentsEndOptions then .ok ⟨[], argument :: rest⟩
    else do
      let parsed ← parse known argumentsEndOptions rest
      return { parsed with arguments := argument :: parsed.arguments }

/-- Value of an option, the last one that was given. -/
def Parsed.value? (parsed : Parsed) (name : String) : Option String :=
  parsed.options.reverse.lookup name

/-- Options of the program itself. -/
def programOptions : OptionTable := [("--log-level", true), ("--version", false), ("--help", false)]

/-- Options of the build command. -/
def buildOptions : OptionTable := [("--format", true), ("--help", false)]

/-- Options of the status command. -/
def statusOptions : OptionTable := [("--help", false)]

/-- Read the arguments of the build command. -/
def readBuild (level : String) (arguments : List String) : Except UsageError Request := do
  let parsed ← parse buildOptions false arguments
  if (parsed.value? "--help").isSome then return .help
  match parsed.arguments with
  | [] => .error .missingArgument
  | [path] =>
    let text := (parsed.value? "--format").getD "table"
    match Format.ofName? text with
    | some format => return .build level path format
    | none => .error (.unknownFormat text)
  | _ => .error .extraArgument

/-- Read the arguments of the status command. -/
def readStatus (level : String) (arguments : List String) : Except UsageError Request := do
  let parsed ← parse statusOptions false arguments
  if (parsed.value? "--help").isSome then return .help
  if parsed.arguments.isEmpty then return .status level else .error .extraArgument

/-- The first of the options that are answered at once. -/
def immediate? (parsed : Parsed) : Option Request :=
  parsed.options.findSome? fun (name, _) =>
    if name = "--version" then some .version else if name = "--help" then some .help else none

/-- Names of the levels that may be chosen. -/
def levelNames : List String := ["DEBUG", "INFO", "WARNING", "ERROR"]

/-- Check the name of a level; the case of its letters does not matter. -/
def checkLevel (text : String) : Except UsageError String :=
  let name := text.toUpper
  if levelNames.contains name then .ok name else .error (.unknownLevel text)

/-- Read the arguments of the program. Without an option the level comes from the environment, where an
empty text counts as none, or else it is the default one. -/
def read (defaultLevel : String) (environmentLevel : Option String) (arguments : List String) :
    Except UsageError Request := do
  let parsed ← parse programOptions true arguments
  match immediate? parsed with
  | some request => return request
  | none =>
    let fallback := (environmentLevel.filter (· != "")).getD defaultLevel
    let level ← checkLevel ((parsed.value? "--log-level").getD fallback)
    match parsed.arguments with
    | [] => .error .missingCommand
    | "build" :: rest => readBuild level rest
    | "status" :: rest => readStatus level rest
    | command :: _ => .error (.unknownCommand command)

end ServiceTopology.CommandLine
