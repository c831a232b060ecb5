import ServiceTopology.Event
import ServiceTopology.Json.Printer
import ServiceTopology.Text.Case

/-!
# Logging

A log keeps the entries at or above a threshold. Thresholds are chosen by name, whatever the case of its
letters. An entry is rendered as one JSON object with its fields, its event, its level and a timestamp, or in a
layout for consoles.

The configuration of a log decides which stream its lines are written to. Timestamps and the layout for consoles
are supplied by the caller.
-/

namespace ServiceTopology

/-- Levels of log entries. -/
inductive LogLevel where
  | notset
  | debug
  | info
  | warning
  | error
  | critical
  deriving DecidableEq

namespace LogLevel

/-- Severity of a level. -/
def severity : LogLevel → Nat
  | notset => 0
  | debug => 10
  | info => 20
  | warning => 30
  | error => 40
  | critical => 50

/-- Name of a level. -/
def name : LogLevel → String
  | notset => "notset"
  | debug => "debug"
  | info => "info"
  | warning => "warning"
  | error => "error"
  | critical => "critical"

/-- Names by which a threshold is chosen, in upper case. -/
def thresholds : List (String × LogLevel) :=
  [("CRITICAL", critical), ("FATAL", critical), ("ERROR", error), ("WARN", warning),
   ("WARNING", warning), ("INFO", info), ("DEBUG", debug), ("NOTSET", notset)]

/-- Find a threshold by name; an unknown name is given back as part of a label in lower case. -/
def ofName (text : String) : Except String LogLevel :=
  match thresholds.lookup (Text.upper text) with
  | some level => .ok level
  | none => .error (Text.lower ("Level " ++ Text.upper text))

end LogLevel

/-- An entry of a log. -/
structure LogEntry where
  level : LogLevel
  event : String
  fields : Json.Members

namespace LogEntry

/-- Methods of a logger, with the level that each one writes at. -/
def methods : List (String × LogLevel) :=
  [("debug", .debug), ("info", .info), ("msg", .info), ("warning", .warning), ("warn", .warning),
   ("error", .error), ("exception", .error), ("critical", .critical), ("fatal", .critical)]

/-- Fields that a method adds to those it is given; a given field of the same name wins. -/
def addedFields (method : String) : Json.Members :=
  if method = "exception" then [("exc_info", .bool true)] else []

/-- The entry that a method of a logger writes. -/
def ofMethod? (method event : String) (fields : Json.Members) : Option LogEntry :=
  (methods.lookup method).map fun level =>
    ⟨level, event, Json.Members.ofList (addedFields method ++ fields)⟩

/-- The entry of an event. -/
def ofEvent (event : Event) : LogEntry :=
  let level : LogLevel :=
    match event.level with
    | .debug => .debug
    | .info => .info
    | .warning => .warning
  ⟨level, event.name, event.fields⟩

/-- Test whether an entry reaches a threshold. -/
def reaches (threshold : LogLevel) (entry : LogEntry) : Bool :=
  threshold.severity ≤ entry.level.severity

/-- What is rendered of an entry; the event, the level and the timestamp replace fields of their names. -/
def members (timestamp : Json) (entry : LogEntry) : Json.Members :=
  let added : Json.Members :=
    [("event", .str entry.event), ("level", .str entry.level.name), ("timestamp", timestamp)]
  Json.Members.ofList (entry.fields ++ added)

/-- Render an entry as JSON. -/
def toJson (timestamp : Json) (entry : LogEntry) : Json := .obj (entry.members timestamp)

end LogEntry

/-- Keep the entries that reach a threshold. -/
def logged (threshold : LogLevel) (entries : List LogEntry) : List LogEntry :=
  entries.filter (·.reaches threshold)

/-- Streams that a program writes to. -/
inductive Stream where
  | output
  | error
  deriving DecidableEq

/-- Texts written to streams, in order. -/
abbrev Written := List (Stream × List Char)

/-- What has been written to one of the streams. -/
def Written.on (written : Written) (stream : Stream) : List Char :=
  (written.filter (·.1 = stream)).flatMap (·.2)

@[simp] theorem Written.on_append (earlier later : Written) (stream : Stream) :
    Written.on (earlier ++ later) stream = earlier.on stream ++ later.on stream := by
  simp [Written.on]

@[simp] theorem Written.on_singleton (stream shown : Stream) (text : List Char) :
    Written.on [(stream, text)] shown = if stream = shown then text else [] := by
  by_cases h : stream = shown <;> simp [Written.on, h]

/-- How a log is kept: its threshold, whether its entries are rendered as JSON, and where its lines go. -/
structure LogConfig where
  threshold : LogLevel
  json : Bool
  stream : Stream

/-- What rendering takes from elsewhere: the timestamps of the entries that are kept, by their positions, and the
layout for consoles. -/
structure LogRendering where
  timestamp : Nat → String
  console : Json.Members → List Char

namespace LogConfig

/-- Configure a log by the name of its threshold. Its lines go to the error stream, so that the output stays free of
them. -/
def ofLevel (name : String) (json : Bool) : Except String LogConfig :=
  (LogLevel.ofName name).map fun threshold => ⟨threshold, json, .error⟩

/-- Render the entry at a position of a log as a line. -/
def line (config : LogConfig) (rendering : LogRendering) (entry : LogEntry) (position : Nat) : List Char :=
  let members := entry.members (.str (rendering.timestamp position))
  (if config.json then (Json.obj members).compact else rendering.console members) ++ ['\n']

/-- Lines of the entries that reach the threshold. -/
def lines (config : LogConfig) (rendering : LogRendering) (entries : List LogEntry) : List (List Char) :=
  (logged config.threshold entries).mapIdx fun position entry => config.line rendering entry position

/-- Write the lines of a log to its stream. -/
def write (config : LogConfig) (rendering : LogRendering) (entries : List LogEntry) : Written :=
  (config.lines rendering entries).map fun line => (config.stream, line)

/-- A stream has all lines of a log, if it is the stream of the log, or else none. -/
theorem on_write (config : LogConfig) (rendering : LogRendering) (entries : List LogEntry) (stream : Stream) :
    (config.write rendering entries).on stream =
      if config.stream = stream then (config.lines rendering entries).flatten else [] := by
  unfold Written.on write
  rw [List.filter_map, List.flatMap_map]
  split
  case isTrue h =>
    rw [List.filter_eq_self.mpr fun line _ => by simpa using h, List.flatMap_id']
  case isFalse h =>
    rw [List.filter_eq_nil_iff.mpr fun line _ => by simpa using h, List.flatMap_nil]

/-- Lines of a log for consoles. -/
theorem lines_console (threshold : LogLevel) (stream : Stream) (rendering : LogRendering) (entries : List LogEntry) :
    lines ⟨threshold, false, stream⟩ rendering entries =
      (logged threshold entries).mapIdx fun position entry =>
        rendering.console (entry.members (.str (rendering.timestamp position))) ++ ['\n'] := rfl

end LogConfig

end ServiceTopology
