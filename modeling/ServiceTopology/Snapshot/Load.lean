import ServiceTopology.FileTree
import ServiceTopology.Json.Reader
import ServiceTopology.Snapshot.Data
import ServiceTopology.Text.Utf8

/-!
# Loading snapshots

Read a snapshot from what is found at a path: decode the bytes, read them as JSON and validate the value.
A file that cannot be opened, a text that is not JSON and a value that does not fit the schema are
snapshot problems. A path with a null character, bytes that are not UTF-8, an integer with too many digits and
containers nested deeper than the reader can follow are failures of the reading itself and no snapshot problems.

A snapshot that was loaded is announced by one event.
-/

namespace ServiceTopology

/-- Problems of a snapshot file. -/
inductive SnapshotError where
  | cannotOpen (path : String) (refusal : OpenRefusal)
  | notJson (path : String) (what : Json.Complaint) (position : Json.Position)
  | badSchema (path : String) (issues : List Issue)
  deriving DecidableEq

/-- Write one step of a path. -/
def PathStep.toJson : PathStep → Json
  | .name text => .str text
  | .index position => .int position

/-- Write an issue. -/
def Issue.toJson (issue : Issue) : Json :=
  .obj [("type", .str issue.kind.code), ("loc", .arr (issue.path.map PathStep.toJson))]

/-- Wording of a complaint with its position. -/
def describeComplaint (what : Json.Complaint) (position : Json.Position) : String :=
  what.message ++ ": line " ++ Text.decimal position.line ++ " column " ++
    Text.decimal position.column ++ " (char " ++ Text.decimal position.offset ++ ")"

/-- Describe an error as a problem. -/
def SnapshotError.problem : SnapshotError → Problem
  | cannotOpen path refusal =>
    .describe .snapshot
      ("Cannot read snapshot " ++ path ++ ": " ++ refusal.label ++ ": " ++ Text.quoted path) []
  | notJson path what position =>
    .describe .snapshot
      ("Snapshot " ++ path ++ " is not valid JSON: " ++ describeComplaint what position) []
  | badSchema path issues =>
    .describe .snapshot ("Snapshot " ++ path ++ " does not match the expected schema")
      [("errors", .arr (issues.map Issue.toJson))]

/-- Reasons why no snapshot was loaded. -/
inductive LoadFailure where
  | snapshot (error : SnapshotError)
  | nullInPath
  | undecodable (error : Text.Utf8Error)
  | integerTooLong (digits : Nat)
  | tooDeep (container : Json.Container)
  deriving DecidableEq

/-- Wording of a failure. -/
def LoadFailure.message : LoadFailure → String
  | snapshot error => error.problem.detail
  | nullInPath => "embedded null byte"
  | undecodable error => error.message
  | integerTooLong digits =>
    "Exceeds the limit (" ++ Text.decimal Text.digitLimit ++
      " digits) for integer string conversion: value has " ++ Text.decimal digits ++
      " digits; use sys.set_int_max_str_digits() to increase the limit"
  | tooDeep .array =>
    "maximum recursion depth exceeded while decoding a JSON array from a unicode string"
  | tooDeep .object =>
    "maximum recursion depth exceeded while decoding a JSON object from a unicode string"

/-- Describe what prevents the file at a path from being opened. -/
def OpenFault.inLoading (path : String) : OpenFault → LoadFailure
  | refused refusal => .snapshot (.cannotOpen path refusal)
  | nullInPath => .nullInPath

namespace Snapshot

/-- Read a document, naming the path in complaints. -/
def readDocument (depth : Nat) (path : String) (text : List Char) : Except LoadFailure Json :=
  (Json.read depth text).mapError fun
    | .malformed what position => .snapshot (.notJson path what position)
    | .integerTooLong digits => .integerTooLong digits
    | .tooDeep container => .tooDeep container

/-- Read a snapshot from what is found at a path, without announcing it. -/
def ofFile (depth : Nat) (path : String) (state : FileState) : Except LoadFailure Snapshot := do
  let bytes ← state.mapError (·.inLoading path)
  let text ← (Text.decodeUtf8 bytes).mapError .undecodable
  let value ← readDocument depth path (Text.unifyLineEnds text)
  (Snapshot.ofJson value).toExcept.mapError fun issues => .snapshot (.badSchema path issues)

/-- A file whose bytes are decoded is read from the text they encode. -/
theorem ofFile_of_decoded (depth : Nat) (path : String) {bytes : List UInt8} {text : List Char}
    (h : Text.decodeUtf8 bytes = .ok text) :
    ofFile depth path (.ok bytes) =
      (readDocument depth path (Text.unifyLineEnds text)).bind fun value =>
        (Snapshot.ofJson value).toExcept.mapError fun issues => .snapshot (.badSchema path issues) := by
  change ((Text.decodeUtf8 bytes).mapError LoadFailure.undecodable >>= _) = _
  rw [h]
  rfl

/-- The failure of the decoder is passed on. -/
theorem ofFile_of_undecodable (depth : Nat) (path : String) {bytes : List UInt8} {error : Text.Utf8Error}
    (h : Text.decodeUtf8 bytes = .error error) :
    ofFile depth path (.ok bytes) = .error (.undecodable error) := by
  change ((Text.decodeUtf8 bytes).mapError LoadFailure.undecodable >>= _) = _
  rw [h]
  rfl

/-- The event that announces a loaded snapshot. -/
def loadedEvent (path : String) (snapshot : Snapshot) : Event :=
  .snapshotLoaded path snapshot.applications.length snapshot.metrics.length
    snapshot.callers.length snapshot.callees.length

/-- Load the snapshot at a path, with containers nested at most `depth` deep. -/
def load (depth : Nat) (lookup : String → FileState) (path : String) :
    Recorded (Except LoadFailure Snapshot) :=
  let shown := PathName.normalize path
  match ofFile depth shown (lookup shown) with
  | .ok snapshot => do
    Recorded.emit (loadedEvent shown snapshot)
    return .ok snapshot
  | .error failure => return .error failure

end Snapshot

end ServiceTopology
