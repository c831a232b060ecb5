import ServiceTopology.Schema.Decode
import ServiceTopology.Time.Step

/-!
# Metric records

The rows that were measured in one window: which component an application uses, which address stands for
which application, the traffic of each application, and the traffic between two of them as seen by the
caller or by the callee. Counts and durations are arbitrary integers.

Each record can be written as a JSON object with all of its members and read from one.
-/

namespace ServiceTopology

open Schema

/-- A query window: buckets at the granularity of its step, and second buckets of the same window. -/
structure Window where
  step : Step
  start : Int
  finish : Int
  startSecond : Int
  finishSecond : Int
  deriving DecidableEq

/-- Read a window. -/
def Window.ofJson : Decoder Window :=
  record fun members =>
    Window.mk <$> required members "step" (enumerated Step.ofName?)
      <*> required members "start_time_bucket" integer
      <*> required members "end_time_bucket" integer
      <*> required members "start_second_time_bucket" integer
      <*> required members "end_second_time_bucket" integer

/-- Write a window. -/
def Window.toJson (window : Window) : Json :=
  .obj [("step", .str window.step.name), ("start_time_bucket", .int window.start),
    ("end_time_bucket", .int window.finish), ("start_second_time_bucket", .int window.startSecond),
    ("end_second_time_bucket", .int window.finishSecond)]

/-- An application uses a component. -/
structure ComponentRow where
  applicationId : Int
  componentId : Int
  deriving DecidableEq

/-- Read a component row. -/
def ComponentRow.ofJson : Decoder ComponentRow :=
  record fun members =>
    ComponentRow.mk <$> required members "application_id" integer
      <*> required members "component_id" integer

/-- Write a component row. -/
def ComponentRow.toJson (row : ComponentRow) : Json :=
  .obj [("application_id", .int row.applicationId), ("component_id", .int row.componentId)]

/-- A duplicate address application stands for a canonical application. -/
structure MappingRow where
  applicationId : Int
  duplicateId : Int
  deriving DecidableEq

/-- Read a mapping row. -/
def MappingRow.ofJson : Decoder MappingRow :=
  record fun members =>
    MappingRow.mk <$> required members "application_id" integer
      <*> required members "mapping_application_id" integer

/-- Write a mapping row. -/
def MappingRow.toJson (row : MappingRow) : Json :=
  .obj [("application_id", .int row.applicationId), ("mapping_application_id", .int row.duplicateId)]

/-- Traffic of one application. -/
structure MetricRow where
  id : Int
  calls : Int
  errorCalls : Int
  durations : Int
  errorDurations : Int
  satisfied : Int
  tolerating : Int
  frustrated : Int
  deriving DecidableEq

/-- Read a metric row. -/
def MetricRow.ofJson : Decoder MetricRow :=
  record fun members =>
    MetricRow.mk <$> required members "id" integer
      <*> optional members "calls" 0 integer
      <*> optional members "error_calls" 0 integer
      <*> optional members "durations" 0 integer
      <*> optional members "error_durations" 0 integer
      <*> optional members "satisfied_count" 0 integer
      <*> optional members "tolerating_count" 0 integer
      <*> optional members "frustrated_count" 0 integer

/-- Write a metric row. -/
def MetricRow.toJson (row : MetricRow) : Json :=
  .obj [("id", .int row.id), ("calls", .int row.calls), ("error_calls", .int row.errorCalls),
    ("durations", .int row.durations), ("error_durations", .int row.errorDurations),
    ("satisfied_count", .int row.satisfied), ("tolerating_count", .int row.tolerating),
    ("frustrated_count", .int row.frustrated)]

/-- Traffic from one application to another. -/
structure ReferenceRow where
  source : Int
  target : Int
  calls : Int
  errorCalls : Int
  durations : Int
  errorDurations : Int
  deriving DecidableEq

/-- Read a reference row. -/
def ReferenceRow.ofJson : Decoder ReferenceRow :=
  record fun members =>
    ReferenceRow.mk <$> required members "source" integer
      <*> required members "target" integer
      <*> optional members "calls" 0 integer
      <*> optional members "error_calls" 0 integer
      <*> optional members "durations" 0 integer
      <*> optional members "error_durations" 0 integer

/-- Write a reference row. -/
def ReferenceRow.toJson (row : ReferenceRow) : Json :=
  .obj [("source", .int row.source), ("target", .int row.target), ("calls", .int row.calls),
    ("error_calls", .int row.errorCalls), ("durations", .int row.durations),
    ("error_durations", .int row.errorDurations)]

end ServiceTopology
