import ServiceTopology.Json.Value

/-!
# Problems

A problem is a failure that callers are told about: its kind, a detail and further members. The kind
determines a type identifier and a title; the body of a problem is an object with all of these, where
the further members replace the standard ones of the same name.
-/

namespace ServiceTopology

/-- Kinds of problems. -/
inductive ProblemKind where
  | general
  | timeBucket
  | alarmQuery
  | snapshot
  deriving DecidableEq

/-- Type identifier of a kind. -/
def ProblemKind.urn : ProblemKind → String
  | general => "urn:svcmap:error"
  | timeBucket => "urn:svcmap:error:time-bucket"
  | alarmQuery => "urn:svcmap:error:alarm-query"
  | snapshot => "urn:svcmap:error:snapshot"

/-- Title of a kind. -/
def ProblemKind.title : ProblemKind → String
  | general => "svcmap Error"
  | timeBucket => "Invalid Time Bucket"
  | alarmQuery => "Alarm Query Failed"
  | snapshot => "Invalid Snapshot"

/-- A failure with its detail and further members. -/
structure Problem where
  kind : ProblemKind
  detail : String
  extra : Json.Members

namespace Problem

/-- Describe a problem; the title stands in for an empty detail. -/
def describe (kind : ProblemKind) (detail : String) (extra : Json.Members) : Problem :=
  { kind, detail := if detail.isEmpty then kind.title else detail, extra }

/-- Body of a problem. -/
def body (problem : Problem) : Json :=
  .obj (Json.Members.ofList
    (("type", .str problem.kind.urn) :: ("title", .str problem.kind.title) ::
      ("detail", .str problem.detail) :: problem.extra))

end Problem

end ServiceTopology
