import ServiceTopology.Record.Metadata
import ServiceTopology.Time.Bucket

/-!
# The archive of alarms

Alarms in the order in which they were added, and the scopes whose queries fail. A query selects the
alarms of one scope by a window and a keyword and gives one page of them together with their number. Its
window has the granularity of a step and is widened to whole seconds: it starts at the first second of
its first bucket and ends at the last second of its last one.

The page is a slice of the matches between two positions; a negative position counts from the end.
-/

namespace ServiceTopology

/-- A query for alarms: what to look for, in which window, and which page to give. -/
structure AlarmQuery where
  keyword : WideText
  step : Step
  start : Int
  finish : Int
  limit : Int
  offset : Int
  deriving DecidableEq

/-- Reasons why a query cannot run. -/
inductive AlarmQueryError where
  | scopeFails (scope : AlarmScope)
  | badBucket (error : Bucket.Error)
  deriving DecidableEq

/-- Describe an error as a problem. -/
def AlarmQueryError.problem : AlarmQueryError → Problem
  | scopeFails scope =>
    .describe .alarmQuery (scope.name ++ " alarm query failed") [("scope", .str scope.name)]
  | badBucket error => error.problem

/-- Position that an index denotes in a list of some length; a negative index counts from the end. -/
def slicePosition (length : Nat) (index : Int) : Nat :=
  if index < 0 then (index + length).toNat else min index.toNat length

/-- Items of a list from one index up to another. -/
def slice {α : Type} (items : List α) (start stop : Int) : List α :=
  (items.take (slicePosition items.length stop)).drop (slicePosition items.length start)

/-- Test whether code points occur in a row among others. -/
def occursIn (part text : List CodePoint) : Bool :=
  part.isPrefixOf text ||
    match text with
    | [] => false
    | _ :: rest => occursIn part rest

/-- Known alarms, and the scopes whose queries fail. -/
structure AlarmArchive where
  items : List AlarmItem
  failing : List AlarmScope
  deriving DecidableEq

namespace AlarmArchive

/-- Add an alarm at the end. -/
def add (archive : AlarmArchive) (item : AlarmItem) : AlarmArchive :=
  { archive with items := archive.items ++ [item] }

/-- Let the queries of a scope fail from now on. -/
def failScope (archive : AlarmArchive) (scope : AlarmScope) : AlarmArchive :=
  { archive with failing := scope :: archive.failing }

/-- Digits of day, hour, minute and second at the end of a month. -/
def lastDigits : Nat := 31235959

/-- Second buckets from the first second of one bucket to the last second of another one. -/
def secondWindow (step : Step) (start finish : Int) : Except Bucket.Error (Int × Int) := do
  let first ← Bucket.parse start step
  let _ ← Bucket.parse finish step
  let unit := Nat.pow 10 (Step.second.digits - step.digits)
  return (Bucket.ofMoment first .second, finish * unit + (lastDigits % unit : Nat))

/-- Test whether a keyword selects an alarm; the empty keyword selects all. -/
def selects (keyword : WideText) (item : AlarmItem) : Bool :=
  let part := keyword.codePoints
  part.isEmpty || occursIn part item.title.codePoints || occursIn part item.content.codePoints

/-- Alarms of a scope between two second buckets that a keyword selects. -/
def matching (archive : AlarmArchive) (scope : AlarmScope) (keyword : WideText) (first last : Int) :
    List AlarmItem :=
  archive.items.filter fun item =>
    item.scope == scope && (first ≤ item.bucket && item.bucket ≤ last) && selects keyword item

/-- Run a query at a scope. -/
def query (archive : AlarmArchive) (scope : AlarmScope) (q : AlarmQuery) :
    Recorded (Except AlarmQueryError AlarmPage) :=
  if archive.failing.contains scope then pure (.error (.scopeFails scope))
  else
    match secondWindow q.step q.start q.finish with
    | .error error => pure (.error (.badBucket error))
    | .ok (first, last) => do
      let matched := archive.matching scope q.keyword first last
      Recorded.emit (.alarmQuery scope matched.length q.limit)
      return .ok ⟨slice matched q.offset (q.offset + q.limit), matched.length⟩

end AlarmArchive

end ServiceTopology
