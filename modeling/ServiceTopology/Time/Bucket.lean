import ServiceTopology.Problem
import ServiceTopology.Time.Moment

/-!
# Time buckets

A time bucket is a moment packed into the decimal digits of one integer, at the granularity of a step:
year, month, day, hour, minute and second, as far as the step goes.

Reading a bucket matches its digits from the left against the fields of the step. A field after the year
takes two digits when they are in its range, or else one; the first way to match all fields counts. The
match then has to use up the digits, name a day that exists and a second below sixty.
-/

namespace ServiceTopology.Bucket

/-- Pack a moment into the digits of a step. -/
def ofMoment (m : Moment) : Step → Int
  | .month => m.year * 100 + m.month
  | .day => (m.year * 100 + m.month) * 100 + m.day
  | .hour => ((m.year * 100 + m.month) * 100 + m.day) * 100 + m.hour
  | .minute => (((m.year * 100 + m.month) * 100 + m.day) * 100 + m.hour) * 100 + m.minute
  | .second =>
    ((((m.year * 100 + m.month) * 100 + m.day) * 100 + m.hour) * 100 + m.minute) * 100 + m.second

/-- Reasons why an integer is not a bucket. -/
inductive Fault where
  | wrongLength
  | noMatch
  | leftOver (digits : String)
  | noSuchDay
  | noSuchSecond
  deriving DecidableEq

/-- An integer that is not a bucket of a step. -/
structure Error where
  bucket : Int
  step : Step
  fault : Fault
  deriving DecidableEq

/-- Wording of a fault found after the length was right. -/
def Fault.reason (bucket : Int) (step : Step) : Fault → String
  | wrongLength => ""
  | noMatch =>
    "time data \x27" ++ Text.decimal bucket ++ "\x27 does not match format \x27" ++ step.pattern ++ "\x27"
  | leftOver digits => "unconverted data remains: " ++ digits
  | noSuchDay => "day is out of range for month"
  | noSuchSecond => "second must be in 0..59"

/-- Wording of an error. -/
def Error.message (error : Error) : String :=
  match error.fault with
  | .wrongLength =>
    "Time bucket " ++ Text.decimal error.bucket ++ " does not match " ++ error.step.name ++ " granularity"
  | fault =>
    "Unparseable time bucket " ++ Text.decimal error.bucket ++ ": " ++ fault.reason error.bucket error.step

/-- Describe an error as a problem that names the integer and the step. -/
def Error.problem (error : Error) : Problem :=
  .describe .timeBucket error.message
    [("time_bucket", .int error.bucket), ("step", .str error.step.name)]

/-- Range of a field of at most two digits. -/
structure FieldRange where
  low : Nat
  high : Nat

/-- Ranges of the fields after the year; seconds are read up to the leap seconds. -/
def fieldRanges : List FieldRange := [⟨1, 12⟩, ⟨1, 31⟩, ⟨0, 23⟩, ⟨0, 59⟩, ⟨0, 61⟩]

/-- Number of fields of a step after the year. -/
def fieldCount : Step → Nat
  | .month => 1
  | .day => 2
  | .hour => 3
  | .minute => 4
  | .second => 5

/-- Value of a decimal digit. -/
def digit? (c : Char) : Option Nat := if c.isDigit then some (c.toNat - 0x30) else none

/-- Match a field with two digits. -/
def twoDigits (range : FieldRange) : List Char → List (Nat × List Char)
  | a :: b :: rest =>
    match digit? a, digit? b with
    | some tens, some ones =>
      let value := tens * 10 + ones
      if range.low ≤ value ∧ value ≤ range.high then [(value, rest)] else []
    | _, _ => []
  | _ => []

/-- Match a field with one digit. -/
def oneDigit (range : FieldRange) : List Char → List (Nat × List Char)
  | a :: rest =>
    match digit? a with
    | some value => if range.low ≤ value then [(value, rest)] else []
    | none => []
  | [] => []

/-- Every way to match a field, the preferred one first. -/
def matchField (range : FieldRange) (text : List Char) : List (Nat × List Char) :=
  twoDigits range text ++ oneDigit range text

/-- Every way to match a list of fields, the preferred one first. -/
def matchFields : List FieldRange → List Char → List (List Nat × List Char)
  | [], text => [([], text)]
  | range :: ranges, text =>
    (matchField range text).flatMap fun (value, rest) =>
      (matchFields ranges rest).map fun (values, after) => (value :: values, after)

/-- Match a year of four digits. -/
def matchYear? : List Char → Option (Nat × List Char)
  | a :: b :: c :: d :: rest =>
    match digit? a, digit? b, digit? c, digit? d with
    | some a, some b, some c, some d => some (((a * 10 + b) * 10 + c) * 10 + d, rest)
    | _, _, _, _ => none
  | _ => none

/-- Find the preferred match of a text against the fields of a step. -/
def firstMatch? (step : Step) (text : List Char) : Option (Nat × List Nat × List Char) :=
  (matchYear? text).bind fun (year, rest) =>
    (matchFields (fieldRanges.take (fieldCount step)) rest).head?.map fun (values, after) =>
      (year, values, after)

/-- Build a moment from a year and the fields after it, missing ones taking their first value. -/
def momentOf (year : Nat) (values : List Nat) : Moment :=
  { year
    month := values.getD 0 1
    day := values.getD 1 1
    hour := values.getD 2 0
    minute := values.getD 3 0
    second := values.getD 4 0 }

/-- Read the digits of a bucket. -/
def readDigits (step : Step) (text : List Char) : Except Fault Moment :=
  if text.length ≠ step.digits then .error .wrongLength
  else
    match firstMatch? step text with
    | none => .error .noMatch
    | some (year, values, after) =>
      let m := momentOf year values
      if !after.isEmpty then .error (.leftOver (String.ofList after))
      else if daysInMonth m.year m.month < m.day then .error .noSuchDay
      else if 59 < m.second then .error .noSuchSecond
      else .ok m

/-- Read a bucket of a step. -/
def parse (bucket : Int) (step : Step) : Except Error Moment :=
  (readDigits step (Text.intDigits bucket)).mapError fun fault => ⟨bucket, step, fault⟩

/-- A bucket is well formed when it can be read. -/
def WellFormed (bucket : Int) (step : Step) : Prop := ∃ m, parse bucket step = .ok m

end ServiceTopology.Bucket
