import ServiceTopology.Time.Step
import ServiceTopology.Text.Decimal

/-!
# Moments of the calendar

A moment is a date of the Gregorian calendar with a time of day in whole seconds. Time zones and leap
seconds are not modelled. Moments are ordered by the seconds that have passed since the first second of
year one; `Valid` says which moments exist.
-/

namespace ServiceTopology

/-- A date and a time of day. -/
structure Moment where
  year : Nat
  month : Nat
  day : Nat
  hour : Nat
  minute : Nat
  second : Nat
  deriving DecidableEq

/-- Test for a leap year. -/
def isLeapYear (year : Nat) : Bool :=
  year % 4 == 0 && (year % 100 != 0 || year % 400 == 0)

/-- Number of days of a month. -/
def daysInMonth (year month : Nat) : Nat :=
  if month = 2 then (if isLeapYear year then 29 else 28)
  else if month = 4 ∨ month = 6 ∨ month = 9 ∨ month = 11 then 30
  else 31

/-- Days from the start of year one to the start of a year. -/
def daysBeforeYear (year : Nat) : Nat :=
  let past := year - 1
  past * 365 + past / 4 - past / 100 + past / 400

/-- Days from the start of a year to the start of a month. -/
def daysBeforeMonth (year : Nat) : (month : Nat) → Nat
  | 0 => 0
  | 1 => 0
  | month + 2 => daysBeforeMonth year (month + 1) + daysInMonth year (month + 1)

namespace Moment

/-- The fields name a date that exists and a time of day. -/
def Valid (m : Moment) : Prop :=
  1 ≤ m.year ∧ 1 ≤ m.month ∧ m.month ≤ 12 ∧ 1 ≤ m.day ∧ m.day ≤ daysInMonth m.year m.month ∧
    m.hour ≤ 23 ∧ m.minute ≤ 59 ∧ m.second ≤ 59

instance (m : Moment) : Decidable m.Valid := inferInstanceAs (Decidable (_ ∧ _))

/-- Seconds since the start of year one. -/
def seconds (m : Moment) : Nat :=
  let days := daysBeforeYear m.year + daysBeforeMonth m.year m.month + (m.day - 1)
  ((days * 24 + m.hour) * 60 + m.minute) * 60 + m.second

/-- Moments are ordered in time. -/
instance : LT Moment := ⟨fun a b => a.seconds < b.seconds⟩

instance (a b : Moment) : Decidable (a < b) := inferInstanceAs (Decidable (a.seconds < b.seconds))

/-- The later of two moments, the first one when they coincide. -/
def later (a b : Moment) : Moment := if a < b then b else a

/-- Set every field finer than a step to its first value. -/
def truncate (m : Moment) : Step → Moment
  | .month => ⟨m.year, m.month, 1, 0, 0, 0⟩
  | .day => ⟨m.year, m.month, m.day, 0, 0, 0⟩
  | .hour => ⟨m.year, m.month, m.day, m.hour, 0, 0⟩
  | .minute => ⟨m.year, m.month, m.day, m.hour, m.minute, 0⟩
  | .second => m

/-- Print a number with leading zeros up to a width. -/
def padded (width n : Nat) : List Char :=
  let digits := Text.natDigits n
  List.replicate (width - digits.length) '0' ++ digits

/-- Print a moment as date, the letter T and time of day. -/
def text (m : Moment) : String :=
  String.ofList (padded 4 m.year ++ '-' :: padded 2 m.month ++ '-' :: padded 2 m.day ++ 'T' ::
    padded 2 m.hour ++ ':' :: padded 2 m.minute ++ ':' :: padded 2 m.second)

end Moment

end ServiceTopology
